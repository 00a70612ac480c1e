import AuditTrail.Proofs.History
import AuditTrail.Proofs.Relabel

/-!
# Entries with tickets

Two entries may look alike. To follow each of them through a run, every entry that is offered gets
a ticket, the number of its move. The run with tickets is the run without them, relabelled, so
whatever holds of its tickets holds of the entries of the run itself.
-/

namespace AuditTrail.Pipeline

variable {ε : Type}

/-- The same pipeline, for entries with tickets. -/
def Plan.ticketed (plan : Plan ε) : Plan (ε × Nat) where
  queueSize := plan.queueSize
  workers := plan.workers
  threshold := plan.threshold
  retry := plan.retry
  redact p := (plan.redact p.1, p.2)

/-- Gives each entry that is offered the number of its move. -/
def withTickets (moves : List (Move ε)) : List (Move (ε × Nat)) :=
  moves.mapIdx fun n m => m.map fun e => (e, n)

/-- The tickets of a run are the numbers of the moves that offer the entries. -/
structure Ticketed (moves : List (Move ε)) (history : List (Event (ε × Nat))) : Prop where
  accepted : ∀ e n, (e, n) ∈ acceptedIn history → moves[n]? = some (.send e)
  rejected : ∀ e n, (e, n) ∈ rejectedIn history → moves[n]? = some (.send e)
  offered : ∀ e n, moves[n]? = some (.send e) →
    (e, n) ∈ acceptedIn history ∨ (e, n) ∈ rejectedIn history
  ordered : (acceptedIn history).Pairwise fun a b => a.2 < b.2
  apart : ∀ a ∈ acceptedIn history, ∀ b ∈ rejectedIn history, a.2 ≠ b.2

section Offers

variable {plan : Plan ε} {s s' : State ε} {m : Move ε} {events : List (Event ε)}

/-- Only an offer is accepted or rejected, and it is one of both. -/
lemma Transition.offers (h : Transition plan s m s' events) :
    (∃ e, m = .send e ∧ (acceptedIn events = [e] ∧ rejectedIn events = [] ∨
      acceptedIn events = [] ∧ rejectedIn events = [e])) ∨
    (∀ e, m ≠ .send e) ∧ acceptedIn events = [] ∧ rejectedIn events = [] := by
  cases h with
  | send hoffered =>
    left
    cases hoffered with
    | accepted _ _ => exact ⟨_, rfl, .inl ⟨rfl, rfl⟩⟩
    | full _ _ => exact ⟨_, rfl, .inr ⟨rfl, rfl⟩⟩
    | closed _ => exact ⟨_, rfl, .inr ⟨rfl, rfl⟩⟩
  | callShutdown => exact .inr ⟨by simp, rfl, rfl⟩
  | worker hworker =>
    right
    cases hworker <;> exact ⟨by simp, rfl, rfl⟩
  | flusher hflusher =>
    right
    cases hflusher <;> exact ⟨by simp, rfl, rfl⟩
  | shutdown hshutdown =>
    right
    cases hshutdown <;> exact ⟨by simp, rfl, rfl⟩

end Offers

lemma withTickets_concat (moves : List (Move ε)) (m : Move ε) :
    withTickets (moves ++ [m]) = withTickets moves ++ [m.map fun e => (e, moves.length)] := by
  unfold withTickets
  rw [List.mapIdx_concat]

lemma Move.map_fst_map_ticket (m : Move ε) (n : Nat) :
    (m.map fun e => (e, n)).map Prod.fst = m := by
  cases m <;> rfl

lemma map_fst_withTickets (moves : List (Move ε)) :
    (withTickets moves).map (Move.map Prod.fst) = moves := by
  apply List.ext_getElem?
  intro n
  rw [List.getElem?_map]
  unfold withTickets
  rw [List.getElem?_mapIdx, Option.map_map]
  cases moves[n]? with
  | none => rfl
  | some m => exact congrArg some (m.map_fst_map_ticket n)

lemma Plan.ticketed_relabels (plan : Plan ε) : plan.ticketed.Relabels Prod.fst plan :=
  ⟨rfl, rfl, rfl, rfl, fun _ => rfl⟩

/-- Every run has its run with tickets. -/
theorem exec_withTickets {plan : Plan ε} {moves : List (Move ε)} {s : State ε}
    {history : List (Event ε)} (h : exec plan moves = some (s, history)) :
    ∃ t tagged, exec plan.ticketed (withTickets moves) = some (t, tagged) ∧
      t.map Prod.fst = s ∧ tagged.map (Event.map Prod.fst) = history := by
  have hmap := exec_map plan.ticketed_relabels (withTickets moves)
  rw [map_fst_withTickets, h] at hmap
  cases hexec : exec plan.ticketed (withTickets moves) with
  | none =>
    rw [hexec] at hmap
    cases hmap
  | some next =>
    obtain ⟨t, tagged⟩ := next
    rw [hexec] at hmap
    cases hmap
    exact ⟨t, tagged, rfl, rfl, rfl⟩

section Numbers

variable {moves : List (Move ε)} {history events : List (Event (ε × Nat))} {m : Move ε}

lemma getElem?_concat_of_lt {n : Nat} {x : Move ε} (h : moves[n]? = some x) :
    (moves ++ [m])[n]? = some x := by
  rw [List.getElem?_append_left (List.getElem?_eq_some_iff.mp h).1, h]

lemma Ticketed.lt {e : ε} {n : Nat} (inv : Ticketed moves history)
    (h : (e, n) ∈ acceptedIn history ∨ (e, n) ∈ rejectedIn history) : n < moves.length := by
  rcases h with h | h
  · exact (List.getElem?_eq_some_iff.mp (inv.accepted e n h)).1
  · exact (List.getElem?_eq_some_iff.mp (inv.rejected e n h)).1

lemma Ticketed.accepted_nodup (inv : Ticketed moves history) :
    ((acceptedIn history).map Prod.snd).Nodup := by
  rw [List.nodup_iff_pairwise_ne, List.pairwise_map]
  exact inv.ordered.imp Nat.ne_of_lt

/-- A move that offers nothing leaves the tickets as they are. -/
lemma Ticketed.other (inv : Ticketed moves history) (hm : ∀ e, m ≠ .send e)
    (haccepted : acceptedIn events = []) (hrejected : rejectedIn events = []) :
    Ticketed (moves ++ [m]) (history ++ events) := by
  have haccepted' : acceptedIn (history ++ events) = acceptedIn history := by
    rw [acceptedIn_append, haccepted, List.append_nil]
  have hrejected' : rejectedIn (history ++ events) = rejectedIn history := by
    rw [rejectedIn_append, hrejected, List.append_nil]
  constructor
  · rw [haccepted']
    exact fun e n h => getElem?_concat_of_lt (inv.accepted e n h)
  · rw [hrejected']
    exact fun e n h => getElem?_concat_of_lt (inv.rejected e n h)
  · rw [haccepted', hrejected']
    intro e n h
    rw [List.getElem?_append] at h
    split at h
    · exact inv.offered e n h
    · exact (hm e (List.mem_singleton.mp (List.mem_of_getElem? h)).symm).elim
  · rw [haccepted']
    exact inv.ordered
  · rw [haccepted', hrejected']
    exact inv.apart

/-- An offer gets a ticket that is later than all others. -/
lemma Ticketed.send {e : ε} (inv : Ticketed moves history)
    (h : acceptedIn events = [(e, moves.length)] ∧ rejectedIn events = [] ∨
      acceptedIn events = [] ∧ rejectedIn events = [(e, moves.length)]) :
    Ticketed (moves ++ [.send e]) (history ++ events) := by
  have hlast : (moves ++ [Move.send e])[moves.length]? = some (.send e) := by simp
  have hold : ∀ e' n, (moves ++ [Move.send e])[n]? = some (.send e') →
      moves[n]? = some (.send e') ∨ e' = e ∧ n = moves.length := by
    intro e' n h
    rw [List.getElem?_append] at h
    split at h
    · exact .inl h
    · have hn := (List.getElem?_eq_some_iff.mp h).1
      have he := List.mem_singleton.mp (List.mem_of_getElem? h)
      simp only [List.length_singleton] at hn
      exact .inr ⟨Move.send.inj he, by omega⟩
  rcases h with ⟨haccepted, hrejected⟩ | ⟨haccepted, hrejected⟩
  · constructor <;> simp only [acceptedIn_append, rejectedIn_append, haccepted, hrejected,
      List.append_nil, List.mem_append, List.mem_singleton, Prod.mk.injEq]
    · rintro e' n (h | ⟨rfl, rfl⟩)
      · exact getElem?_concat_of_lt (inv.accepted e' n h)
      · exact hlast
    · exact fun e' n h => getElem?_concat_of_lt (inv.rejected e' n h)
    · intro e' n h
      rcases hold e' n h with h | h
      · exact (inv.offered e' n h).imp_left .inl
      · exact .inl (.inr h)
    · refine List.pairwise_append.mpr ⟨inv.ordered, List.pairwise_singleton _ _, ?_⟩
      rintro ⟨e', n⟩ h b hb
      cases List.mem_singleton.mp hb
      exact inv.lt (.inl h)
    · rintro a (ha | rfl) ⟨e', n⟩ hb
      · exact inv.apart a ha _ hb
      · exact Nat.ne_of_gt (inv.lt (.inr hb))
  · constructor <;> simp only [acceptedIn_append, rejectedIn_append, haccepted, hrejected,
      List.append_nil, List.mem_append, List.mem_singleton, Prod.mk.injEq]
    · exact fun e' n h => getElem?_concat_of_lt (inv.accepted e' n h)
    · rintro e' n (h | ⟨rfl, rfl⟩)
      · exact getElem?_concat_of_lt (inv.rejected e' n h)
      · exact hlast
    · intro e' n h
      rcases hold e' n h with h | h
      · exact (inv.offered e' n h).imp_right .inl
      · exact .inr (.inr h)
    · exact inv.ordered
    · rintro ⟨e', n⟩ ha b (hb | rfl)
      · exact inv.apart _ ha b hb
      · exact Nat.ne_of_lt (inv.lt (.inl ha))

end Numbers

theorem ticketed_of_exec {plan : Plan ε} {moves : List (Move ε)} {s : State (ε × Nat)}
    {history : List (Event (ε × Nat))}
    (h : exec plan.ticketed (withTickets moves) = some (s, history)) :
    Ticketed moves history := by
  induction moves using List.reverseRecOn generalizing s history with
  | nil =>
    cases h
    constructor <;> simp [acceptedIn, rejectedIn]
  | append_singleton moves m ih =>
    rw [withTickets_concat] at h
    obtain ⟨t, before, events, hmoves, hstep, rfl⟩ := exec_concat_inv h
    have inv := ih hmoves
    rcases (step_transition hstep).offers with ⟨p, hm, hevents⟩ | ⟨hm, haccepted, hrejected⟩
    · cases m with
      | send e =>
        cases hm
        exact inv.send hevents
      | _ => cases hm
    · refine inv.other ?_ haccepted hrejected
      intro e hsend
      subst hsend
      exact hm _ rfl

end AuditTrail.Pipeline
