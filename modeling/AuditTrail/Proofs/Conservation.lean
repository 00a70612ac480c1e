import AuditTrail.Pipeline.Timed
import AuditTrail.Proofs.Generations
import AuditTrail.Proofs.Ledger
import AuditTrail.Proofs.Tickets
import Mathlib.Data.List.Pairwise

/-!
# No entry is lost or doubled

An accepted entry is in the queue, in the hands of a worker, in a slot, or finished. With tickets
this can be said of each entry by itself: its ticket is at exactly one of these places, once, and
the ticket of a rejected entry is at none. After the shutdown call that drains the slots, the places
before the last are empty, and each accepted entry is once in one batch.
-/

namespace AuditTrail.Pipeline

variable {ε : Type}

/-- Where an accepted entry can be. -/
inductive Place where
  | queue
  | hand (worker : Nat)
  | slot (slot : Slot)
  | finished
  deriving DecidableEq, Repr

/-- The entries at a place, as `redact` leaves them. -/
def entriesAt (redact : ε → ε) (s : State ε) (history : List (Event ε)) : Place → List ε
  | .queue => s.queue.map redact
  | .hand i => ((s.workers[i]?).bind (Worker.carried? redact)).toList
  | .slot x => s.buffer.contents x
  | .finished => (finishedIn history).flatten

/-- Exactly one of some lists has the ticket of `p`, and it has this ticket once, at `p`. -/
def OnlyIn {ι : Type} (lists : ι → List (ε × Nat)) (p : ε × Nat) : Prop :=
  ∃ i, (lists i).filter (fun q => q.2 = p.2) = [p] ∧ ∀ j, j ≠ i → ∀ q ∈ lists j, q.2 ≠ p.2

section Lists

variable {ι : Type} {lists : ι → List (ε × Nat)} {p : ε × Nat}

lemma filter_ticket {l : List (ε × Nat)} (hnodup : (l.map Prod.snd).Nodup) (hp : p ∈ l) :
    l.filter (fun q => q.2 = p.2) = [p] := by
  induction l with
  | nil => cases hp
  | cons q l ih =>
    obtain ⟨hq, hl⟩ := List.nodup_cons.mp hnodup
    rcases List.mem_cons.mp hp with rfl | hp
    · rw [List.filter_cons_of_pos (by simp), List.filter_eq_nil_iff.mpr]
      intro r hr
      have hne : r.2 ≠ p.2 := by
        intro heq
        exact hq (heq ▸ List.mem_map_of_mem hr)
      simpa using hne
    · have hne : q.2 ≠ p.2 := by
        intro heq
        exact hq (heq ▸ List.mem_map_of_mem hp)
      rw [List.filter_cons_of_neg (by simpa using hne)]
      exact ih hl hp

/-- A ticket that is not used twice in some lists is in one of them only. -/
lemma onlyIn_of_nodup (is : List ι) (hnodup : ((is.flatMap lists).map Prod.snd).Nodup)
    (hout : ∀ i, i ∉ is → lists i = []) (hp : p ∈ is.flatMap lists) : OnlyIn lists p := by
  rw [List.map_flatMap, List.nodup_flatMap] at hnodup
  obtain ⟨heach, hapart⟩ := hnodup
  obtain ⟨i, hi, hpi⟩ := List.mem_flatMap.mp hp
  refine ⟨i, filter_ticket (heach i hi) hpi, ?_⟩
  intro j hij q hq hticket
  have hj : j ∈ is := by
    by_contra hj
    rw [hout j hj] at hq
    cases hq
  have hsymm : Std.Symm (Function.onFun List.Disjoint fun i => (lists i).map Prod.snd) :=
    ⟨fun _ _ h => h.symm⟩
  have hdisjoint : List.Disjoint ((lists j).map Prod.snd) ((lists i).map Prod.snd) :=
    hapart.forall hj hi hij
  exact hdisjoint (List.mem_map_of_mem hq) (hticket ▸ List.mem_map_of_mem hpi)

/-- To go through a list by its indices is to go through the list. -/
lemma flatMap_indices {α β : Type} (g : Option α → List β) (l : List α) :
    (List.range l.length).flatMap (fun i => g l[i]?) = l.flatMap fun a => g (some a) := by
  induction l with
  | nil => rfl
  | cons a l ih =>
    rw [List.length_cons, List.range_succ_eq_map, List.flatMap_cons, List.flatMap_map,
      List.flatMap_cons, ← ih]
    rfl

/-- A ticket that is not used twice in some batches is in one of them only. -/
lemma onlyIn_batches_of_nodup {batches : List (List (ε × Nat))}
    (hnodup : (batches.flatten.map Prod.snd).Nodup) (hp : p ∈ batches.flatten) :
    OnlyIn (fun i : Nat => (batches[i]?).getD []) p := by
  have hindices := flatMap_indices (fun b => b.getD []) batches
  simp only [Option.getD_some, List.flatMap_id'] at hindices
  apply onlyIn_of_nodup (List.range batches.length)
  · rw [hindices]
    exact hnodup
  · intro i hi
    rw [List.getElem?_eq_none (by simpa using hi)]
    rfl
  · rw [hindices]
    exact hp

end Lists

/-- The places at which a state can have entries. -/
def places (s : State ε) : List Place :=
  [.queue] ++ (List.range s.workers.length).map .hand ++ [.slot .zero, .slot .one] ++ [.finished]

section Places

variable {redact : ε → ε} {s : State ε} {history : List (Event ε)}

lemma entriesAt_of_notMem {place : Place} (h : place ∉ places s) :
    entriesAt redact s history place = [] := by
  cases place with
  | queue => simp [places] at h
  | hand i =>
    have hi : s.workers.length ≤ i := by
      simpa [places] using h
    simp [entriesAt, List.getElem?_eq_none hi]
  | slot x => cases x <;> simp [places] at h
  | finished => simp [places] at h

/-- The places together hold what was accepted. -/
lemma Balanced.places (inv : Balanced redact s history) :
    ((places s).flatMap (entriesAt redact s history)).Perm ((acceptedIn history).map redact) := by
  have hhands : ((List.range s.workers.length).map Place.hand).flatMap
      (entriesAt redact s history) = (s.hands redact).reduceOption := by
    rw [List.flatMap_map]
    refine (flatMap_indices (fun w => (w.bind (Worker.carried? redact)).toList) _).trans ?_
    rw [State.hands, List.reduceOption, List.filterMap_map, List.filterMap_eq_flatMap_toList]
    rfl
  have hslots : ([.slot .zero, .slot .one] : List Place).flatMap (entriesAt redact s history) =
      s.buffer.contents .zero ++ s.buffer.contents .one := by
    simp [entriesAt]
  rw [← Multiset.coe_eq_coe]
  unfold Pipeline.places
  rw [List.flatMap_append, List.flatMap_append, List.flatMap_append, hhands, hslots,
    List.flatMap_singleton, List.flatMap_singleton, inv.queue, List.map_append]
  simp only [← Multiset.coe_add, List.map_map]
  change (((s.queue.map redact : List ε) : Multiset ε) + (s.hands redact).reduceOption +
    s.stored) + (finishedIn history).flatten =
    ((receiptsIn history).map fun p => redact p.2 : List ε) + (s.queue.map redact : List ε)
  rw [inv.hands, inv.slots]
  ac_rfl

end Places

section Tickets

variable {plan : Plan ε} {moves : List (Move ε)} {s : State (ε × Nat)}
  {history : List (Event (ε × Nat))}

lemma Ticketed.redacted_nodup (inv : Ticketed moves history) :
    (((acceptedIn history).map plan.ticketed.redact).map Prod.snd).Nodup := by
  have hsnd : ((acceptedIn history).map plan.ticketed.redact).map Prod.snd =
      (acceptedIn history).map Prod.snd := by
    rw [List.map_map]
    rfl
  rw [hsnd]
  exact inv.accepted_nodup

lemma Ticketed.onlyIn_places (inv : Ticketed moves history)
    (hbalanced : Balanced plan.ticketed.redact s history) {e : ε} {n : Nat}
    (h : (e, n) ∈ acceptedIn history) :
    OnlyIn (entriesAt plan.ticketed.redact s history) (plan.redact e, n) := by
  have hperm := hbalanced.places
  apply onlyIn_of_nodup (places s)
  · exact ((hperm.map Prod.snd).nodup_iff).mpr inv.redacted_nodup
  · intro place hplace
    exact entriesAt_of_notMem hplace
  · exact hperm.mem_iff.mpr (List.mem_map_of_mem h)

lemma Ticketed.rejected_nowhere (inv : Ticketed moves history)
    (hbalanced : Balanced plan.ticketed.redact s history) {e : ε} {n : Nat}
    (h : (e, n) ∈ rejectedIn history) (place : Place) :
    ∀ q ∈ entriesAt plan.ticketed.redact s history place, q.2 ≠ n := by
  intro q hq
  have hplace : place ∈ places s := by
    by_contra hplace
    rw [entriesAt_of_notMem hplace] at hq
    cases hq
  have hmem := hbalanced.places.mem_iff.mp (List.mem_flatMap.mpr ⟨place, hplace, hq⟩)
  obtain ⟨a, ha, rfl⟩ := List.mem_map.mp hmem
  exact inv.apart a ha (e, n) h

lemma Ticketed.onlyIn_batches (inv : Ticketed moves history)
    (run : Run plan.ticketed s history) (hsink : SinkReturns history)
    (hworkers : 0 < plan.workers) {k drained : Nat}
    (hc : s.calls[k]? = some (.returned (some drained))) {e : ε} {n : Nat}
    (h : (e, n) ∈ acceptedIn history) :
    OnlyIn (fun i : Nat => ((batchesIn history)[i]?).getD []) (plan.redact e, n) := by
  have hperm : (batchesIn history).flatten.Perm
      ((acceptedIn history).map plan.ticketed.redact) := by
    rw [(run.generational hsink).flatten_eq (run.drained_empty hc)]
    exact run.drained_pushed hworkers hc
  apply onlyIn_batches_of_nodup
  · exact ((hperm.map Prod.snd).nodup_iff).mpr inv.redacted_nodup
  · exact hperm.mem_iff.mpr (List.mem_map_of_mem h)

end Tickets

lemma sinkReturns_map {δ : Type} {f : ε → δ} {history : List (Event ε)} :
    SinkReturns (history.map (Event.map f)) ↔ SinkReturns history := by
  have hsame : ∀ e : Event ε, (e.map f).breaksSink = e.breaksSink := by
    intro e
    cases e with
    | replied _ _ _ r => cases r <;> rfl
    | _ => rfl
  unfold SinkReturns
  rw [List.forall_mem_map]
  simp only [hsame]

/-- Nothing is lost and nothing is doubled. In every state that a pipeline reaches, each accepted
entry is at exactly one place and a rejected entry is at none; when the shutdown call that drains
the slots has returned, the queue, the workers and the slots are empty, and each accepted entry is
once in exactly one of the batches. -/
theorem accepted_entries_are_conserved (c : Config) (hc : c.problem? = none)
    (moves : List (Move Entry)) (s : State Entry) (history : List (Event Entry))
    (run : exec (Timed.planOf c) moves = some (s, history)) (hsink : SinkReturns history) :
    ∃ t tagged,
      exec (Timed.planOf c).ticketed (withTickets moves) = some (t, tagged) ∧
      t.map Prod.fst = s ∧ tagged.map (Event.map Prod.fst) = history ∧ Ticketed moves tagged ∧
      (∀ e n, (e, n) ∈ acceptedIn tagged →
        OnlyIn (entriesAt (Timed.planOf c).ticketed.redact t tagged) (Redaction.entry e, n)) ∧
      (∀ e n, (e, n) ∈ rejectedIn tagged → ∀ place,
        ∀ q ∈ entriesAt (Timed.planOf c).ticketed.redact t tagged place, q.2 ≠ n) ∧
      ∀ k drained : Nat, s.calls[k]? = some (.returned (some drained)) →
        s.queue = [] ∧ (∀ w ∈ s.workers, w = .stopped) ∧
        (∀ slot, s.buffer.contents slot = []) ∧
        ∀ e n, (e, n) ∈ acceptedIn tagged →
          OnlyIn (fun i : Nat => ((batchesIn tagged)[i]?).getD []) (Redaction.entry e, n) := by
  have hworkers : 0 < (Timed.planOf c).workers := by
    unfold Config.problem? at hc
    split at hc
    · cases hc
    · split at hc
      · cases hc
      · next hne => exact Nat.pos_of_ne_zero hne
  obtain ⟨t, tagged, hexec, rfl, rfl⟩ := exec_withTickets run
  have inv := ticketed_of_exec hexec
  have hrun := run_iff_exec.mpr ⟨_, run⟩
  have htagged := run_iff_exec.mpr ⟨_, hexec⟩
  refine ⟨t, tagged, hexec, rfl, rfl, inv, ?_, ?_, ?_⟩
  · intro e n h
    exact inv.onlyIn_places htagged.balanced h
  · intro e n h place
    exact inv.rejected_nowhere htagged.balanced h place
  · intro k drained hcall
    obtain ⟨hqueue, hstopped⟩ := hrun.drained_stops hworkers hcall
    refine ⟨hqueue, hstopped, hrun.drained_empty hcall, ?_⟩
    intro e n h
    exact inv.onlyIn_batches htagged (sinkReturns_map.mp hsink) hworkers hcall h

/-- In the short run the first entry ends in one batch. -/
theorem short_run_is_conserved : ∃ t tagged,
    exec (Timed.planOf narrowConfig).ticketed (withTickets (shortRun default default default)) =
      some (t, tagged) ∧
    OnlyIn (fun i : Nat => ((batchesIn tagged)[i]?).getD []) (Redaction.entry default, 0) := by
  have hrun : ∃ s history,
      exec (Timed.planOf narrowConfig) (shortRun default default default) = some (s, history) ∧
      SinkReturns history ∧ s.calls[0]? = some (.returned (some 1)) :=
    ⟨_, _, rfl, by decide, rfl⟩
  have htickets : ∃ t tagged,
      exec (Timed.planOf narrowConfig).ticketed (withTickets (shortRun default default default)) =
        some (t, tagged) ∧ (default, 0) ∈ acceptedIn tagged :=
    ⟨_, _, rfl, List.mem_cons_self⟩
  obtain ⟨s, history, hexec, hsink, hcall⟩ := hrun
  obtain ⟨t, tagged, htagged, haccepted⟩ := htickets
  obtain ⟨t', tagged', htagged', -, -, -, -, -, hdrained⟩ :=
    accepted_entries_are_conserved narrowConfig rfl _ s history hexec hsink
  rw [htagged] at htagged'
  cases htagged'
  exact ⟨t, tagged, htagged, (hdrained 0 1 hcall).2.2.2 default 0 haccepted⟩

end AuditTrail.Pipeline
