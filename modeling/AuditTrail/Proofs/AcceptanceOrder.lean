import AuditTrail.Proofs.Conservation

/-!
# The order of acceptance

The queue is a single line and the batches follow the pushes, so entries can change places only
while workers carry them. One worker carries one entry at a time: with a single worker the batches
have the order of acceptance, and with several workers two entries change places only if two of
them held the entries at the same moment.
-/

namespace AuditTrail.Pipeline

variable {ε : Type}

section OneWorker

variable {redact : ε → ε} {plan : Plan ε} {s s' : State ε} {history events : List (Event ε)}

/-- A single hand is passed on from entry to entry. -/
lemma single_hand_flow (h : Flow redact s s' events) (hone : s.workers.length = 1)
    (inv : (receiptsIn history).map (fun p => redact p.2) =
      pushedIn history ++ (s.hands redact).reduceOption) :
    (receiptsIn (history ++ events)).map (fun p => redact p.2) =
      pushedIn (history ++ events) ++ (s'.hands redact).reduceOption := by
  obtain ⟨hand, hhand⟩ : ∃ hand, s.hands redact = [hand] :=
    List.length_eq_one_iff.mp (by simpa [State.hands] using hone)
  have hextend : ∀ (receipts : List (Nat × ε)) (pushed : List ε), receiptsIn events = receipts →
      pushedIn events = pushed →
      (s.hands redact).reduceOption ++ receipts.map (fun p => redact p.2) =
        pushed ++ (s'.hands redact).reduceOption →
      (receiptsIn (history ++ events)).map (fun p => redact p.2) =
        pushedIn (history ++ events) ++ (s'.hands redact).reduceOption := by
    intro receipts pushed hreceipts hpushed hstep
    rw [receiptsIn_append, pushedIn_append, List.map_append, inv, hreceipts, hpushed,
      List.append_assoc, List.append_assoc, hstep]
  cases h with
  | accepted e _ hhands _ hevents =>
    subst hevents
    exact hextend [] [] rfl rfl (by simp [hhands])
  | received i e _ hfree hhands _ hevents =>
    subst hevents
    rw [hhand] at hfree hhands
    cases i with
    | zero =>
      cases hfree
      exact hextend [(0, e)] [] rfl rfl (by simp [hhands, hhand])
    | succ i => cases hfree
  | pushed i e _ hfull hhands _ hevents =>
    subst hevents
    rw [hhand] at hfull hhands
    cases i with
    | zero =>
      cases hfull
      exact hextend [] [e] rfl rfl (by simp [hhands, hhand])
    | succ i => cases hfull
  | finished writer slot a r stored _ hhands _ hevents =>
    subst hevents
    exact hextend [] [] rfl rfl (by simp [hhands])
  | quiet _ hhands _ _ hreceipts hpushes _ =>
    have hpushed : pushedIn events = [] := by rw [pushedIn, hpushes, List.map_nil]
    exact hextend [] [] hreceipts hpushed (by simp [hhands])

lemma Run.single_hand (run : Run plan s history) (hone : plan.workers = 1) :
    (receiptsIn history).map (fun p => plan.redact p.2) =
      pushedIn history ++ (s.hands plan.redact).reduceOption := by
  induction run with
  | start => simp [State.start, State.hands, Worker.carried?, receiptsIn, pushedIn, pushesIn]
  | step m run hstep inv =>
    exact single_hand_flow (step_transition hstep).flow (run.workers_length.trans hone) inv

/-- With one worker the batches begin with what was accepted first. -/
lemma Run.single_worker_begins (run : Run plan s history) (hsink : SinkReturns history)
    (hone : plan.workers = 1) :
    (batchesIn history).flatten <+: (acceptedIn history).map plan.redact := by
  have hpushed : pushedIn history <+: (receiptsIn history).map fun p => plan.redact p.2 := by
    rw [run.single_hand hone]
    exact List.prefix_append _ _
  have hreceived : ((receiptsIn history).map fun p => plan.redact p.2) <+:
      (acceptedIn history).map plan.redact := by
    rw [run.balanced.queue, List.map_append, List.map_map]
    exact List.prefix_append _ _
  exact ((run.generational hsink).flatten_begins.trans hpushed).trans hreceived

/-- With one worker a drained pipeline has written what was accepted, in this order. -/
lemma Run.single_worker_drained {k drained : Nat} (run : Run plan s history)
    (hsink : SinkReturns history) (hone : plan.workers = 1)
    (hc : s.calls[k]? = some (.returned (some drained))) :
    (batchesIn history).flatten = (acceptedIn history).map plan.redact := by
  apply (run.single_worker_begins hsink hone).eq_of_length
  rw [(run.generational hsink).flatten_eq (run.drained_empty hc)]
  exact (run.drained_pushed (by omega) hc).length_eq

end OneWorker
/-- Worker `i` holds an entry, be it redacted already or not. -/
def State.Holds (redact : ε → ε) (s : State ε) (i : Nat) (e : ε) : Prop :=
  (s.workers[i]?).bind (Worker.carried? redact) = some (redact e)

section Moments

variable {redact : ε → ε} {plan : Plan ε} {s s' : State ε} {history events : List (Event ε)}

lemma holds_iff {i : Nat} {e : ε} :
    s.Holds redact i e ↔ (s.hands redact)[i]? = some (some (redact e)) := by
  unfold State.Holds State.hands
  rw [List.getElem?_map]
  cases s.workers[i]? <;> simp

/-- What a worker has in its hand it has received. -/
lemma Run.hand_received (run : Run plan s history) {i : Nat} {e : ε}
    (h : (s.hands plan.redact)[i]? = some (some e)) :
    ∃ e₀, (i, e₀) ∈ receiptsIn history ∧ plan.redact e₀ = e := by
  induction run generalizing i e with
  | start =>
    simp [State.start, State.hands, List.getElem?_replicate, Worker.carried?] at h
  | @step s s' history events m _ hstep ih =>
    have hold : (s.hands plan.redact)[i]? = some (some e) →
        ∃ e₀, (i, e₀) ∈ receiptsIn (history ++ events) ∧ plan.redact e₀ = e := by
      intro h
      obtain ⟨e₀, hmem, he⟩ := ih h
      exact ⟨e₀, by rw [receiptsIn_append]; exact List.mem_append_left _ hmem, he⟩
    cases (step_transition hstep).flow with
    | accepted _ _ hhands _ _ => exact hold (hhands ▸ h)
    | received j e' _ _ hhands _ hevents =>
      by_cases hij : j = i
      · subst hij
        have he : plan.redact e' = e := by
          rw [hhands] at h
          have hlt := (List.getElem?_eq_some_iff.mp h).1
          simp only [List.length_set] at hlt
          simpa [hlt] using h
        refine ⟨e', ?_, he⟩
        rw [receiptsIn_append, hevents]
        exact List.mem_append_right _ List.mem_cons_self
      · rw [hhands, List.getElem?_set_ne hij] at h
        exact hold h
    | pushed j e' _ _ hhands _ _ =>
      by_cases hij : j = i
      · subst hij
        rw [hhands] at h
        have hlt := (List.getElem?_eq_some_iff.mp h).1
        simp only [List.length_set] at hlt
        simp [hlt] at h
      · rw [hhands, List.getElem?_set_ne hij] at h
        exact hold h
    | finished _ _ _ _ _ _ hhands _ _ => exact hold (hhands ▸ h)
    | quiet _ hhands _ _ _ _ _ => exact hold (hhands ▸ h)

/-- Just before a push there is a worker with the entry, and all earlier pushes are done. -/
lemma exists_push_moment {moves : List (Move ε)} (h : exec plan moves = some (s, history))
    {before after : List ε} {e : ε} (hpushed : pushedIn history = before ++ e :: after) :
    ∃ earlier t past, earlier <+: moves ∧ exec plan earlier = some (t, past) ∧
      pushedIn past = before ∧ ∃ i : Nat, (t.hands plan.redact)[i]? = some (some e) := by
  induction moves using List.reverseRecOn generalizing s history after with
  | nil =>
    cases h
    simp [pushedIn, pushesIn] at hpushed
  | append_singleton moves m ih =>
    obtain ⟨t, past, events, hmoves, hstep, rfl⟩ := exec_concat_inv h
    have hearlier : ∀ after, pushedIn past = before ++ e :: after →
        ∃ earlier t past, earlier <+: moves ++ [m] ∧ exec plan earlier = some (t, past) ∧
          pushedIn past = before ∧ ∃ i : Nat, (t.hands plan.redact)[i]? = some (some e) := by
      intro after hpast
      obtain ⟨earlier, t, past, hbegins, hmoment⟩ := ih hmoves hpast
      exact ⟨earlier, t, past, hbegins.trans (List.prefix_append _ _), hmoment⟩
    rw [pushedIn_append] at hpushed
    have hquiet : pushedIn events = [] →
        ∃ earlier t past, earlier <+: moves ++ [m] ∧ exec plan earlier = some (t, past) ∧
          pushedIn past = before ∧ ∃ i : Nat, (t.hands plan.redact)[i]? = some (some e) := by
      intro hnone
      rw [hnone, List.append_nil] at hpushed
      exact hearlier after hpushed
    cases (step_transition hstep).flow with
    | pushed i e' _ hhand _ _ hevents =>
      subst hevents
      rcases List.eq_nil_or_concat after with rfl | ⟨after, last, rfl⟩
      · obtain ⟨hbefore, hlast⟩ := List.append_inj' hpushed rfl
        cases hlast
        exact ⟨moves, t, past, List.prefix_append _ _, hmoves, hbefore, i, hhand⟩
      · rw [List.concat_eq_append, ← List.cons_append, ← List.append_assoc] at hpushed
        exact hearlier after (List.append_inj' hpushed rfl).1
    | accepted _ _ _ _ hevents => exact hquiet (by rw [hevents]; rfl)
    | received _ _ _ _ _ _ hevents => exact hquiet (by rw [hevents]; rfl)
    | finished _ _ _ _ _ _ _ _ hevents => exact hquiet (by rw [hevents]; rfl)
    | quiet _ _ _ _ _ hpushes _ => exact hquiet (by rw [pushedIn, hpushes, List.map_nil])

end Moments
/-! ### Entries that change places -/

section Inversions

variable {plan : Plan ε} {moves : List (Move ε)} {s : State (ε × Nat)}
  {history : List (Event (ε × Nat))}

lemma exists_untagged_moves {earlier : List (Move (ε × Nat))}
    (h : earlier <+: withTickets moves) :
    ∃ first, first <+: moves ∧ withTickets first = earlier := by
  refine ⟨moves.take earlier.length, List.take_prefix _ _, ?_⟩
  rw [List.prefix_iff_eq_take.mp h]
  apply List.ext_getElem?
  intro n
  have hle : earlier.length ≤ moves.length := by simpa [withTickets] using h.length_le
  rw [List.getElem?_take]
  simp only [withTickets, List.getElem?_mapIdx, List.getElem?_take, List.length_take,
    List.length_mapIdx]
  split <;> split <;> first | rfl | omega

lemma past_begins {ε : Type} {plan : Plan ε} {earlier moves : List (Move ε)} {s t : State ε}
    {history past : List (Event ε)} (hbegins : earlier <+: moves)
    (h : exec plan moves = some (s, history)) (hearlier : exec plan earlier = some (t, past)) :
    past <+: history := by
  obtain ⟨later, rfl⟩ := hbegins
  obtain ⟨t', past', after, hfirst, -, rfl⟩ := execFrom_split h
  have hsame : some (t', past') = some (t, past) := hfirst.symm.trans hearlier
  cases hsame
  exact List.prefix_append _ _

lemma Ticketed.receipts_nodup (inv : Ticketed moves history)
    (hbalanced : Balanced plan.ticketed.redact s history) :
    ((receiptsIn history).map fun r => r.2.2).Nodup := by
  have hnodup := inv.accepted_nodup
  rw [hbalanced.queue, List.map_append, List.map_map] at hnodup
  exact hnodup.sublist (List.sublist_append_left _ _)

lemma Ticketed.pushed_nodup (inv : Ticketed moves history)
    (hbalanced : Balanced plan.ticketed.redact s history) :
    ((pushedIn history).map Prod.snd).Nodup := by
  have hperm : ((receiptsIn history).map fun r => plan.ticketed.redact r.2).Perm
      (pushedIn history ++ (s.hands plan.ticketed.redact).reduceOption) := by
    rw [← Multiset.coe_eq_coe, ← Multiset.coe_add]
    exact hbalanced.hands
  have hnodup := (hperm.map Prod.snd).nodup_iff.mp (by
    rw [List.map_map]
    exact inv.receipts_nodup hbalanced)
  rw [List.map_append] at hnodup
  exact hnodup.sublist (List.sublist_append_left _ _)

/-- Redaction does not touch the tickets. -/
lemma ticket_eq {a b : ε × Nat} (h : plan.ticketed.redact a = plan.ticketed.redact b) :
    a.2 = b.2 :=
  (Prod.mk.inj h).2

/-- The queue lets nothing overtake: what was accepted before a received entry is received. -/
lemma Ticketed.received_before {past : List (Event (ε × Nat))} {t : State (ε × Nat)}
    (inv : Ticketed moves history) (hpast : past <+: history)
    (hbalanced : Balanced plan.ticketed.redact t past) {a b : ε × Nat} {j : Nat}
    (ha : a ∈ acceptedIn history) (hb : (j, b) ∈ receiptsIn past) (hab : a.2 < b.2) :
    ∃ i, (i, a) ∈ receiptsIn past := by
  obtain ⟨later, rfl⟩ := hpast
  have hordered := inv.ordered
  rw [acceptedIn_append, hbalanced.queue, List.append_assoc] at ha hordered
  rcases List.mem_append.mp ha with ha | ha
  · obtain ⟨⟨i, a⟩, hmem, rfl⟩ := List.mem_map.mp ha
    exact ⟨i, hmem⟩
  · have hlt := (List.pairwise_append.mp hordered).2.2 b (List.mem_map_of_mem hb) a ha
    omega

/-- Two entries in the opposite order of their acceptance were in two hands at one moment: just
before the later one was pushed. -/
lemma inversion_moment (h : exec plan.ticketed (withTickets moves) = some (s, history))
    (hsink : SinkReturns history) {a b : ε × Nat} (ha : a ∈ acceptedIn history)
    (hab : a.2 < b.2)
    (hinverted : [plan.ticketed.redact b, plan.ticketed.redact a].Sublist
      (batchesIn history).flatten) :
    ∃ earlier t past, earlier <+: moves ∧
      exec plan.ticketed (withTickets earlier) = some (t, past) ∧ past <+: history ∧
      ∃ i j, i ≠ j ∧ t.Holds plan.ticketed.redact i a ∧ t.Holds plan.ticketed.redact j b := by
  have inv := ticketed_of_exec h
  have run := run_iff_exec.mpr ⟨_, h⟩
  -- In the log `b` comes before `a`.
  have hlog := hinverted.trans (run.generational hsink).flatten_begins.sublist
  obtain ⟨first, second, hsplit, hbfirst, hasecond⟩ := List.cons_sublist_iff.mp hlog
  obtain ⟨before, between, rfl⟩ := List.append_of_mem hbfirst
  have hamem : plan.ticketed.redact a ∈ between ++ second :=
    List.mem_append_right _ (List.singleton_sublist.mp hasecond)
  rw [List.append_assoc, List.cons_append] at hsplit
  -- At the moment before `b` is pushed, `a` has been received too, but not pushed.
  obtain ⟨tagged, t, past, hbegins, hexec, hbefore, j, hj⟩ := exists_push_moment h hsplit
  obtain ⟨earlier, hearlier, rfl⟩ := exists_untagged_moves hbegins
  have hpast := past_begins hbegins h hexec
  have hrun := run_iff_exec.mpr ⟨_, hexec⟩
  obtain ⟨b₀, hb₀, hredact⟩ := hrun.hand_received hj
  have hticket := ticket_eq hredact
  obtain ⟨r, hr⟩ := inv.received_before hpast hrun.balanced ha hb₀ (by omega)
  have hnot : plan.ticketed.redact a ∉ pushedIn past := by
    have hnodup := inv.pushed_nodup run.balanced
    rw [hsplit, ← hbefore, List.map_append] at hnodup
    intro hmem
    exact (List.nodup_append.mp hnodup).2.2 _ (List.mem_map_of_mem hmem) _
      (List.mem_map_of_mem (List.mem_cons_of_mem _ hamem)) rfl
  have hhand : plan.ticketed.redact a ∈ (t.hands plan.ticketed.redact).reduceOption := by
    have hmem : plan.ticketed.redact a ∈
        (((receiptsIn past).map fun p => plan.ticketed.redact p.2 : List _) : Multiset _) :=
      Multiset.mem_coe.mpr (List.mem_map.mpr ⟨(r, a), hr, rfl⟩)
    rw [hrun.balanced.hands] at hmem
    exact (Multiset.mem_add.mp hmem).resolve_left hnot
  obtain ⟨i, hi⟩ := List.mem_iff_getElem?.mp (List.reduceOption_mem_iff.mp hhand)
  refine ⟨earlier, t, past, hearlier, hexec, hpast, i, j, ?_, holds_iff.mpr hi, holds_iff.mpr hj⟩
  rintro rfl
  rw [hi] at hj
  have hsame : a.2 = b.2 := ticket_eq (Option.some.inj (Option.some.inj hj))
  omega

/-- Entries that one worker has received do not change places. -/
lemma no_inversion_of_same_worker
    (h : exec plan.ticketed (withTickets moves) = some (s, history))
    (hsink : SinkReturns history) {a b : ε × Nat} {w : Nat} (ha : (w, a) ∈ receiptsIn history)
    (hb : (w, b) ∈ receiptsIn history) (hab : a.2 < b.2) :
    ¬[plan.ticketed.redact b, plan.ticketed.redact a].Sublist (batchesIn history).flatten := by
  intro hinverted
  have inv := ticketed_of_exec h
  have hbalanced := (run_iff_exec.mpr ⟨_, h⟩).balanced
  have haccepted : a ∈ acceptedIn history := by
    rw [hbalanced.queue]
    exact List.mem_append_left _ (List.mem_map_of_mem (f := Prod.snd) ha)
  obtain ⟨earlier, t, past, -, hexec, hpast, i, j, hij, hi, hj⟩ :=
    inversion_moment h hsink haccepted hab hinverted
  have hrun := run_iff_exec.mpr ⟨_, hexec⟩
  -- Each ticket is received once, so the hand that holds it is the hand of the worker.
  have hworker : ∀ {e : ε × Nat} {i : Nat}, (w, e) ∈ receiptsIn history →
      t.Holds plan.ticketed.redact i e → i = w := by
    intro e i he hholds
    obtain ⟨e₀, hmem, hredact⟩ := hrun.hand_received (holds_iff.mp hholds)
    have hmem' : (i, e₀) ∈ receiptsIn history := (hpast.filterMap _).mem hmem
    have hsame := List.inj_on_of_nodup_map (inv.receipts_nodup hbalanced) hmem' he
      (ticket_eq hredact)
    exact congrArg Prod.fst hsame
  exact hij ((hworker ha hi).trans (hworker hb hj).symm)

end Inversions

/-- The batches keep the order of acceptance. With one worker they are what was accepted, in the
order in which it was accepted. With any number of workers an entry `b` comes before an entry `a`
that was accepted earlier only if at some moment of the run two different workers held them; so
entries that the same worker has received never change places. -/
theorem batches_keep_acceptance_order (plan : Plan ε) (moves : List (Move ε)) (s : State ε)
    (history : List (Event ε)) (run : exec plan moves = some (s, history))
    (hsink : SinkReturns history) :
    (plan.workers = 1 →
      (batchesIn history).flatten <+: (acceptedIn history).map plan.redact ∧
      ∀ k drained : Nat, s.calls[k]? = some (.returned (some drained)) →
        (batchesIn history).flatten = (acceptedIn history).map plan.redact) ∧
    ∃ t tagged,
      exec plan.ticketed (withTickets moves) = some (t, tagged) ∧
      t.map Prod.fst = s ∧ tagged.map (Event.map Prod.fst) = history ∧ Ticketed moves tagged ∧
      ∀ a ∈ acceptedIn tagged, ∀ b ∈ acceptedIn tagged, a.2 < b.2 →
        ([plan.ticketed.redact b, plan.ticketed.redact a].Sublist (batchesIn tagged).flatten →
          ∃ earlier u past, earlier <+: moves ∧
            exec plan.ticketed (withTickets earlier) = some (u, past) ∧
            ∃ i j, i ≠ j ∧ u.Holds plan.ticketed.redact i a ∧
              u.Holds plan.ticketed.redact j b) ∧
        ∀ w, (w, a) ∈ receiptsIn tagged → (w, b) ∈ receiptsIn tagged →
          ¬[plan.ticketed.redact b, plan.ticketed.redact a].Sublist (batchesIn tagged).flatten := by
  have hrun := run_iff_exec.mpr ⟨_, run⟩
  constructor
  · intro hone
    refine ⟨hrun.single_worker_begins hsink hone, ?_⟩
    intro k drained hc
    exact hrun.single_worker_drained hsink hone hc
  · obtain ⟨t, tagged, hexec, rfl, rfl⟩ := exec_withTickets run
    have htagged := sinkReturns_map.mp hsink
    refine ⟨t, tagged, hexec, rfl, rfl, ticketed_of_exec hexec, ?_⟩
    intro a ha b _ hab
    constructor
    · intro hinverted
      obtain ⟨earlier, u, past, hbegins, hu, -, hmoment⟩ :=
        inversion_moment hexec htagged ha hab hinverted
      exact ⟨earlier, u, past, hbegins, hu, hmoment⟩
    · intro w haw hbw
      exact no_inversion_of_same_worker hexec htagged haw hbw hab

/-- Two workers take an entry each, the second one pushes first, and the timer has both written. -/
def crossingRun (a b : ε) : List (Move ε) :=
  let worker (i n : Nat) : List (Move ε) := List.replicate n (.worker i)
  List.flatten [
    [.send a, .send b], worker 0 2, worker 1 6, worker 0 4,
    [.tick, .flusher, .flusher, .flusher]]

/-- A pipeline with two workers. -/
def pairPlan : Plan Nat := ⟨2, 2, 1, ⟨.ofMillis 0, 0⟩, id⟩

/-- In the crossing run the entries change places, and there is a moment at which each of the
workers holds one of them. -/
theorem crossing_run_in_two_hands : ∃ t tagged,
    exec pairPlan.ticketed (withTickets (crossingRun 1 2)) = some (t, tagged) ∧
    (batchesIn tagged).flatten = [(2, 1), (1, 0)] ∧
    ∃ earlier u past, earlier <+: crossingRun 1 2 ∧
      exec pairPlan.ticketed (withTickets earlier) = some (u, past) ∧
      ∃ i j, i ≠ j ∧ u.Holds id i (1, 0) ∧ u.Holds id j (2, 1) := by
  have hrun : ∃ s history, exec pairPlan (crossingRun 1 2) = some (s, history) ∧
      SinkReturns history :=
    ⟨_, _, rfl, by decide⟩
  have htickets : ∃ t tagged,
      exec pairPlan.ticketed (withTickets (crossingRun 1 2)) = some (t, tagged) ∧
      (batchesIn tagged).flatten = [(2, 1), (1, 0)] ∧ (1, 0) ∈ acceptedIn tagged ∧
      (2, 1) ∈ acceptedIn tagged :=
    ⟨_, _, rfl, rfl, by decide, by decide⟩
  obtain ⟨s, history, hexec, hsink⟩ := hrun
  obtain ⟨t, tagged, htagged, hbatches, ha, hb⟩ := htickets
  obtain ⟨-, t', tagged', htagged', -, -, -, horder⟩ :=
    batches_keep_acceptance_order pairPlan _ s history hexec hsink
  rw [htagged] at htagged'
  cases htagged'
  have hinverted : [(2, 1), (1, 0)].Sublist (batchesIn tagged).flatten := by rw [hbatches]
  exact ⟨t, tagged, htagged, hbatches, (horder (1, 0) ha (2, 1) hb (by decide)).1 hinverted⟩

end AuditTrail.Pipeline
