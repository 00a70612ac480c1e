import AuditTrail.Proofs.History
import AuditTrail.Proofs.ShutdownOrder
import Mathlib.Algebra.Order.Group.Multiset
import Mathlib.Data.List.Perm.Basic
import Mathlib.Data.List.ReduceOption

/-!
# The ledger of a run

What has happened accounts for everything that the state holds: what was accepted has been received
or waits in the queue, what was received has been pushed or is in the hands of a worker, and what
was pushed is in a slot or in a batch that is finished. Each of these balances is kept by every
transition, so no run loses an entry or takes one twice.
-/

namespace AuditTrail.Pipeline

variable {ε : Type}

/-- The entries of both slots. -/
def State.stored (s : State ε) : Multiset ε :=
  s.buffer.contents .zero + s.buffer.contents .one

/-- The balances of the queue, of the workers and of the buffer. Only the queue is a single line;
the workers and the slots change the order of the entries. -/
structure Balanced (redact : ε → ε) (s : State ε) (history : List (Event ε)) : Prop where
  queue : acceptedIn history = (receiptsIn history).map Prod.snd ++ s.queue
  hands : (((receiptsIn history).map fun p => redact p.2 : List ε) : Multiset ε) =
    pushedIn history + (s.hands redact).reduceOption
  slots : (pushedIn history : Multiset ε) = s.stored + (finishedIn history).flatten

section Hands

variable {hands : List (Option ε)} {i : Nat} {e : ε}

lemma reduceOption_set (hand : Option ε) (hlt : i < hands.length) :
    ((hands.set i hand).reduceOption : Multiset ε) =
      hand.toList + (hands.eraseIdx i).reduceOption := by
  rw [Multiset.coe_add, Multiset.coe_eq_coe]
  have hperm := (List.set_perm_cons_eraseIdx hlt hand).filterMap id
  cases hand <;> exact hperm

lemma reduceOption_of_getElem {hand : Option ε} (h : hands[i]? = some hand) :
    (hands.reduceOption : Multiset ε) = hand.toList + (hands.eraseIdx i).reduceOption := by
  obtain ⟨hlt, hget⟩ := List.getElem?_eq_some_iff.mp h
  have hset := reduceOption_set hands[i] hlt
  rwa [List.set_getElem_self, hget] at hset

/-- A free hand takes an entry. -/
lemma reduceOption_fill (h : hands[i]? = some none) :
    ((hands.set i (some e)).reduceOption : Multiset ε) = hands.reduceOption + {e} := by
  rw [reduceOption_set _ (List.getElem?_eq_some_iff.mp h).1, reduceOption_of_getElem h,
    Option.toList_none, Multiset.coe_nil, zero_add, add_comm]
  rfl

/-- A hand lets go of its entry. -/
lemma reduceOption_empty (h : hands[i]? = some (some e)) :
    (hands.reduceOption : Multiset ε) = {e} + (hands.set i none).reduceOption := by
  rw [reduceOption_set _ (List.getElem?_eq_some_iff.mp h).1, reduceOption_of_getElem h,
    Option.toList_none, Multiset.coe_nil, zero_add]
  rfl

end Hands

section Steps

variable {redact : ε → ε} {s s' : State ε} {history events : List (Event ε)}

lemma stored_push {e : ε} (hbuffer : s'.buffer = s.buffer.push e) :
    s'.stored = s.stored + {e} := by
  unfold State.stored
  rw [hbuffer]
  obtain ⟨active, generation, zero, one⟩ := s.buffer
  cases active with
  | zero =>
    change ((zero ++ [e] : List ε) : Multiset ε) + one = zero + one + {e}
    rw [← Multiset.coe_add, add_right_comm]
    rfl
  | one =>
    change (zero : Multiset ε) + (one ++ [e] : List ε) = zero + one + {e}
    rw [← Multiset.coe_add, add_assoc]
    rfl

lemma stored_clear {slot : Slot} (hbuffer : s'.buffer = s.buffer.clear slot) :
    s.stored = s'.stored + s.buffer.contents slot := by
  unfold State.stored
  rw [hbuffer]
  obtain ⟨active, generation, zero, one⟩ := s.buffer
  cases slot with
  | zero =>
    change (zero : Multiset ε) + one = 0 + one + zero
    rw [zero_add, add_comm]
  | one =>
    change (zero : Multiset ε) + one = zero + 0 + one
    rw [add_zero]

/-- What leaves one part of the pipeline in a step enters the next one. -/
lemma Balanced.extend (inv : Balanced redact s history) (accepted : List ε)
    (receipts : List (Nat × ε)) (pushed : List ε) (finished : List (List ε))
    (haccepted : acceptedIn events = accepted) (hreceipts : receiptsIn events = receipts)
    (hpushed : pushedIn events = pushed) (hfinished : finishedIn events = finished)
    (hqueue : s.queue ++ accepted = receipts.map Prod.snd ++ s'.queue)
    (hhands : ((s.hands redact).reduceOption : Multiset ε) +
      (receipts.map fun p => redact p.2 : List ε) = pushed + (s'.hands redact).reduceOption)
    (hslots : s.stored + (pushed : Multiset ε) = s'.stored + finished.flatten) :
    Balanced redact s' (history ++ events) := by
  constructor
  · rw [acceptedIn_append, receiptsIn_append, haccepted, hreceipts, inv.queue, List.map_append,
      List.append_assoc, List.append_assoc, hqueue]
  · rw [receiptsIn_append, pushedIn_append, hreceipts, hpushed, List.map_append,
      ← Multiset.coe_add, ← Multiset.coe_add, inv.hands, add_assoc, add_assoc, hhands]
  · rw [pushedIn_append, finishedIn_append, hpushed, hfinished, List.flatten_append,
      ← Multiset.coe_add, ← Multiset.coe_add, inv.slots, add_right_comm, hslots, add_assoc,
      add_comm (finished.flatten : Multiset ε)]

lemma Balanced.flow (inv : Balanced redact s history) (h : Flow redact s s' events) :
    Balanced redact s' (history ++ events) := by
  have hstored : s'.buffer.contents = s.buffer.contents → s.stored = s'.stored := by
    intro hcontents
    unfold State.stored
    rw [hcontents]
  cases h with
  | accepted e hqueue hhands hcontents hevents =>
    subst hevents
    refine inv.extend [e] [] [] [] rfl rfl rfl rfl ?_ ?_ ?_
    · exact hqueue.symm
    · rw [hhands, List.map_nil, add_comm]
    · rw [hstored hcontents]
      rfl
  | received i e hqueue hfree hhands hcontents hevents =>
    subst hevents
    refine inv.extend [] [(i, e)] [] [] rfl rfl rfl rfl ?_ ?_ ?_
    · rw [hqueue, List.append_nil]
      rfl
    · rw [hhands, reduceOption_fill hfree, Multiset.coe_nil, zero_add]
      rfl
    · rw [hstored hcontents]
      rfl
  | pushed i e hqueue hhand hhands hbuffer hevents =>
    subst hevents
    refine inv.extend [] [] [e] [] rfl rfl rfl rfl ?_ ?_ ?_
    · rw [hqueue, List.append_nil]
      rfl
    · rw [hhands, reduceOption_empty hhand, List.map_nil, Multiset.coe_nil, add_zero]
      rfl
    · rw [stored_push hbuffer, List.flatten_nil, Multiset.coe_nil, add_zero]
      rfl
  | finished writer slot a r stored hqueue hhands hbuffer hevents =>
    subst hevents
    refine inv.extend [] [] [] [s.buffer.contents slot] rfl rfl rfl rfl ?_ ?_ ?_
    · rw [hqueue, List.append_nil]
      rfl
    · rw [hhands, List.map_nil, add_comm]
    · rw [stored_clear hbuffer, Multiset.coe_nil, add_zero, List.flatten_singleton]
  | quiet hqueue hhands hcontents haccepted hreceipts hpushes hfinished =>
    have hpushed : pushedIn events = [] := by rw [pushedIn, hpushes, List.map_nil]
    refine inv.extend [] [] [] [] haccepted hreceipts hpushed hfinished ?_ ?_ ?_
    · rw [hqueue, List.append_nil]
      rfl
    · rw [hhands, List.map_nil, add_comm]
    · rw [hstored hcontents]
      rfl

end Steps

lemma balanced_start (plan : Plan ε) : Balanced plan.redact (State.start plan) [] := by
  constructor
  · rfl
  · have hhands : ((State.start plan).hands plan.redact).reduceOption = [] := by
      simp [State.hands, State.start, Worker.carried?]
    rw [hhands]
    rfl
  · rfl

theorem Run.balanced {plan : Plan ε} {s : State ε} {history : List (Event ε)}
    (run : Run plan s history) : Balanced plan.redact s history := by
  induction run with
  | start => exact balanced_start plan
  | step m _ hstep inv => exact inv.flow (step_transition hstep).flow

lemma Flow.hands_length {redact : ε → ε} {s s' : State ε} {events : List (Event ε)}
    (h : Flow redact s s' events) : s'.workers.length = s.workers.length := by
  have hlength : ∀ s : State ε, (s.hands redact).length = s.workers.length := fun s =>
    List.length_map _
  rw [← hlength s', ← hlength s]
  cases h with
  | accepted _ _ hhands _ _ => rw [hhands]
  | received _ _ _ _ hhands _ _ => rw [hhands, List.length_set]
  | pushed _ _ _ _ hhands _ _ => rw [hhands, List.length_set]
  | finished _ _ _ _ _ _ hhands _ _ => rw [hhands]
  | quiet _ hhands _ _ _ _ _ => rw [hhands]

lemma Run.workers_length {plan : Plan ε} {s : State ε} {history : List (Event ε)}
    (run : Run plan s history) : s.workers.length = plan.workers := by
  induction run with
  | start => exact List.length_replicate
  | step m _ hstep ih => exact (step_transition hstep).flow.hands_length.trans ih

lemma hands_of_stopped {s : State ε} (redact : ε → ε) (hstopped : ∀ w ∈ s.workers, w = .stopped) :
    (s.hands redact).reduceOption = [] := by
  rw [List.reduceOption_eq_nil_iff]
  refine ⟨_, List.eq_replicate_iff.mpr ⟨rfl, ?_⟩⟩
  intro hand hhand
  obtain ⟨w, hw, rfl⟩ := List.mem_map.mp hhand
  rw [hstopped w hw]
  rfl

section Drained

variable {plan : Plan ε} {s : State ε} {history : List (Event ε)} {k drained : Nat}

lemma Run.drained_empty (run : Run plan s history)
    (hc : s.calls[k]? = some (.returned (some drained))) (slot : Slot) :
    s.buffer.contents slot = [] :=
  (run.endsInOrder.calls _ (List.mem_of_getElem? hc)).drains slot

/-- A drained pipeline has stopped altogether: nothing waits anywhere. -/
lemma Run.drained_stops (run : Run plan s history) (hworkers : 0 < plan.workers)
    (hc : s.calls[k]? = some (.returned (some drained))) :
    s.queue = [] ∧ ∀ w ∈ s.workers, w = .stopped := by
  have horder := run.endsInOrder
  have hstopped := (horder.calls _ (List.mem_of_getElem? hc)).workers rfl
  have hlength := run.workers_length
  obtain ⟨w, hw⟩ := List.exists_mem_of_length_pos (l := s.workers) (by omega)
  have hw' := hstopped w hw
  subst hw'
  exact ⟨(horder.worker hw).2, hstopped⟩

/-- All that was accepted by a drained pipeline has been pushed. -/
lemma Run.drained_pushed (run : Run plan s history) (hworkers : 0 < plan.workers)
    (hc : s.calls[k]? = some (.returned (some drained))) :
    (pushedIn history).Perm ((acceptedIn history).map plan.redact) := by
  obtain ⟨hqueue, hstopped⟩ := run.drained_stops hworkers hc
  have hreceived := run.balanced.hands
  rw [hands_of_stopped plan.redact hstopped, Multiset.coe_nil, add_zero,
    Multiset.coe_eq_coe] at hreceived
  rw [run.balanced.queue, hqueue, List.append_nil, List.map_map]
  exact hreceived.symm

end Drained
end AuditTrail.Pipeline
