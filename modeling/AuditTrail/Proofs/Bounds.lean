import AuditTrail.Proofs.Ledger
import AuditTrail.Proofs.Rendezvous
import AuditTrail.Proofs.Schedule

/-!
# Bounded memory

A swap does not empty the slot that it makes active. The bound on the slots rests on the rendezvous
instead: a worker that has swapped pushes only when the flusher has the full slot, and by then the
other slot is empty. So a slot never grows beyond one entry more than the threshold, and a slot
that is handed over has exactly this length.
-/

namespace AuditTrail.Pipeline

variable {ε : Type}

/-- What a worker with the guard relies on: room for its entry, or the length of the slot that it
hands over. -/
def Worker.Fits (threshold : Nat) (b : DoubleBuffer ε) : Worker ε → Prop
  | .pushing _ => b.activeLength ≤ threshold
  | .swapping _ full | .handing _ full | .awaiting _ full .pending =>
    (b.contents full).length = threshold + 1
  | .awaiting _ _ .received => b.contents b.active = []
  | .awaiting _ _ .dropped => False
  | _ => True

/-- No batch is empty or longer than a slot can be, and one that was handed over has the length of a
full slot. -/
def BatchesFit (threshold : Nat) (events : List (Event ε)) : Prop :=
  ∀ writer cause slot entries, .batch writer cause slot entries ∈ events →
    1 ≤ entries.length ∧ entries.length ≤ threshold + 1 ∧
      (cause.isSome = true → entries.length = threshold + 1)

/-- No part of the pipeline holds more than it has room for. -/
structure Bounded (plan : Plan ε) (s : State ε) (history : List (Event ε)) : Prop where
  queue : s.queue.length ≤ plan.queueSize
  slots : ∀ slot, (s.buffer.contents slot).length ≤ plan.threshold + 1
  workers : ∀ w ∈ s.workers, w.Fits plan.threshold s.buffer
  batches : BatchesFit plan.threshold history

section Steps

variable {plan : Plan ε} {s s' : State ε} {m : Move ε} {history events : List (Event ε)}

/-- A worker without the guard relies on nothing. -/
lemma fits_of_no_guard {w : Worker ε} (h : w.holding.guard = false) (threshold : Nat)
    (b : DoubleBuffer ε) : w.Fits threshold b := by
  cases w with
  | swapping _ _ | handing _ _ | awaiting _ _ _ | pushing _ => cases h
  | _ => trivial

lemma BatchesFit.append {threshold : Nat} (hhistory : BatchesFit threshold history)
    (hevents : BatchesFit threshold events) : BatchesFit threshold (history ++ events) := by
  intro writer cause slot entries hmem
  rcases List.mem_append.mp hmem with hmem | hmem
  · exact hhistory writer cause slot entries hmem
  · exact hevents writer cause slot entries hmem

lemma batchesFit_of_none {threshold : Nat} (h : batchesIn events = []) :
    BatchesFit threshold events := by
  intro writer cause slot entries hmem
  have hbatch : entries ∈ batchesIn events := List.mem_filterMap.mpr ⟨_, hmem, rfl⟩
  rw [h] at hbatch
  cases hbatch

lemma batchesFit_begin {threshold : Nat} {writer : Task} {cause : Option Handoff} {slot : Slot}
    {entries : List ε} {a : Attempt} (hne : entries ≠ []) (hle : entries.length ≤ threshold + 1)
    (hcause : cause.isSome = true → entries.length = threshold + 1) :
    BatchesFit threshold [.batch writer cause slot entries, .called writer a entries] := by
  intro writer' cause' slot' entries' hmem
  rcases List.mem_cons.mp hmem with hbatch | hcall
  · cases hbatch
    exact ⟨List.length_pos_iff.mpr hne, hle, hcause⟩
  · cases List.mem_singleton.mp hcall

/-- A step that leaves the buffer alone only has to look after the workers that go on. -/
lemma Bounded.buffer_keep (inv : Bounded plan s history) (hbuffer : s'.buffer = s.buffer)
    (hqueue : s'.queue.length ≤ s.queue.length)
    (hworkers : ∀ w ∈ s'.workers, w ∈ s.workers ∨ w.Fits plan.threshold s.buffer)
    (hevents : BatchesFit plan.threshold events) : Bounded plan s' (history ++ events) := by
  constructor
  · exact Nat.le_trans hqueue inv.queue
  · rw [hbuffer]
    exact inv.slots
  · rw [hbuffer]
    intro w hw
    rcases hworkers w hw with hw | hfits
    · exact inv.workers w hw
    · exact hfits
  · exact inv.batches.append hevents

lemma Bounded.worker_keep {i : Nat} {w' : Worker ε} (inv : Bounded plan s history)
    (hworkers : s'.workers = s.workers.set i w') (hbuffer : s'.buffer = s.buffer)
    (hqueue : s'.queue.length ≤ s.queue.length) (hfits : w'.Fits plan.threshold s.buffer)
    (hevents : batchesIn events = []) : Bounded plan s' (history ++ events) := by
  refine inv.buffer_keep hbuffer hqueue ?_ (batchesFit_of_none hevents)
  rw [hworkers]
  intro w hw
  rcases List.mem_or_eq_of_mem_set hw with hw | rfl
  · exact .inl hw
  · exact .inr hfits

/-- A worker with the guard changes the buffer; no other worker relies on it. -/
lemma Bounded.worker_change {i : Nat} {w' : Worker ε} (inv : Bounded plan s history)
    (hlocked : Locked s) (hguard : s.guard = some (.worker i))
    (hworkers : s'.workers = s.workers.set i w') (hqueue : s'.queue = s.queue)
    (hslots : ∀ slot, (s'.buffer.contents slot).length ≤ plan.threshold + 1)
    (hfits : w'.Fits plan.threshold s'.buffer)
    (hevents : batchesIn events = []) : Bounded plan s' (history ++ events) := by
  constructor
  · rw [hqueue]
    exact inv.queue
  · exact hslots
  · intro w hw
    obtain ⟨j, hj⟩ := List.mem_iff_getElem?.mp hw
    rw [hworkers] at hj
    by_cases hij : i = j
    · subst hij
      have hlt := (List.getElem?_eq_some_iff.mp hj).1
      simp only [List.length_set] at hlt
      rw [List.getElem?_set_self hlt] at hj
      cases hj
      exact hfits
    · rw [List.getElem?_set_ne hij] at hj
      apply fits_of_no_guard
      apply hlocked.no_guard hj
      rw [hguard]
      simpa using hij
  · exact inv.batches.append (batchesFit_of_none hevents)

lemma Bounded.worker {i : Nat} (inv : Bounded plan s history) (hlocked : Locked s)
    (horder : EndsInOrder s) (hunbroken : s.Unbroken) (h : WorkerMoves plan s i s' events) :
    Bounded plan s' (history ++ events) := by
  have hfits : ∀ {w}, s.workers[i]? = some w → w.Fits plan.threshold s.buffer := fun hw =>
    inv.workers _ (List.mem_of_getElem? hw)
  cases h with
  | takeReceiver hw _ => exact inv.worker_keep rfl rfl (Nat.le_refl _) trivial rfl
  | receive e queue hw hqueue =>
    exact inv.worker_keep rfl rfl (by rw [hqueue]; simp) trivial rfl
  | stop hw _ _ => exact inv.worker_keep rfl rfl (Nat.le_refl _) trivial rfl
  | redact e hw => exact inv.worker_keep rfl rfl (Nat.le_refl _) trivial rfl
  | takeGuard e hw _ => exact inv.worker_keep rfl rfl (Nat.le_refl _) trivial rfl
  | keep e hw _ hsmall => exact inv.worker_keep rfl rfl (Nat.le_refl _) hsmall rfl
  | look e full hw _ =>
    have hlength : (s.buffer.contents full).length = plan.threshold + 1 := hfits hw
    exact inv.worker_keep rfl rfl (Nat.le_refl _) hlength rfl
  | handOver e full hw _ _ =>
    have hlength : (s.buffer.contents full).length = plan.threshold + 1 := hfits hw
    exact inv.worker_keep rfl rfl (Nat.le_refl _) hlength rfl
  | received e full hw =>
    have hempty : s.buffer.contents s.buffer.active = [] := hfits hw
    refine inv.worker_keep rfl rfl (Nat.le_refl _) ?_ rfl
    simp [Worker.Fits, DoubleBuffer.activeLength, hempty]
  | dropped e full hw => exact (hfits hw).elim
  | refused e full hw hgone =>
    exact (hunbroken.flusher (horder.refused hw (by simp) hgone)).elim
  | swap e hw _ hlarge =>
    refine inv.worker_change hlocked (hlocked.guard_worker hw rfl) rfl rfl inv.slots ?_ rfl
    have hle := inv.slots s.buffer.active
    unfold DoubleBuffer.activeLength at hlarge
    change (s.buffer.contents s.buffer.active).length = plan.threshold + 1
    omega
  | push e hw _ =>
    have hroom : (s.buffer.contents s.buffer.active).length ≤ plan.threshold := hfits hw
    refine inv.worker_change hlocked (hlocked.guard_worker hw rfl) rfl rfl ?_ trivial rfl
    intro slot
    rcases s.buffer.eq_active_or_backup slot with hslot | hslot
    · have hpush := s.buffer.contents_push_active e
      simp only [hslot, hpush, List.length_append, List.length_singleton]
      omega
    · have hpush := s.buffer.contents_push_backup e
      simp only [hslot, hpush]
      exact inv.slots _

lemma mem_tellSender {h : Handoff} {ack : Ack} {w : Worker ε}
    (hw : w ∈ tellSender h ack s.workers) :
    w ∈ s.workers ∨ ∃ v, s.workers[h.sender]? = some v ∧ w = v.hear ack := by
  obtain ⟨i, hi⟩ := List.mem_iff_getElem?.mp hw
  rw [getElem?_tellSender] at hi
  split at hi
  · next hsender =>
    subst hsender
    obtain ⟨v, hv, rfl⟩ := Option.map_eq_some_iff.mp hi
    exact .inr ⟨v, hv, rfl⟩
  · exact .inl (List.mem_of_getElem? hi)

/-- The flusher leaves the workers and the buffer alone. -/
lemma Bounded.flusher_keep (inv : Bounded plan s history) (hworkers : s'.workers = s.workers)
    (hbuffer : s'.buffer = s.buffer) (hqueue : s'.queue = s.queue)
    (hevents : BatchesFit plan.threshold events) : Bounded plan s' (history ++ events) := by
  refine inv.buffer_keep hbuffer (by rw [hqueue]) ?_ hevents
  rw [hworkers]
  intro w hw
  exact .inl hw

/-- The flusher tells a worker that it has the slot that was handed over: the other one is empty. -/
lemma Bounded.flusher_tell {slot : Slot} {h : Handoff} (inv : Bounded plan s history)
    (hmeet : Rendezvous s) (hf : s.flusher = .locking slot (.handoff h))
    (hworkers : s'.workers = tellSender h .received s.workers) (hbuffer : s'.buffer = s.buffer)
    (hqueue : s'.queue = s.queue) (hevents : BatchesFit plan.threshold events) :
    Bounded plan s' (history ++ events) := by
  obtain ⟨-, hu, hactive⟩ := hmeet.handed hf
  refine inv.buffer_keep hbuffer (by rw [hqueue]) ?_ hevents
  rw [hworkers]
  intro w hw
  rcases mem_tellSender hw with hw | ⟨v, hv, rfl⟩
  · exact .inl hw
  · obtain ⟨e, he⟩ := hu.sender
    rw [he] at hv
    cases hv
    exact .inr hactive

/-- The slot that is handed over has the full length. -/
lemma Bounded.handed_length {slot : Slot} {h : Handoff} (inv : Bounded plan s history)
    (hmeet : Rendezvous s) (hf : s.flusher = .locking slot (.handoff h)) :
    (s.buffer.contents slot).length = plan.threshold + 1 := by
  obtain ⟨hslot, -, hu⟩ := hmeet.taken slot h hf
  obtain ⟨e, he⟩ := hu.sender
  rw [hslot]
  exact inv.workers _ (List.mem_of_getElem? he)

lemma length_clear_le (slot other : Slot) :
    ((s.buffer.clear slot).contents other).length ≤ (s.buffer.contents other).length := by
  rw [DoubleBuffer.contents_clear]
  split <;> simp

/-- The slot that the flusher has written is none that a worker relies on, except for its room. -/
lemma Worker.Fits.clear {t : Nat} {slot : Slot} {w : Worker ε} (h : w.Fits t s.buffer)
    (hfull : ∀ full, w.full? = some full → full ≠ slot) : w.Fits t (s.buffer.clear slot) := by
  cases w with
  | swapping e full | handing e full =>
    change ((s.buffer.clear slot).contents full).length = t + 1
    rw [DoubleBuffer.contents_clear, if_neg (hfull full rfl)]
    exact h
  | awaiting e full ack =>
    cases ack with
    | pending =>
      change ((s.buffer.clear slot).contents full).length = t + 1
      rw [DoubleBuffer.contents_clear, if_neg (hfull full rfl)]
      exact h
    | received =>
      have hempty : s.buffer.contents s.buffer.active = [] := h
      change (s.buffer.clear slot).contents s.buffer.active = []
      rw [DoubleBuffer.contents_clear, hempty, ite_self]
    | dropped => exact h
  | pushing e => exact Nat.le_trans (length_clear_le slot s.buffer.active) h
  | _ => trivial

lemma Bounded.flusher_clear {slot : Slot} (inv : Bounded plan s history) (hlocked : Locked s)
    (hmeet : Rendezvous s) (hslot : slot = s.oldest) (hworkers : s'.workers = s.workers)
    (hbuffer : s'.buffer = s.buffer.clear slot) (hqueue : s'.queue = s.queue)
    (hevents : batchesIn events = []) : Bounded plan s' (history ++ events) := by
  constructor
  · rw [hqueue]
    exact inv.queue
  · intro other
    rw [hbuffer]
    exact Nat.le_trans (length_clear_le slot other) (inv.slots other)
  · rw [hworkers, hbuffer]
    intro w hw
    apply (inv.workers w hw).clear
    intro full hfull
    -- The slot that a worker hands over is the backup slot, and the older entries are in the other.
    obtain ⟨i, hi⟩ := List.mem_iff_getElem?.mp hw
    have hguard : w.holding.guard = true := by
      cases w with
      | swapping _ _ | handing _ _ | awaiting _ _ _ => rfl
      | _ => cases hfull
    have hfull' : s.full? = some full := (full_of_guard (hlocked.guard_worker hi hguard) hi).trans
      hfull
    rw [hmeet.full full hfull', hslot, oldest_of_some hfull']
    exact s.buffer.backup_ne_active
  · exact inv.batches.append (batchesFit_of_none hevents)

/-- With the guard the flusher may swap: no worker relies on the buffer. -/
lemma Bounded.guarded (inv : Bounded plan s history) (hlocked : Locked s)
    (hguard : ∀ i, s.guard ≠ some (.worker i)) (hworkers : s'.workers = s.workers)
    (hqueue : s'.queue = s.queue)
    (hslots : ∀ slot, (s'.buffer.contents slot).length ≤ (s.buffer.contents slot).length)
    (hevents : batchesIn events = []) : Bounded plan s' (history ++ events) := by
  constructor
  · rw [hqueue]
    exact inv.queue
  · intro slot
    exact Nat.le_trans (hslots slot) (inv.slots slot)
  · rw [hworkers]
    intro w hw
    obtain ⟨i, hi⟩ := List.mem_iff_getElem?.mp hw
    exact fits_of_no_guard (hlocked.no_guard hi (hguard i)) _ _
  · exact inv.batches.append (batchesFit_of_none hevents)

lemma Bounded.flusher (inv : Bounded plan s history) (hlocked : Locked s)
    (horder : EndsInOrder s) (hmeet : Rendezvous s) (hunbroken : s'.Unbroken)
    (h : FlusherMoves plan s m s' events) : Bounded plan s' (history ++ events) := by
  cases h with
  | tick _ _ => exact inv.flusher_keep rfl rfl rfl (batchesFit_of_none rfl)
  | skipTick _ _ => exact inv.flusher_keep rfl rfl rfl (batchesFit_of_none rfl)
  | takeHandoff h _ _ => exact inv.flusher_keep rfl rfl rfl (batchesFit_of_none rfl)
  | beginHandoff slot h hf _ hne =>
    have hlength := inv.handed_length hmeet hf
    exact inv.flusher_tell hmeet hf rfl rfl rfl
      (batchesFit_begin hne (Nat.le_of_eq hlength) fun _ => hlength)
  | emptyHandoff slot h hf _ _ =>
    exact inv.flusher_tell hmeet hf rfl rfl rfl (batchesFit_of_none rfl)
  | beginTimer slot hf _ hne =>
    exact inv.flusher_keep rfl rfl rfl (batchesFit_begin hne (inv.slots slot) (by simp))
  | emptyTimer slot _ _ _ => exact inv.flusher_keep rfl rfl rfl (batchesFit_of_none rfl)
  | keep _ _ _ => exact inv.flusher_keep rfl rfl rfl (batchesFit_of_none rfl)
  | swap hf _ _ =>
    have hguard := hlocked.guard_flusher (by rw [hf]; rfl)
    exact inv.guarded hlocked (by simp [hguard]) rfl rfl (fun _ => Nat.le_refl _) rfl
  | look full _ _ => exact inv.flusher_keep rfl rfl rfl (batchesFit_of_none rfl)
  | stop hf hsignal =>
    have hhandoff := hmeet.no_handoff_left horder hsignal
    exact inv.flusher_keep (by rw [hhandoff]; rfl) rfl rfl (batchesFit_of_none rfl)
  | finish slot a r stored hf _ =>
    have hslot := hmeet.target slot (by rw [hf]; rfl)
    exact inv.flusher_clear hlocked hmeet hslot rfl rfl rfl rfl
  | retry slot a r delay _ _ => exact inv.flusher_keep rfl rfl rfl (batchesFit_of_none rfl)
  | fail slot a r _ _ => exact (hunbroken.flusher rfl).elim
  | wake slot a _ => exact inv.flusher_keep rfl rfl rfl (batchesFit_of_none rfl)

lemma Bounded.shutdown {k : Nat} (inv : Bounded plan s history) (hlocked : Locked s)
    (h : ShutdownMoves plan s k m s' events) : Bounded plan s' (history ++ events) := by
  cases h with
  | begin slot slots drained hc _ hne =>
    exact inv.flusher_keep rfl rfl rfl (batchesFit_begin hne (inv.slots slot) (by simp))
  | finish slot a slots drained r stored hc _ =>
    have hguard := hlocked.guard_shutdown hc rfl
    exact inv.guarded hlocked (by simp [hguard]) rfl rfl (length_clear_le slot) rfl
  | _ => exact inv.flusher_keep rfl rfl rfl (batchesFit_of_none rfl)

lemma Bounded.transition (inv : Bounded plan s history) (hlocked : Locked s)
    (horder : EndsInOrder s) (hmeet : Rendezvous s) (hunbroken : s.Unbroken)
    (hunbroken' : s'.Unbroken) (h : Transition plan s m s' events) :
    Bounded plan s' (history ++ events) := by
  cases h with
  | send hoffered =>
    cases hoffered with
    | accepted _ hroom =>
      refine ⟨?_, inv.slots, inv.workers, inv.batches.append (batchesFit_of_none rfl)⟩
      simp only [List.length_append, List.length_singleton]
      omega
    | full _ _ => exact inv.flusher_keep rfl rfl rfl (batchesFit_of_none rfl)
    | closed _ => exact inv.flusher_keep rfl rfl rfl (batchesFit_of_none rfl)
  | callShutdown => exact inv.flusher_keep rfl rfl rfl (batchesFit_of_none rfl)
  | worker hworker => exact inv.worker hlocked horder hunbroken hworker
  | flusher hflusher => exact inv.flusher hlocked horder hmeet hunbroken' hflusher
  | shutdown hshutdown => exact inv.shutdown hlocked hshutdown

end Steps

section Runs

variable {plan : Plan ε} {s : State ε} {history : List (Event ε)}

lemma bounded_start (plan : Plan ε) : Bounded plan (State.start plan) [] := by
  constructor
  · exact Nat.zero_le _
  · intro slot
    cases slot <;> exact Nat.zero_le _
  · intro w hw
    rw [List.eq_of_mem_replicate hw]
    trivial
  · intro writer cause slot entries hmem
    cases hmem

theorem Run.bounded (run : Run plan s history) (hsink : SinkReturns history) :
    Bounded plan s history := by
  induction run with
  | start => exact bounded_start plan
  | step m run hstep inv =>
    have hbefore := ((sinkReturns_append _ _).mp hsink).1
    exact (inv hbefore).transition run.locked run.endsInOrder run.rendezvous
      (run.unbroken hbefore) ((run.step m hstep).unbroken hsink) (step_transition hstep)

/-- What is accepted and not finished waits in the queue, in the hands of the workers, or in the
slots. -/
lemma Run.unfinished_le (run : Run plan s history) (hsink : SinkReturns history) :
    (acceptedIn history).length ≤ (finishedIn history).flatten.length +
      (plan.queueSize + plan.workers + 2 * (plan.threshold + 1)) := by
  have inv := run.bounded hsink
  have hqueue := congrArg List.length run.balanced.queue
  have hhands := congrArg Multiset.card run.balanced.hands
  have hslots := congrArg Multiset.card run.balanced.slots
  have hheld : (s.hands plan.redact).reduceOption.length ≤ s.workers.length := by
    have hlength := List.reduceOption_length_le (s.hands plan.redact)
    unfold State.hands at hlength ⊢
    rwa [List.length_map] at hlength
  simp only [List.length_append, List.length_map] at hqueue
  simp only [State.stored, Multiset.card_add, Multiset.coe_card, List.length_map] at hhands hslots
  have hzero := inv.slots .zero
  have hone := inv.slots .one
  have hroom := inv.queue
  have hworkers := run.workers_length
  omega

/-- An offer is rejected only when the queue is full or closed, and then changes nothing. -/
lemma Run.rejected {e : ε} {s' : State ε} {events : List (Event ε)} (run : Run plan s history)
    (hsink : SinkReturns history)
    (hstep : Pipeline.step plan s (.send e) = some (s', events))
    (hrejected : rejectedIn events ≠ []) :
    s' = s ∧ (s.queue.length = plan.queueSize ∨
      s.isOpen = false ∧ ∃ c ∈ s.calls, c ≠ .closing) := by
  cases step_transition hstep with
  | send hoffered =>
    cases hoffered with
    | accepted _ _ => exact (hrejected rfl).elim
    | full _ hfull => exact ⟨rfl, .inl (Nat.le_antisymm (run.bounded hsink).queue hfull)⟩
    | closed hclosed => exact ⟨rfl, .inr ⟨hclosed, run.endsInOrder.closed hclosed⟩⟩
  | flusher hflusher => cases hflusher
  | shutdown hshutdown => cases hshutdown

end Runs

lemma eagerThreshold_lt {c : Config} (hc : c.problem? = none) :
    c.eagerThreshold + 1 ≤ c.queueSize := by
  have hpos : c.queueSize ≠ 0 := by
    unfold Config.problem? at hc
    split at hc
    · cases hc
    · next hne => exact hne
  unfold Config.eagerThreshold
  omega

/-- The pipeline never holds more than its settings allow. A slot has at most one entry more than
the threshold, and so has a batch, which has exactly as many if a worker has handed its slot over.
With the queue and the workers this bounds the entries that are accepted and not finished. An offer
is rejected only when the queue is full or a shutdown call has closed it, and changes nothing. -/
theorem memory_is_bounded (c : Config) (hc : c.problem? = none) (s : State Entry)
    (history : List (Event Entry)) (run : Run (Timed.planOf c) s history)
    (hsink : SinkReturns history) :
    (∀ slot, (s.buffer.contents slot).length ≤ c.eagerThreshold + 1) ∧
    c.eagerThreshold + 1 ≤ c.queueSize ∧
    (∀ writer cause slot entries, .batch writer cause slot entries ∈ history →
      1 ≤ entries.length ∧ entries.length ≤ c.eagerThreshold + 1 ∧
        (cause.isSome = true → entries.length = c.eagerThreshold + 1)) ∧
    s.queue.length ≤ c.queueSize ∧
    (acceptedIn history).length ≤ (finishedIn history).flatten.length +
      (c.queueSize + c.workers + 2 * (c.eagerThreshold + 1)) ∧
    ∀ e s' events, step (Timed.planOf c) s (.send e) = some (s', events) →
      rejectedIn events ≠ [] →
      s' = s ∧ (s.queue.length = c.queueSize ∨
        s.isOpen = false ∧ ∃ call ∈ s.calls, call ≠ .closing) := by
  have inv := run.bounded hsink
  refine ⟨inv.slots, eagerThreshold_lt hc, inv.batches, inv.queue, run.unfinished_le hsink, ?_⟩
  intro e s' events hstep hrejected
  exact run.rejected hsink hstep hrejected

/-- Before its shutdown the short run has two accepted entries, one of them finished, and the other
one fills a slot. -/
theorem short_run_is_bounded : ∃ s history,
    exec (Timed.planOf narrowConfig) ((shortRun default default default).take 21) =
      some (s, history) ∧
    (s.buffer.contents .one).length = 1 ∧ (acceptedIn history).length = 2 ∧
    (∀ slot, (s.buffer.contents slot).length ≤ narrowConfig.eagerThreshold + 1) ∧
    (acceptedIn history).length ≤ (finishedIn history).flatten.length +
      (narrowConfig.queueSize + narrowConfig.workers + 2 * (narrowConfig.eagerThreshold + 1)) := by
  have hrun : ∃ s history,
      exec (Timed.planOf narrowConfig) ((shortRun default default default).take 21) =
        some (s, history) ∧
      (s.buffer.contents .one).length = 1 ∧ (acceptedIn history).length = 2 ∧
      SinkReturns history :=
    ⟨_, _, rfl, rfl, rfl, by decide⟩
  obtain ⟨s, history, hexec, hone, haccepted, hsink⟩ := hrun
  obtain ⟨hslots, -, -, -, hunfinished, -⟩ :=
    memory_is_bounded narrowConfig rfl s history (run_iff_exec.mpr ⟨_, hexec⟩) hsink
  exact ⟨s, history, hexec, hone, haccepted, hslots, hunfinished⟩

end AuditTrail.Pipeline
