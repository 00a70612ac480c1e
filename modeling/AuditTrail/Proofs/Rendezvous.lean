import AuditTrail.Proofs.Locks
import AuditTrail.Proofs.ShutdownOrder

/-!
# The rendezvous of workers and flusher

Between a swap and the moment at which the flusher has the full slot, the task that has swapped
keeps the guard, and the full slot is the backup slot. As the backup slot was empty, or still to be
written, when it became active by the swap, there is always one slot whose entries are older than
those of the other: the backup slot, or the active one while a swap is under way. The flusher is
about to write this slot, or it is empty.
-/

namespace AuditTrail.Pipeline

variable {ε : Type}

/-- The slot that a worker has swapped out and that the flusher does not have yet. -/
def Worker.full? : Worker ε → Option Slot
  | .swapping _ full | .handing _ full | .awaiting _ full .pending => some full
  | _ => none

/-- The slot that the flusher itself has swapped out, before it gives the guard back. -/
def Flusher.full? : Flusher → Option Slot
  | .swapping full => some full
  | _ => none

/-- The slot that the flusher is going to write, or writes, with no worker waiting for it. -/
def Flusher.target? : Flusher → Option Slot
  | .locking slot .timer | .writing slot _ => some slot
  | _ => none

namespace State

/-- The slot that has been swapped out while the guard is still held. -/
def full? (s : State ε) : Option Slot :=
  match s.guard with
  | some (.worker i) => (s.workers[i]?).bind Worker.full?
  | some .flusher => s.flusher.full?
  | _ => none

/-- The slot whose entries were added before those of the other slot. -/
def oldest (s : State ε) : Slot :=
  if s.full?.isSome then s.buffer.active else s.buffer.backup

/-- A handoff for which its sender waits, with the guard. -/
structure Unanswered (s : State ε) (h : Handoff) : Prop where
  guard : s.guard = some (.worker h.sender)
  sender : ∃ e, s.workers[h.sender]? = some (.awaiting e h.slot .pending)
  generation : h.generation = s.buffer.generation

end State

/-- Full slots are backup slots, handoffs are answered one by one, and the slot with the older
entries is the one that the flusher writes, or empty. -/
structure Rendezvous (s : State ε) : Prop where
  full : ∀ slot, s.full? = some slot → slot = s.buffer.backup
  offered : ∀ h, s.handoff = some h → s.Unanswered h
  taken : ∀ slot h, s.flusher = .locking slot (.handoff h) →
    slot = h.slot ∧ s.handoff = none ∧ s.Unanswered h
  target : ∀ slot, s.flusher.target? = some slot → slot = s.oldest
  empty : s.flusher.target? = none → s.flusher ≠ .failed → s.buffer.contents s.oldest = []

section Steps

variable {plan : Plan ε} {s s' : State ε} {m : Move ε} {events : List (Event ε)}

lemma full_of_free (hfree : s.guard = none) : s.full? = none := by
  simp [State.full?, hfree]

lemma full_of_guard {i : Nat} {w : Worker ε} (hguard : s.guard = some (.worker i))
    (hw : s.workers[i]? = some w) : s.full? = w.full? := by
  simp [State.full?, hguard, hw]

lemma full_of_flusher (hguard : s.guard = some .flusher) : s.full? = s.flusher.full? := by
  simp [State.full?, hguard]

lemma full_of_call {k : Nat} (hguard : s.guard = some (.shutdown k)) : s.full? = none := by
  simp [State.full?, hguard]

lemma full_of_worker_step {i : Nat} {w w' : Worker ε} {full : Option Slot}
    (hguard : s.guard = some (.worker i)) (hw : s.workers[i]? = some w)
    (hguard' : s'.guard = s.guard) (hworkers : s'.workers = s.workers.set i w')
    (hfull : w'.full? = full) : s'.full? = full := by
  have hlt := (List.getElem?_eq_some_iff.mp hw).1
  rw [← hfull]
  exact full_of_guard (hguard'.trans hguard) (by simp [hworkers, hlt])

/-- A worker that swaps nothing out and hands nothing over, with the guard or without it. -/
lemma full_of_worker_keep {i : Nat} {w w' : Worker ε} (hw : s.workers[i]? = some w)
    (hguard : s'.guard = s.guard) (hworkers : s'.workers = s.workers.set i w')
    (hflusher : s'.flusher = s.flusher) (hfull : w'.full? = w.full?) : s'.full? = s.full? := by
  by_cases hi : s.guard = some (.worker i)
  · exact full_of_worker_step hi hw hguard hworkers (hfull.trans (full_of_guard hi hw).symm)
  · unfold State.full?
    rw [hguard, hflusher, hworkers]
    split
    · next j hj =>
      have hij : i ≠ j := by
        intro hij
        exact hi (by rw [hj, hij])
      rw [List.getElem?_set_ne hij]
    · rfl
    · rfl

lemma full_without_flusher (hne : s.guard ≠ some .flusher) (hguard : s'.guard = s.guard)
    (hworkers : s'.workers = s.workers) : s'.full? = s.full? := by
  unfold State.full?
  rw [hguard, hworkers]
  split
  · rfl
  · next hflusher => exact (hne hflusher).elim
  · rfl

lemma oldest_of_none (hfull : s.full? = none) : s.oldest = s.buffer.backup := by
  simp [State.oldest, hfull]

lemma oldest_of_some {slot : Slot} (hfull : s.full? = some slot) :
    s.oldest = s.buffer.active := by
  simp [State.oldest, hfull]

lemma State.Unanswered.full {h : Handoff} (hu : s.Unanswered h) : s.full? = some h.slot := by
  obtain ⟨e, hw⟩ := hu.sender
  rw [full_of_guard hu.guard hw]
  rfl

lemma oldest_eq (hfull : s'.full? = s.full?) (hactive : s'.buffer.active = s.buffer.active) :
    s'.oldest = s.oldest := by
  unfold State.oldest DoubleBuffer.backup
  rw [hfull, hactive]

/-- A step that changes neither the flusher, nor the slot swapped out, nor what is known of the
handoffs and the older entries keeps the rendezvous. -/
lemma Rendezvous.keep (inv : Rendezvous s) (hfull : s'.full? = s.full?)
    (hactive : s'.buffer.active = s.buffer.active)
    (hempty : s.buffer.contents s.oldest = [] → s'.buffer.contents s.oldest = [])
    (hhandoff : s'.handoff = s.handoff) (hflusher : s'.flusher = s.flusher)
    (hunanswered : ∀ h, s.Unanswered h → s'.Unanswered h) : Rendezvous s' := by
  have hbackup : s'.buffer.backup = s.buffer.backup := by
    unfold DoubleBuffer.backup
    rw [hactive]
  have holdest := oldest_eq hfull hactive
  constructor
  · rw [hfull, hbackup]
    exact inv.full
  · rw [hhandoff]
    intro h hh
    exact hunanswered h (inv.offered h hh)
  · rw [hflusher, hhandoff]
    intro slot h hf
    obtain ⟨hslot, hnone, hu⟩ := inv.taken slot h hf
    exact ⟨hslot, hnone, hunanswered h hu⟩
  · rw [hflusher, holdest]
    exact inv.target
  · rw [hflusher, holdest]
    intro htarget hne
    exact hempty (inv.empty htarget hne)

/-- While nobody waits for the flusher, no handoff is under way. -/
lemma Rendezvous.no_handoff (inv : Rendezvous s) (hnot : ∀ h, ¬s.Unanswered h) :
    s.handoff = none ∧ ∀ slot h, s.flusher ≠ .locking slot (.handoff h) := by
  constructor
  · cases hh : s.handoff with
    | none => rfl
    | some h => exact (hnot h (inv.offered h hh)).elim
  · intro slot h hf
    exact hnot h (inv.taken slot h hf).2.2

lemma Rendezvous.of_no_handoff (hfull : ∀ slot, s.full? = some slot → slot = s.buffer.backup)
    (hhandoff : s.handoff = none) (hlocking : ∀ slot h, s.flusher ≠ .locking slot (.handoff h))
    (htarget : ∀ slot, s.flusher.target? = some slot → slot = s.oldest)
    (hempty : s.flusher.target? = none → s.flusher ≠ .failed → s.buffer.contents s.oldest = []) :
    Rendezvous s := by
  constructor
  · exact hfull
  · intro h hh
    rw [hhandoff] at hh
    cases hh
  · intro slot h hf
    exact (hlocking slot h hf).elim
  · exact htarget
  · exact hempty

lemma not_unanswered_of_free (hfree : s.guard = none) (h : Handoff) : ¬s.Unanswered h := by
  intro hu
  have hguard := hu.guard
  rw [hfree] at hguard
  cases hguard

lemma not_unanswered_of_worker {i : Nat} {w : Worker ε} (hguard : s.guard = some (.worker i))
    (hw : s.workers[i]? = some w) (hne : ∀ e full, w ≠ .awaiting e full .pending) (h : Handoff) :
    ¬s.Unanswered h := by
  intro hu
  have hi := hu.guard
  rw [hguard] at hi
  cases hi
  obtain ⟨e, he⟩ := hu.sender
  rw [hw] at he
  exact hne e h.slot (Option.some.inj he)

lemma not_unanswered_of_guard {t : Task} (hguard : s.guard = some t) (hne : ∀ i, t ≠ .worker i)
    (h : Handoff) : ¬s.Unanswered h := by
  intro hu
  have ht := hu.guard
  rw [hguard] at ht
  exact hne h.sender (Option.some.inj ht)

/-! ### Workers -/

/-- A worker is refused only by a flusher that has failed: one that has stopped has done so after
all workers. -/
lemma EndsInOrder.refused {i : Nat} {w : Worker ε} (horder : EndsInOrder s)
    (hw : s.workers[i]? = some w) (hne : w ≠ .stopped) (hgone : s.flusher.isGone = true) :
    s.flusher = .failed := by
  cases hf : s.flusher with
  | failed => rfl
  | stopped => exact (hne (horder.signal (horder.flusher hf) w (List.mem_of_getElem? hw))).elim
  | _ => simp [hf, Flusher.isGone] at hgone

/-- A worker that does not wait for the flusher may go on as long as this changes neither the slot
swapped out nor the buffer. -/
lemma Rendezvous.worker_keep {i : Nat} {w w' : Worker ε} (inv : Rendezvous s)
    (hw : s.workers[i]? = some w) (hne : ∀ e full, w ≠ .awaiting e full .pending)
    (hguard : s'.guard = s.guard) (hworkers : s'.workers = s.workers.set i w')
    (hfull : w'.full? = w.full?) (hbuffer : s'.buffer = s.buffer)
    (hhandoff : s'.handoff = s.handoff) (hflusher : s'.flusher = s.flusher) : Rendezvous s' := by
  apply inv.keep
  · exact full_of_worker_keep hw hguard hworkers hflusher hfull
  · rw [hbuffer]
  · rw [hbuffer]
    exact id
  · exact hhandoff
  · exact hflusher
  · intro h hu
    obtain ⟨e, hsender⟩ := hu.sender
    have hother : i ≠ h.sender := by
      intro hi
      rw [← hi, hw] at hsender
      exact hne e h.slot (Option.some.inj hsender)
    refine ⟨hguard.trans hu.guard, ⟨e, ?_⟩, by rw [hbuffer, hu.generation]⟩
    rw [hworkers, List.getElem?_set_ne hother]
    exact hsender

/-- The slots change places, but what was the backup slot still has the older entries. -/
lemma Rendezvous.worker_swaps {i : Nat} {e : ε} (inv : Rendezvous s) (hlocked : Locked s)
    (hw : s.workers[i]? = some (.measuring e)) :
    Rendezvous { s with
      buffer := s.buffer.swap
      workers := s.workers.set i (.swapping e s.buffer.active) } := by
  have hguard := hlocked.guard_worker hw rfl
  obtain ⟨hhandoff, hlocking⟩ := inv.no_handoff (not_unanswered_of_worker hguard hw (by simp))
  have hfull : State.full? { s with
      buffer := s.buffer.swap
      workers := s.workers.set i (.swapping e s.buffer.active) } = some s.buffer.active :=
    full_of_worker_step hguard hw rfl rfl rfl
  have holdest : State.oldest { s with
      buffer := s.buffer.swap
      workers := s.workers.set i (.swapping e s.buffer.active) } = s.oldest := by
    rw [oldest_of_some hfull, oldest_of_none (full_of_guard hguard hw)]
    exact s.buffer.active_swap
  refine .of_no_handoff ?_ hhandoff hlocking ?_ ?_
  · intro slot hslot
    rw [hfull] at hslot
    cases hslot
    simp
  · rw [holdest]
    exact inv.target
  · rw [holdest]
    exact inv.empty

lemma Rendezvous.worker_refused {i : Nat} {e : ε} {full : Slot} (inv : Rendezvous s)
    (hlocked : Locked s) (hw : s.workers[i]? = some (.handing e full))
    (hfailed : s.flusher = .failed) :
    Rendezvous { s with workers := s.workers.set i (.pushing e) } := by
  have hguard := hlocked.guard_worker hw rfl
  obtain ⟨hhandoff, hlocking⟩ := inv.no_handoff (not_unanswered_of_worker hguard hw (by simp))
  have hfull : State.full? { s with workers := s.workers.set i (.pushing e) } = none :=
    full_of_worker_step hguard hw rfl rfl rfl
  refine .of_no_handoff ?_ hhandoff hlocking ?_ ?_
  · intro slot hslot
    rw [hfull] at hslot
    cases hslot
  · intro slot hslot
    rw [hfailed] at hslot
    cases hslot
  · intro _ hne
    exact (hne hfailed).elim

lemma Rendezvous.worker_hands_over {i : Nat} {e : ε} {full : Slot} (inv : Rendezvous s)
    (hlocked : Locked s) (hw : s.workers[i]? = some (.handing e full)) :
    Rendezvous { s with
      handoff := some ⟨full, s.buffer.generation, i⟩
      workers := s.workers.set i (.awaiting e full .pending) } := by
  have hlt := (List.getElem?_eq_some_iff.mp hw).1
  have hguard := hlocked.guard_worker hw rfl
  obtain ⟨-, hlocking⟩ := inv.no_handoff (not_unanswered_of_worker hguard hw (by simp))
  have hfull : State.full? { s with
      handoff := some ⟨full, s.buffer.generation, i⟩
      workers := s.workers.set i (.awaiting e full .pending) } = s.full? :=
    full_of_worker_step hguard hw rfl rfl (full_of_guard hguard hw).symm
  have holdest : State.oldest { s with
      handoff := some ⟨full, s.buffer.generation, i⟩
      workers := s.workers.set i (.awaiting e full .pending) } = s.oldest := by
    simp only [State.oldest, hfull]
  constructor
  · rw [hfull]
    exact inv.full
  · intro h hh
    cases hh
    exact ⟨hguard, ⟨e, by simp [hlt]⟩, rfl⟩
  · intro slot h hf
    exact (hlocking slot h hf).elim
  · rw [holdest]
    exact inv.target
  · rw [holdest]
    exact inv.empty

lemma Rendezvous.worker {i : Nat} (inv : Rendezvous s) (hlocked : Locked s)
    (horder : EndsInOrder s) (h : WorkerMoves plan s i s' events) : Rendezvous s' := by
  cases h with
  | takeGuard e hw hfree =>
    have hlt := (List.getElem?_eq_some_iff.mp hw).1
    refine inv.keep ?_ rfl id rfl rfl ?_
    · rw [full_of_free hfree]
      exact full_of_guard (i := i) (w := .measuring e) rfl (by simp [hlt])
    · intro h hu
      exact (not_unanswered_of_free hfree h hu).elim
  | push e hw _ =>
    have hguard := hlocked.guard_worker hw rfl
    have hfull : s.full? = none := full_of_guard hguard hw
    refine inv.keep hfull.symm rfl ?_ rfl rfl ?_
    · rw [oldest_of_none hfull]
      intro hempty
      exact (s.buffer.contents_push_backup e).trans hempty
    · intro h hu
      exact (not_unanswered_of_worker hguard hw (by simp) h hu).elim
  | swap e hw _ _ => exact inv.worker_swaps hlocked hw
  | refused e full hw hgone =>
    exact inv.worker_refused hlocked hw (horder.refused hw (by simp) hgone)
  | handOver e full hw _ _ => exact inv.worker_hands_over hlocked hw
  | takeReceiver hw _ => exact inv.worker_keep hw (by simp) rfl rfl rfl rfl rfl rfl
  | receive e queue hw _ => exact inv.worker_keep hw (by simp) rfl rfl rfl rfl rfl rfl
  | stop hw _ _ => exact inv.worker_keep hw (by simp) rfl rfl rfl rfl rfl rfl
  | redact e hw => exact inv.worker_keep hw (by simp) rfl rfl rfl rfl rfl rfl
  | keep e hw _ _ => exact inv.worker_keep hw (by simp) rfl rfl rfl rfl rfl rfl
  | look e full hw _ => exact inv.worker_keep hw (by simp) rfl rfl rfl rfl rfl rfl
  | received e full hw => exact inv.worker_keep hw (by simp) rfl rfl rfl rfl rfl rfl
  | dropped e full hw => exact inv.worker_keep hw (by simp) rfl rfl rfl rfl rfl rfl

/-! ### The flusher -/

lemma State.Unanswered.same {h : Handoff} (hu : s.Unanswered h) (hguard : s'.guard = s.guard)
    (hworkers : s'.workers = s.workers)
    (hgeneration : s'.buffer.generation = s.buffer.generation) : s'.Unanswered h := by
  refine ⟨hguard.trans hu.guard, ?_, by rw [hgeneration, hu.generation]⟩
  rw [hworkers]
  exact hu.sender

/-- After its answer the sender of a handoff is no longer about to hand a slot over. -/
lemma full_of_told {h : Handoff} {ack : Ack} (hu : s.Unanswered h) (hack : ack ≠ .pending)
    (hguard : s'.guard = s.guard) (hworkers : s'.workers = tellSender h ack s.workers) :
    s'.full? = none := by
  obtain ⟨e, hw⟩ := hu.sender
  have htold : s'.workers[h.sender]? = some (.awaiting e h.slot ack) := by
    rw [hworkers, getElem?_tellSender, hw]
    simp [Worker.hear]
  rw [full_of_guard (hguard.trans hu.guard) htold]
  cases ack with
  | pending => exact (hack rfl).elim
  | received => rfl
  | dropped => rfl

/-- Before the flusher has a slot that was handed over to it, the other slot is empty. -/
lemma Rendezvous.handed {slot : Slot} {h : Handoff} (inv : Rendezvous s)
    (hf : s.flusher = .locking slot (.handoff h)) :
    slot = s.buffer.backup ∧ s.Unanswered h ∧ s.buffer.contents s.buffer.active = [] := by
  obtain ⟨hslot, -, hu⟩ := inv.taken slot h hf
  have hempty := inv.empty (by rw [hf]; rfl) (by simp [hf])
  rw [oldest_of_some hu.full] at hempty
  exact ⟨hslot.trans (inv.full h.slot hu.full), hu, hempty⟩

/-- The flusher may change its target as long as nothing is handed over. -/
lemma Rendezvous.flusher_goes_on (inv : Rendezvous s) (hlocked : Locked s)
    (hholds : s.flusher.holding.guard = false) (hguard : s'.guard = s.guard)
    (hworkers : s'.workers = s.workers) (hactive : s'.buffer.active = s.buffer.active)
    (hgeneration : s'.buffer.generation = s.buffer.generation)
    (hhandoff : s'.handoff = s.handoff)
    (hlocking : ∀ slot h, s'.flusher ≠ .locking slot (.handoff h))
    (htarget : ∀ slot, s'.flusher.target? = some slot → slot = s.oldest)
    (hempty : s'.flusher.target? = none → s'.buffer.contents s.oldest = []) : Rendezvous s' := by
  have hfull := full_without_flusher (hlocked.guard_ne_flusher hholds) hguard hworkers
  have holdest := oldest_eq hfull hactive
  constructor
  · rw [hfull]
    intro slot hslot
    rw [inv.full slot hslot]
    unfold DoubleBuffer.backup
    rw [hactive]
  · rw [hhandoff]
    intro h hh
    exact (inv.offered h hh).same hguard hworkers hgeneration
  · intro slot h hf
    exact (hlocking slot h hf).elim
  · rw [holdest]
    exact htarget
  · rw [holdest]
    intro hnone _
    exact hempty hnone

/-- Nothing is handed over when the stop signal has come. -/
lemma Rendezvous.no_handoff_left (inv : Rendezvous s) (horder : EndsInOrder s)
    (hsignal : s.stopSignal = true) : s.handoff = none := by
  cases hh : s.handoff with
  | none => rfl
  | some h =>
    obtain ⟨e, hw⟩ := (inv.offered h hh).sender
    have hstopped := horder.signal hsignal _ (List.mem_of_getElem? hw)
    cases hstopped

/-- A flusher that keeps its target goes on writing, with nothing handed over. -/
lemma Rendezvous.writes_on {slot : Slot} {phase : Phase} (inv : Rendezvous s) (hlocked : Locked s)
    (hholds : s.flusher.holding.guard = false) (htarget : s.flusher.target? = some slot)
    (hguard : s'.guard = s.guard) (hworkers : s'.workers = s.workers)
    (hbuffer : s'.buffer = s.buffer) (hhandoff : s'.handoff = s.handoff)
    (hflusher : s'.flusher = .writing slot phase) : Rendezvous s' := by
  refine inv.flusher_goes_on hlocked hholds hguard hworkers (by rw [hbuffer]) (by rw [hbuffer])
    hhandoff (by simp [hflusher]) ?_ ?_
  · intro other hother
    rw [hflusher] at hother
    cases hother
    exact inv.target slot htarget
  · intro hnone
    rw [hflusher] at hnone
    cases hnone

/-- A flusher comes to rest when its target is empty. -/
lemma Rendezvous.rests {slot : Slot} (inv : Rendezvous s) (hlocked : Locked s)
    (hholds : s.flusher.holding.guard = false) (htarget : s.flusher.target? = some slot)
    (hguard : s'.guard = s.guard) (hworkers : s'.workers = s.workers)
    (hactive : s'.buffer.active = s.buffer.active)
    (hgeneration : s'.buffer.generation = s.buffer.generation)
    (hhandoff : s'.handoff = s.handoff) (hflusher : s'.flusher = .idle)
    (hempty : s'.buffer.contents slot = []) : Rendezvous s' := by
  refine inv.flusher_goes_on hlocked hholds hguard hworkers hactive hgeneration hhandoff
    (by simp [hflusher]) ?_ ?_
  · intro other hother
    rw [hflusher] at hother
    cases hother
  · intro _
    rw [← inv.target slot htarget]
    exact hempty

/-- The flusher takes a handoff out of the channel; its sender goes on waiting. -/
lemma Rendezvous.takeHandoff {h : Handoff} (inv : Rendezvous s) (hlocked : Locked s)
    (hf : s.flusher = .idle) (hhandoff : s.handoff = some h) :
    Rendezvous { s with handoff := none, flusher := .locking h.slot (.handoff h) } := by
  have hu := inv.offered h hhandoff
  have hempty := inv.empty (by rw [hf]; rfl) (by simp [hf])
  have hholds : s.flusher.holding.guard = false := by rw [hf]; rfl
  have hfull : State.full? { s with
      handoff := none
      flusher := .locking h.slot (.handoff h) } = s.full? :=
    full_without_flusher (hlocked.guard_ne_flusher hholds) rfl rfl
  have holdest : State.oldest { s with
      handoff := none
      flusher := .locking h.slot (.handoff h) } = s.oldest := oldest_eq hfull rfl
  constructor
  · rw [hfull]
    exact inv.full
  · intro h hh
    cases hh
  · intro slot h hf
    cases hf
    exact ⟨rfl, rfl, hu.same rfl rfl rfl⟩
  · intro slot hslot
    cases hslot
  · rw [holdest]
    intro _ _
    exact hempty

/-- With the slot that was handed over the flusher answers its sender: from then on nothing is
swapped out, and the slot is the backup slot, which the flusher writes unless it is empty. -/
lemma Rendezvous.answers {slot : Slot} {h : Handoff} (inv : Rendezvous s)
    (hf : s.flusher = .locking slot (.handoff h)) (hguard : s'.guard = s.guard)
    (hworkers : s'.workers = tellSender h .received s.workers) (hbuffer : s'.buffer = s.buffer)
    (hhandoff : s'.handoff = s.handoff)
    (hflusher : (∃ phase, s'.flusher = .writing slot phase) ∨
      s'.flusher = .idle ∧ s.buffer.contents slot = []) : Rendezvous s' := by
  obtain ⟨hslot, hu, -⟩ := inv.handed hf
  have hfull : s'.full? = none := full_of_told hu (by simp) hguard hworkers
  have holdest : s'.oldest = slot := by rw [oldest_of_none hfull, hbuffer, hslot]
  refine .of_no_handoff ?_ (hhandoff.trans (inv.taken slot h hf).2.1) ?_ ?_ ?_
  · intro other hother
    rw [hfull] at hother
    cases hother
  · rcases hflusher with ⟨phase, hflusher⟩ | ⟨hflusher, -⟩ <;> simp [hflusher]
  · intro other hother
    rw [holdest]
    rcases hflusher with ⟨phase, hflusher⟩ | ⟨hflusher, -⟩ <;> rw [hflusher] at hother <;>
      cases hother
    rfl
  · intro hnone _
    rw [holdest, hbuffer]
    rcases hflusher with ⟨phase, hflusher⟩ | ⟨-, hempty⟩
    · rw [hflusher] at hnone
      cases hnone
    · exact hempty

/-- After a tick the flusher has the guard: nothing is handed over, and the backup slot is empty. -/
lemma Rendezvous.ticked (inv : Rendezvous s) (hlocked : Locked s) (hf : s.flusher = .measuring) :
    s.guard = some .flusher ∧ s.handoff = none ∧ s.buffer.contents s.buffer.backup = [] := by
  have hguard := hlocked.guard_flusher (by rw [hf]; rfl)
  have hfull : s.full? = none := (full_of_flusher hguard).trans (by rw [hf]; rfl)
  have hempty := inv.empty (by rw [hf]; rfl) (by simp [hf])
  rw [oldest_of_none hfull] at hempty
  exact ⟨hguard, (inv.no_handoff (not_unanswered_of_guard hguard (by simp))).1, hempty⟩

lemma Rendezvous.flusher_swaps (inv : Rendezvous s) (hlocked : Locked s)
    (hf : s.flusher = .measuring) :
    Rendezvous { s with buffer := s.buffer.swap, flusher := .swapping s.buffer.active } := by
  obtain ⟨hguard, hhandoff, hempty⟩ := inv.ticked hlocked hf
  have hfull : State.full? { s with
      buffer := s.buffer.swap
      flusher := .swapping s.buffer.active } = some s.buffer.active := full_of_flusher hguard
  refine .of_no_handoff ?_ hhandoff (by simp) ?_ ?_
  · intro slot hslot
    rw [hfull] at hslot
    cases hslot
    simp
  · intro slot hslot
    cases hslot
  · intro _ _
    rw [oldest_of_some hfull]
    exact hempty

/-- A flusher that fails drops the handoff under way. Its sender is told, and then has nothing to
hand over any more. -/
lemma Rendezvous.fails (inv : Rendezvous s) (hlocked : Locked s)
    (hholds : s.flusher.holding.guard = false) (hguard : s'.guard = s.guard)
    (hworkers : s'.workers = tellDropped s.handoff s.workers) (hbuffer : s'.buffer = s.buffer)
    (hhandoff : s'.handoff = none) (hflusher : s'.flusher = .failed) : Rendezvous s' := by
  have hfull : s'.full? = none ∨ s'.full? = s.full? := by
    cases hh : s.handoff with
    | none =>
      rw [hh] at hworkers
      exact .inr (full_without_flusher (hlocked.guard_ne_flusher hholds) hguard hworkers)
    | some h =>
      rw [hh] at hworkers
      exact .inl (full_of_told (inv.offered h hh) (by simp) hguard hworkers)
  refine .of_no_handoff ?_ hhandoff (by simp [hflusher]) ?_ ?_
  · intro other hother
    rw [hbuffer]
    rcases hfull with hfull | hfull
    · rw [hfull] at hother
      cases hother
    · rw [hfull] at hother
      exact inv.full other hother
  · intro other hother
    rw [hflusher] at hother
    cases hother
  · intro _ hne
    exact (hne hflusher).elim

lemma Rendezvous.flusher (inv : Rendezvous s) (hlocked : Locked s) (horder : EndsInOrder s)
    (h : FlusherMoves plan s m s' events) : Rendezvous s' := by
  cases h with
  | tick hf hfree =>
    obtain ⟨hhandoff, -⟩ := inv.no_handoff (not_unanswered_of_free hfree)
    have hempty := inv.empty (by rw [hf]; rfl) (by simp [hf])
    rw [oldest_of_none (full_of_free hfree)] at hempty
    exact .of_no_handoff nofun hhandoff (by simp) nofun fun _ _ => hempty
  | skipTick _ _ => exact inv
  | takeHandoff h hf hhandoff => exact inv.takeHandoff hlocked hf hhandoff
  | beginHandoff slot h hf _ _ => exact inv.answers hf rfl rfl rfl rfl (.inl ⟨_, rfl⟩)
  | emptyHandoff slot h hf _ hempty => exact inv.answers hf rfl rfl rfl rfl (.inr ⟨rfl, hempty⟩)
  | beginTimer slot hf _ _ =>
    exact inv.writes_on hlocked (by rw [hf]; rfl) (by rw [hf]; rfl) rfl rfl rfl rfl rfl
  | emptyTimer slot hf _ hempty =>
    exact inv.rests hlocked (by rw [hf]; rfl) (by rw [hf]; rfl) rfl rfl rfl rfl rfl rfl hempty
  | keep hf _ _ =>
    obtain ⟨-, hhandoff, hempty⟩ := inv.ticked hlocked hf
    exact .of_no_handoff nofun hhandoff (by simp) nofun fun _ _ => hempty
  | swap hf _ _ => exact inv.flusher_swaps hlocked hf
  | look full hf _ =>
    have hguard := hlocked.guard_flusher (by rw [hf]; rfl)
    obtain ⟨hhandoff, -⟩ := inv.no_handoff (not_unanswered_of_guard hguard (by simp))
    have hfull : full = s.buffer.backup :=
      inv.full full ((full_of_flusher hguard).trans (by rw [hf]; rfl))
    refine .of_no_handoff nofun hhandoff (by simp) ?_ nofun
    intro slot hslot
    cases hslot
    exact hfull
  | stop hf hsignal =>
    have hhandoff := inv.no_handoff_left horder hsignal
    have hworkers : tellDropped s.handoff s.workers = s.workers := by rw [hhandoff]; rfl
    have hempty := inv.empty (by rw [hf]; rfl) (by simp [hf])
    exact inv.flusher_goes_on hlocked (by rw [hf]; rfl) rfl hworkers rfl rfl hhandoff.symm
      (by simp) nofun fun _ => hempty
  | finish slot a r stored hf _ =>
    exact inv.rests hlocked (by rw [hf]; rfl) (by rw [hf]; rfl) rfl rfl rfl rfl rfl rfl
      (s.buffer.contents_clear_self slot)
  | retry slot a r delay hf _ =>
    exact inv.writes_on hlocked (by rw [hf]; rfl) (by rw [hf]; rfl) rfl rfl rfl rfl rfl
  | fail slot a r hf _ => exact inv.fails hlocked (by rw [hf]; rfl) rfl rfl rfl rfl rfl
  | wake slot a hf =>
    exact inv.writes_on hlocked (by rw [hf]; rfl) (by rw [hf]; rfl) rfl rfl rfl rfl rfl

/-! ### Shutdown calls -/

/-- A step of a call that neither holds nor takes the guard changes nothing that the others rely
on. -/
lemma Rendezvous.call_goes_on (inv : Rendezvous s) (hguard : s'.guard = s.guard)
    (hworkers : s'.workers = s.workers) (hbuffer : s'.buffer = s.buffer)
    (hhandoff : s'.handoff = s.handoff) (hflusher : s'.flusher = s.flusher) : Rendezvous s' := by
  apply inv.keep
  · unfold State.full?
    rw [hguard, hworkers, hflusher]
  · rw [hbuffer]
  · rw [hbuffer]
    exact id
  · exact hhandoff
  · exact hflusher
  · intro h hu
    exact hu.same hguard hworkers (by rw [hbuffer])

/-- While a call has the guard, or nobody has, nothing is swapped out or handed over. -/
lemma Rendezvous.call_drains (inv : Rendezvous s)
    (hguard : s.guard = none ∨ ∃ k, s.guard = some (.shutdown k))
    (hguard' : s'.guard = none ∨ ∃ k, s'.guard = some (.shutdown k))
    (hactive : s'.buffer.active = s.buffer.active)
    (hcleared : ∀ slot, s.buffer.contents slot = [] → s'.buffer.contents slot = [])
    (hhandoff : s'.handoff = s.handoff) (hflusher : s'.flusher = s.flusher) : Rendezvous s' := by
  have hnone : ∀ {s : State ε}, (s.guard = none ∨ ∃ k, s.guard = some (.shutdown k)) →
      s.full? = none := by
    intro s hguard
    rcases hguard with hguard | ⟨k, hguard⟩
    · exact full_of_free hguard
    · exact full_of_call hguard
  apply inv.keep
  · rw [hnone hguard, hnone hguard']
  · exact hactive
  · exact hcleared s.oldest
  · exact hhandoff
  · exact hflusher
  · intro h hu
    rcases hguard with hguard | ⟨k, hguard⟩
    · exact (not_unanswered_of_free hguard h hu).elim
    · exact (not_unanswered_of_guard hguard (by simp) h hu).elim

lemma Rendezvous.shutdown {k : Nat} (inv : Rendezvous s) (hlocked : Locked s)
    (h : ShutdownMoves plan s k m s' events) : Rendezvous s' := by
  cases h with
  | takeGuard hc hfree =>
    exact inv.call_drains (.inl hfree) (.inr ⟨k, rfl⟩) rfl (fun _ hempty => hempty) rfl rfl
  | done drained hc =>
    exact inv.call_drains (.inr ⟨k, hlocked.guard_shutdown hc rfl⟩) (.inl rfl) rfl
      (fun _ hempty => hempty) rfl rfl
  | finish slot a slots drained r stored hc _ =>
    have hguard := hlocked.guard_shutdown hc rfl
    refine inv.call_drains (.inr ⟨k, hguard⟩) (.inr ⟨k, hguard⟩) rfl ?_ rfl rfl
    intro other hempty
    rw [DoubleBuffer.contents_clear, hempty, ite_self]
  | fail slot a slots drained r hc _ =>
    exact inv.call_drains (.inr ⟨k, hlocked.guard_shutdown hc rfl⟩) (.inl rfl) rfl
      (fun _ hempty => hempty) rfl rfl
  | _ => exact inv.call_goes_on rfl rfl rfl rfl rfl

lemma Rendezvous.transition (inv : Rendezvous s) (hlocked : Locked s) (horder : EndsInOrder s)
    (h : Transition plan s m s' events) : Rendezvous s' := by
  cases h with
  | send hoffered => cases hoffered <;> exact inv.call_goes_on rfl rfl rfl rfl rfl
  | callShutdown => exact inv.call_goes_on rfl rfl rfl rfl rfl
  | worker hworker => exact inv.worker hlocked horder hworker
  | flusher hflusher => exact inv.flusher hlocked horder hflusher
  | shutdown hshutdown => exact inv.shutdown hlocked hshutdown

end Steps

lemma rendezvous_start (plan : Plan ε) : Rendezvous (State.start plan) := by
  refine .of_no_handoff ?_ rfl (by simp [State.start]) ?_ ?_
  · intro slot hslot
    cases hslot
  · intro slot hslot
    cases hslot
  · intro _ _
    rfl

theorem Run.rendezvous {plan : Plan ε} {s : State ε} {history : List (Event ε)}
    (run : Run plan s history) : Rendezvous s := by
  induction run with
  | start => exact rendezvous_start plan
  | step m run hstep inv =>
    exact inv.transition run.locked run.endsInOrder (step_transition hstep)

end AuditTrail.Pipeline
