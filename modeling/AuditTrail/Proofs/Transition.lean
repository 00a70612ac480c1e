import AuditTrail.Pipeline.Step
import Mathlib.Tactic.Common

/-!
# The transitions of a pipeline

`step` is a function that looks up the task of a move and how far it has come. Here its possible
outcomes are listed one by one, task by task: each constructor is one transition, with what must
hold before it and the state after it. `step_transition` says that `step` takes no others, so a
property of all runs is proved by going through the transitions of the tasks, and
`Transition.step` says that it takes each of them, so where a transition fits no task is stuck.
-/

namespace AuditTrail.Pipeline

variable {ε : Type}

/-- What a worker makes of an answer to its handoff; a worker that awaits none hears nothing. -/
def Worker.hear (ack : Ack) : Worker ε → Worker ε
  | .awaiting e full _ => .awaiting e full ack
  | w => w

/-- The workers after the sender of a handoff has been told what became of it. -/
def tellSender (h : Handoff) (ack : Ack) (workers : List (Worker ε)) : List (Worker ε) :=
  workers.modify h.sender (Worker.hear ack)

/-- The workers after a handoff that may be in the channel has been dropped. -/
def tellDropped (handoff : Option Handoff) (workers : List (Worker ε)) : List (Worker ε) :=
  match handoff with
  | some h => tellSender h .dropped workers
  | none => workers

lemma getElem?_tellSender (h : Handoff) (ack : Ack) (workers : List (Worker ε)) (i : Nat) :
    (tellSender h ack workers)[i]? =
      if h.sender = i then (workers[i]?).map (Worker.hear ack) else workers[i]? := by
  unfold tellSender
  rw [List.getElem?_modify]
  split <;> simp

/-- What does not depend on an answer is the same for all workers before and after it. -/
lemma map_tellSender {β : Type} {f : Worker ε → β} (hf : ∀ (w : Worker ε) ack, f (w.hear ack) = f w)
    (h : Handoff) (ack : Ack) (workers : List (Worker ε)) :
    (tellSender h ack workers).map f = workers.map f := by
  apply List.ext_getElem?
  intro i
  rw [List.getElem?_map, getElem?_tellSender, List.getElem?_map]
  split
  · cases workers[i]? <;> simp [hf]
  · rfl

lemma map_tellDropped {β : Type} {f : Worker ε → β}
    (hf : ∀ (w : Worker ε) ack, f (w.hear ack) = f w)
    (handoff : Option Handoff) (workers : List (Worker ε)) :
    (tellDropped handoff workers).map f = workers.map f := by
  unfold tellDropped
  split
  · exact map_tellSender hf _ _ _
  · rfl

namespace State

lemma acknowledge_eq (s : State ε) (h : Handoff) (ack : Ack) :
    s.acknowledge h ack = { s with workers := tellSender h ack s.workers } := by
  have hworkers : (s.acknowledge h ack).workers = tellSender h ack s.workers := by
    apply List.ext_getElem?
    intro i
    rw [getElem?_tellSender]
    unfold acknowledge
    by_cases hi : h.sender = i
    · subst hi
      rw [if_pos rfl]
      split
      · next e full old hw =>
        have hlt := (List.getElem?_eq_some_iff.mp hw).1
        rw [hw]
        simp [setWorker, hlt, Worker.hear]
      · next hne =>
        cases hw : s.workers[h.sender]? with
        | none => rfl
        | some w =>
          cases w with
          | awaiting e full old => exact (hne e full old hw).elim
          | _ => rfl
    · rw [if_neg hi]
      split
      · simp [setWorker, hi]
      · rfl
  rw [← hworkers]
  unfold acknowledge
  split <;> rfl

lemma dropHandoff_eq (s : State ε) :
    s.dropHandoff = { s with handoff := none, workers := tellDropped s.handoff s.workers } := by
  unfold dropHandoff tellDropped
  cases hs : s.handoff with
  | none =>
    cases s
    cases hs
    rfl
  | some h => exact acknowledge_eq { s with handoff := none } h .dropped

end State

/-- What an offer of an entry can lead to. -/
inductive Offered (plan : Plan ε) (s : State ε) (e : ε) : State ε → List (Event ε) → Prop where
  | accepted : s.isOpen = true → s.queue.length < plan.queueSize →
      Offered plan s e { s with queue := s.queue ++ [e] } [.accepted e]
  | full : s.isOpen = true → plan.queueSize ≤ s.queue.length →
      Offered plan s e s [.rejectedFull e]
  | closed : s.isOpen = false → Offered plan s e s [.rejectedClosed e]

/-- The transitions of worker `i`, in the order in which it goes through them. -/
inductive WorkerMoves (plan : Plan ε) (s : State ε) (i : Nat) :
    State ε → List (Event ε) → Prop where
  | takeReceiver : s.workers[i]? = some .waiting → s.receiver = none →
      WorkerMoves plan s i
        { s with receiver := some i, workers := s.workers.set i .receiving } []
  | receive (e : ε) (queue : List ε) : s.workers[i]? = some .receiving → s.queue = e :: queue →
      WorkerMoves plan s i
        { s with queue, receiver := none, workers := s.workers.set i (.carrying e) }
        [.received i e]
  | stop : s.workers[i]? = some .receiving → s.queue = [] → s.isOpen = false →
      WorkerMoves plan s i
        { s with receiver := none, workers := s.workers.set i .stopped } [.workerStopped i]
  | redact (e : ε) : s.workers[i]? = some (.carrying e) →
      WorkerMoves plan s i
        { s with workers := s.workers.set i (.ready (plan.redact e)) } []
  | takeGuard (e : ε) : s.workers[i]? = some (.ready e) → s.guard = none →
      WorkerMoves plan s i
        { s with guard := some (.worker i), workers := s.workers.set i (.measuring e) } []
  | swap (e : ε) : s.workers[i]? = some (.measuring e) →
      s.slotLocks.get s.buffer.active = none → plan.threshold < s.buffer.activeLength →
      WorkerMoves plan s i
        { s with
          buffer := s.buffer.swap
          workers := s.workers.set i (.swapping e s.buffer.active) }
        [.bufferFull s.buffer.activeLength]
  | keep (e : ε) : s.workers[i]? = some (.measuring e) →
      s.slotLocks.get s.buffer.active = none → s.buffer.activeLength ≤ plan.threshold →
      WorkerMoves plan s i { s with workers := s.workers.set i (.pushing e) } []
  | look (e : ε) (full : Slot) : s.workers[i]? = some (.swapping e full) →
      s.slotLocks.get s.buffer.active = none →
      WorkerMoves plan s i { s with workers := s.workers.set i (.handing e full) }
        [.swapped s.buffer.activeLength]
  | refused (e : ε) (full : Slot) : s.workers[i]? = some (.handing e full) →
      s.flusher.isGone = true →
      WorkerMoves plan s i { s with workers := s.workers.set i (.pushing e) }
        [.handoffFailed full]
  | handOver (e : ε) (full : Slot) : s.workers[i]? = some (.handing e full) →
      s.flusher.isGone = false → s.handoff = none →
      WorkerMoves plan s i
        { s with
          handoff := some ⟨full, s.buffer.generation, i⟩
          workers := s.workers.set i (.awaiting e full .pending) } []
  | received (e : ε) (full : Slot) : s.workers[i]? = some (.awaiting e full .received) →
      WorkerMoves plan s i { s with workers := s.workers.set i (.pushing e) } []
  | dropped (e : ε) (full : Slot) : s.workers[i]? = some (.awaiting e full .dropped) →
      WorkerMoves plan s i { s with workers := s.workers.set i (.pushing e) }
        [.handoffFailed full]
  | push (e : ε) : s.workers[i]? = some (.pushing e) →
      s.slotLocks.get s.buffer.active = none →
      WorkerMoves plan s i
        { s with
          buffer := s.buffer.push e
          guard := none
          workers := s.workers.set i .waiting }
        [.pushed e s.buffer.generation]

/-- The transitions of the flusher: those of its own, the ticks, the stop signal, and what the
sink and the pauses bring. -/
inductive FlusherMoves (plan : Plan ε) (s : State ε) :
    Move ε → State ε → List (Event ε) → Prop where
  | tick : s.flusher = .idle → s.guard = none →
      FlusherMoves plan s .tick { s with guard := some .flusher, flusher := .measuring } []
  | skipTick : s.flusher = .idle → s.guard ≠ none →
      FlusherMoves plan s .tick s [.tickSkipped]
  | takeHandoff (h : Handoff) : s.flusher = .idle → s.handoff = some h →
      FlusherMoves plan s .flusher
        { s with handoff := none, flusher := .locking h.slot (.handoff h) } [.handoffTaken h]
  | beginHandoff (slot : Slot) (h : Handoff) : s.flusher = .locking slot (.handoff h) →
      s.slotLocks.get slot = none → s.buffer.contents slot ≠ [] →
      FlusherMoves plan s .flusher
        { s with
          workers := tellSender h .received s.workers
          slotLocks := s.slotLocks.set slot (some .flusher)
          flusher := .writing slot (.calling plan.retry.first) }
        [.batch .flusher (some h) slot (s.buffer.contents slot),
          .called .flusher plan.retry.first (s.buffer.contents slot)]
  | emptyHandoff (slot : Slot) (h : Handoff) : s.flusher = .locking slot (.handoff h) →
      s.slotLocks.get slot = none → s.buffer.contents slot = [] →
      FlusherMoves plan s .flusher
        { s with workers := tellSender h .received s.workers, flusher := .idle } []
  | beginTimer (slot : Slot) : s.flusher = .locking slot .timer →
      s.slotLocks.get slot = none → s.buffer.contents slot ≠ [] →
      FlusherMoves plan s .flusher
        { s with
          slotLocks := s.slotLocks.set slot (some .flusher)
          flusher := .writing slot (.calling plan.retry.first) }
        [.batch .flusher none slot (s.buffer.contents slot),
          .called .flusher plan.retry.first (s.buffer.contents slot)]
  | emptyTimer (slot : Slot) : s.flusher = .locking slot .timer →
      s.slotLocks.get slot = none → s.buffer.contents slot = [] →
      FlusherMoves plan s .flusher { s with flusher := .idle } []
  | keep : s.flusher = .measuring → s.slotLocks.get s.buffer.active = none →
      s.buffer.activeLength = 0 →
      FlusherMoves plan s .flusher { s with guard := none, flusher := .idle } []
  | swap : s.flusher = .measuring → s.slotLocks.get s.buffer.active = none →
      s.buffer.activeLength ≠ 0 →
      FlusherMoves plan s .flusher
        { s with buffer := s.buffer.swap, flusher := .swapping s.buffer.active } []
  | look (full : Slot) : s.flusher = .swapping full →
      s.slotLocks.get s.buffer.active = none →
      FlusherMoves plan s .flusher
        { s with guard := none, flusher := .locking full .timer }
        [.swapped s.buffer.activeLength]
  | stop : s.flusher = .idle → s.stopSignal = true →
      FlusherMoves plan s .stopFlusher
        { s with
          flusher := .stopped
          handoff := none
          workers := tellDropped s.handoff s.workers } [.flusherStopped]
  | finish (slot : Slot) (a : Attempt) (r : Reply) (stored : Bool) :
      s.flusher = .writing slot (.calling a) →
      State.verdict plan.retry a r = .finished stored →
      FlusherMoves plan s (.reply .flusher r)
        { s with
          buffer := s.buffer.clear slot
          slotLocks := s.slotLocks.set slot none
          flusher := .idle }
        [.replied .flusher a (s.buffer.contents slot) r,
          .finished .flusher slot (s.buffer.contents slot) stored]
  | retry (slot : Slot) (a : Attempt) (r : Reply) (delay : Duration) :
      s.flusher = .writing slot (.calling a) →
      State.verdict plan.retry a r = .again delay →
      FlusherMoves plan s (.reply .flusher r) { s with flusher := .writing slot (.pausing a) }
        [.replied .flusher a (s.buffer.contents slot) r, .paused .flusher delay]
  | fail (slot : Slot) (a : Attempt) (r : Reply) : s.flusher = .writing slot (.calling a) →
      State.verdict plan.retry a r = .broken →
      FlusherMoves plan s (.reply .flusher r)
        { s with
          flusher := .failed
          slotLocks := s.slotLocks.set slot none
          handoff := none
          workers := tellDropped s.handoff s.workers }
        [.replied .flusher a (s.buffer.contents slot) r, .flusherFailed]
  | wake (slot : Slot) (a : Attempt) : s.flusher = .writing slot (.pausing a) →
      FlusherMoves plan s (.wake .flusher)
        { s with flusher := .writing slot (.calling a.next) }
        [.called .flusher a.next (s.buffer.contents slot)]

/-- The transitions of shutdown call `k`: its own, and what the sink and the pauses bring. -/
inductive ShutdownMoves (plan : Plan ε) (s : State ε) (k : Nat) :
    Move ε → State ε → List (Event ε) → Prop where
  | close : s.calls[k]? = some .closing →
      ShutdownMoves plan s k (.shutdown k)
        { s with isOpen := false, calls := s.calls.set k .claiming } []
  | late : s.calls[k]? = some .claiming → s.tasksTaken = true →
      ShutdownMoves plan s k (.shutdown k)
        { s with calls := s.calls.set k (.returned none) } [.shutdownReturned k none]
  | claim : s.calls[k]? = some .claiming → s.tasksTaken = false →
      ShutdownMoves plan s k (.shutdown k)
        { s with tasksTaken := true, calls := s.calls.set k .joining } []
  | join : s.calls[k]? = some .joining → s.workersDone = true →
      ShutdownMoves plan s k (.shutdown k)
        { s with stopSignal := true, calls := s.calls.set k .stopping } []
  | flusherStopped : s.calls[k]? = some .stopping → s.flusher = .stopped →
      ShutdownMoves plan s k (.shutdown k) { s with calls := s.calls.set k .locking } []
  | flusherFailed : s.calls[k]? = some .stopping → s.flusher = .failed →
      ShutdownMoves plan s k (.shutdown k) { s with calls := s.calls.set k .locking }
        [.failureNoticed]
  | takeGuard : s.calls[k]? = some .locking → s.guard = none →
      ShutdownMoves plan s k (.shutdown k)
        { s with
          guard := some (.shutdown k)
          calls := s.calls.set k (.draining [s.buffer.backup, s.buffer.active] 0) } []
  | done (drained : Nat) : s.calls[k]? = some (.draining [] drained) →
      ShutdownMoves plan s k (.shutdown k)
        { s with guard := none, calls := s.calls.set k (.returned (some drained)) }
        [.shutdownReturned k (some drained)]
  | skip (slot : Slot) (slots : List Slot) (drained : Nat) :
      s.calls[k]? = some (.draining (slot :: slots) drained) →
      s.slotLocks.get slot = none → s.buffer.contents slot = [] →
      ShutdownMoves plan s k (.shutdown k)
        { s with calls := s.calls.set k (.draining slots drained) } []
  | begin (slot : Slot) (slots : List Slot) (drained : Nat) :
      s.calls[k]? = some (.draining (slot :: slots) drained) →
      s.slotLocks.get slot = none → s.buffer.contents slot ≠ [] →
      ShutdownMoves plan s k (.shutdown k)
        { s with
          slotLocks := s.slotLocks.set slot (some (.shutdown k))
          calls := s.calls.set k (.writing slot (.calling plan.retry.first) slots
            (drained + (s.buffer.contents slot).length)) }
        [.batch (.shutdown k) none slot (s.buffer.contents slot),
          .called (.shutdown k) plan.retry.first (s.buffer.contents slot)]
  | finish (slot : Slot) (a : Attempt) (slots : List Slot) (drained : Nat) (r : Reply)
      (stored : Bool) : s.calls[k]? = some (.writing slot (.calling a) slots drained) →
      State.verdict plan.retry a r = .finished stored →
      ShutdownMoves plan s k (.reply (.shutdown k) r)
        { s with
          buffer := s.buffer.clear slot
          slotLocks := s.slotLocks.set slot none
          calls := s.calls.set k (.draining slots drained) }
        [.replied (.shutdown k) a (s.buffer.contents slot) r,
          .finished (.shutdown k) slot (s.buffer.contents slot) stored]
  | retry (slot : Slot) (a : Attempt) (slots : List Slot) (drained : Nat) (r : Reply)
      (delay : Duration) : s.calls[k]? = some (.writing slot (.calling a) slots drained) →
      State.verdict plan.retry a r = .again delay →
      ShutdownMoves plan s k (.reply (.shutdown k) r)
        { s with calls := s.calls.set k (.writing slot (.pausing a) slots drained) }
        [.replied (.shutdown k) a (s.buffer.contents slot) r, .paused (.shutdown k) delay]
  | fail (slot : Slot) (a : Attempt) (slots : List Slot) (drained : Nat) (r : Reply) :
      s.calls[k]? = some (.writing slot (.calling a) slots drained) →
      State.verdict plan.retry a r = .broken →
      ShutdownMoves plan s k (.reply (.shutdown k) r)
        { s with
          guard := none
          slotLocks := s.slotLocks.set slot none
          calls := s.calls.set k .failed }
        [.replied (.shutdown k) a (s.buffer.contents slot) r]
  | wake (slot : Slot) (a : Attempt) (slots : List Slot) (drained : Nat) :
      s.calls[k]? = some (.writing slot (.pausing a) slots drained) →
      ShutdownMoves plan s k (.wake (.shutdown k))
        { s with calls := s.calls.set k (.writing slot (.calling a.next) slots drained) }
        [.called (.shutdown k) a.next (s.buffer.contents slot)]

/-- All transitions, by the task that takes them. -/
inductive Transition (plan : Plan ε) (s : State ε) :
    Move ε → State ε → List (Event ε) → Prop where
  | send {e : ε} {s' : State ε} {events : List (Event ε)} :
      Offered plan s e s' events → Transition plan s (.send e) s' events
  | callShutdown : Transition plan s .callShutdown { s with calls := s.calls ++ [.closing] } []
  | worker {i : Nat} {s' : State ε} {events : List (Event ε)} :
      WorkerMoves plan s i s' events → Transition plan s (.worker i) s' events
  | flusher {m : Move ε} {s' : State ε} {events : List (Event ε)} :
      FlusherMoves plan s m s' events → Transition plan s m s' events
  | shutdown {k : Nat} {m : Move ε} {s' : State ε} {events : List (Event ε)} :
      ShutdownMoves plan s k m s' events → Transition plan s m s' events

section Inversion

variable {plan : Plan ε} {s s' : State ε} {events : List (Event ε)}

lemma send_offered {e : ε} (h : s.send plan e = (s', events)) : Offered plan s e s' events := by
  unfold State.send at h
  split at h
  · next hopen =>
    cases h
    exact .closed (by simpa using hopen)
  · next hopen =>
    have hopen : s.isOpen = true := by simpa using hopen
    split at h
    · next hroom =>
      cases h
      exact .accepted hopen hroom
    · next hroom =>
      cases h
      exact .full hopen (Nat.le_of_not_lt hroom)

lemma handOver_moves {i : Nat} {e : ε} {full : Slot}
    (hw : s.workers[i]? = some (.handing e full))
    (h : s.handOver i e full = some (s', events)) : WorkerMoves plan s i s' events := by
  unfold State.handOver at h
  split at h
  · next hgone =>
    cases h
    exact .refused e full hw hgone
  · next hgone =>
    split at h
    · cases h
    · next hfree =>
      cases h
      exact .handOver e full hw (by simpa using hgone) hfree

lemma workerStep_moves {i : Nat} (h : s.workerStep plan i = some (s', events)) :
    WorkerMoves plan s i s' events := by
  unfold State.workerStep State.isFree at h
  cases hw : s.workers[i]? with
  | none =>
    rw [hw] at h
    cases h
  | some w =>
    rw [hw] at h
    cases w with
    | waiting =>
      simp only at h
      split at h
      · next hfree =>
        cases h
        exact .takeReceiver hw hfree
      · cases h
    | receiving =>
      simp only at h
      split at h
      · next e queue hqueue =>
        cases h
        exact .receive e queue hw hqueue
      · next hqueue =>
        split at h
        · cases h
        · next hopen =>
          cases h
          exact .stop hw hqueue (by simpa using hopen)
    | carrying e =>
      cases h
      exact .redact e hw
    | ready e =>
      simp only at h
      split at h
      · next hguard =>
        cases h
        exact .takeGuard e hw hguard
      · cases h
    | measuring e =>
      simp only [Option.isNone_iff_eq_none] at h
      split at h
      · next hslot =>
        unfold State.measure at h
        simp only at h
        split at h
        · next hlarge =>
          cases h
          exact .swap e hw hslot hlarge
        · next hsmall =>
          cases h
          exact .keep e hw hslot (Nat.le_of_not_lt hsmall)
      · cases h
    | swapping e full =>
      simp only [Option.isNone_iff_eq_none] at h
      split at h
      · next hslot =>
        cases h
        exact .look e full hw hslot
      · cases h
    | handing e full => exact handOver_moves hw h
    | awaiting e full ack =>
      cases ack with
      | pending => cases h
      | received =>
        cases h
        exact .received e full hw
      | dropped =>
        cases h
        exact .dropped e full hw
    | pushing e =>
      simp only [Option.isNone_iff_eq_none] at h
      split at h
      · next hslot =>
        cases h
        exact .push e hw hslot
      · cases h
    | stopped => cases h

lemma tick_moves (h : s.tick = some (s', events)) :
    FlusherMoves plan s .tick s' events := by
  unfold State.tick at h
  split at h
  · next hidle =>
    split at h
    · next hguard =>
      cases h
      exact .tick hidle hguard
    · next hguard =>
      cases h
      exact .skipTick hidle hguard
  · cases h

lemma beginWrite_moves {slot : Slot} {origin : Origin} (hf : s.flusher = .locking slot origin)
    (hslot : s.slotLocks.get slot = none) (h : s.beginWrite plan slot origin = (s', events)) :
    FlusherMoves plan s .flusher s' events := by
  unfold State.beginWrite at h
  cases origin with
  | handoff handoff =>
    simp only [State.acknowledge_eq, List.isEmpty_iff] at h
    split at h
    · next hempty =>
      cases h
      exact .emptyHandoff slot handoff hf hslot hempty
    · next hfull =>
      cases h
      exact .beginHandoff slot handoff hf hslot hfull
  | timer =>
    simp only [List.isEmpty_iff] at h
    split at h
    · next hempty =>
      cases h
      exact .emptyTimer slot hf hslot hempty
    · next hfull =>
      cases h
      exact .beginTimer slot hf hslot hfull

lemma flusherStep_moves (h : s.flusherStep plan = some (s', events)) :
    FlusherMoves plan s .flusher s' events := by
  unfold State.flusherStep State.isFree at h
  cases hf : s.flusher with
  | idle =>
    simp only [hf] at h
    split at h
    · next handoff hhandoff =>
      cases h
      exact .takeHandoff handoff hf hhandoff
    · cases h
  | locking slot origin =>
    simp only [hf, Option.isNone_iff_eq_none, Option.ite_none_right_eq_some,
      Option.some.injEq] at h
    exact beginWrite_moves hf h.1 h.2
  | measuring =>
    simp only [hf, Option.isNone_iff_eq_none] at h
    split at h
    · next hslot =>
      split at h
      · next hempty =>
        cases h
        exact .keep hf hslot hempty
      · next hfull =>
        cases h
        exact .swap hf hslot hfull
    · cases h
  | swapping full =>
    simp only [hf, Option.isNone_iff_eq_none] at h
    split at h
    · next hslot =>
      cases h
      exact .look full hf hslot
    · cases h
  | writing slot phase =>
    simp only [hf] at h
    cases h
  | stopped =>
    simp only [hf] at h
    cases h
  | failed =>
    simp only [hf] at h
    cases h

lemma stopFlusher_moves (h : s.stopFlusher = some (s', events)) :
    FlusherMoves plan s .stopFlusher s' events := by
  unfold State.stopFlusher at h
  split at h
  · next hidle =>
    split at h
    · next hsignal =>
      rw [State.dropHandoff_eq] at h
      cases h
      exact .stop hidle hsignal
    · cases h
  · cases h

lemma replyFlusher_moves {r : Reply} (h : s.replyFlusher plan r = some (s', events)) :
    FlusherMoves plan s (.reply .flusher r) s' events := by
  unfold State.replyFlusher at h
  split at h
  · next slot a hf =>
    simp only at h
    split at h
    · next stored hverdict =>
      cases h
      exact .finish slot a r stored hf hverdict
    · next delay hverdict =>
      cases h
      exact .retry slot a r delay hf hverdict
    · next hverdict =>
      rw [State.dropHandoff_eq] at h
      cases h
      exact .fail slot a r hf hverdict
  · cases h

lemma wakeFlusher_moves (h : s.wakeFlusher = some (s', events)) :
    FlusherMoves plan s (.wake .flusher) s' events := by
  unfold State.wakeFlusher at h
  split at h
  · next slot a hf =>
    cases h
    exact .wake slot a hf
  · cases h

lemma replyShutdown_moves {k : Nat} {r : Reply}
    (h : s.replyShutdown plan k r = some (s', events)) :
    ShutdownMoves plan s k (.reply (.shutdown k) r) s' events := by
  unfold State.replyShutdown at h
  split at h
  · next slot a slots drained hc =>
    simp only at h
    split at h
    · next stored hverdict =>
      cases h
      exact .finish slot a slots drained r stored hc hverdict
    · next delay hverdict =>
      cases h
      exact .retry slot a slots drained r delay hc hverdict
    · next hverdict =>
      cases h
      exact .fail slot a slots drained r hc hverdict
  · cases h

lemma wakeShutdown_moves {k : Nat} (h : s.wakeShutdown k = some (s', events)) :
    ShutdownMoves plan s k (.wake (.shutdown k)) s' events := by
  unfold State.wakeShutdown at h
  split at h
  · next slot a slots drained hc =>
    cases h
    exact .wake slot a slots drained hc
  · cases h

lemma drain_moves {k drained : Nat} {slots : List Slot}
    (hc : s.calls[k]? = some (.draining slots drained))
    (h : s.drain plan k drained slots = some (s', events)) :
    ShutdownMoves plan s k (.shutdown k) s' events := by
  unfold State.drain State.isFree at h
  cases slots with
  | nil =>
    cases h
    exact .done drained hc
  | cons slot slots =>
    simp only [Option.isNone_iff_eq_none, List.isEmpty_iff] at h
    split at h
    · next hslot =>
      split at h
      · next hempty =>
        cases h
        exact .skip slot slots drained hc hslot hempty
      · next hfull =>
        cases h
        exact .begin slot slots drained hc hslot hfull
    · cases h

lemma shutdownStep_moves {k : Nat} (h : s.shutdownStep plan k = some (s', events)) :
    ShutdownMoves plan s k (.shutdown k) s' events := by
  unfold State.shutdownStep at h
  cases hc : s.calls[k]? with
  | none =>
    rw [hc] at h
    cases h
  | some c =>
    rw [hc] at h
    cases c with
    | closing =>
      cases h
      exact .close hc
    | claiming =>
      simp only at h
      split at h
      · next htaken =>
        cases h
        exact .late hc htaken
      · next htaken =>
        cases h
        exact .claim hc (by simpa using htaken)
    | joining =>
      simp only at h
      split at h
      · next hdone =>
        cases h
        exact .join hc hdone
      · cases h
    | stopping =>
      simp only at h
      split at h
      · next hstopped =>
        cases h
        exact .flusherStopped hc hstopped
      · next hfailed =>
        cases h
        exact .flusherFailed hc hfailed
      · cases h
    | locking =>
      simp only at h
      split at h
      · next hguard =>
        cases h
        exact .takeGuard hc hguard
      · cases h
    | draining slots drained => exact drain_moves hc h
    | writing slot phase slots drained => cases h
    | returned drained => cases h
    | failed => cases h

theorem step_transition {m : Move ε} (h : step plan s m = some (s', events)) :
    Transition plan s m s' events := by
  cases m with
  | send e => exact .send (send_offered (Option.some.inj h))
  | callShutdown =>
    cases h
    exact .callShutdown
  | tick => exact .flusher (tick_moves h)
  | reply task r =>
    cases task with
    | worker i => cases h
    | flusher => exact .flusher (replyFlusher_moves h)
    | shutdown k => exact .shutdown (replyShutdown_moves h)
  | wake task =>
    cases task with
    | worker i => cases h
    | flusher => exact .flusher (wakeFlusher_moves h)
    | shutdown k => exact .shutdown (wakeShutdown_moves h)
  | worker i => exact .worker (workerStep_moves h)
  | flusher => exact .flusher (flusherStep_moves h)
  | stopFlusher => exact .flusher (stopFlusher_moves h)
  | shutdown k => exact .shutdown (shutdownStep_moves h)

end Inversion

section Completeness

variable {plan : Plan ε} {s s' : State ε} {m : Move ε} {events : List (Event ε)}

lemma WorkerMoves.step {i : Nat} (h : WorkerMoves plan s i s' events) :
    Pipeline.step plan s (.worker i) = some (s', events) := by
  cases h <;> simp [Pipeline.step, State.workerStep, State.isFree, State.measure, State.handOver,
    State.push, State.setWorker, *]

lemma FlusherMoves.step (h : FlusherMoves plan s m s' events) :
    Pipeline.step plan s m = some (s', events) := by
  cases h with
  | tick hf hguard => simp [Pipeline.step, State.tick, hf, hguard]
  | skipTick hf hguard => simp [Pipeline.step, State.tick, hf, hguard]
  | stop hf hsignal => simp [Pipeline.step, State.stopFlusher, State.dropHandoff_eq, hf, hsignal]
  | finish slot a r stored hf hverdict =>
    simp [Pipeline.step, State.reply, State.replyFlusher, State.unlockSlot, hf, hverdict]
  | retry slot a r delay hf hverdict =>
    simp [Pipeline.step, State.reply, State.replyFlusher, hf, hverdict]
  | fail slot a r hf hverdict =>
    simp [Pipeline.step, State.reply, State.replyFlusher, State.unlockSlot, State.dropHandoff_eq,
      hf, hverdict]
  | wake slot a hf => simp [Pipeline.step, State.wake, State.wakeFlusher, hf]
  | _ =>
    simp [Pipeline.step, State.flusherStep, State.isFree, State.beginWrite, Origin.handoff?,
      State.acknowledge_eq, State.lockSlot, *]

lemma ShutdownMoves.step {k : Nat} (h : ShutdownMoves plan s k m s' events) :
    Pipeline.step plan s m = some (s', events) := by
  cases h with
  | finish slot a slots drained r stored hc hverdict =>
    simp [Pipeline.step, State.reply, State.replyShutdown, State.unlockSlot, State.setCall, hc,
      hverdict]
  | retry slot a slots drained r delay hc hverdict =>
    simp [Pipeline.step, State.reply, State.replyShutdown, State.setCall, hc, hverdict]
  | fail slot a slots drained r hc hverdict =>
    simp [Pipeline.step, State.reply, State.replyShutdown, State.unlockSlot, State.setCall, hc,
      hverdict]
  | wake slot a slots drained hc =>
    simp [Pipeline.step, State.wake, State.wakeShutdown, State.setCall, hc]
  | _ =>
    simp [Pipeline.step, State.shutdownStep, State.isFree, State.drain, State.lockSlot,
      State.setCall, *]

/-- Every transition can be taken. -/
theorem Transition.step (h : Transition plan s m s' events) :
    Pipeline.step plan s m = some (s', events) := by
  cases h with
  | send hoffered => cases hoffered <;> simp [Pipeline.step, State.send, *]
  | callShutdown => rfl
  | worker hworker => exact hworker.step
  | flusher hflusher => exact hflusher.step
  | shutdown hshutdown => exact hshutdown.step

end Completeness

/-! ### What the tasks leave alone -/

section Frames

variable {plan : Plan ε} {s s' : State ε} {m : Move ε} {events : List (Event ε)}

/-- A worker that moves has not stopped; it changes no other worker. -/
lemma WorkerMoves.workers {i : Nat} (h : WorkerMoves plan s i s' events) :
    ∃ w w', s.workers[i]? = some w ∧ w ≠ .stopped ∧ s'.workers = s.workers.set i w' := by
  cases h with
  | takeReceiver hw _ => exact ⟨_, _, hw, by simp, rfl⟩
  | receive _ _ hw _ => exact ⟨_, _, hw, by simp, rfl⟩
  | stop hw _ _ => exact ⟨_, _, hw, by simp, rfl⟩
  | redact _ hw => exact ⟨_, _, hw, by simp, rfl⟩
  | takeGuard _ hw _ => exact ⟨_, _, hw, by simp, rfl⟩
  | swap _ hw _ _ => exact ⟨_, _, hw, by simp, rfl⟩
  | keep _ hw _ _ => exact ⟨_, _, hw, by simp, rfl⟩
  | look _ _ hw _ => exact ⟨_, _, hw, by simp, rfl⟩
  | refused _ _ hw _ => exact ⟨_, _, hw, by simp, rfl⟩
  | handOver _ _ hw _ _ => exact ⟨_, _, hw, by simp, rfl⟩
  | received _ _ hw => exact ⟨_, _, hw, by simp, rfl⟩
  | dropped _ _ hw => exact ⟨_, _, hw, by simp, rfl⟩
  | push _ hw _ => exact ⟨_, _, hw, by simp, rfl⟩

lemma WorkerMoves.frame {i : Nat} (h : WorkerMoves plan s i s' events) :
    s'.isOpen = s.isOpen ∧ s'.slotLocks = s.slotLocks ∧ s'.flusher = s.flusher ∧
      s'.stopSignal = s.stopSignal ∧ s'.calls = s.calls := by
  cases h <;> exact ⟨rfl, rfl, rfl, rfl, rfl⟩

/-- A flusher that moves has not ended. -/
lemma FlusherMoves.not_gone (h : FlusherMoves plan s m s' events) : s.flusher.isGone = false := by
  cases h <;> simp [*, Flusher.isGone]

lemma FlusherMoves.frame (h : FlusherMoves plan s m s' events) :
    s'.queue = s.queue ∧ s'.isOpen = s.isOpen ∧ s'.receiver = s.receiver ∧
      s'.stopSignal = s.stopSignal ∧ s'.calls = s.calls := by
  cases h <;> exact ⟨rfl, rfl, rfl, rfl, rfl⟩

/-- The flusher changes no worker, except that it answers the sender of a handoff. -/
lemma FlusherMoves.workers (h : FlusherMoves plan s m s' events) :
    s'.workers = s.workers ∨ ∃ h ack, s'.workers = tellSender h ack s.workers := by
  have hdropped : tellDropped s.handoff s.workers = s.workers ∨
      ∃ h ack, tellDropped s.handoff s.workers = tellSender h ack s.workers := by
    cases s.handoff with
    | none => exact .inl rfl
    | some h => exact .inr ⟨h, .dropped, rfl⟩
  cases h with
  | beginHandoff _ h _ _ _ => exact .inr ⟨h, .received, rfl⟩
  | emptyHandoff _ h _ _ _ => exact .inr ⟨h, .received, rfl⟩
  | stop _ _ => exact hdropped
  | fail _ _ _ _ _ => exact hdropped
  | _ => exact .inl rfl

lemma ShutdownMoves.frame {k : Nat} (h : ShutdownMoves plan s k m s' events) :
    s'.queue = s.queue ∧ s'.receiver = s.receiver ∧ s'.workers = s.workers ∧
      s'.handoff = s.handoff ∧ s'.flusher = s.flusher := by
  cases h <;> exact ⟨rfl, rfl, rfl, rfl, rfl⟩

end Frames
end AuditTrail.Pipeline
