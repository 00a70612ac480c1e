import AuditTrail.Proofs.History
import AuditTrail.Proofs.Schedule
import Mathlib.Algebra.GroupWithZero.Nat

/-!
# The work that remains

Each part of the state is given the number of steps that it may still cause: an entry in the queue
those of the worker that will take it, a handoff those of the flusher that will write its slot, a
shutdown call those of a drain of both slots, and each delivery its calls of the sink and the pauses
between them. Every step of a task takes something away from the sum of these numbers. Only an
accepted entry, a tick of the timer or a new shutdown call adds to it.
-/

namespace AuditTrail.Pipeline

variable {ε : Type}

/-- A step of a worker, of the flusher or of a shutdown call, other than one that a tick or a broken
sink brings about. -/
def Move.advances : Move ε → Bool
  | .send _ | .callShutdown | .tick | .reply _ .broken => false
  | _ => true

/-- The calls of the sink and the pauses in the longest delivery. -/
def deliveryWork (p : RetryPolicy) : Nat :=
  2 * (p.maxRetries + 1)

/-- The work that a handoff brings the flusher. -/
def handoffWork (p : RetryPolicy) : Nat :=
  deliveryWork p + 3

/-- The work that an entry in the queue brings a worker. -/
def entryWork (p : RetryPolicy) : Nat :=
  handoffWork p + 9

def Phase.work (p : RetryPolicy) : Phase → Nat
  | .calling a => 2 * (p.maxRetries + 2 - a.number)
  | .pausing a => 2 * (p.maxRetries + 1 - a.number) + 1

def Worker.work (p : RetryPolicy) : Worker ε → Nat
  | .stopped => 0
  | .receiving => 1
  | .waiting => 2
  | .pushing _ => 3
  | .awaiting _ _ _ => 4
  | .handing _ _ => handoffWork p + 5
  | .swapping _ _ => handoffWork p + 6
  | .measuring _ => handoffWork p + 7
  | .ready _ => handoffWork p + 8
  | .carrying _ => handoffWork p + 9

def Flusher.work (p : RetryPolicy) : Flusher → Nat
  | .stopped | .failed => 0
  | .idle => 1
  | .writing _ phase => phase.work p + 2
  | .locking _ _ => deliveryWork p + 3
  | .swapping _ => deliveryWork p + 4
  | .measuring => deliveryWork p + 5

/-- The work on some slots in a drain. -/
def drainWork (p : RetryPolicy) (slots : List Slot) : Nat :=
  slots.length * (deliveryWork p + 2) + 1

def Shutdown.work (p : RetryPolicy) : Shutdown → Nat
  | .returned _ | .failed => 0
  | .draining slots _ => drainWork p slots
  | .writing _ phase slots _ => drainWork p slots + phase.work p + 1
  | .locking => drainWork p [.zero, .one] + 1
  | .stopping => drainWork p [.zero, .one] + 2
  | .joining => drainWork p [.zero, .one] + 3
  | .claiming => drainWork p [.zero, .one] + 4
  | .closing => drainWork p [.zero, .one] + 5

def channelWork (p : RetryPolicy) : Option Handoff → Nat
  | some _ => handoffWork p
  | none => 0

/-- The number of steps that the tasks of a pipeline can take at most, if nothing more comes from
outside. -/
def State.work (plan : Plan ε) (s : State ε) : Nat :=
  s.queue.length * entryWork plan.retry + (s.workers.map (Worker.work plan.retry)).sum +
    channelWork plan.retry s.handoff + s.flusher.work plan.retry +
    (s.calls.map (Shutdown.work plan.retry)).sum

section Steps

variable {plan : Plan ε} {s s' : State ε} {m : Move ε} {events : List (Event ε)}

lemma sum_set_add {l : List Nat} {i a : Nat} (h : l[i]? = some a) (b : Nat) :
    (l.set i b).sum + a = l.sum + b := by
  induction l generalizing i with
  | nil => cases h
  | cons x l ih =>
    cases i with
    | zero =>
      cases h
      simp only [List.set_cons_zero, List.sum_cons]
      omega
    | succ i =>
      have hrest := ih (i := i) (by simpa using h)
      simp only [List.set_cons_succ, List.sum_cons]
      omega

lemma work_verdict_again {p : RetryPolicy} {a : Attempt} {r : Reply} {delay : Duration}
    (h : State.verdict p a r = .again delay) :
    (Phase.pausing a).work p < (Phase.calling a).work p := by
  have hretry : a.number ≤ p.maxRetries := by
    cases r with
    | stored => cases h
    | refused cause =>
      simp only [State.verdict, RetryPolicy.allowsRetry, decide_eq_true_eq] at h
      split at h
      · next hle => exact hle
      · cases h
    | broken => cases h
  simp only [Phase.work]
  omega

lemma work_next (p : RetryPolicy) (a : Attempt) :
    (Phase.calling a.next).work p < (Phase.pausing a).work p := by
  simp only [Phase.work, Attempt.next]
  omega

lemma work_first (p : RetryPolicy) : (Phase.calling p.first).work p = deliveryWork p := by
  simp only [Phase.work, RetryPolicy.first, deliveryWork]
  omega

/-- A step of a worker takes work away if it does so from the worker, the queue and the channel. -/
lemma work_worker {i : Nat} {w w' : Worker ε} (hw : s.workers[i]? = some w)
    (hworkers : s'.workers = s.workers.set i w') (hflusher : s'.flusher = s.flusher)
    (hcalls : s'.calls = s.calls)
    (hless : s'.queue.length * entryWork plan.retry + w'.work plan.retry +
        channelWork plan.retry s'.handoff <
      s.queue.length * entryWork plan.retry + w.work plan.retry +
        channelWork plan.retry s.handoff) : s'.work plan < s.work plan := by
  have hwork : (s.workers.map (Worker.work plan.retry))[i]? = some (w.work plan.retry) := by
    simp [hw]
  have hsum := sum_set_add hwork (w'.work plan.retry)
  simp only [State.work, hworkers, hflusher, hcalls, List.map_set]
  omega

lemma WorkerMoves.work_lt {i : Nat} (h : WorkerMoves plan s i s' events) :
    s'.work plan < s.work plan := by
  obtain ⟨-, -, hflusher, -, hcalls⟩ := h.frame
  have hstep : ∀ {w w' : Worker ε}, s.workers[i]? = some w → s'.workers = s.workers.set i w' →
      s'.queue.length * entryWork plan.retry + w'.work plan.retry +
          channelWork plan.retry s'.handoff <
        s.queue.length * entryWork plan.retry + w.work plan.retry +
          channelWork plan.retry s.handoff → s'.work plan < s.work plan := fun hw hworkers =>
    work_worker hw hworkers hflusher hcalls
  cases h with
  | receive e queue hw hqueue =>
    apply hstep hw rfl
    simp only [hqueue, List.length_cons, Nat.succ_mul, Worker.work, entryWork]
    omega
  | handOver e full hw _ hfree =>
    apply hstep hw rfl
    simp only [hfree, channelWork, Worker.work]
    omega
  | takeReceiver hw _ => exact hstep hw rfl (by simp [Worker.work])
  | stop hw _ _ => exact hstep hw rfl (by simp [Worker.work])
  | redact e hw => exact hstep hw rfl (by simp [Worker.work])
  | takeGuard e hw _ => exact hstep hw rfl (by simp [Worker.work])
  | swap e hw _ _ => exact hstep hw rfl (by simp [Worker.work])
  | keep e hw _ _ => exact hstep hw rfl (by simp [Worker.work])
  | look e full hw _ => exact hstep hw rfl (by simp [Worker.work])
  | refused e full hw _ => exact hstep hw rfl (by simp [Worker.work])
  | received e full hw => exact hstep hw rfl (by simp [Worker.work])
  | dropped e full hw => exact hstep hw rfl (by simp [Worker.work])
  | push e hw _ => exact hstep hw rfl (by simp [Worker.work])

lemma work_hear (p : RetryPolicy) (w : Worker ε) (ack : Ack) : (w.hear ack).work p = w.work p := by
  cases w <;> rfl

lemma FlusherMoves.work_lt (h : FlusherMoves plan s m s' events) (hm : m.advances = true) :
    s'.work plan < s.work plan := by
  obtain ⟨hqueue, -, -, -, hcalls⟩ := h.frame
  have hworkers : s'.workers.map (Worker.work plan.retry) =
      s.workers.map (Worker.work plan.retry) := by
    rcases h.workers with hworkers | ⟨handoff, ack, hworkers⟩
    · rw [hworkers]
    · rw [hworkers, map_tellSender (work_hear plan.retry)]
  have hfirst := work_first plan.retry
  -- What a step takes away, it takes from the flusher and the channel.
  suffices hless : channelWork plan.retry s'.handoff + s'.flusher.work plan.retry <
      channelWork plan.retry s.handoff + s.flusher.work plan.retry by
    simp only [State.work, hworkers, hqueue, hcalls]
    omega
  cases h with
  | tick _ _ => cases hm
  | skipTick _ _ => cases hm
  | takeHandoff h hf hhandoff =>
    simp only [hf, hhandoff, channelWork, Flusher.work, handoffWork]
    omega
  | beginHandoff slot h hf _ _ => simp [hf, Flusher.work, hfirst]
  | emptyHandoff slot h hf _ _ => simp [hf, Flusher.work]
  | beginTimer slot hf _ _ => simp [hf, Flusher.work, hfirst]
  | emptyTimer slot hf _ _ => simp [hf, Flusher.work]
  | keep hf _ _ => simp [hf, Flusher.work]
  | swap hf _ _ => simp [hf, Flusher.work]
  | look full hf _ => simp [hf, Flusher.work]
  | stop hf _ =>
    simp only [hf, channelWork, Flusher.work]
    omega
  | finish slot a r stored hf _ =>
    simp only [hf, Flusher.work]
    omega
  | retry slot a r delay hf hverdict =>
    have hphase := work_verdict_again hverdict
    simp only [hf, Flusher.work]
    omega
  | fail slot a r hf hverdict =>
    rw [verdict_broken hverdict] at hm
    cases hm
  | wake slot a hf =>
    have hphase := work_next plan.retry a
    simp only [hf, Flusher.work]
    omega

lemma work_call {k : Nat} {c c' : Shutdown} (hc : s.calls[k]? = some c)
    (hcalls : s'.calls = s.calls.set k c') (hqueue : s'.queue = s.queue)
    (hworkers : s'.workers = s.workers) (hhandoff : s'.handoff = s.handoff)
    (hflusher : s'.flusher = s.flusher) (hless : c'.work plan.retry < c.work plan.retry) :
    s'.work plan < s.work plan := by
  have hwork : (s.calls.map (Shutdown.work plan.retry))[k]? = some (c.work plan.retry) := by
    simp [hc]
  have hsum := sum_set_add hwork (c'.work plan.retry)
  simp only [State.work, hcalls, hqueue, hworkers, hhandoff, hflusher, List.map_set]
  omega

lemma drainWork_cons (p : RetryPolicy) (slot : Slot) (slots : List Slot) :
    drainWork p (slot :: slots) = drainWork p slots + deliveryWork p + 2 := by
  simp only [drainWork, List.length_cons, Nat.succ_mul]
  omega

lemma ShutdownMoves.work_lt {k : Nat} (h : ShutdownMoves plan s k m s' events)
    (hm : m.advances = true) : s'.work plan < s.work plan := by
  obtain ⟨hqueue, -, hworkers, hhandoff, hflusher⟩ := h.frame
  have hfirst := work_first plan.retry
  have hcons := drainWork_cons plan.retry
  have hstep : ∀ {c c'}, s.calls[k]? = some c → s'.calls = s.calls.set k c' →
      c'.work plan.retry < c.work plan.retry → s'.work plan < s.work plan := fun hc hcalls =>
    work_call hc hcalls hqueue hworkers hhandoff hflusher
  cases h with
  | close hc => exact hstep hc rfl (by simp [Shutdown.work])
  | late hc _ => exact hstep hc rfl (by simp [Shutdown.work])
  | claim hc _ => exact hstep hc rfl (by simp [Shutdown.work])
  | join hc _ => exact hstep hc rfl (by simp [Shutdown.work])
  | flusherStopped hc _ => exact hstep hc rfl (by simp [Shutdown.work])
  | flusherFailed hc _ => exact hstep hc rfl (by simp [Shutdown.work])
  | takeGuard hc _ => exact hstep hc rfl (by simp [Shutdown.work, drainWork])
  | done drained hc => exact hstep hc rfl (by simp [Shutdown.work, drainWork])
  | skip slot slots drained hc _ _ =>
    apply hstep hc rfl
    simp only [Shutdown.work, hcons]
    omega
  | begin slot slots drained hc _ _ =>
    apply hstep hc rfl
    simp only [Shutdown.work, hcons, hfirst]
    omega
  | finish slot a slots drained r stored hc _ =>
    apply hstep hc rfl
    simp only [Shutdown.work]
    omega
  | retry slot a slots drained r delay hc hverdict =>
    have hphase := work_verdict_again hverdict
    apply hstep hc rfl
    simp only [Shutdown.work]
    omega
  | fail slot a slots drained r hc hverdict =>
    rw [verdict_broken hverdict] at hm
    cases hm
  | wake slot a slots drained hc =>
    have hphase := work_next plan.retry a
    apply hstep hc rfl
    simp only [Shutdown.work]
    omega

/-- Every step of a task takes work away. -/
theorem Transition.work_lt (h : Transition plan s m s' events) (hm : m.advances = true) :
    s'.work plan < s.work plan := by
  cases h with
  | send _ => cases hm
  | callShutdown => cases hm
  | worker hworker => exact hworker.work_lt
  | flusher hflusher => exact hflusher.work_lt hm
  | shutdown hshutdown => exact hshutdown.work_lt hm

end Steps
end AuditTrail.Pipeline
