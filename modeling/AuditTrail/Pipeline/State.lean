import AuditTrail.Buffer.Basic
import AuditTrail.Delivery

/-!
# The state of the audit pipeline

Entries wait in a bounded queue. Workers take them out one at a time, redact them and add them to
the active slot of a double buffer; a flusher writes full slots to the sink, on a handoff from a
worker or on a timer; a shutdown call closes the queue, waits for the workers and the flusher, and
writes what is left. The state says how far each of these tasks has come and which locks they hold:
the receiving end of the queue, the guard of the buffer, and one lock for each slot.
-/

namespace AuditTrail.Pipeline

/-- The fixed parameters of a pipeline. -/
structure Plan (ε : Type) where
  queueSize : Nat
  workers : Nat
  threshold : Nat
  retry : RetryPolicy
  redact : ε → ε

/-- A task, as the owner of a lock. -/
inductive Task where
  | worker (i : Nat)
  | flusher
  | shutdown (k : Nat)
  deriving DecidableEq, Repr

/-- What a worker hears of its handoff. -/
inductive Ack where
  | pending
  | received
  | dropped
  deriving DecidableEq, Repr

/-- How far a worker has come. From `measuring` to `pushing` it holds the guard. -/
inductive Worker (ε : Type) where
  /-- Wants the receiving end of the queue. -/
  | waiting
  /-- Holds the receiving end and waits for an entry. -/
  | receiving
  /-- Has taken an entry out of the queue. -/
  | carrying (e : ε)
  /-- Wants the guard, for a redacted entry. -/
  | ready (e : ε)
  /-- Wants to know the length of the active slot. -/
  | measuring (e : ε)
  /-- Has made the other slot the active one and waits for a look at it. -/
  | swapping (e : ε) (full : Slot)
  /-- Wants to hand the full slot over. -/
  | handing (e : ε) (full : Slot)
  /-- Has handed the full slot over and waits until the flusher has it. -/
  | awaiting (e : ε) (full : Slot) (ack : Ack)
  /-- Wants to add the entry to the active slot. -/
  | pushing (e : ε)
  | stopped
  deriving DecidableEq, Repr

/-- The entry that a worker has taken, as `redact` leaves it. -/
def Worker.carried? {ε : Type} (redact : ε → ε) : Worker ε → Option ε
  | waiting | receiving | stopped => none
  | carrying e => some (redact e)
  | ready e | measuring e | swapping e _ | handing e _ | awaiting e _ _ | pushing e => some e

/-- A full slot on its way to the flusher. -/
structure Handoff where
  slot : Slot
  generation : Nat
  sender : Nat
  deriving DecidableEq, Repr

/-- Where a delivery stands: the sink has been called, or a pause before the next call runs. -/
inductive Phase where
  | calling (a : Attempt)
  | pausing (a : Attempt)
  deriving DecidableEq, Repr

/-- Why the flusher writes a slot. -/
inductive Origin where
  | handoff (h : Handoff)
  | timer
  deriving DecidableEq, Repr

def Origin.handoff? : Origin → Option Handoff
  | handoff h => some h
  | timer => none

/-- How far the flusher has come. -/
inductive Flusher where
  /-- Waits for a handoff, the timer or the stop signal. -/
  | idle
  /-- Wants the lock of a slot that it will write. -/
  | locking (slot : Slot) (origin : Origin)
  /-- After a tick: holds the guard and wants to know the length of the active slot. -/
  | measuring
  /-- After a tick: holds the guard, has made the other slot active and waits for a look at it. -/
  | swapping (full : Slot)
  /-- Holds the lock of a slot and delivers its entries. -/
  | writing (slot : Slot) (phase : Phase)
  | stopped
  /-- Ended by a sink that broke down. -/
  | failed
  deriving DecidableEq, Repr

/-- Whether the flusher will take no more handoffs. -/
def Flusher.isGone : Flusher → Bool
  | stopped | failed => true
  | _ => false

/-- How far a shutdown call has come. -/
inductive Shutdown where
  /-- Wants to close the queue. -/
  | closing
  /-- Wants to take the tasks over, which only one call can. -/
  | claiming
  /-- Waits for the workers. -/
  | joining
  /-- Has sent the stop signal and waits for the flusher. -/
  | stopping
  /-- Wants the guard. -/
  | locking
  /-- Holds the guard and wants the locks of these slots, one after the other. -/
  | draining (slots : List Slot) (drained : Nat)
  /-- Delivers the entries of a slot. -/
  | writing (slot : Slot) (phase : Phase) (slots : List Slot) (drained : Nat)
  /-- Has returned; `drained` is missing where another call had taken the tasks. -/
  | returned (drained : Option Nat)
  /-- Ended by a sink that broke down. -/
  | failed
  deriving DecidableEq, Repr

namespace Shutdown

def isOver : Shutdown → Bool
  | returned _ | failed => true
  | _ => false

end Shutdown

/-- The state of a pipeline. -/
structure State (ε : Type) where
  queue : List ε
  isOpen : Bool
  receiver : Option Nat
  workers : List (Worker ε)
  buffer : DoubleBuffer ε
  guard : Option Task
  slotLocks : PerSlot (Option Task)
  handoff : Option Handoff
  flusher : Flusher
  stopSignal : Bool
  tasksTaken : Bool
  calls : List Shutdown
  deriving DecidableEq, Repr

/-- What happens in a pipeline. -/
inductive Event (ε : Type) where
  | accepted (e : ε)
  | rejectedFull (e : ε)
  | rejectedClosed (e : ε)
  | received (worker : Nat) (e : ε)
  | bufferFull (size : Nat)
  | swapped (resident : Nat)
  | handoffTaken (h : Handoff)
  | handoffFailed (slot : Slot)
  | pushed (e : ε) (generation : Nat)
  | workerStopped (worker : Nat)
  /-- A delivery of the entries of a slot begins; the handoff that has caused it, if one has. -/
  | batch (writer : Task) (cause : Option Handoff) (slot : Slot) (entries : List ε)
  | called (writer : Task) (a : Attempt) (entries : List ε)
  | replied (writer : Task) (a : Attempt) (entries : List ε) (reply : Reply)
  | paused (writer : Task) (delay : Duration)
  /-- A delivery is over and its slot is empty; `stored` tells how it ended. -/
  | finished (writer : Task) (slot : Slot) (entries : List ε) (stored : Bool)
  | tickSkipped
  | flusherStopped
  /-- The flusher has ended with a broken sink. -/
  | flusherFailed
  /-- A shutdown call finds the flusher failed. -/
  | failureNoticed
  | shutdownReturned (call : Nat) (drained : Option Nat)
  deriving DecidableEq, Repr

namespace State

variable {ε : Type}

/-- A pipeline before its tasks have run. -/
def start (plan : Plan ε) : State ε where
  queue := []
  isOpen := true
  receiver := none
  workers := List.replicate plan.workers .waiting
  buffer := .empty
  guard := none
  slotLocks := ⟨none, none⟩
  handoff := none
  flusher := .idle
  stopSignal := false
  tasksTaken := false
  calls := []

def setWorker (s : State ε) (i : Nat) (w : Worker ε) : State ε :=
  { s with workers := s.workers.set i w }

def setCall (s : State ε) (k : Nat) (c : Shutdown) : State ε :=
  { s with calls := s.calls.set k c }

def isFree (s : State ε) (slot : Slot) : Bool :=
  (s.slotLocks.get slot).isNone

def lockSlot (s : State ε) (slot : Slot) (t : Task) : State ε :=
  { s with slotLocks := s.slotLocks.set slot (some t) }

def unlockSlot (s : State ε) (slot : Slot) : State ε :=
  { s with slotLocks := s.slotLocks.set slot none }

/-- Tells the sender of a handoff what became of it. -/
def acknowledge (s : State ε) (h : Handoff) (ack : Ack) : State ε :=
  match s.workers[h.sender]? with
  | some (.awaiting e full _) => s.setWorker h.sender (.awaiting e full ack)
  | _ => s

/-- Drops a handoff that nobody will take any more. -/
def dropHandoff (s : State ε) : State ε :=
  match s.handoff with
  | some h => { s with handoff := none }.acknowledge h .dropped
  | none => s

end State
end AuditTrail.Pipeline
