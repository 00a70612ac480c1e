/-!
# Stop signals

A flag that any task may raise and any task may wait for. A request raises the flag and then
notifies. A wait registers for the notifications to come, then looks at the flag, and if it is down
sleeps until a notification has come since the registration. The tasks take these steps one at a
time, in any order.
-/

namespace AuditTrail.StopSignal

/-- How far a wait has come. It registers with the number of notifications so far. -/
inductive Waiter where
  | called
  | registered (since : Nat)
  | sleeping (since : Nat)
  | returned
  deriving DecidableEq, Repr

/-- How far a request has come. -/
inductive Requester where
  | called
  | flagRaised
  | returned
  deriving DecidableEq, Repr

/-- A signal with all its waits and requests, in the order of the calls. -/
structure State where
  isRequested : Bool
  notifications : Nat
  waiters : List Waiter
  requesters : List Requester
  deriving DecidableEq, Repr

inductive Move where
  | callWait
  | callRequest
  | waiter (i : Nat)
  | requester (i : Nat)
  deriving DecidableEq, Repr

namespace State

def start : State := ⟨false, 0, [], []⟩

/-- The next step of a wait, `none` while it sleeps and when it has returned. -/
def nextWaiter (s : State) : Waiter → Option Waiter
  | .called => some (.registered s.notifications)
  | .registered since => some (if s.isRequested then .returned else .sleeping since)
  | .sleeping since => if since < s.notifications then some .returned else none
  | .returned => none

/-- One step of a task, if it is possible. -/
def step (s : State) : Move → Option State
  | .callWait => some { s with waiters := s.waiters ++ [.called] }
  | .callRequest => some { s with requesters := s.requesters ++ [.called] }
  | .waiter i => do
    let w ← s.waiters[i]?
    let w ← s.nextWaiter w
    return { s with waiters := s.waiters.set i w }
  | .requester i =>
    match s.requesters[i]? with
    | some .called =>
      some { s with isRequested := true, requesters := s.requesters.set i .flagRaised }
    | some .flagRaised =>
      some { s with
        notifications := s.notifications + 1
        requesters := s.requesters.set i .returned }
    | some .returned | none => none

/-- The steps that the tasks begun so far could take. -/
def candidates (s : State) : List Move :=
  (List.range s.requesters.length).map .requester ++ (List.range s.waiters.length).map .waiter

def settleWithin : Nat → State → State
  | 0, s => s
  | n + 1, s =>
    match s.candidates.findSome? s.step with
    | some s => settleWithin n s
    | none => s

/-- Lets the tasks run until all of them sleep or have returned: a wait takes three steps and a
request two. -/
def settle (s : State) : State :=
  settleWithin (3 * s.waiters.length + 2 * s.requesters.length) s

/-- Begins a call and lets the tasks run. -/
def call (s : State) (m : Move) : State :=
  ((s.step m).getD s).settle

end State
end AuditTrail.StopSignal
