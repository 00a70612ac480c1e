import AuditTrail.Delivery

/-!
# A sink that follows a script

Its answers and their delays are given in advance, for rehearsals of failures. Past its end a
script goes on with its last line.
-/

namespace AuditTrail.Sink

/-- The lines of a script that are still to come, the latencies in milliseconds. -/
structure Script where
  replies : List Reply
  latencies : List Nat
  deriving DecidableEq, Repr

namespace Script

/-- The first line of a list and what is left, the last line staying. -/
def next {α : Type} (default : α) : List α → α × List α
  | [] => (default, [])
  | [x] => (x, [x])
  | x :: rest => (x, rest)

/-- The failure of a scripted refusal. -/
def injected : Failure := .sink "injected failure"

/-- Sleeps for the latency before it answers. -/
def append {ε : Type} (s : Script) (_ : List ε) : Script × Nat × Reply :=
  let (reply, replies) := next .stored s.replies
  let (latency, latencies) := next 0 s.latencies
  (⟨replies, latencies⟩, (Duration.ofMillis latency).sleepMillis, reply)

end Script

/-- The sink that plays its script. -/
def scripted {ε : Type} : AuditTrail.Sink Script ε :=
  ⟨Script.append⟩

end AuditTrail.Sink
