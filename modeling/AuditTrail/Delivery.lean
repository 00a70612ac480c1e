import AuditTrail.Duration
import AuditTrail.Log.Event
import AuditTrail.Word

/-!
# Delivery with retries

A batch is passed to a sink until the sink stores it or the retries are used up. The delay before
a retry doubles each time.
-/

namespace AuditTrail

/-- What a sink makes of a batch: it stores it, refuses it, or breaks down. -/
inductive Reply where
  | stored
  | refused (cause : Failure)
  | broken
  deriving DecidableEq, Repr

/-- A sink with states `σ` for batches of `ε`: each call takes some milliseconds. -/
structure Sink (σ ε : Type) where
  append : σ → List ε → σ × Nat × Reply

/-- How often and after what delay a refused batch is tried again. Attempts are counted in 32 bits,
and there is one more than there are retries, so there are fewer retries than `2 ^ 32 - 1`. -/
structure RetryPolicy where
  baseDelay : Duration
  maxRetries : Nat
  deriving DecidableEq, Repr

/-- One attempt, counted from one, with the delay before the next. The number never exceeds the
retries by more than one. -/
structure Attempt where
  number : Nat
  delay : Duration
  deriving DecidableEq, Repr

def Attempt.next (a : Attempt) : Attempt :=
  ⟨a.number + 1, a.delay.doubled⟩

namespace RetryPolicy

def first (p : RetryPolicy) : Attempt :=
  ⟨1, p.baseDelay⟩

/-- Whether another attempt follows a refused one. -/
def allowsRetry (p : RetryPolicy) (a : Attempt) : Bool :=
  a.number ≤ p.maxRetries

/-- What the operators read of the answer to an attempt with `size` entries. -/
def logEvent? (p : RetryPolicy) (a : Attempt) (size : Nat) : Reply → Option Log.Event
  | .stored => some (.stored size a.number)
  | .refused cause =>
    if p.allowsRetry a then
      some (.storeRetry a.number size (a.delay.millis % Word.limit64) cause)
    else some (.storeGivenUp a.number size cause)
  | .broken => none

end RetryPolicy

/-- A finished call of a sink, in milliseconds of some clock. -/
structure CallRecord where
  start : Nat
  stop : Nat
  size : Nat
  stored : Bool
  deriving DecidableEq, Repr

namespace Delivery

/-- What happens to one batch, in order: calls of the sink and pauses between them. -/
inductive Step (ε : Type) where
  | call (attempt : Attempt) (entries : List ε) (latency : Nat) (reply : Reply)
  | pause (delay : Duration)
  deriving DecidableEq, Repr

/-- How a delivery ends. -/
inductive Outcome where
  | stored
  | discarded
  | broken
  deriving DecidableEq, Repr

/-- A finished delivery with the state of the sink after it. -/
structure Report (σ ε : Type) where
  outcome : Outcome
  steps : List (Step ε)
  sink : σ

variable {σ ε : Type}

/-- Tries from one attempt on. -/
def runFrom (p : RetryPolicy) (sink : Sink σ ε) (batch : List ε) (a : Attempt) (s : σ) :
    Report σ ε :=
  let (s, latency, reply) := sink.append s batch
  let call := Step.call a batch latency reply
  match reply with
  | .stored => ⟨.stored, [call], s⟩
  | .broken => ⟨.broken, [call], s⟩
  | .refused _ =>
    if p.allowsRetry a then
      let r := runFrom p sink batch a.next s
      { r with steps := call :: .pause a.delay :: r.steps }
    else ⟨.discarded, [call], s⟩
termination_by p.maxRetries + 1 - a.number
decreasing_by
  simp only [RetryPolicy.allowsRetry, decide_eq_true_eq] at *
  simp only [Attempt.next]
  omega

/-- The time after some steps that begin at `now`. -/
def Step.elapse (now : Nat) : Step ε → Nat
  | .call _ _ latency _ => now + latency
  | .pause delay => now + delay.sleepMillis

/-- The finished calls of some steps that begin at `now`; one that broke the sink is left out. -/
def callRecords (now : Nat) : List (Step ε) → List CallRecord
  | [] => []
  | step :: rest =>
    let after := step.elapse now
    match step with
    | .call _ entries _ .stored => ⟨now, after, entries.length, true⟩ :: callRecords after rest
    | .call _ entries _ (.refused _) =>
      ⟨now, after, entries.length, false⟩ :: callRecords after rest
    | _ => callRecords after rest

/-- The milliseconds that some steps take. -/
def elapsed (steps : List (Step ε)) : Nat :=
  steps.foldl Step.elapse 0

/-- The batches stored in some steps. -/
def delivered (steps : List (Step ε)) : List (List ε) :=
  steps.filterMap fun step => match step with
    | .call _ entries _ .stored => some entries
    | _ => none

def logs (p : RetryPolicy) (steps : List (Step ε)) : List Log.Event :=
  steps.filterMap fun step => match step with
    | .call a entries _ reply => p.logEvent? a entries.length reply
    | .pause _ => none

/-- Delivers a batch. -/
def run (p : RetryPolicy) (sink : Sink σ ε) (batch : List ε) (s : σ) : Report σ ε :=
  runFrom p sink batch p.first s

end Delivery
end AuditTrail
