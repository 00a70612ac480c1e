import AuditTrail.Config
import AuditTrail.Entry.Redaction
import AuditTrail.Log.Event
import AuditTrail.Pipeline.Step

/-!
# The pipeline in time

A pipeline with a clock in milliseconds, a sink that takes time, and a flush timer. The tasks take
their steps in a fixed order until all of them wait; only then does the clock move on, to the next
moment at which the sink answers, a pause ends or the timer goes off. Every change of the state is
a `step`.
-/

namespace AuditTrail.Pipeline

/-- What a pipeline runs with. -/
structure Setting (σ ε : Type) where
  plan : Plan ε
  sink : Sink σ ε
  flushMillis : Nat

/-- A running pipeline. -/
structure Timed (σ ε : Type) where
  state : State ε
  sink : σ
  now : Nat
  /-- When the flush timer goes off next. -/
  tickDue : Nat
  /-- What the sink and the pauses will bring, and when. -/
  timers : List (Nat × Move ε)
  /-- The workers that have taken an entry, in the order in which they took it. They get the guard
  in this order. -/
  line : List Nat
  /-- When each shutdown call began. -/
  callStarts : List Nat
  /-- What has happened and when, the latest first. -/
  trace : List (Nat × Event ε)

namespace Timed

variable {σ ε : Type}

def start (cfg : Setting σ ε) (sink : σ) : Timed σ ε where
  state := .start cfg.plan
  sink
  now := 0
  tickDue := cfg.flushMillis
  timers := []
  line := []
  callStarts := []
  trace := []

/-- Notes an event, and starts what it starts: a call of the sink, or a pause. -/
def record (cfg : Setting σ ε) (t : Timed σ ε) (e : Event ε) : Timed σ ε :=
  let t := { t with trace := (t.now, e) :: t.trace }
  match e with
  | .called writer _ entries =>
    let (sink, latency, reply) := cfg.sink.append t.sink entries
    { t with sink, timers := t.timers ++ [(t.now + latency, .reply writer reply)] }
  | .paused writer delay =>
    { t with timers := t.timers ++ [(t.now + delay.sleepMillis, .wake writer)] }
  | .received i _ => { t with line := t.line ++ [i] }
  | .pushed _ _ => { t with line := t.line.drop 1 }
  | _ => t

/-- The lateness of a tick, in milliseconds, from which on the timer counts from now. -/
def tickTolerance : Nat := 5

/-- When the timer goes off after a tick now. -/
def nextTick (cfg : Setting σ ε) (t : Timed σ ε) : Nat :=
  if t.tickDue + tickTolerance < t.now then t.now + cfg.flushMillis
  else t.tickDue + cfg.flushMillis

/-- Takes a step, if it is possible. -/
def perform? (cfg : Setting σ ε) (t : Timed σ ε) (m : Move ε) : Option (Timed σ ε) :=
  match step cfg.plan t.state m with
  | none => none
  | some (state, events) =>
    let t := match m with
      | .tick => { t with tickDue := t.nextTick cfg }
      | .callShutdown => { t with callStarts := t.callStarts ++ [t.now] }
      | _ => t
    some (events.foldl (record cfg) { t with state })

/-- Whether a worker is not to take the guard before another one. -/
def isBehind (t : Timed σ ε) (i : Nat) : Bool :=
  match t.state.workers[i]? with
  | some (.ready _) => t.line.head? != some i
  | _ => false

/-- The steps that the tasks would take now, the first possible one first: the flusher before the
workers, a worker with an entry before one without. -/
def candidates (t : Timed σ ε) : List (Move ε) :=
  let ticks : List (Move ε) := if t.tickDue ≤ t.now then [.tick] else []
  let workers := t.line ++ List.range t.state.workers.length
  .flusher :: ticks ++ .stopFlusher :: (workers.filter (!t.isBehind ·)).map .worker
    ++ (List.range t.state.calls.length).map .shutdown

/-- The answer or the end of a pause that is due, and the timers without it. -/
def takeDue (now : Nat) : List (Nat × Move ε) → Option (Move ε × List (Nat × Move ε))
  | [] => none
  | (due, m) :: rest =>
    if due ≤ now then some (m, rest)
    else (takeDue now rest).map fun (m', rest) => (m', (due, m) :: rest)

/-- One step without the clock moving on, `none` if all tasks wait. -/
def advance? (cfg : Setting σ ε) (t : Timed σ ε) : Option (Timed σ ε) :=
  match takeDue t.now t.timers with
  | some (m, timers) => (({ t with timers } : Timed σ ε).perform? cfg m).or (some { t with timers })
  | none => t.candidates.findSome? (t.perform? cfg)

/-- A bound on the steps that can be taken before all tasks wait. -/
def stepBound (cfg : Setting σ ε) (t : Timed σ ε) : Nat :=
  let s := t.state
  let entries := s.queue.length + (s.buffer.contents .zero).length
    + (s.buffer.contents .one).length
  (entries + s.workers.length + s.calls.length + 4) * (2 * cfg.plan.retry.maxRetries + 40)

def settleWithin (cfg : Setting σ ε) : Nat → Timed σ ε → Timed σ ε
  | 0, t => t
  | n + 1, t =>
    match t.advance? cfg with
    | some t => settleWithin cfg n t
    | none => t

/-- Lets the tasks run until all of them wait. -/
def settle (cfg : Setting σ ε) (t : Timed σ ε) : Timed σ ε :=
  settleWithin cfg (t.stepBound cfg) t

/-- When something will happen by itself. The timer counts only while the flusher listens to it. -/
def nextDue (t : Timed σ ε) : Option Nat :=
  let tick := match t.state.flusher with
    | .idle => [t.tickDue]
    | _ => []
  (t.timers.map Prod.fst ++ tick).min?

/-- Lets the clock run to `target`, at most `n` moments. -/
def passWithin (cfg : Setting σ ε) (target : Nat) : Nat → Timed σ ε → Timed σ ε
  | 0, t => { t with now := target }
  | n + 1, t =>
    match t.nextDue with
    | some due =>
      if due ≤ target then passWithin cfg target n ({ t with now := max t.now due }.settle cfg)
      else { t with now := target }
    | none => { t with now := target }

/-- Lets some milliseconds pass. -/
def pass (cfg : Setting σ ε) (t : Timed σ ε) (millis : Nat) : Timed σ ε :=
  let t := t.settle cfg
  passWithin cfg (t.now + millis) (millis + 1) t

def isOver (t : Timed σ ε) (k : Nat) : Bool :=
  match t.state.calls[k]? with
  | some c => c.isOver
  | none => true

def awaitWithin (cfg : Setting σ ε) (k : Nat) : Nat → Timed σ ε → Timed σ ε
  | 0, t => t
  | n + 1, t =>
    if t.isOver k then t
    else match t.nextDue with
      | some due => awaitWithin cfg k n ({ t with now := max t.now due }.settle cfg)
      | none => t

/-- Lets time pass until a shutdown call is over. -/
def await (cfg : Setting σ ε) (t : Timed σ ε) (k : Nat) : Timed σ ε :=
  let t := t.settle cfg
  awaitWithin cfg k (t.stepBound cfg) t

/-- Offers an entry; the tasks do not run. -/
def send (cfg : Setting σ ε) (t : Timed σ ε) (e : ε) : Timed σ ε × Bool :=
  match t.perform? cfg (.send e) with
  | some t =>
    match t.trace with
    | (_, .accepted _) :: _ => (t, true)
    | _ => (t, false)
  | none => (t, false)

/-- Begins a shutdown call and gives its number; the tasks do not run. -/
def callShutdown (cfg : Setting σ ε) (t : Timed σ ε) : Timed σ ε × Nat :=
  ((t.perform? cfg .callShutdown).getD t, t.state.calls.length)

/-- When a shutdown call returned. -/
def returnedAt? (t : Timed σ ε) (k : Nat) : Option Nat :=
  t.trace.findSome? fun (at_, e) => match e with
    | .shutdownReturned call _ => if call = k then some at_ else none
    | _ => none

/-! ## What a trace shows -/

/-- The calls of a trace in chronological order; one that broke the sink is left out. `begun` is
when the call in progress began. -/
def callRecords (begun : Nat) : List (Nat × Event ε) → List CallRecord
  | [] => []
  | (now, .called _ _ _) :: rest => callRecords now rest
  | (now, .replied _ _ entries reply) :: rest =>
    match reply with
    | .stored => ⟨begun, now, entries.length, true⟩ :: callRecords begun rest
    | .refused _ => ⟨begun, now, entries.length, false⟩ :: callRecords begun rest
    | .broken => callRecords begun rest
  | _ :: rest => callRecords begun rest

def calls (t : Timed σ ε) : List CallRecord :=
  callRecords 0 t.trace.reverse

/-- How many calls of the sink have begun. -/
def callsBegun (t : Timed σ ε) : Nat :=
  t.trace.countP fun (_, e) => match e with
    | .called _ _ _ => true
    | _ => false

/-- The batches that the sink has stored, in order. -/
def delivered (t : Timed σ ε) : List (List ε) :=
  t.trace.reverse.filterMap fun (_, e) => match e with
    | .replied _ _ entries .stored => some entries
    | _ => none

/-! ## Pipelines of audit entries -/

/-- The plan that a configuration asks for. -/
def planOf (c : Config) : Plan Entry where
  queueSize := c.queueSize
  workers := c.workers
  threshold := c.eagerThreshold
  retry := ⟨c.retryDelay, c.maxRetries⟩
  redact := Redaction.entry

def settingOf (c : Config) (sink : Sink σ Entry) : Setting σ Entry :=
  ⟨planOf c, sink, c.flushInterval.millis⟩

/-- The log event of something that happened. -/
def logEvent? (retry : RetryPolicy) (t : Timed σ Entry) (now : Nat) :
    Event Entry → Option Log.Event
  | .rejectedFull e => some (.intakeFull e.url e.status)
  | .rejectedClosed e => some (.intakeClosed e.url e.status)
  | .bufferFull size => some (.bufferFull size)
  | .swapped resident => if resident = 0 then none else some (.swapResident resident)
  | .handoffFailed slot => some (.flusherGone slot.index)
  | .replied _ a entries reply => retry.logEvent? a entries.length reply
  | .failureNoticed => some .flusherFailed
  | .shutdownReturned k (some drained) =>
    some (.pipelineStopped drained (now - t.callStarts.getD k 0))
  | _ => none

/-- What the operators read of everything but the first `n` things that happened. -/
def logsAfter (c : Config) (t : Timed σ Entry) (n : Nat) : List Log.Event :=
  (t.trace.reverse.drop n).filterMap fun (now, e) =>
    t.logEvent? ⟨c.retryDelay, c.maxRetries⟩ now e

/-- What the operators read when a pipeline starts. -/
def startEvent (c : Config) : Log.Event :=
  .pipelineStarted c.queueSize c.workers c.batchSize c.flushInterval.seconds

/-- What the operators read, from the start of the pipeline. -/
def logs (c : Config) (t : Timed σ Entry) : List Log.Event :=
  startEvent c :: t.logsAfter c 0

end Timed
end AuditTrail.Pipeline
