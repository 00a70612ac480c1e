import AuditTrail.Failure

/-!
# Log events

What the service tells its operators, as values; `line` gives each event its level, its message
and its fields.
-/

namespace AuditTrail.Log

inductive Level where
  | error
  | warn
  | info
  | debug
  | trace
  deriving DecidableEq, Repr

namespace Level

/-- The order of the levels, from the gravest. -/
def rank : Level → Nat
  | error => 1
  | warn => 2
  | info => 3
  | debug => 4
  | trace => 5

def name : Level → String
  | error => "ERROR"
  | warn => "WARN"
  | info => "INFO"
  | debug => "DEBUG"
  | trace => "TRACE"

end Level

inductive Event where
  | variableDeprecated (deprecated current : String)
  | pipelineStarted (queueSize workers batchSize flushSeconds : Nat)
  | intakeFull (path : String) (status : Nat)
  | intakeClosed (path : String) (status : Nat)
  | bufferFull (size : Nat)
  | flusherGone (slot : Nat)
  | flusherFailed
  | stored (entries attempt : Nat)
  | storeRetry (attempt entries retryMillis : Nat) (cause : Failure)
  | storeGivenUp (attempt entries : Nat) (cause : Failure)
  | swapResident (resident : Nat)
  | pipelineStopped (drained elapsedMillis : Nat)
  | lineSkipped (number : Nat)
  | requestFailed (cause : Failure)
  deriving Repr

/-- The value of a field. -/
inductive Value where
  | number (n : Nat)
  | text (s : String)
  deriving DecidableEq, Repr

/-- An event as it is written. -/
structure Line where
  level : Level
  message : String
  fields : List (String × Value)
  deriving Repr

/-- The names of the fields; the message is one of them. -/
def Line.fieldNames (l : Line) : List String :=
  "message" :: l.fields.map Prod.fst

def Event.line : Event → Line
  | variableDeprecated deprecated current =>
    ⟨.warn, "Environment variable '" ++ deprecated ++ "' is deprecated, use '" ++ current
      ++ "' instead", []⟩
  | pipelineStarted queueSize workers batchSize flushSeconds =>
    ⟨.info, "Audit log pipeline started",
      [("queue_size", .number queueSize), ("workers", .number workers),
        ("batch_size", .number batchSize), ("flush_interval_secs", .number flushSeconds)]⟩
  | intakeFull path status =>
    ⟨.warn, "Audit log channel full, dropping audit log entry",
      [("path", .text path), ("status", .number status)]⟩
  | intakeClosed path status =>
    ⟨.warn, "Audit log pipeline is shut down, dropping audit log entry",
      [("path", .text path), ("status", .number status)]⟩
  | bufferFull size => ⟨.warn, "Audit log buffer full", [("size", .number size)]⟩
  | flusherGone slot =>
    ⟨.error, "Audit log flusher is not running", [("slot", .number slot)]⟩
  | flusherFailed => ⟨.error, "Audit log flusher terminated abnormally", []⟩
  | stored entries attempt =>
    ⟨.debug, "Flushed audit log entries to sink",
      [("entries", .number entries), ("attempt", .number attempt)]⟩
  | storeRetry attempt entries retryMillis cause =>
    ⟨.error, "Failed to store audit log entries, retrying",
      [("attempt", .number attempt), ("entries", .number entries),
        ("retry_in_ms", .number retryMillis), ("error", .text cause.message)]⟩
  | storeGivenUp attempt entries cause =>
    ⟨.error, "Failed to store audit log entries, giving up",
      [("attempt", .number attempt), ("entries", .number entries),
        ("error", .text cause.message)]⟩
  | swapResident resident =>
    ⟨.debug, "Swapped into a buffer holding unflushed entries",
      [("resident", .number resident)]⟩
  | pipelineStopped drained elapsedMillis =>
    ⟨.info, "Audit log pipeline shut down",
      [("drained", .number drained), ("elapsed_ms", .number elapsedMillis)]⟩
  | lineSkipped number =>
    ⟨.debug, "Skipping malformed audit log line", [("line", .number number)]⟩
  | requestFailed cause => ⟨.error, "Request failed", [("error", .text cause.message)]⟩

/-- Whether the event is at least as grave as `level`. -/
def Event.isAtLeast (level : Level) (e : Event) : Bool :=
  e.line.level.rank ≤ level.rank

end AuditTrail.Log

namespace AuditTrail

/-- What a failed request leaves in the log: its cause, if the service is to blame. -/
def Failure.logEvents (f : Failure) : List Log.Event :=
  if f.isInternal then [.requestFailed f] else []

end AuditTrail
