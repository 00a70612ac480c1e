import AuditTrail.Duration
import AuditTrail.Environment
import AuditTrail.Text.Numeral

/-!
# Configuration

The settings of the audit pipeline, as they are read from the environment, and which of them the
pipeline can run with.
-/

namespace AuditTrail

/-- The settings of the audit pipeline. -/
structure Config where
  queueSize : Nat
  workers : Nat
  batchSize : Nat
  flushInterval : Duration
  retryDelay : Duration
  maxRetries : Nat
  deriving DecidableEq, Repr

namespace Config

def default : Config where
  queueSize := 1000
  workers := 4
  batchSize := 100
  flushInterval := .ofSeconds 5
  retryDelay := .ofMillis 250
  maxRetries := 3

/-! ## Variables -/

def queueSizeVariable : Variable := ⟨"STAWBERRY_AUDIT_QUEUE_SIZE", "AUDIT_QUEUE_SIZE"⟩

def workersVariable : Variable := ⟨"STAWBERRY_AUDIT_WORKER_POOL", "AUDIT_WORKER_POOL"⟩

def batchSizeVariable : Variable := ⟨"STAWBERRY_AUDIT_BATCH_SIZE", "AUDIT_BATCH_SIZE"⟩

def flushIntervalVariable : Variable :=
  ⟨"STAWBERRY_AUDIT_FLUSH_INTERVAL_SECS", "AUDIT_FLUSH_INTERVAL_SECS"⟩

def retryDelayVariable : Variable := ⟨"STAWBERRY_AUDIT_RETRY_DELAY_MS", "AUDIT_RETRY_DELAY_MS"⟩

def allVariables : List Variable :=
  [queueSizeVariable, workersVariable, batchSizeVariable, flushIntervalVariable,
    retryDelayVariable]

/-- The settings that the environment gives, with the warnings in the order of the variables. -/
def ofEnvironment (env : Environment) : Config × List Log.Event :=
  let d := default
  let (queueSize, e₁) := env.readOr queueSizeVariable Text.word? d.queueSize
  let (workers, e₂) := env.readOr workersVariable Text.word? d.workers
  let (batchSize, e₃) := env.readOr batchSizeVariable Text.word? d.batchSize
  let (flushSeconds, e₄) := env.readOr flushIntervalVariable Text.word? d.flushInterval.seconds
  let (retryMillis, e₅) := env.readOr retryDelayVariable Text.word? d.retryDelay.millis
  ({ d with
      queueSize, workers, batchSize
      flushInterval := .ofSeconds flushSeconds
      retryDelay := .ofMillis retryMillis },
    e₁ ++ e₂ ++ e₃ ++ e₄ ++ e₅)

/-! ## Limits -/

/-- Why the pipeline cannot run with these settings. -/
def problem? (c : Config) : Option Failure :=
  if c.queueSize = 0 then some (.config "audit queue_size must be > 0")
  else if c.workers = 0 then some (.config "audit worker_pool_size must be > 0")
  else if c.flushInterval.isZero then some (.config "audit flush_interval must be > 0")
  else none

/-- The length of the active buffer above which it is handed over instead of growing further: nine
tenths of the queue size, rounded down. -/
def eagerThreshold (c : Config) : Nat :=
  c.queueSize * 9 / 10

end Config
end AuditTrail
