import AuditTrail.Word

/-!
# Durations

Delays and intervals in nanoseconds, up to the longest that 64-bit seconds hold.
-/

namespace AuditTrail

structure Duration where
  nanos : Nat
  deriving DecidableEq, Repr, Inhabited

namespace Duration

def nanosPerMilli : Nat := 1000000

def nanosPerSecond : Nat := 1000000000

def ofMillis (n : Nat) : Duration := ⟨n * nanosPerMilli⟩

def ofSeconds (n : Nat) : Duration := ⟨n * nanosPerSecond⟩

/-- The longest duration. -/
def longest : Duration := ⟨Word.limit64 * nanosPerSecond - 1⟩

/-- Twice as long, at most the longest. -/
def doubled (d : Duration) : Duration :=
  ⟨min (2 * d.nanos) longest.nanos⟩

def isZero (d : Duration) : Bool :=
  d.nanos == 0

/-- Whole seconds. -/
def seconds (d : Duration) : Nat :=
  d.nanos / nanosPerSecond

/-- Whole milliseconds. -/
def millis (d : Duration) : Nat :=
  d.nanos / nanosPerMilli

/-- Whole milliseconds that a clock ticking in milliseconds needs to cover the duration. -/
def millisUp (d : Duration) : Nat :=
  (d.nanos + (nanosPerMilli - 1)) / nanosPerMilli

/-- The longest time for which a task sleeps at once, in milliseconds: thirty years of 365 days. -/
def longestSleepMillis : Nat := 30 * 365 * 24 * 60 * 60 * 1000

/-- The milliseconds after which a task that is to sleep for some time wakes up. -/
def sleepMillis (d : Duration) : Nat :=
  min d.millisUp longestSleepMillis

end Duration
end AuditTrail
