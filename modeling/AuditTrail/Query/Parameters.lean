import AuditTrail.Entry.Basic
import AuditTrail.Failure
import AuditTrail.Text.Numeral
import AuditTrail.Time.Reader
import AuditTrail.Word

/-!
# Query parameters

The parameters of a query for entries, as texts, and the filter that they ask for. A missing and an
empty time or user count as the default, an unreadable one is refused; a limit or page that is
unreadable or out of range counts as the default.
-/

namespace AuditTrail.Query

open Time (Instant Span)

/-- The parameters as they come. -/
structure Parameters where
  start : Option String := none
  stop : Option String := none
  user : Option String := none
  limit : Option String := none
  page : Option String := none
  deriving DecidableEq, Repr

def defaultLimit : Nat := 100

def maxLimit : Nat := 500

/-- The longest window of a query for all users, in days. -/
def maxDays : Nat := 365

/-- The length of the default window, in seconds. -/
def defaultWindow : Nat := 24 * 3600

def maxSpan : Span :=
  maxDays * 86400 * Instant.nanosPerSecond

/-- The filter and the number of the page. -/
structure Resolved where
  filter : Filter
  page : Nat
  deriving DecidableEq, Repr

/-- A time, or the default for a missing or empty text. -/
def time (text : Option String) (name : String) (default : Instant) : Except Failure Instant :=
  match text with
  | none => .ok default
  | some s =>
    if s.isEmpty then .ok default
    else match Instant.strict? s with
      | some t => .ok t
      | none => .error (.validation ("invalid '" ++ name ++ "' time: " ++ s))

/-- A user, zero for a missing or empty text. -/
def user (text : Option String) : Except Failure Nat :=
  match text with
  | none => .ok 0
  | some s =>
    if s.isEmpty then .ok 0
    else match Text.word? s with
      | some n => .ok n
      | none => .error (.validation ("invalid 'uid': " ++ s))

/-- A number within bounds, or the default. -/
def bounded (text : Option String) (low high default : Nat) : Nat :=
  match text.bind Text.word? with
  | some n => if low ≤ n ∧ n ≤ high then n else default
  | none => default

/-- The entries before a page, at most as many as 64 bits count. -/
def offset (page limit : Nat) : Nat :=
  min ((page - 1) * limit) (Word.limit64 - 1)

/-- The filter that the parameters ask for at a time. -/
def resolve (p : Parameters) (now : Instant) : Except Failure Resolved := do
  let start ← time p.start "from" (now.minusSeconds defaultWindow)
  let stop ← time p.stop "to" now
  let userId ← user p.user
  if ¬ start ≤ stop then
    .error (.validation "'from' must be before 'to'")
  else if userId = 0 ∧ maxSpan < stop.since start then
    .error (.validation
      ("range must not exceed " ++ toString maxDays ++ " days without 'uid'"))
  else
    let limit := bounded p.limit 1 maxLimit defaultLimit
    let page := bounded p.page 1 (Word.limit64 - 1) 1
    .ok ⟨⟨start, stop, userId, limit, offset page limit⟩, page⟩

end AuditTrail.Query
