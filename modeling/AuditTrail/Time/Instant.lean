import AuditTrail.Time.Calendar
import AuditTrail.Text.Numeral

/-!
# Instants

Points of universal time to the nanosecond. A leap second is the tail of the second before it:
its nanoseconds run from `10 ^ 9` on, so that instants are ordered by second and then by
nanosecond.
-/

namespace AuditTrail.Time

/-- The second counted from 1970-01-01T00:00:00Z and the nanoseconds in it. -/
structure Instant where
  second : Int
  nanos : Nat
  deriving DecidableEq, Repr, Inhabited

/-- A span of time in nanoseconds. -/
abbrev Span := Int

namespace Instant

def nanosPerSecond : Nat := 1000000000

def secondsPerDay : Int := 86400

/-- The number of the day. -/
def day (t : Instant) : Int :=
  t.second / secondsPerDay

def secondOfDay (t : Instant) : Int :=
  t.second % secondsPerDay

def isLeap (t : Instant) : Bool :=
  nanosPerSecond ≤ t.nanos

/-- Whether the calendar holds the day of `t`. -/
def inRange (t : Instant) : Bool :=
  let year := (Date.ofNumber t.day).year
  Date.minYear ≤ year && year ≤ Date.maxYear

/-- The instants that can be written: in the range of the calendar, and a leap second only at the
end of a minute. -/
def isValid (t : Instant) : Bool :=
  t.inRange && t.nanos < 2 * nanosPerSecond && (!t.isLeap || t.second % 60 == 59)

def le (t u : Instant) : Bool :=
  t.second < u.second || (t.second == u.second && t.nanos ≤ u.nanos)

instance : LE Instant := ⟨fun t u => t.le u = true⟩

instance (t u : Instant) : Decidable (t ≤ u) :=
  inferInstanceAs (Decidable (t.le u = true))

/-- The span from `u` to `t`. Between two times of day a leap second counts when it lies strictly
before the later one. -/
def since (t u : Instant) : Span :=
  let leap : Int :=
    if u.secondOfDay < t.secondOfDay then (if u.isLeap then 1 else 0)
    else if t.secondOfDay < u.secondOfDay then (if t.isLeap then -1 else 0)
    else 0
  (t.second - u.second + leap) * nanosPerSecond + (t.nanos - u.nanos)

/-- The instant a positive number of whole seconds before. Going back from a leap second counts
it as the first second of the next minute. -/
def minusSeconds (t : Instant) (n : Nat) : Instant :=
  if t.isLeap then ⟨t.second + 1 - n, t.nanos - nanosPerSecond⟩ else ⟨t.second - n, t.nanos⟩

/-- The year, in four digits, or signed where four digits do not hold it. -/
def yearChars (year : Int) : List Char :=
  if 0 ≤ year ∧ year ≤ 9999 then Text.padded 4 year.toNat
  else (if year < 0 then '-' else '+') :: Text.padded 4 year.natAbs

/-- The fraction of a second in three, six or nine digits, the fewest that hold it, or nothing. -/
def fractionChars (nanos : Nat) : List Char :=
  if nanos = 0 then []
  else if nanos % 1000000 = 0 then '.' :: Text.padded 3 (nanos / 1000000)
  else if nanos % 1000 = 0 then '.' :: Text.padded 6 (nanos / 1000)
  else '.' :: Text.padded 9 nanos

/-- The text `YYYY-MM-DDTHH:MM:SS[.fraction]Z`; a leap second has the number 60. -/
def chars (t : Instant) : List Char :=
  let date := Date.ofNumber t.day
  let s := t.secondOfDay.toNat
  let leap := if t.isLeap then 1 else 0
  yearChars date.year ++ '-' :: Text.padded 2 date.month ++ '-' :: Text.padded 2 date.day
    ++ 'T' :: Text.padded 2 (s / 3600) ++ ':' :: Text.padded 2 (s / 60 % 60)
    ++ ':' :: Text.padded 2 (s % 60 + leap)
    ++ fractionChars (t.nanos - leap * nanosPerSecond) ++ ['Z']

def render (t : Instant) : String :=
  String.ofList t.chars

end Instant
end AuditTrail.Time
