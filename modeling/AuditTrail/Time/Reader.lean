import AuditTrail.Time.Instant
import AuditTrail.Text.Blank

/-!
# Reading instants

Two grammars for the same fields. `strict?` wants every field in its full width with single
separators; `relaxed?` allows shorter fields and blanks between them and signed years of any
length. Both end in `Fields.instant?`, which checks the ranges and takes the offset away.
-/

namespace AuditTrail.Time

/-- A date and a time of day as written, with the offset from universal time in seconds. -/
structure Fields where
  year : Int
  month : Nat
  day : Nat
  hour : Nat
  minute : Nat
  second : Nat
  nanos : Nat
  offset : Int
  deriving DecidableEq, Repr

namespace Fields

/-- The instant that the fields denote. Second 60 is a leap second. -/
def instant? (f : Fields) : Option Instant :=
  let date : Date := ⟨f.year, f.month, f.day⟩
  if date.isValid && f.hour < 24 && f.minute < 60 && f.second ≤ 60 && f.offset.natAbs < 86400 then
    let leap := f.second = 60
    let second := if leap then 59 else f.second
    let wallSecond := date.number * Instant.secondsPerDay + f.hour * 3600 + f.minute * 60 + second
    let t : Instant :=
      ⟨wallSecond - f.offset, if leap then f.nanos + Instant.nanosPerSecond else f.nanos⟩
    if t.inRange then some t else none
  else none

end Fields

/-- Reads an `α` at the front of a text and gives the rest. -/
abbrev Scanner (α : Type) := List Char → Option (α × List Char)

namespace Scanner

/-- At least one digit, and at most `most` of them. -/
def digits (most : Nat) : Scanner (List Char) := fun cs =>
  let ds := (cs.take most).takeWhile Char.isDigit
  if ds.isEmpty then none else some (ds, cs.drop ds.length)

/-- A number in at most `most` digits. -/
def short (most : Nat) : Scanner Nat := fun cs =>
  (digits most cs).map fun (ds, rest) => (Text.ofDigits ds, rest)

/-- A number in exactly `width` digits. -/
def fixed (width : Nat) : Scanner Nat := fun cs =>
  match digits width cs with
  | some (ds, rest) => if ds.length = width then some (Text.ofDigits ds, rest) else none
  | none => none

/-- One given character. -/
def char (c : Char) (cs : List Char) : Option (List Char) :=
  match cs with
  | d :: rest => if c = d then some rest else none
  | [] => none

/-- The mark between a date and a time. -/
def dateEnd : List Char → Option (List Char)
  | c :: rest => if c = 'T' || c = 't' || c = ' ' then some rest else none
  | [] => none

/-- An optional fraction of a second, in nanoseconds; digits after the ninth are passed over. -/
def fraction : Scanner Nat := fun cs =>
  match cs with
  | '.' :: rest =>
    (digits 9 rest).map fun (ds, rest) =>
      (Text.ofDigits ds * Nat.pow 10 (9 - ds.length), rest.dropWhile Char.isDigit)
  | cs => some (0, cs)

/-- U+2212, the minus sign. -/
def minusSign : Char :=
  Char.ofNat 0x2212

/-- An offset: `Z`, or a sign, two digits of hours, what `separator` takes away, and two digits of
minutes below 60. -/
def offset (separator : List Char → Option (List Char)) : Scanner Int := fun cs =>
  match cs with
  | [] => none
  | c :: cs =>
    if c = 'Z' || c = 'z' then some (0, cs)
    else if c = '+' || c = '-' || c = minusSign then do
      let (hours, cs) ← fixed 2 cs
      let cs ← separator cs
      let (minutes, cs) ← fixed 2 cs
      let seconds : Int := hours * 3600 + minutes * 60
      if minutes < 60 then some (if c = '+' then seconds else -seconds, cs) else none
    else none

/-- A year: signed in any number of digits, or in at most four. Years outside 32 bits are
refused. -/
def relaxedYear : Scanner Int := fun cs =>
  match cs with
  | '-' :: rest => (short rest.length rest).map fun (n, rest) => (-(n : Int), rest)
  | '+' :: rest => (short rest.length rest).map fun (n, rest) => ((n : Int), rest)
  | cs => (short 4 cs).map fun (n, rest) => ((n : Int), rest)

/-- A number in one or two digits after blanks. -/
def relaxedField : Scanner Nat := fun cs =>
  short 2 (Text.dropBlank cs)

/-- A separator after blanks. -/
def relaxedChar (c : Char) (cs : List Char) : Option (List Char) :=
  char c (Text.dropBlank cs)

/-- An offset, or the word UTC in any case, after blanks. -/
def relaxedOffset : Scanner Int := fun cs =>
  let cs := Text.dropBlank cs
  if (cs.take 3).map Char.toUpper = ['U', 'T', 'C'] then some (0, cs.drop 3)
  else offset (fun cs => some (cs.dropWhile fun c => c = ':' || Text.isBlank c)) cs

end Scanner

namespace Instant

open Scanner

/-- Reads `YYYY-MM-DD`, one of `T`, `t` and a space, `HH:MM:SS` with an optional fraction, and
`Z` or an offset `±HH:MM`. -/
def strict? (s : String) : Option Instant := do
  let (year, cs) ← fixed 4 s.toList
  let cs ← char '-' cs
  let (month, cs) ← fixed 2 cs
  let cs ← char '-' cs
  let (day, cs) ← fixed 2 cs
  let cs ← dateEnd cs
  let (hour, cs) ← fixed 2 cs
  let cs ← char ':' cs
  let (minute, cs) ← fixed 2 cs
  let cs ← char ':' cs
  let (second, cs) ← fixed 2 cs
  let (nanos, cs) ← fraction cs
  let (offset, cs) ← offset (char ':') cs
  if cs.isEmpty then
    Fields.instant? ⟨year, month, day, hour, minute, second, nanos, offset⟩
  else none

/-- Reads the same fields in at least one digit each, with blanks before every number and
separator and before and after the offset. -/
def relaxed? (s : String) : Option Instant := do
  let (year, cs) ← relaxedYear (Text.dropBlank s.toList)
  let cs ← relaxedChar '-' cs
  let (month, cs) ← relaxedField cs
  let cs ← relaxedChar '-' cs
  let (day, cs) ← relaxedField cs
  let cs ← dateEnd cs
  let (hour, cs) ← relaxedField cs
  let cs ← relaxedChar ':' cs
  let (minute, cs) ← relaxedField cs
  let cs ← relaxedChar ':' cs
  let (second, cs) ← relaxedField cs
  let (nanos, cs) ← fraction cs
  let (offset, cs) ← relaxedOffset cs
  if (Text.dropBlank cs).isEmpty then
    Fields.instant? ⟨year, month, day, hour, minute, second, nanos, offset⟩
  else none

end Instant
end AuditTrail.Time
