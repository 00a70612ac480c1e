import AuditTrail.Json.Basic
import AuditTrail.Text.Utf8
import AuditTrail.Word

/-!
# JSON numerals

A numeral is read as its parts, and the parts denote a number. A numeral without fraction and
exponent that fits 64 bits is that integer; every other one is a binary fraction computed from its
leading 64-bit significand and a power of ten, in the steps of `Binary64.scaleByTen?`.
-/

namespace AuditTrail.Json

/-- The exponent of a numeral as written. -/
structure Exponent where
  negative : Bool
  digits : List Nat
  deriving DecidableEq, Repr

/-- The parts of a numeral. -/
structure Numeral where
  negative : Bool
  whole : List Nat
  fraction : Option (List Nat)
  exponent : Option Exponent
  deriving DecidableEq, Repr

namespace Numeral

def isDigit (b : UInt8) : Bool :=
  0x30 ≤ b && b ≤ 0x39

/-- The digits that a text begins with, and the rest. -/
def spanDigits (s : Bytes) : List Nat × Bytes :=
  ((s.takeWhile isDigit).map fun b => b.toNat - 0x30, s.dropWhile isDigit)

/-- The same with at least one digit. -/
def someDigits? (s : Bytes) : Option (List Nat × Bytes) :=
  let (digits, rest) := spanDigits s
  if digits.isEmpty then none else some (digits, rest)

/-- A whole part: a single zero, or digits that begin with another one. -/
def readWhole (s : Bytes) : Option (List Nat × Bytes) :=
  match someDigits? s with
  | some (0 :: _ :: _, _) => none
  | r => r

def readFraction (s : Bytes) : Option (Option (List Nat) × Bytes) :=
  match s with
  | 0x2E :: s => (someDigits? s).map fun (digits, rest) => (some digits, rest)
  | s => some (none, s)

def readExponent (s : Bytes) : Option (Option Exponent × Bytes) :=
  match s with
  | [] => some (none, [])
  | b :: r =>
    if b = 0x65 ∨ b = 0x45 then
      let (negative, r) := match r with
        | 0x2D :: r => (true, r)
        | 0x2B :: r => (false, r)
        | r => (false, r)
      (someDigits? r).map fun (digits, rest) => (some ⟨negative, digits⟩, rest)
    else some (none, s)

/-- The numeral that a text begins with, and the rest. -/
def read (s : Bytes) : Option (Numeral × Bytes) := do
  let (negative, s) := match s with
    | 0x2D :: s => (true, s)
    | s => (false, s)
  let (whole, s) ← readWhole s
  let (fraction, s) ← readFraction s
  let (exponent, s) ← readExponent s
  some (⟨negative, whole, fraction, exponent⟩, s)

/-- The value of a digit string continued from `start`, up to the first digit that would take it
to `bound` or above, with the number of digits taken. -/
def takeBelow (bound : Nat) (start : Nat) : List Nat → Nat × Nat
  | [] => (start, 0)
  | d :: ds =>
    if start * 10 + d < bound then
      let (value, taken) := takeBelow bound (start * 10 + d) ds
      (value, taken + 1)
    else (start, 0)

/-- The value of a digit string. -/
def valueOf (ds : List Nat) : Nat :=
  ds.foldl (fun n d => n * 10 + d) 0

/-- The 64-bit significand, and the power of ten that the digits dropped and the digits taken
after the point call for. Each part stops at the digit that does not fit. -/
def significand (n : Numeral) : Nat × Int :=
  let (whole, taken) := takeBelow Word.limit64 0 n.whole
  let (value, behind) := takeBelow Word.limit64 whole (n.fraction.getD [])
  (value, ((n.whole.length - taken : Nat) : Int) - behind)

/-- The binary fraction of a numeral, `none` if it overflows. A written exponent of more than 31
bits is out of range for every significand but zero, unless it is negative. -/
def toFloat? (n : Numeral) : Option Binary64 := do
  let (value, shift) := n.significand
  let magnitude ← match n.exponent with
    | some e =>
      let written := valueOf e.digits
      if written < Word.limit31 then
        let x ← Binary64.ofRatio? false value 1
        x.scaleByTen? (if e.negative then shift - written else shift + written) 8
      else if value ≠ 0 ∧ !e.negative then none
      else some (Binary64.zero false)
    | none =>
      let x ← Binary64.ofRatio? false value 1
      x.scaleByTen? shift 8
  some (if n.negative then magnitude.neg else magnitude)

/-- The integer of a numeral without fraction and exponent, if 64 bits hold it. A negative zero is
not an integer. -/
def toInteger? (n : Numeral) : Option Int :=
  if n.fraction.isSome ∨ n.exponent.isSome then none
  else
    let value := valueOf n.whole
    if n.negative then if 0 < value ∧ value ≤ Word.limit63 then some (-value) else none
    else if value < Word.limit64 then some value
    else none

/-- The number that a numeral denotes. -/
def toNumber? (n : Numeral) : Option Number :=
  match n.toInteger? with
  | some i => some (.integer i)
  | none => n.toFloat?.map .float

end Numeral
end AuditTrail.Json
