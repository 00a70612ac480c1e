import AuditTrail.Word

/-!
# Numerals

Whole numbers written in ASCII digits: decimal ones, read into a bounded range, and the values of
hexadecimal digits.
-/

namespace AuditTrail.Text

def digitValue (c : Char) : Nat :=
  c.toNat - '0'.toNat

/-- The number that a digit string denotes. -/
def ofDigits (cs : List Char) : Nat :=
  cs.foldl (fun n c => 10 * n + digitValue c) 0

/-- The number of a non-empty string of digits, leading zeros included. -/
def digits? (cs : List Char) : Option Nat :=
  if !cs.isEmpty && cs.all Char.isDigit then some (ofDigits cs) else none

/-- A natural number below `bound`, written with an optional plus sign. -/
def natBelow? (bound : Nat) (s : String) : Option Nat :=
  let digits := match s.toList with
    | '+' :: cs => cs
    | cs => cs
  (digits? digits).filter (· < bound)

/-- An integer in `[-half, half)`, written with an optional sign. -/
def intWithin? (half : Nat) (s : String) : Option Int :=
  match s.toList with
  | '-' :: cs => ((digits? cs).filter (· ≤ half)).map fun n => -(n : Int)
  | '+' :: cs => ((digits? cs).filter (· < half)).map Int.ofNat
  | cs => ((digits? cs).filter (· < half)).map Int.ofNat

/-- A 64-bit natural number. -/
def word? (s : String) : Option Nat :=
  natBelow? Word.limit64 s

/-- The value of a hexadecimal digit. -/
def hexValue? (c : Char) : Option Nat :=
  if c.isDigit then some (digitValue c)
  else if 'a' ≤ c ∧ c ≤ 'f' then some (c.toNat - 'a'.toNat + 10)
  else if 'A' ≤ c ∧ c ≤ 'F' then some (c.toNat - 'A'.toNat + 10)
  else none

/-- The decimal digits of `n`, with zeros in front up to `width` of them. -/
def padded (width n : Nat) : List Char :=
  let digits := Nat.toDigits 10 n
  List.replicate (width - digits.length) '0' ++ digits

end AuditTrail.Text
