/-!
# Binary floating-point numbers

The finite numbers of the 64-bit binary format, held exactly as `± mantissa * 2 ^ exponent`.
`ofRatio?` rounds a quotient to the nearest of them, ties to even; sums of the other operations
reduce to it.
-/

namespace AuditTrail

namespace Binary64

/-- `2 ^ 53`, above every mantissa. -/
def mantissaLimit : Nat := 9007199254740992

/-- `2 ^ 52`, the least mantissa of 53 bits. -/
def leastNormal : Nat := 4503599627370496

end Binary64

open Binary64 in
/-- `± mantissa * 2 ^ exponent`, with the exponent as small as a 53-bit mantissa allows. -/
structure Binary64 where
  negative : Bool
  mantissa : Nat
  exponent : Int
  mantissa_lt : mantissa < mantissaLimit
  exponent_ge : -1074 ≤ exponent
  exponent_le : exponent ≤ 971
  normal : leastNormal ≤ mantissa ∨ exponent = -1074
  deriving DecidableEq

namespace Binary64

/-- Zero with a sign. -/
def zero (negative : Bool) : Binary64 where
  negative
  mantissa := 0
  exponent := -1074
  mantissa_lt := by decide
  exponent_ge := by decide
  exponent_le := by decide
  normal := .inr rfl

instance : Inhabited Binary64 := ⟨zero false⟩

def isZero (x : Binary64) : Bool :=
  x.mantissa == 0

/-- The other sign. -/
def neg (x : Binary64) : Binary64 :=
  { x with negative := !x.negative }

/-- `num / den` as a quotient of natural numbers, scaled by `2 ^ (-e)`. -/
def scaled (num den : Nat) (e : Int) : Nat × Nat :=
  if 0 ≤ e then (num, den * Nat.pow 2 e.toNat) else (num * Nat.pow 2 (-e).toNat, den)

/-- The natural number nearest to `num / den`; a half goes to the even neighbour. -/
def nearest (num den : Nat) : Nat :=
  let q := num / den
  let r := num % den
  if 2 * r < den then q
  else if den < 2 * r then q + 1
  else if q % 2 = 0 then q
  else q + 1

/-- The number with this mantissa and exponent, if the format holds it. -/
def make? (negative : Bool) (mantissa : Nat) (exponent : Int) : Option Binary64 :=
  if h : mantissa < mantissaLimit ∧ -1074 ≤ exponent ∧ exponent ≤ 971 ∧
      (leastNormal ≤ mantissa ∨ exponent = -1074) then
    some ⟨negative, mantissa, exponent, h.1, h.2.1, h.2.2.1, h.2.2.2⟩
  else none

/-- The exponent at which `num / den` has 53 bits before the point, or the least exponent. -/
def fittingExponent (num den : Nat) : Int :=
  let e : Int := (num.log2 : Int) - den.log2 - 52
  let (n, d) := scaled num den e
  max (-1074) (if n < d * leastNormal then e - 1 else e)

/-- The finite number nearest to `± num / den`, ties to even; `none` if the format overflows.
The denominator is positive. -/
def ofRatio? (negative : Bool) (num den : Nat) : Option Binary64 :=
  if num = 0 then some (zero negative)
  else
    let e := fittingExponent num den
    let (n, d) := scaled num den e
    let m := nearest n d
    if m = mantissaLimit then make? negative leastNormal (e + 1) else make? negative m e

/-- The magnitude as a quotient of natural numbers. -/
def ratio (x : Binary64) : Nat × Nat :=
  if 0 ≤ x.exponent then (x.mantissa * Nat.pow 2 x.exponent.toNat, 1)
  else (x.mantissa, Nat.pow 2 (-x.exponent).toNat)

/-- The rounded product. -/
def mul? (x y : Binary64) : Option Binary64 :=
  let (a, b) := x.ratio
  let (c, d) := y.ratio
  ofRatio? (x.negative != y.negative) (a * c) (b * d)

/-- The rounded quotient by a number other than zero. -/
def div? (x y : Binary64) : Option Binary64 :=
  let (a, b) := x.ratio
  let (c, d) := y.ratio
  ofRatio? (x.negative != y.negative) (a * d) (b * c)

/-- The number nearest to `10 ^ e`. -/
def tenPow? (e : Nat) : Option Binary64 :=
  ofRatio? false (Nat.pow 10 e) 1

/-- `x * 10 ^ e` in steps of one table entry `10 ^ 0, …, 10 ^ 308` each: a division for every
full 308 below zero, then one multiplication or division. Zero absorbs every exponent, any other
number overflows above 308. `steps` bounds the divisions that come first. -/
def scaleByTen? (x : Binary64) (e : Int) (steps : Nat) : Option Binary64 :=
  if e.natAbs ≤ 308 then
    (tenPow? e.natAbs).bind fun p => if 0 ≤ e then x.mul? p else x.div? p
  else if x.isZero then some x
  else if 0 ≤ e then none
  else match steps with
    | 0 => some x
    | steps + 1 =>
      (tenPow? 308).bind fun p => (x.div? p).bind fun y => scaleByTen? y (e + 308) steps

end Binary64
end AuditTrail
