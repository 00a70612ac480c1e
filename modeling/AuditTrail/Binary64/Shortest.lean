import AuditTrail.Binary64

/-!
# Shortest decimal digits

The fewest decimal digits that read back as a given binary number, and of those the nearest to it.
-/

namespace AuditTrail.Binary64

/-- The digits `digits` with the point after the first one, times `10 ^ exponent`. -/
structure Decimal where
  digits : List Char
  exponent : Int
  deriving DecidableEq, Repr

/-- The bounds of the reals that round to `± mantissa * 2 ^ exponent`, in quarters of
`2 ^ exponent`. Below a power of two the next number is half as far away. -/
def quarterBounds (x : Binary64) : Nat × Nat :=
  (4 * x.mantissa - (if x.mantissa = leastNormal ∧ x.exponent ≠ -1074 then 1 else 2),
    4 * x.mantissa + 2)

/-- The point `d * 10 ^ k` against `quarters * 2 ^ (exponent - 2)`, both multiplied by the powers
that make them whole numbers. -/
def gridPoint (x : Binary64) (k : Int) (d quarters : Nat) : Nat × Nat :=
  let e := x.exponent - 2
  (d * Nat.pow 10 k.toNat * Nat.pow 2 (-e).toNat,
    quarters * Nat.pow 2 e.toNat * Nat.pow 10 (-k).toNat)

/-- Whether `d * 10 ^ k` rounds to `x`: the bounds themselves do if the mantissa is even. -/
def readsBack (x : Binary64) (k : Int) (d : Nat) : Bool :=
  let (low, high) := x.quarterBounds
  let (a, b) := x.gridPoint k d low
  let (a', b') := x.gridPoint k d high
  if x.mantissa % 2 = 0 then b ≤ a && a' ≤ b' else b < a && a' < b'

/-- The nearest of the two multiples of `10 ^ k` around `x` that read back as `x`; of two equally
near ones the even multiple. -/
def candidate? (x : Binary64) (k : Int) : Option Nat :=
  let (unit, value) := x.gridPoint k 1 (4 * x.mantissa)
  let below := value / unit
  let twice := 2 * (value % unit)
  let belowFirst := twice < unit || (twice == unit && below % 2 == 0)
  match x.readsBack k below, x.readsBack k (below + 1) with
  | true, true => some (if belowFirst then below else below + 1)
  | true, false => some below
  | false, true => some (below + 1)
  | false, false => none

/-- The exponent of the first decimal digit of `x`, at most one below the true one. -/
def leadingExponent (x : Binary64) : Int :=
  let (num, den) := x.ratio
  if den ≤ num then ((Nat.toDigits 10 (num / den)).length : Int) - 1
  else -((Nat.toDigits 10 (den / num)).length : Int)

/-- The first grid, from coarse to fine, with a point that reads back; `k` is the exponent of the
unit of the coarsest one. -/
def firstGrid (x : Binary64) (k : Int) : Nat → Nat × Int
  | 0 => (0, k)
  | grids + 1 =>
    match x.candidate? k with
    | some d => (d, k)
    | none => firstGrid x (k - 1) grids

def dropZeros (cs : List Char) : List Char :=
  (cs.reverse.dropWhile (· == '0')).reverse

/-- The shortest decimal of the magnitude. -/
def shortest (x : Binary64) : Decimal :=
  if x.isZero then ⟨['0'], 0⟩
  else
    let (d, k) := x.firstGrid (x.leadingExponent + 1) 20
    let digits := Nat.toDigits 10 d
    ⟨dropZeros digits, k + digits.length - 1⟩

end AuditTrail.Binary64
