import AuditTrail.Json.Basic
import AuditTrail.Json.Literal
import AuditTrail.Binary64.Shortest

/-!
# Writing JSON

The compact text of a value: no blanks, members in the order of their keys.
-/

namespace AuditTrail.Json

/-- The text of a binary fraction: the fewest digits that read back. Magnitudes from `10 ^ (-5)`
to below `10 ^ 16` are written with a point and at least one digit on both sides of it, all others
with a signed exponent. -/
def floatChars (x : Binary64) : List Char :=
  let d := x.shortest
  let n := d.digits.length
  let magnitude :=
    if 0 ≤ d.exponent ∧ d.exponent ≤ 15 then
      let before := d.exponent.toNat + 1
      if n ≤ before then d.digits ++ List.replicate (before - n) '0' ++ ['.', '0']
      else d.digits.take before ++ '.' :: d.digits.drop before
    else if -5 ≤ d.exponent ∧ d.exponent < 0 then
      '0' :: '.' :: List.replicate (-d.exponent - 1).toNat '0' ++ d.digits
    else
      let mantissa := match d.digits with
        | [c] => [c]
        | c :: cs => c :: '.' :: cs
        | [] => []
      let sign := if d.exponent < 0 then '-' else '+'
      mantissa ++ 'e' :: sign :: Nat.toDigits 10 d.exponent.natAbs
  if x.negative then '-' :: magnitude else magnitude

def integerChars (i : Int) : List Char :=
  if i < 0 then '-' :: Nat.toDigits 10 i.natAbs else Nat.toDigits 10 i.natAbs

def numberChars : Number → List Char
  | .integer i => integerChars i
  | .float x => floatChars x

/-- The items with commas between them. -/
def commaSeparated : List (List Char) → List Char
  | [] => []
  | [x] => x
  | x :: xs => x ++ ',' :: commaSeparated xs

mutual

/-- The compact text of a value. -/
def chars : Json → List Char
  | null => ['n', 'u', 'l', 'l']
  | bool true => ['t', 'r', 'u', 'e']
  | bool false => ['f', 'a', 'l', 's', 'e']
  | number n => numberChars n
  | string s => Literal.quoted s
  | array items => '[' :: commaSeparated (itemChars items) ++ [']']
  | object members => '\x7b' :: commaSeparated (memberChars members) ++ ['\x7d']

def itemChars : List Json → List (List Char)
  | [] => []
  | v :: vs => chars v :: itemChars vs

def memberChars : List (String × Json) → List (List Char)
  | [] => []
  | (k, v) :: rest => (Literal.quoted k ++ ':' :: chars v) :: memberChars rest

end

/-- The compact text of an object. -/
def objectChars (o : Object) : List Char :=
  chars (object o)

def render (v : Json) : String :=
  String.ofList (chars v)

/-- The octets of the compact text. -/
def encode (v : Json) : Bytes :=
  Utf8.encodeChars (chars v)

end AuditTrail.Json
