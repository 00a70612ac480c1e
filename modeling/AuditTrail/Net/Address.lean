import AuditTrail.Text.Numeral
import AuditTrail.Word

/-!
# Network addresses

Internet addresses of both versions with their texts, and endpoints. An address of version 6 is
written with its first longest run of two or more zero groups left out.
-/

namespace AuditTrail.Net

/-- An address of version 4. -/
structure V4 where
  a : UInt8
  b : UInt8
  c : UInt8
  d : UInt8
  deriving DecidableEq, Repr

/-- An address of version 6. -/
structure V6 where
  groups : Vector UInt16 8
  deriving DecidableEq, Repr

inductive Address where
  | v4 (address : V4)
  | v6 (address : V6)
  deriving DecidableEq, Repr

/-- An address with a port. -/
structure Endpoint where
  address : Address
  port : Nat
  deriving DecidableEq, Repr

/-! ## Writing -/

namespace V4

def chars (x : V4) : List Char :=
  Nat.toDigits 10 x.a.toNat ++ '.' :: Nat.toDigits 10 x.b.toNat ++ '.' :: Nat.toDigits 10 x.c.toNat
    ++ '.' :: Nat.toDigits 10 x.d.toNat

end V4

namespace V6

/-- The address of version 4 that `::ffff:a.b.c.d` carries. -/
def mapped? (x : V6) : Option V4 :=
  match x.groups.toList with
  | [0, 0, 0, 0, 0, 0xFFFF, g, h] =>
    some ⟨(g >>> 8).toUInt8, g.toUInt8, (h >>> 8).toUInt8, h.toUInt8⟩
  | _ => none

/-- The number of zero groups at the front. -/
def zeros : List UInt16 → Nat
  | g :: gs => if g = 0 then zeros gs + 1 else 0
  | [] => 0

/-- The start and length of the first longest run of zero groups in `gs`, the first group of which
has the index `i`. -/
def longestZeros (i : Nat) : List UInt16 → Nat × Nat
  | [] => (i, 0)
  | g :: gs =>
    let (start, length) := longestZeros (i + 1) gs
    let here := zeros (g :: gs)
    if length ≤ here then (i, here) else (start, length)

def groupChars (gs : List UInt16) : List Char :=
  [':'].intercalate (gs.map fun g => Nat.toDigits 16 g.toNat)

def chars (x : V6) : List Char :=
  match x.mapped? with
  | some v4 => ':' :: ':' :: 'f' :: 'f' :: 'f' :: 'f' :: ':' :: v4.chars
  | none =>
    let gs := x.groups.toList
    let (start, length) := longestZeros 0 gs
    if length < 2 then groupChars gs
    else groupChars (gs.take start) ++ ':' :: ':' :: groupChars (gs.drop (start + length))

end V6

namespace Address

def chars : Address → List Char
  | v4 x => x.chars
  | v6 x => x.chars

def render (x : Address) : String :=
  String.ofList x.chars

/-- The address of version 4 in place of one of version 6 that carries it. -/
def normalized : Address → Address
  | v4 x => v4 x
  | v6 x =>
    match x.mapped? with
    | some y => v4 y
    | none => v6 x

def isV4 : Address → Bool
  | v4 _ => true
  | v6 _ => false

end Address

/-! ## Reading -/

/-- Reads an `α` at the front of a text and gives the rest. -/
abbrev Scanner (α : Type) := List Char → Option (α × List Char)

namespace Scanner

def char (c : Char) (cs : List Char) : Option (List Char) :=
  match cs with
  | d :: rest => if c = d then some rest else none
  | [] => none

/-- An octet in decimal digits without a leading zero. -/
def octet : Scanner UInt8 := fun cs =>
  let digits := cs.takeWhile Char.isDigit
  let n := Text.ofDigits digits
  if digits.isEmpty || 3 < digits.length || 255 < n then none
  else if digits.head? = some '0' && 1 < digits.length then none
  else some (n.toUInt8, cs.drop digits.length)

def v4 : Scanner V4 := fun cs => do
  let (a, cs) ← octet cs
  let cs ← char '.' cs
  let (b, cs) ← octet cs
  let cs ← char '.' cs
  let (c, cs) ← octet cs
  let cs ← char '.' cs
  let (d, cs) ← octet cs
  some (⟨a, b, c, d⟩, cs)

/-- A group of one to four hexadecimal digits. -/
def group : Scanner UInt16 := fun cs =>
  let digits := (cs.map Text.hexValue?).takeWhile Option.isSome
  if digits.isEmpty || 4 < digits.length then none
  else
    let value := digits.foldl (fun n (d : Option Nat) => 16 * n + d.getD 0) 0
    some (value.toUInt16, cs.drop digits.length)

/-- Groups with colons between them, as many as there are up to `n`. An address of version 4 may
stand for the last two of them, and ends them; the flag tells whether one does. -/
def groups : Nat → (first : Bool) → List Char → (List UInt16 × Bool) × List Char
  | 0, _, cs => (([], false), cs)
  | n + 1, first, cs =>
    match if first then some cs else char ':' cs with
    | none => (([], false), cs)
    | some rest =>
      match if n = 0 then none else v4 rest with
      | some (x, rest) =>
        let high := x.a.toUInt16 <<< 8 ||| x.b.toUInt16
        let low := x.c.toUInt16 <<< 8 ||| x.d.toUInt16
        (([high, low], true), rest)
      | none =>
        match group rest with
        | none => (([], false), cs)
        | some (g, rest) =>
          let ((gs, embedded), rest) := groups n false rest
          ((g :: gs, embedded), rest)

def ofGroups? (gs : List UInt16) : Option V6 :=
  if h : gs.toArray.size = 8 then some ⟨⟨gs.toArray, h⟩⟩ else none

/-- Eight groups, or fewer with `::` in the place of the missing ones, which are zero. -/
def v6 : Scanner V6 := fun cs =>
  let ((head, embedded), rest) := groups 8 true cs
  if head.length = 8 then (ofGroups? head).map fun x => (x, rest)
  else if embedded then none
  else do
    let rest ← char ':' rest
    let rest ← char ':' rest
    let ((tail, _), rest) := groups (7 - head.length) true rest
    let x ← ofGroups? (head ++ List.replicate (8 - head.length - tail.length) 0 ++ tail)
    some (x, rest)

/-- A decimal number below `bound`. -/
def number (bound : Nat) : Scanner Nat := fun cs =>
  let digits := cs.takeWhile Char.isDigit
  let n := Text.ofDigits digits
  if digits.isEmpty || bound ≤ n then none else some (n, cs.drop digits.length)

end Scanner

/-- The address that a text denotes. -/
def Address.parse? (s : String) : Option Address :=
  match Scanner.v4 s.toList with
  | some (x, []) => some (.v4 x)
  | some _ => none
  | none =>
    match Scanner.v6 s.toList with
    | some (x, []) => some (.v6 x)
    | _ => none

open Scanner in
/-- The endpoint that a text denotes: `a.b.c.d:port` or `[v6]:port`, where the number of a zone may
follow the address after a percent sign. -/
def Endpoint.parse? (s : String) : Option Endpoint :=
  match s.toList with
  | '[' :: cs => do
    let (x, cs) ← v6 cs
    let cs := match cs with
      | '%' :: zone =>
        match number Word.limit32 zone with
        | some (_, rest) => rest
        | none => cs
      | cs => cs
    let cs ← char ']' cs
    let cs ← char ':' cs
    let (port, cs) ← number Word.limit16 cs
    if cs.isEmpty then some ⟨.v6 x, port⟩ else none
  | cs => do
    let (x, cs) ← v4 cs
    let cs ← char ':' cs
    let (port, cs) ← number Word.limit16 cs
    if cs.isEmpty then some ⟨.v4 x, port⟩ else none

end AuditTrail.Net
