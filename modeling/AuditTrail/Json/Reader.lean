import AuditTrail.Json.Literal
import AuditTrail.Json.Numeral

/-!
# Reading JSON

Readers take a text as octets and give back a value with the octets that follow it. Two grammars
share the combinators for brackets: `value` reads, with a bound on the nesting of containers, and
`skip` passes over a value that nobody asks for, without such a bound and without looking into its
strings and numbers.
-/

namespace AuditTrail.Json

/-- Reads an `α` at the front of a text and gives the rest. -/
abbrev Reader (α : Type) := Bytes → Option (α × Bytes)

def isBlank (b : UInt8) : Bool :=
  b == 0x20 || b == 0x0A || b == 0x0D || b == 0x09

def dropBlank (s : Bytes) : Bytes :=
  s.dropWhile isBlank

/-- Takes the given octets away. -/
def expect : Bytes → Bytes → Option Bytes
  | [], s => some s
  | _ :: _, [] => none
  | b :: word, c :: s => if b = c then expect word s else none

variable {α : Type}

/-- Items with commas between them up to the closing octet; at most `n` of them. -/
def separated (close : UInt8) (item : Reader α) : Nat → Reader (List α)
  | 0, _ => none
  | n + 1, s =>
    match item s with
    | none => none
    | some (x, s) =>
      match dropBlank s with
      | [] => none
      | b :: s =>
        if b = close then some ([x], s)
        else if b = 0x2C then
          (separated close item n s).map fun (xs, rest) => (x :: xs, rest)
        else none

/-- The items of a container from after its opening octet. Each item takes at least one octet, so
the length of the text bounds their number. -/
def bracketed (close : UInt8) (item : Reader α) : Reader (List α) := fun s =>
  match dropBlank s with
  | [] => none
  | b :: rest => if b = close then some ([], rest) else separated close item s.length s

/-- A key. -/
def key : Reader String := fun s =>
  match dropBlank s with
  | 0x22 :: s => Literal.read s
  | _ => none

/-- The colon after a key. -/
def colon (s : Bytes) : Option Bytes :=
  match dropBlank s with
  | 0x3A :: s => some s
  | _ => none

/-- A key, a colon and a value. -/
def member (value : Reader α) : Reader (String × α) := fun s => do
  let (k, s) ← key s
  let s ← colon s
  let (v, s) ← value s
  some ((k, v), s)

/-- A value whose containers nest at most `depth` deep. -/
def value : Nat → Reader Json
  | depth, s =>
    match dropBlank s with
    | [] => none
    | b :: rest =>
      match Char.ofUInt8 b with
      | '"' => (Literal.read rest).map fun (text, s) => (string text, s)
      | 'n' => (expect [0x75, 0x6C, 0x6C] rest).map fun s => (null, s)
      | 't' => (expect [0x72, 0x75, 0x65] rest).map fun s => (bool true, s)
      | 'f' => (expect [0x61, 0x6C, 0x73, 0x65] rest).map fun s => (bool false, s)
      | '[' =>
        match depth with
        | 0 => none
        | depth + 1 =>
          (bracketed 0x5D (value depth) rest).map fun (items, s) => (array items, s)
      | '\x7b' =>
        match depth with
        | 0 => none
        | depth + 1 =>
          (bracketed 0x7D (member (value depth)) rest).map fun (members, s) =>
            (object (Object.ofMembers members), s)
      | _ => do
        let (numeral, s) ← Numeral.read (b :: rest)
        let n ← numeral.toNumber?
        some (number n, s)

/-- Passes over a value whose containers nest at most `depth` deep. -/
def skipWithin : Nat → Reader Unit
  | depth, s =>
    match dropBlank s with
    | [] => none
    | b :: rest =>
      match Char.ofUInt8 b with
      | '"' => (Literal.pass rest).map fun s => ((), s)
      | 'n' => (expect [0x75, 0x6C, 0x6C] rest).map fun s => ((), s)
      | 't' => (expect [0x72, 0x75, 0x65] rest).map fun s => ((), s)
      | 'f' => (expect [0x61, 0x6C, 0x73, 0x65] rest).map fun s => ((), s)
      | '[' =>
        match depth with
        | 0 => none
        | depth + 1 =>
          (bracketed 0x5D (skipWithin depth) rest).map fun (_, s) => ((), s)
      | '\x7b' =>
        match depth with
        | 0 => none
        | depth + 1 =>
          let entry : Reader Unit := fun s => do
            let s ← match dropBlank s with
              | 0x22 :: s => Literal.pass s
              | _ => none
            let s ← colon s
            skipWithin depth s
          (bracketed 0x7D entry rest).map fun (_, s) => ((), s)
      | _ => (Numeral.read (b :: rest)).map fun (_, s) => ((), s)

/-- Passes over any value; a text holds fewer containers than octets. -/
def skip : Reader Unit := fun s =>
  skipWithin s.length s

/-- An object whose containers nest at most `depth` deep, itself included. -/
def objectWithin (depth : Nat) : Reader Object := fun s =>
  match value depth s with
  | some (object o, s) => some (o, s)
  | _ => none

/-- A text. -/
def text : Reader String := key

/-- A natural number below `bound`. -/
def natBelow (bound : Nat) : Reader Nat := fun s =>
  match value 0 s with
  | some (v, s) => (v.asNat? bound).map fun n => (n, s)
  | none => none

/-- The deepest nesting of containers that a text may have. -/
def maxDepth : Nat := 127

/-- The value that is the whole text, blanks around it apart. -/
def whole (reader : Reader α) (s : Bytes) : Option α :=
  match reader s with
  | some (x, s) => if (dropBlank s).isEmpty then some x else none
  | none => none

/-- The value of a text. -/
def parse? (s : Bytes) : Option Json :=
  whole (value maxDepth) s

end AuditTrail.Json
