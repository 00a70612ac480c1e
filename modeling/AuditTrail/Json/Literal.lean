import AuditTrail.Text.Numeral
import AuditTrail.Text.Utf8

/-!
# JSON strings

A string literal is cut out of the text first, as the octets between its quotation marks, and then
decoded. `unescape?` undoes `escape`.
-/

namespace AuditTrail.Json.Literal

/-- The octets up to the closing quotation mark and what follows it. An escaped octet never
closes; a control character is refused. -/
def split : Bytes → Option (Bytes × Bytes)
  | [] => none
  | b :: s =>
    if b = 0x22 then some ([], s)
    else if b = 0x5C then
      match s with
      | [] => none
      | c :: s => (split s).map fun (lit, rest) => (b :: c :: lit, rest)
    else if b < 0x20 then none
    else (split s).map fun (lit, rest) => (b :: lit, rest)

/-- The number of four hexadecimal digits. -/
def unit? (a b c d : Char) : Option Nat := do
  let a ← Text.hexValue? a
  let b ← Text.hexValue? b
  let c ← Text.hexValue? c
  let d ← Text.hexValue? d
  some (((a * 16 + b) * 16 + c) * 16 + d)

/-- The character that a backslash and one letter stand for. -/
def short? : Char → Option Char
  | '"' => some '"'
  | '\\' => some '\\'
  | '/' => some '/'
  | 'b' => some '\x08'
  | 'f' => some '\x0c'
  | 'n' => some '\n'
  | 'r' => some '\r'
  | 't' => some '\t'
  | _ => none

def isHighSurrogate (n : Nat) : Bool :=
  0xD800 ≤ n && n < 0xDC00

def isLowSurrogate (n : Nat) : Bool :=
  0xDC00 ≤ n && n < 0xE000

/-- The character of a surrogate pair. -/
def ofPair (high low : Nat) : Char :=
  Char.ofNat (0x10000 + (high - 0xD800) * 0x400 + (low - 0xDC00))

/-- The characters of a literal with its escapes resolved. A surrogate stands only in a pair of a
high and a low one. -/
def unescape? : List Char → Option (List Char)
  | [] => some []
  | '\\' :: 'u' :: a :: b :: c :: d :: s =>
    match unit? a b c d with
    | none => none
    | some n =>
      if isHighSurrogate n then
        match s with
        | '\\' :: 'u' :: a :: b :: c :: d :: s =>
          match unit? a b c d with
          | none => none
          | some m =>
            if isLowSurrogate m then (unescape? s).map (ofPair n m :: ·) else none
        | _ => none
      else if isLowSurrogate n then none
      else (unescape? s).map (Char.ofNat n :: ·)
  | '\\' :: e :: s =>
    match short? e with
    | none => none
    | some c => (unescape? s).map (c :: ·)
  | c :: s => if c = '\\' then none else (unescape? s).map (c :: ·)

/-- Whether every escape of a literal is complete. Neither the encoding of the other octets nor
the pairing of surrogates is looked at. -/
def escapesComplete : Bytes → Bool
  | [] => true
  | b :: s =>
    if b ≠ 0x5C then escapesComplete s
    else match s with
      | [] => false
      | e :: s =>
        if e ≠ 0x75 then (short? (Char.ofUInt8 e)).isSome && escapesComplete s
        else match s with
          | a :: b :: c :: d :: s =>
            (unit? (Char.ofUInt8 a) (Char.ofUInt8 b) (Char.ofUInt8 c) (Char.ofUInt8 d)).isSome
              && escapesComplete s
          | _ => false

/-- The text of the octets between the quotation marks. -/
def decode? (lit : Bytes) : Option String := do
  let cs ← Utf8.decodeChars? lit
  String.ofList <$> unescape? cs

/-- A text from after its opening quotation mark, and what follows the closing one. -/
def read (s : Bytes) : Option (String × Bytes) := do
  let (lit, rest) ← split s
  let text ← decode? lit
  some (text, rest)

/-- What follows a literal, from after its opening quotation mark. -/
def pass (s : Bytes) : Option Bytes := do
  let (lit, rest) ← split s
  if escapesComplete lit then some rest else none

def hexDigit (n : Nat) : Char :=
  Nat.digitChar n

/-- One character inside a literal. -/
def escapeChar (c : Char) : List Char :=
  match c with
  | '"' => ['\\', '"']
  | '\\' => ['\\', '\\']
  | '\x08' => ['\\', 'b']
  | '\x0c' => ['\\', 'f']
  | '\n' => ['\\', 'n']
  | '\r' => ['\\', 'r']
  | '\t' => ['\\', 't']
  | c =>
    if c.toNat < 0x20 then
      ['\\', 'u', '0', '0', hexDigit (c.toNat / 16), hexDigit (c.toNat % 16)]
    else [c]

def escape (cs : List Char) : List Char :=
  cs.flatMap escapeChar

/-- The literal of a text with its quotation marks. -/
def quoted (s : String) : List Char :=
  '"' :: escape s.toList ++ ['"']

end AuditTrail.Json.Literal
