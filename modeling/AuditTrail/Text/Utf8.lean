/-!
# UTF-8

Octet strings and the characters they spell. `decode?` accepts exactly the well-formed octet
strings; `decodeLossy` reads any octet string and puts U+FFFD where one is ill-formed.
-/

namespace AuditTrail

/-- An octet string: the content of a body, a header value or a file. -/
abbrev Bytes := List UInt8

namespace Utf8

/-- The octets of a character list. -/
def encodeChars (cs : List Char) : Bytes :=
  cs.flatMap String.utf8EncodeChar

/-- The octets of a text. -/
def encode (s : String) : Bytes :=
  encodeChars s.toList

def isTail (b : UInt8) : Bool :=
  0x80 ≤ b && b ≤ 0xBF

/-- Whether `b` may stand after the leading octet `a` of a longer sequence. Overlong forms,
surrogates and code points above U+10FFFF are refused here, at their second octet. -/
def follows (a b : UInt8) : Bool :=
  if a < 0xC2 then false
  else if a ≤ 0xDF then isTail b
  else if a = 0xE0 then 0xA0 ≤ b && b ≤ 0xBF
  else if a = 0xED then 0x80 ≤ b && b ≤ 0x9F
  else if a ≤ 0xEF then isTail b
  else if a = 0xF0 then 0x90 ≤ b && b ≤ 0xBF
  else if a ≤ 0xF3 then isTail b
  else if a = 0xF4 then 0x80 ≤ b && b ≤ 0x8F
  else false

def char2 (a b : UInt8) : Char :=
  Char.ofNat (a.toNat % 32 * 64 + b.toNat % 64)

def char3 (a b c : UInt8) : Char :=
  Char.ofNat ((a.toNat % 16 * 64 + b.toNat % 64) * 64 + c.toNat % 64)

def char4 (a b c d : UInt8) : Char :=
  Char.ofNat (((a.toNat % 8 * 64 + b.toNat % 64) * 64 + c.toNat % 64) * 64 + d.toNat % 64)

/-- The characters of a well-formed octet string. -/
def decodeChars? : Bytes → Option (List Char)
  | [] => some []
  | a :: s =>
    if a < 0x80 then (decodeChars? s).map (Char.ofUInt8 a :: ·)
    else match s with
      | [] => none
      | b :: s =>
        if !follows a b then none
        else if a < 0xE0 then (decodeChars? s).map (char2 a b :: ·)
        else match s with
          | [] => none
          | c :: s =>
            if !isTail c then none
            else if a < 0xF0 then (decodeChars? s).map (char3 a b c :: ·)
            else match s with
              | [] => none
              | d :: s => if isTail d then (decodeChars? s).map (char4 a b c d :: ·) else none

/-- The text of a well-formed octet string. -/
def decode? (s : Bytes) : Option String :=
  (decodeChars? s).map String.ofList

/-- U+FFFD, which stands for octets that spell no character. -/
def replacement : Char :=
  Char.ofNat 0xFFFD

/-- The characters of any octet string. The longest beginning of a sequence that cannot be
continued, or a single octet that begins none, becomes one U+FFFD. -/
def decodeLossyChars : Bytes → List Char
  | [] => []
  | a :: s =>
    if a < 0x80 then Char.ofUInt8 a :: decodeLossyChars s
    else match s with
      | [] => [replacement]
      | b :: s' =>
        if !follows a b then replacement :: decodeLossyChars (b :: s')
        else if a < 0xE0 then char2 a b :: decodeLossyChars s'
        else match s' with
          | [] => [replacement]
          | c :: s'' =>
            if !isTail c then replacement :: decodeLossyChars (c :: s'')
            else if a < 0xF0 then char3 a b c :: decodeLossyChars s''
            else match s'' with
              | [] => [replacement]
              | d :: s''' =>
                if isTail d then char4 a b c d :: decodeLossyChars s'''
                else replacement :: decodeLossyChars (d :: s''')

def decodeLossy (s : Bytes) : String :=
  String.ofList (decodeLossyChars s)

end Utf8
end AuditTrail
