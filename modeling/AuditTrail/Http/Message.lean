import AuditTrail.Text.Blank
import AuditTrail.Text.Utf8
import AuditTrail.Word

/-!
# Parts of a request head

Methods, header fields and request targets, each with the texts that are legal for it.
-/

namespace AuditTrail.Http

/-- Whether an octet may stand in a method or the name of a header field. -/
def isTokenByte (b : UInt8) : Bool :=
  let c := Char.ofUInt8 b
  c.isAlphanum || "!#$%&'*+-.^_|~\x60".toList.contains c

/-- A request method. Methods are compared by case. -/
structure Method where
  name : String
  deriving DecidableEq, Repr

namespace Method

def get : Method := ⟨"GET"⟩

def head : Method := ⟨"HEAD"⟩

def ofBytes? (s : Bytes) : Option Method :=
  if !s.isEmpty && s.all isTokenByte then (Utf8.decode? s).map Method.mk else none

/-- Whether requests of this method are audited: all but the reading ones. -/
def isAudited (m : Method) : Bool :=
  m ≠ get && m ≠ head

end Method

/-- The name of a header field, in lower case. -/
structure FieldName where
  text : String
  deriving DecidableEq, Repr

def FieldName.ofString? (s : String) : Option FieldName :=
  let bytes := Utf8.encode s
  if !bytes.isEmpty && bytes.length < Word.limit16 && bytes.all isTokenByte then
    some ⟨String.ofList (s.toList.map Char.toLower)⟩
  else none

/-- The value of a header field. -/
structure FieldValue where
  bytes : Bytes
  deriving DecidableEq, Repr

namespace FieldValue

/-- Control characters other than the tab are refused. -/
def ofBytes? (s : Bytes) : Option FieldValue :=
  if s.all fun b => (0x20 ≤ b && b != 0x7F) || b == 0x09 then some ⟨s⟩ else none

/-- The text of a value of visible ASCII characters, blanks and tabs. -/
def text? (v : FieldValue) : Option (List Char) :=
  if v.bytes.all fun b => (0x20 ≤ b && b < 0x7F) || b == 0x09 then
    some (v.bytes.map Char.ofUInt8)
  else none

end FieldValue

/-- The header fields of a request, in order. -/
abbrev Headers := List (FieldName × FieldValue)

/-- The first value under a name. -/
def Headers.first? (h : Headers) (name : String) : Option FieldValue :=
  (h.find? (·.1.text == name)).map Prod.snd

/-- What a request asks for: the path, which may be empty or `*`, and the query. -/
structure Target where
  path : String
  query : Option String
  deriving DecidableEq, Repr

namespace Target

/-- Whether an octet may stand in a path. Quotation marks, braces and octets beyond ASCII are legal
though they should be encoded. -/
def isPathByte (b : UInt8) : Bool :=
  b == 0x21 || b == 0x22 || (0x24 ≤ b && b ≤ 0x3B) || b == 0x3D || (0x40 ≤ b && b ≤ 0x5F)
    || (0x61 ≤ b && b != 0x7F)

/-- Whether an octet may stand in a query. -/
def isQueryByte (b : UInt8) : Bool :=
  b == 0x21 || (0x24 ≤ b && b ≤ 0x3B) || b == 0x3D || (0x3F ≤ b && b != 0x7F)

/-- A path with an optional query; a fragment is cut off. An empty path before a query or in an
absolute target is `/`. -/
def ofPathAndQuery? (s : Bytes) : Option Target :=
  let path := s.takeWhile fun b => b != 0x3F && b != 0x23
  let rest := s.drop path.length
  let query := match rest with
    | 0x3F :: rest => some (rest.takeWhile (· != 0x23))
    | _ => none
  if path.all isPathByte && (query.getD []).all isQueryByte then do
    let pathText ← Utf8.decode? path
    let queryText ← match query with
      | some q => (Utf8.decode? q).map some
      | none => some none
    some ⟨if pathText.isEmpty then "/" else pathText, queryText⟩
  else none

def isUriByte (b : UInt8) : Bool :=
  let c := Char.ofUInt8 b
  c.isAlphanum || "!#$&'()*+,-./:;=?@[]_~".toList.contains c

def isSchemeByte (b : UInt8) : Bool :=
  let c := Char.ofUInt8 b
  c.isAlphanum || "+-.~".toList.contains c

/-- What the scan of an authority has seen so far. -/
structure AuthorityScan where
  colons : Nat := 0
  opened : Bool := false
  closed : Bool := false
  percent : Bool := false
  atLast : Bool := false

namespace AuthorityScan

/-- The effect of one octet. User information ends at the last `@`, what looked like a port or an
escape before it does not count; an address in brackets may hold up to eight colons. -/
def step? (a : AuthorityScan) (b : UInt8) : Option AuthorityScan :=
  let a := { a with atLast := false }
  match Char.ofUInt8 b with
  | ':' => if 8 ≤ a.colons then none else some { a with colons := a.colons + 1 }
  | '[' => if a.percent || a.opened then none else some { a with opened := true }
  | ']' =>
    if !a.opened || a.closed then none
    else some { a with closed := true, colons := 0, percent := false }
  | '@' => some { a with colons := 0, percent := false, atLast := true }
  | '%' => some { a with percent := true }
  | _ => if isUriByte b then some a else none

def isComplete (a : AuthorityScan) : Bool :=
  a.opened == a.closed && a.colons ≤ 1 && !a.atLast && !a.percent

end AuthorityScan

/-- Whether an octet string is an authority. -/
def isAuthority (s : Bytes) : Bool :=
  match s.foldlM AuthorityScan.step? {} with
  | some a => a.isComplete
  | none => false

/-- The end of an authority: a slash, a question mark or a number sign. -/
def endsAuthority (b : UInt8) : Bool :=
  b == 0x2F || b == 0x3F || b == 0x23

/-- What follows `scheme://` in an absolute target. -/
def afterScheme? (s : Bytes) : Option Bytes :=
  let scheme := s.takeWhile isSchemeByte
  match s.drop scheme.length with
  | 0x3A :: 0x2F :: 0x2F :: rest => if scheme.length ≤ 64 then some rest else none
  | _ => none

/-- Reads a target: a path with a query, `*`, an authority, or an absolute form of which only the
path and the query matter. -/
def ofBytes? (s : Bytes) : Option Target :=
  if s.length ≥ 65535 then none
  else match s with
  | [] => none
  | [0x2A] => some ⟨"*", none⟩
  | 0x2F :: _ => ofPathAndQuery? s
  | _ =>
    match afterScheme? s with
    | some rest =>
      let authority := rest.takeWhile (!endsAuthority ·)
      if !authority.isEmpty && isAuthority authority then
        ofPathAndQuery? (rest.drop authority.length)
      else none
    | none => if s.all (!endsAuthority ·) && isAuthority s then some ⟨"", none⟩ else none

end Target
end AuditTrail.Http
