import AuditTrail.Text.Numeral
import AuditTrail.Query.Parameters

/-!
# Form-encoded queries

The pairs of a query string, and the query parameters among them.
-/

namespace AuditTrail.Query.Form

/-- Resolves `%xx` and turns plus signs into blanks. A percent sign without two hexadecimal digits
stands for itself. -/
def unescape : List Char → Bytes
  | [] => []
  | '+' :: cs => 0x20 :: unescape cs
  | '%' :: a :: b :: cs =>
    match Text.hexValue? a, Text.hexValue? b with
    | some x, some y => (16 * x + y).toUInt8 :: unescape cs
    | _, _ => 0x25 :: unescape (a :: b :: cs)
  | c :: cs => String.utf8EncodeChar c ++ unescape cs

def decode (cs : List Char) : String :=
  Utf8.decodeLossy (unescape cs)

/-- The parts of a text between separators. -/
def splitAt (separator : Char) : List Char → List (List Char)
  | [] => [[]]
  | c :: cs =>
    if c = separator then [] :: splitAt separator cs
    else match splitAt separator cs with
      | [] => [[c]]
      | p :: ps => (c :: p) :: ps

/-- The name and the value on both sides of the first equals sign. -/
def pair (cs : List Char) : String × String :=
  (decode (cs.takeWhile (· ≠ '=')), decode ((cs.dropWhile (· ≠ '=')).drop 1))

/-- The pairs of a query string; empty parts between ampersands do not count. -/
def pairs (query : String) : List (String × String) :=
  ((splitAt '&' query.toList).filter (!·.isEmpty)).map pair

/-- Gives a parameter its value; one that has a value already is named in the error. -/
def assign (name value : String) (old : Option String) : Except String (Option String) :=
  match old with
  | none => .ok (some value)
  | some _ => .error name

/-- Takes one pair; pairs of other names are passed over. -/
def step (p : Parameters) (pair : String × String) : Except String Parameters := do
  let (name, value) := pair
  match name with
  | "from" => return { p with start := ← assign name value p.start }
  | "to" => return { p with stop := ← assign name value p.stop }
  | "uid" => return { p with user := ← assign name value p.user }
  | "limit" => return { p with limit := ← assign name value p.limit }
  | "page" => return { p with page := ← assign name value p.page }
  | _ => return p

/-- The parameters of a query string, or the name of the first one given twice. -/
def parameters (query : String) : Except String Parameters :=
  (pairs query).foldlM step {}

end AuditTrail.Query.Form
