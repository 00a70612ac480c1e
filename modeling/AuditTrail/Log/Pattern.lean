import AuditTrail.Text.Alphanumeric
import AuditTrail.Text.Blank
import AuditTrail.Text.Numeral

/-!
# Patterns

The regular expressions that are legal as the value of a field in a log filter. No event carries
such a value, so only the form of a pattern matters. There are no tables of the Unicode classes
and of letter cases: what needs them is legal only where Unicode is switched off, and there a
pattern must not match parts of characters. A counted repetition would need a closing brace, which
ends the field.
-/

namespace AuditTrail.Log.Pattern

/-- The flags on which the form of a pattern depends. -/
structure Flags where
  unicode : Bool := true
  ignoresCase : Bool := false
  /-- Whether blanks and comments do not count. -/
  spaced : Bool := false
  deriving DecidableEq, Repr

/-- Drops blanks, and comments from a number sign to the end of the line. -/
def dropSpace (inComment : Bool) : List Char → List Char
  | [] => []
  | c :: cs =>
    if inComment then dropSpace (c != '\n') cs
    else if Text.isBlank c then dropSpace false cs
    else if c = '#' then dropSpace true cs
    else c :: cs

namespace Flags

/-- The text from the next character that counts. -/
def skip (f : Flags) (cs : List Char) : List Char :=
  if f.spaced then dropSpace false cs else cs

/-- Whether characters may be named: those that differ in case only are known for ASCII alone. -/
def allowsCharacters (f : Flags) : Bool :=
  !(f.unicode && f.ignoresCase)

/-- Whether some letters between a question mark and a colon or parenthesis name flags, those after
a minus sign being switched off. -/
def isLegal (letters : List Char) : Bool :=
  letters.all (fun c => "imsRUux-".toList.contains c) && decide letters.Nodup
    && letters.getLast? != some '-'

/-- A flag after some letters that may change it. -/
def change (letters : List Char) (letter : Char) (flag : Bool) : Bool :=
  if letters.contains letter then (letters.takeWhile (· ≠ '-')).contains letter else flag

def changed (f : Flags) (letters : List Char) : Flags where
  unicode := change letters 'u' f.unicode
  ignoresCase := change letters 'i' f.ignoresCase
  spaced := change letters 'x' f.spaced

end Flags

/-- What an escape stands for. -/
inductive Escape where
  | character (c : Char)
  | set
  | position
  deriving DecidableEq, Repr

/-- The number of some hexadecimal digits, and what follows them. -/
def hexadecimal? (f : Flags) (n : Nat) : Nat → List Char → Option (Nat × List Char)
  | 0, cs => some (n, cs)
  | count + 1, cs =>
    match f.skip cs with
    | [] => none
    | c :: cs => (Text.hexValue? c).bind fun d => hexadecimal? f (16 * n + d) count cs

/-- The control characters with a letter of their own. -/
def controls : List (Char × Char) :=
  [('a', '\x07'), ('f', '\x0c'), ('n', '\n'), ('r', '\r'), ('t', '\t'), ('v', '\x0b')]

/-- The letters of character codes, with the number of their digits. -/
def codeLengths : List (Char × Nat) :=
  [('x', 2), ('u', 4), ('U', 8)]

/-- Reads an escape after its backslash. -/
def escape? (f : Flags) : List Char → Option (Escape × List Char)
  | [] => none
  | c :: cs =>
    match codeLengths.lookup c, controls.lookup c with
    | some length, _ =>
      (hexadecimal? f 0 length cs).bind fun (n, rest) =>
        if n.isValidChar ∧ (f.unicode ∨ c ≠ 'x' ∨ n < 0x80) then
          some (.character (Char.ofNat n), rest)
        else none
    | none, some control => some (.character control, cs)
    | none, none =>
      if "Az".toList.contains c then some (.position, cs)
      else if "bB<>".toList.contains c then if f.unicode then none else some (.position, cs)
      else if "dsw".toList.contains c then if f.unicode then none else some (.set, cs)
      else if c.toNat < 0x80 && !c.isAlphanum then some (.character c, cs)
      else none

/-! ## Sets in brackets -/

/-- The named sets of ASCII characters. -/
def setNames : List String :=
  ["alnum", "alpha", "ascii", "blank", "cntrl", "digit", "graph", "lower", "print", "punct",
    "space", "upper", "word", "xdigit"]

/-- A named set after its bracket: whether it is negated, and what follows it. -/
def namedSet? : List Char → Option (Bool × List Char)
  | ':' :: cs =>
    let negated := cs.head? = some '^'
    let cs := if negated then cs.drop 1 else cs
    let name := cs.takeWhile (· ≠ ':')
    match cs.drop name.length with
    | ':' :: ']' :: rest =>
      if setNames.contains (String.ofList name) then some (negated, rest) else none
    | _ => none
  | _ => none

/-- Whether something may stand in a set. -/
def isMember (f : Flags) : Escape → Bool
  | .character c => f.unicode || c.toNat < 0x80
  | .set => true
  | .position => false

/-- One character of a set, or an escape. -/
def member? (f : Flags) : List Char → Option (Escape × List Char)
  | [] => none
  | '\\' :: cs => escape? f cs
  | c :: cs => some (.character c, cs)

/-- A member of a set or a range of them, and what follows it. -/
def range? (f : Flags) (cs : List Char) : Option (List Char) :=
  (member? f cs).bind fun (low, rest) =>
    let rest := f.skip rest
    let single := if isMember f low then some rest else none
    match rest with
    | '-' :: after =>
      match f.skip after with
      | ']' :: _ => single
      | '-' :: _ => single
      | after =>
        (member? f after).bind fun (high, rest) =>
          match low, high with
          | .character a, .character b =>
            if a ≤ b ∧ isMember f low ∧ isMember f high then some rest else none
          | _, _ => none
    | _ => single

/-- The place in a set. -/
inductive Place where
  | opened
  | negated
  /-- After minus signs at the beginning. -/
  | dashed
  | inside
  deriving DecidableEq, Repr

/-- What follows a set that lies in `depth` others. -/
def setEnd? (f : Flags) : Nat → Nat → Place → List Char → Option (List Char)
  | 0, _, _, _ => none
  | n + 1, depth, place, cs =>
    match place, f.skip cs with
    | _, [] => none
    | .opened, '^' :: cs => if f.unicode then setEnd? f n depth .negated cs else none
    | .opened, '-' :: cs => setEnd? f n depth .dashed cs
    | .negated, '-' :: cs => setEnd? f n depth .dashed cs
    | .dashed, '-' :: cs => setEnd? f n depth .dashed cs
    | .opened, ']' :: cs => setEnd? f n depth .inside cs
    | .negated, ']' :: cs => setEnd? f n depth .inside cs
    | _, ']' :: cs => if depth = 0 then some cs else setEnd? f n (depth - 1) .inside cs
    | _, '[' :: cs =>
      match namedSet? cs with
      | some (negated, rest) =>
        if negated && !f.unicode then none else setEnd? f n depth .inside rest
      | none => setEnd? f n (depth + 1) .opened cs
    | _, '&' :: '&' :: cs => setEnd? f n depth .inside cs
    | _, '-' :: '-' :: cs => setEnd? f n depth .inside cs
    | _, '~' :: '~' :: cs => setEnd? f n depth .inside cs
    | _, cs => (range? f cs).bind (setEnd? f n depth .inside)

/-! ## Groups and items -/

/-- What is known of a pattern at some place in it. -/
structure Scan where
  flags : Flags := {}
  /-- The flags around the groups that are open, the innermost first. -/
  outer : List Flags := []
  /-- The names that groups have so far. -/
  names : List (List Char) := []
  /-- Whether a repetition sign may follow. -/
  isRepeatable : Bool := false
  deriving Repr

namespace Scan

/-- After something that can be repeated. -/
def afterItem (s : Scan) : Scan :=
  { s with isRepeatable := true }

/-- In a group with flags of its own. -/
def enter (s : Scan) (flags : Flags) : Scan :=
  { s with flags, outer := s.flags :: s.outer, isRepeatable := false }

/-- Whether a group may have a name. -/
def isGroupName : List Char → Bool
  | [] => false
  | c :: cs =>
    (c == '_' || Text.isAlphabetic c)
      && cs.all fun c => "_.[]".toList.contains c || Text.isAlphanumeric c

/-- Opens a group at its name. -/
def enterNamed? (s : Scan) (cs : List Char) : Option (Scan × List Char) :=
  let name := cs.takeWhile (· ≠ '>')
  match cs.drop name.length with
  | _ :: rest =>
    if isGroupName name && !s.names.contains name then
      some ({ s.enter s.flags with names := name :: s.names }, rest)
    else none
  | [] => none

/-- Opens a group with flags before a colon, or sets the flags for the rest of this one. -/
def setFlags? (s : Scan) (cs : List Char) : Option (Scan × List Char) :=
  let letters := cs.takeWhile fun c => c ≠ ':' && c ≠ ')'
  if !Flags.isLegal letters then none
  else match cs.drop letters.length with
    | ':' :: rest => some (s.enter (s.flags.changed letters), rest)
    | ')' :: rest =>
      if letters.isEmpty then none
      else some ({ s with flags := s.flags.changed letters, isRepeatable := false }, rest)
    | _ => none

/-- Opens a group after its parenthesis. It cannot look ahead or behind. -/
def enterGroup? (s : Scan) (cs : List Char) : Option (Scan × List Char) :=
  match s.flags.skip cs with
  | '?' :: '<' :: '=' :: _ => none
  | '?' :: '<' :: '!' :: _ => none
  | '?' :: 'P' :: '<' :: cs => s.enterNamed? cs
  | '?' :: '<' :: cs => s.enterNamed? cs
  | '?' :: cs => s.setFlags? cs
  | cs => some (s.enter s.flags, cs)

/-- Reads an item, a sign between items, or the end of a group. -/
def step? (s : Scan) : List Char → Option (Scan × List Char)
  | [] => none
  | c :: cs =>
    let character := if s.flags.allowsCharacters then some (s.afterItem, cs) else none
    match c with
    | '(' => s.enterGroup? cs
    | ')' =>
      match s.outer with
      | [] => none
      | flags :: outer => some ({ s.afterItem with flags, outer }, cs)
    | '|' => some ({ s with isRepeatable := false }, cs)
    | '*' | '+' | '?' => if s.isRepeatable then some (s, cs) else none
    | '\x7b' => none
    | '[' =>
      if s.flags.allowsCharacters then
        (setEnd? s.flags (cs.length + 1) 0 .opened cs).map fun rest => (s.afterItem, rest)
      else none
    | '.' => if s.flags.unicode then some (s.afterItem, cs) else none
    | '^' | '$' => some (s.afterItem, cs)
    | '\\' =>
      (escape? s.flags cs).bind fun (e, rest) =>
        match e with
        | .character _ => if s.flags.allowsCharacters then some (s.afterItem, rest) else none
        | _ => some (s.afterItem, rest)
    | _ => character

/-- Reads a text of at most `n` characters to its end. -/
def readWithin (n : Nat) (s : Scan) (cs : List Char) : Option Scan :=
  match n, s.flags.skip cs with
  | _, [] => some s
  | 0, _ => none
  | n + 1, cs => (s.step? cs).bind fun (s, rest) => readWithin n s rest

end Scan

/-- Whether a text is a pattern. -/
def isLegal (cs : List Char) : Bool :=
  match Scan.readWithin cs.length {} cs with
  | some s => s.outer.isEmpty
  | none => false

end AuditTrail.Log.Pattern
