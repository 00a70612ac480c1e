import AuditTrail.Log.Event
import AuditTrail.Log.Pattern
import AuditTrail.Text.Utf8

/-!
# Directives of log filters

A directive sets how much is written for some targets: `target[span{field}]=level`, where each part
can be missing. What it says of spans has no effect on events, and neither has a field with a value;
a field without one restricts it to the events that have the field.
-/

namespace AuditTrail.Log

/-- How much is written: the events of a level and all graver ones, or with `none` nothing. -/
abbrev Verbosity := Option Level

namespace Verbosity

def names : List (String × Verbosity) :=
  [("error", some .error), ("warn", some .warn), ("info", some .info), ("debug", some .debug),
    ("trace", some .trace), ("off", none)]

/-- The verbosity that a number from 0 to 5 stands for. -/
def ofRank? : Nat → Option Verbosity
  | 0 => some none
  | 1 => some (some .error)
  | 2 => some (some .warn)
  | 3 => some (some .info)
  | 4 => some (some .debug)
  | 5 => some (some .trace)
  | _ => none

/-- A verbosity by its name, in letters of either case, or by its number. -/
def parse? (cs : List Char) : Option Verbosity :=
  match (Text.word? (String.ofList cs)).bind ofRank? with
  | some v => some v
  | none => names.lookup (String.ofList (cs.map Char.toLower))

/-- Whether events of a level pass. -/
def admits (v : Verbosity) (l : Level) : Bool :=
  match v with
  | some most => l.rank ≤ most.rank
  | none => false

end Verbosity

/-- A text without its sign. -/
def unsigned : List Char → List Char
  | '+' :: cs => cs
  | '-' :: cs => cs
  | cs => cs

/-- Whether a text is a number with an optional point and exponent, an infinity or a NaN. -/
def isNumber (s : List Char) : Bool :=
  let cs := unsigned s
  let mantissa := cs.takeWhile fun c => c.isDigit || c == '.'
  let isExponent := match cs.drop mantissa.length with
    | [] => true
    | e :: cs => e.toLower == 'e' && (Text.digits? (unsigned cs)).isSome
  ["inf", "infinity", "nan"].contains (String.ofList (cs.map Char.toLower))
    || mantissa.any Char.isDigit && mantissa.count '.' ≤ 1 && isExponent

/-- What a directive asks of the fields. -/
structure FieldCondition where
  name : Bytes
  hasValue : Bool
  deriving DecidableEq, Repr

/-- Reads a name, or a name and a value, which is a number or a pattern. -/
def FieldCondition.ofBytes? (s : Bytes) : Option FieldCondition :=
  let name := s.takeWhile (· ≠ '='.toUInt8)
  match s.drop name.length with
  | [] => if s.isEmpty then none else some ⟨name, false⟩
  | _ :: value => do
    let value ← Utf8.decodeChars? (value.takeWhile (· ≠ '='.toUInt8))
    if isNumber value || Pattern.isLegal value then some ⟨name, true⟩ else none

structure Directive where
  /-- What the targets begin with. -/
  target : Option Bytes
  /-- The spans that it is about, if it is about named ones. -/
  span : Option Bytes
  field : Option FieldCondition
  verbosity : Verbosity
  deriving DecidableEq, Repr

namespace Directive

/-- Whether a directive is about an event of a target, with fields of some names, outside of all
spans. -/
def isAbout (d : Directive) (target : Bytes) (fields : List Bytes) : Bool :=
  d.span.isNone && (d.target.getD []).isPrefixOf target
    && d.field.all fun f => !f.hasValue && fields.contains f.name

/-- The length of the target in octets, more than that of a directive without one. -/
def weight (d : Directive) : Nat :=
  match d.target with
  | some t => t.length + 1
  | none => 0

/-- Whether a directive is at most as specific as another one: the longer target is the more
specific, then one with a field, then the field whose name comes later in order. -/
def isAtMost (d e : Directive) : Bool :=
  if d.weight = e.weight then
    match d.field, e.field with
    | none, _ => true
    | some _, none => false
    | some f, some g => f.name ≤ g.name
  else d.weight < e.weight

/-! ## Reading -/

/-- The text of a directive. Its parts are told apart without the blanks around it, but cut out of
the whole text, at the same places. -/
structure Source where
  text : Bytes
  /-- The octets of the text without the blanks, as characters. -/
  seen : List Char

namespace Source

def ofString (s : String) : Source :=
  ⟨Utf8.encode s, (Utf8.encode (Text.trimmed s)).map Char.ofUInt8⟩

/-- The next place from `start` on where one of some characters stands, or the end. -/
def next (s : Source) (start : Nat) (marks : List Char) : Nat :=
  start + ((s.seen.drop start).takeWhile (!marks.contains ·)).length

def part (s : Source) (start stop : Nat) : Bytes :=
  (s.text.take stop).drop start

/-- The verbosity that the text from `start` on names; all events if nothing is there. -/
def level? (s : Source) (start : Nat) : Option Verbosity :=
  match s.text.drop start with
  | [] => some (some .trace)
  | level => (Utf8.decodeChars? level).bind Verbosity.parse?

/-- The verbosity after a bracket that closes in front of `start`. -/
def levelAfterBracket? (s : Source) (start : Nat) : Option Verbosity :=
  match s.seen.drop start with
  | [] => some (some .trace)
  | '=' :: _ => s.level? (start + 1)
  | _ => none

/-- Reads a directive from the inside of its bracket on. -/
def bracket? (s : Source) (target : Option Bytes) (start : Nat) : Option Directive :=
  let stop := s.next start [']', '\x7b']
  let span := s.part start stop
  match s.seen.drop stop with
  | ']' :: _ => (s.levelAfterBracket? (stop + 1)).map fun v => ⟨target, some span, none, v⟩
  | _ :: _ =>
    let fieldStop := s.next (stop + 1) ['\x7d']
    match s.seen.drop fieldStop with
    | _ :: ']' :: _ => do
      let field ← FieldCondition.ofBytes? (s.part (stop + 1) fieldStop)
      let v ← s.levelAfterBracket? (fieldStop + 2)
      some ⟨target, if span.isEmpty then none else some span, some field, v⟩
    | _ => none
  | [] => none

/-- Reads a directive that begins with a target or is a verbosity. -/
def bare? (s : Source) : Option Directive :=
  let stop := s.next 0 ['=', '[']
  match s.seen.drop stop with
  | '=' :: _ =>
    (s.level? (stop + 1)).map fun v => ⟨some (s.part 0 stop), none, none, v⟩
  | _ :: _ => s.bracket? (some (s.part 0 stop)) (stop + 1)
  | [] =>
    match (Utf8.decodeChars? s.text).bind Verbosity.parse? with
    | some v => some ⟨none, none, none, v⟩
    | none => some ⟨some s.text, none, none, some .trace⟩

end Source

/-- Whether a target or a verbosity may begin with a character. -/
def mayStart (c : Char) : Bool :=
  c == '-' || c == ':' || c == '_' || Text.isAlphanumeric c

def parse? (s : String) : Option Directive :=
  match Text.dropBlank s.toList with
  | [] => none
  | '[' :: _ => (Source.ofString s).bracket? none 1
  | c :: _ => if mayStart c then (Source.ofString s).bare? else none

end Directive
end AuditTrail.Log
