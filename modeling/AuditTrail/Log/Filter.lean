import AuditTrail.Environment
import AuditTrail.Json.Writer
import AuditTrail.Log.Directive

/-!
# Log filters

Which events are written, and in which format. A filter is a list of directives, separated by
commas; of those that are about an event the most specific one decides.
-/

namespace AuditTrail.Log

/-- Directives in the order in which they were given. -/
structure Filter where
  directives : List Directive
  deriving DecidableEq, Repr

namespace Filter

/-- The filter that is used if there is no other. -/
def default : Filter :=
  ⟨[⟨none, none, none, some .info⟩]⟩

/-- Reads a filter; nothing between two commas is no directive. -/
def parse? (s : String) : Option Filter :=
  (((s.splitOn ",").filter (· ≠ "")).mapM Directive.parse?).map Filter.mk

/-- The directive that decides about an event: the most specific one, of equal ones the last. -/
def directive? (f : Filter) (target : String) (fields : List String) : Option Directive :=
  let about := f.directives.filter (·.isAbout (Utf8.encode target) (fields.map Utf8.encode))
  about.foldl (fun best d =>
    match best with
    | some b => if b.isAtMost d then some d else some b
    | none => some d) none

/-- Whether an event of a target, with fields of some names, is written. -/
def passes (f : Filter) (target : String) (fields : List String) (l : Level) : Bool :=
  match f.directive? target fields with
  | some d => d.verbosity.admits l
  | none => false

end Filter

inductive Format where
  | text
  | json
  deriving DecidableEq, Repr

/-- The target of all events of the service. -/
def serviceTarget : String := "stawberry"

def Value.toJson : Value → Json
  | number n => .ofNat n
  | text s => .string s

/-- A line of the log. -/
def Format.render (f : Format) (l : Line) : String :=
  match f with
  | text =>
    let fields := l.fields.map fun (name, v) => " " ++ name ++ "=" ++ v.toJson.render
    l.level.name ++ " " ++ serviceTarget ++ ": " ++ l.message ++ String.join fields
  | json =>
    let fields := ("message", .string l.message) :: l.fields.map fun (name, v) => (name, v.toJson)
    (Json.object [("fields", .object fields), ("level", .string l.level.name),
      ("target", .string serviceTarget)]).render

/-- How a process writes its log. -/
structure Setup where
  filter : Filter
  format : Format
  deriving DecidableEq, Repr

namespace Setup

def levelVariable : Variable := ⟨"STAWBERRY_LOG_LEVEL", "RUST_LOG"⟩

def formatVariable : String := "STAWBERRY_LOG_FORMAT"

/-- The setup that the environment asks for. A filter that cannot be read counts as the default. -/
def ofEnvironment (env : Environment) : Setup where
  filter := match (env.withFallback levelVariable).1 with
    | some s => (Filter.parse? s).getD .default
    | none => .default
  format := match env.text? formatVariable with
    | some s => if s.toLower = "json" then .json else .text
    | none => .text

/-- The line of an event, if it is to be written. -/
def line? (s : Setup) (e : Event) : Option String :=
  if s.filter.passes serviceTarget e.line.fieldNames e.line.level then
    some (s.format.render e.line)
  else none

/-- Sets up the log of a process, unless that has been done before. -/
def install (current : Option Setup) (s : Setup) : Option Setup × Bool :=
  match current with
  | none => (some s, true)
  | some c => (some c, false)

end Setup
end AuditTrail.Log
