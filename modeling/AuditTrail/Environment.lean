import AuditTrail.Log.Event
import AuditTrail.Text.Utf8

/-!
# The environment

The variables of a process. A variable of the service may have a deprecated name besides, which is
used, with a warning, where the current one is not set.
-/

namespace AuditTrail

/-- The variables of a process; a value need not be text. -/
structure Environment where
  entries : List (String × Bytes)

/-- A variable with its deprecated name. -/
structure Variable where
  name : String
  deprecated : String
  deriving DecidableEq, Repr

def Variable.names (v : Variable) : List String :=
  [v.name, v.deprecated]

namespace Environment

/-- The text of a variable; one that is not UTF-8 counts as unset. -/
def text? (env : Environment) (name : String) : Option String :=
  (env.entries.lookup name).bind Utf8.decode?

/-- The text of a variable under its current or else its deprecated name. -/
def withFallback (env : Environment) (v : Variable) : Option String × List Log.Event :=
  match env.text? v.name with
  | some s => (some s, [])
  | none =>
    match env.text? v.deprecated with
    | some s => (some s, [.variableDeprecated v.deprecated v.name])
    | none => (none, [])

/-- The value of a variable under its current or else its deprecated name; the default where it is
not set or cannot be read. -/
def readOr {α : Type} (env : Environment) (v : Variable) (parse : String → Option α)
    (default : α) : α × List Log.Event :=
  let (text, events) := env.withFallback v
  ((text.bind parse).getD default, events)

end Environment
end AuditTrail
