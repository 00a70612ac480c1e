import AuditTrail.Json.Writer

/-!
# Failures

What can go wrong in the service, the text of it for the operators' log, and what a client is
told: only the class of the failure, never its details.
-/

namespace AuditTrail

/-- Why the operating system refused. -/
inductive SystemFault where
  | notFound
  | permissionDenied
  | isDirectory
  | addressInUse
  | other
  deriving DecidableEq, Repr

namespace SystemFault

def text : SystemFault → String
  | notFound => "No such file or directory (os error 2)"
  | permissionDenied => "Permission denied (os error 13)"
  | isDirectory => "Is a directory (os error 21)"
  | addressInUse => "Address already in use (os error 98)"
  | other => "Input/output error (os error 5)"

end SystemFault

/-- An input or output fault: one of the operating system, or one found in the data. -/
inductive IoFault where
  | system (fault : SystemFault)
  | data (text : String)
  deriving DecidableEq, Repr

def IoFault.text : IoFault → String
  | system fault => fault.text
  | data text => text

/-- A failure of an operation of the service. -/
inductive Failure where
  | config (text : String)
  | serialization (text : String)
  | validation (text : String)
  | sink (text : String)
  | io (fault : IoFault)
  deriving DecidableEq, Repr

namespace Failure

/-- The text for the log. -/
def message : Failure → String
  | config text => "Configuration error: " ++ text
  | serialization text => "Serialization error: " ++ text
  | validation text => "Validation error: " ++ text
  | sink text => "Sink error: " ++ text
  | io fault => "I/O error: " ++ fault.text

/-- The text for the client. -/
def publicMessage : Failure → String
  | validation _ => "Invalid request parameters"
  | config _ | serialization _ => "Request error"
  | sink _ | io _ => "Audit storage error"

/-- The HTTP status. -/
def status : Failure → Nat
  | validation _ | serialization _ => 400
  | config _ | sink _ | io _ => 500

/-- Whether the service is to blame, so that the failure is logged. -/
def isInternal (f : Failure) : Bool :=
  500 ≤ f.status

/-- The JSON text of the response. -/
def body (f : Failure) : Bytes :=
  Json.encode (.object [("error", .string f.publicMessage)])

end Failure
end AuditTrail
