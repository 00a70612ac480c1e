import AuditTrail.Json.Reader

/-!
# Recorded bodies

A body is recorded if it is a JSON object within the size limit. A longer one is cut and marked;
the mark keeps it from being an object.
-/

namespace AuditTrail.Body

/-- The largest body that is recorded, in octets. -/
def maxSize : Nat := 10 * 1024

/-- The text `... [TRUNCATED]`, which ends a body that has been cut. -/
def cutMark : Bytes := Utf8.encode "... [TRUNCATED]"

/-- Whether a body is within the limit. -/
def fits (s : Bytes) : Bool := s.length ≤ maxSize

/-- The body, cut and marked if it does not fit. -/
def capped (s : Bytes) : Bytes :=
  if fits s then s else s.take maxSize ++ cutMark

/-- The object that a body holds. -/
def object? (s : Bytes) : Option Json.Object :=
  Json.whole (Json.objectWithin Json.maxDepth) (capped s)

/-- What a body leaves in an entry. -/
inductive Reading where
  | empty
  | object (members : Json.Object)
  | unreadable
  deriving Inhabited

def read (s : Bytes) : Reading :=
  if s.isEmpty then .empty
  else match object? s with
    | some o => .object o
    | none => .unreadable

/-- The members that are recorded: none for a body that is not an object. -/
def Reading.members : Reading → Json.Object
  | .object o => o
  | _ => []

def recorded (s : Bytes) : Json.Object :=
  (read s).members

end AuditTrail.Body
