import AuditTrail.Entry.Basic

/-!
# Redaction

The values under sensitive names are replaced before an entry is buffered. Only members of the
body itself count, whatever the type of their values; nothing is added or removed.
-/

namespace AuditTrail.Redaction

def mark : Json := .string "[REDACTED]"

def sensitiveNames : List String :=
  ["password", "fingerprint", "refresh_token", "access_token"]

def isSensitive (name : String) : Bool :=
  sensitiveNames.contains name

def member (m : String × Json) : String × Json :=
  if isSensitive m.1 then (m.1, mark) else m

/-- The body with every sensitive value replaced. -/
def body (o : Json.Object) : Json.Object :=
  o.map member

/-- The entry with both bodies redacted. -/
def entry (e : Entry) : Entry :=
  { e with requestBody := body e.requestBody, responseBody := body e.responseBody }

end AuditTrail.Redaction
