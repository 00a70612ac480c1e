import AuditTrail.Http.Message
import AuditTrail.Net.Address

/-!
# Client addresses

The address that an audit entry records for a client: what the first proxy header says, else the
address of the peer.
-/

namespace AuditTrail.Net

open Http (Headers FieldValue)

/-- The first item of a comma-separated list, without the blanks around it. -/
def firstItem (cs : List Char) : List Char :=
  Text.trim (cs.takeWhile (· ≠ ','))

/-- The header field that names the client: the first `X-Forwarded-For`, or if there is none the
first `X-Real-IP`. -/
def proxyField? (h : Headers) : Option FieldValue :=
  (h.first? "x-forwarded-for").or (h.first? "x-real-ip")

/-- The client that the header fields name, unless the text of the field cannot be read or its
first item is empty. -/
def forwarded? (h : Headers) : Option String :=
  ((proxyField? h).bind FieldValue.text?).bind fun cs =>
    let item := firstItem cs
    if item.isEmpty then none else some (String.ofList item)

/-- The recorded address; empty if nothing is known. -/
def clientAddress (h : Headers) (peer : Option Endpoint) : String :=
  match forwarded? h with
  | some s => s
  | none =>
    match peer with
    | some p => p.address.normalized.render
    | none => ""

end AuditTrail.Net
