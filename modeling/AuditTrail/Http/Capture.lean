import AuditTrail.Entry.Basic
import AuditTrail.Entry.Body
import AuditTrail.Http.Stream
import AuditTrail.Net.Client

/-!
# Capturing requests

The audit layer around the handlers. It reads the request body and gives the handler an equal one
in its place; it passes the response body through and copies as much of it as is needed for the
record. The entry is complete, and is sent, when the response body ends, fails or is dropped.
-/

namespace AuditTrail.Http

open Time (Instant)

structure Request where
  method : Method
  target : Target
  headers : Headers
  peer : Option Net.Endpoint
  identity : Option Identity
  body : Stream

structure Response where
  status : Nat
  headers : Headers
  /-- Who the handler has found the client to be. -/
  identity : Option Identity
  body : Stream

abbrev Handler := Request → Response

/-- Reads a request body for the record, and gives a body to pass on: the same octets in one piece,
or after an error the same chunks and the same error. -/
def readRequestBody (s : Stream) : Bytes × Stream :=
  match s.read with
  | (chunks, none) => (chunks.flatten, .whole chunks.flatten)
  | (chunks, some e) => (chunks.flatten, .items (chunks.map .data ++ [.error e]))

/-- A response body that is copied while it passes, with the entry that is to be sent at its end.
A body that is not audited has no entry. -/
structure Tee where
  inner : Stream
  captured : Bytes
  entry : Option Entry

namespace Tee

/-- A body that is not audited. -/
def plain (inner : Stream) : Tee := ⟨inner, [], none⟩

/-- How much is copied: one octet more than is recorded, which tells that a body is too long. -/
def captureLimit : Nat := Body.maxSize + 1

/-- Copies data as far as there is room. -/
def capture (t : Tee) (data : Bytes) : Tee :=
  { t with captured := t.captured ++ data.take (captureLimit - t.captured.length) }

/-- Completes the entry, once. -/
def finish (t : Tee) : Tee × Option Entry :=
  match t.entry with
  | none => (t, none)
  | some e =>
    ({ t with entry := none }, some { e with responseBody := Body.recorded t.captured })

/-- One poll: what the body inside gives, and the entry if it is sent now. -/
def poll (t : Tee) : Option Item × Tee × Option Entry :=
  let (polled, inner) := t.inner.poll
  let t := { t with inner }
  match polled with
  | some (.data bytes) => (polled, t.capture bytes, none)
  | some (.error _) | none =>
    let (t, sent) := t.finish
    (polled, t, sent)
  | some .trailers | some .pending => (polled, t, none)

/-- The entry that is sent when the body is dropped. -/
def drop (t : Tee) : Option Entry :=
  t.finish.2

/-- The number of polls after which a body has ended. -/
def pollBound (t : Tee) : Nat :=
  t.inner.toItems.length + 1

/-- What a client has read. -/
structure Reading where
  chunks : List Bytes
  error : Option String
  deriving DecidableEq, Repr

/-- Polls a body until it ends or fails or `limit` chunks have been read, and then drops it; at most
`n` polls. The entries are those sent on the way. -/
def consumeWithin (limit : Option Nat) : Nat → Tee → Reading × List Entry
  | 0, t => (⟨[], none⟩, t.drop.toList)
  | n + 1, t =>
    if limit = some 0 then (⟨[], none⟩, t.drop.toList)
    else
      let (polled, t, sent) := t.poll
      match polled with
      | none => (⟨[], none⟩, sent.toList ++ t.drop.toList)
      | some (.error e) => (⟨[], some e⟩, sent.toList ++ t.drop.toList)
      | some (.data bytes) =>
        let (r, entries) := consumeWithin (limit.map (· - 1)) n t
        ({ r with chunks := bytes :: r.chunks }, sent.toList ++ entries)
      | some .trailers | some .pending =>
        let (r, entries) := consumeWithin limit n t
        (r, sent.toList ++ entries)

/-- Reads a body, at most `limit` chunks of it, and drops it. -/
def consume (t : Tee) (limit : Option Nat) : Reading × List Entry :=
  consumeWithin limit t.pollBound t

end Tee

/-- What a client gets: a head and a body to be read. -/
structure Reply where
  status : Nat
  headers : Headers
  body : Tee

/-- The entry of a request and the response to it, without the response body. The identity that the
handler has put on the response counts before the one on the request. -/
def entryOf (now : Instant) (r : Request) (requestBytes : Bytes) (response : Response) : Entry :=
  let who := (response.identity.or r.identity).getD .anonymous
  { method := r.method.name
    url := r.target.path
    status := response.status
    userId := who.userId
    userIp := Net.clientAddress r.headers r.peer
    userRole := who.role
    receivedAt := now
    requestBody := Body.recorded requestBytes
    responseBody := [] }

/-- The audit layer around a handler, which may tell something besides its response. -/
def audited {α : Type} (handler : Request → Response × α) (now : Instant) (r : Request) :
    Reply × α :=
  if r.method.isAudited then
    let (bytes, body) := readRequestBody r.body
    let (response, told) := handler { r with body }
    (⟨response.status, response.headers,
      ⟨response.body, [], some (entryOf now r bytes response)⟩⟩, told)
  else
    let (response, told) := handler r
    (⟨response.status, response.headers, .plain response.body⟩, told)

end AuditTrail.Http
