import AuditTrail.Entry.Record
import AuditTrail.Http.Capture
import AuditTrail.Log.Event
import AuditTrail.Query.Form
import AuditTrail.Sink.Page

/-!
# Routes

The health check and the listing of audit entries, and the routes of the application beside them.
-/

namespace AuditTrail.Http

open Time (Instant)

/-- Looks entries up for the listing, and tells what the operators read of it. -/
abbrev Lookup := Filter → Except Failure (Page × List Log.Event)

/-- One page of entries with the numbers that go with it. -/
structure Listing where
  total : Nat
  page : Nat
  perPage : Nat
  entries : List Entry

namespace Listing

def pages (l : Listing) : Nat :=
  (l.total + l.perPage - 1) / l.perPage

/-- The JSON text of the response. -/
def chars (l : Listing) : List Char :=
  let number (name : String) (n : Nat) : List Char :=
    Json.Literal.quoted name ++ ':' :: Nat.toDigits 10 n
  let data := Json.Literal.quoted "data" ++ ':' :: '['
    :: Json.commaSeparated (l.entries.map Entry.chars) ++ [']']
  '\x7b' :: Json.commaSeparated
    [number "total_logs" l.total, number "current_page" l.page, number "per_page" l.perPage,
      number "total_pages" l.pages, data] ++ ['\x7d']

end Listing

/-- The header field that tells the type of a body. -/
def contentType (value : String) : Headers :=
  [(⟨"content-type"⟩, ⟨Utf8.encode value⟩)]

/-- A response with a JSON text. -/
def jsonResponse (status : Nat) (text : Bytes) : Response :=
  ⟨status, contentType "application/json", none, .whole text⟩

/-- A response with a plain text. -/
def textResponse (status : Nat) (text : String) : Response :=
  ⟨status, contentType "text/plain; charset=utf-8", none, .ofText text⟩

/-- A response with nothing but a status. -/
def bareResponse (status : Nat) : Response :=
  ⟨status, [], none, .empty⟩

def failureResponse (f : Failure) : Response :=
  jsonResponse f.status f.body

/-- The response to a method that a route does not know. -/
def methodNotAllowed : Response :=
  { bareResponse 405 with headers := [(⟨"allow"⟩, ⟨Utf8.encode "GET,HEAD"⟩)] }

def healthText : String :=
  (Json.object [("status", .string "ok")]).render

/-- The listing that answers the parameters, and what the operators read of it. -/
def listing (lookup : Lookup) (now : Instant) (p : Query.Parameters) :
    Except Failure (Listing × List Log.Event) := do
  let r ← Query.resolve p now
  let (page, events) ← lookup r.filter
  return (⟨page.total, r.page, r.filter.limit, page.items⟩, events)

/-- Answers a listing request: the response, and what the operators read of it. -/
def list (lookup : Lookup) (now : Instant) (query : Option String) :
    Response × List Log.Event :=
  match Query.Form.parameters (query.getD "") with
  | .error name =>
    (textResponse 400
      ("Failed to deserialize query string: duplicate field \x60" ++ name ++ "\x60"), [])
  | .ok p =>
    match listing lookup now p with
    | .ok (l, events) => (jsonResponse 200 (Utf8.encodeChars l.chars), events)
    | .error f => (failureResponse f, f.logEvents)

/-- The routes of the application: the handler of a path. -/
abbrev AppRoutes := String → Option Handler

/-- The built-in routes answer to GET, and to HEAD without a body. -/
def builtin (method : Method) (answer : Response × List Log.Event) :
    Response × List Log.Event :=
  if method = .get then answer
  else if method = .head then ({ answer.1 with body := .empty }, answer.2)
  else (methodNotAllowed, [])

def healthPath : String := "/health"

def listPath : String := "/api/v1/audit/logs"

/-- Answers a request by its path. -/
def route (app : AppRoutes) (lookup : Lookup) (now : Instant) (r : Request) :
    Response × List Log.Event :=
  if r.target.path = healthPath then
    builtin r.method (jsonResponse 200 (Utf8.encode healthText), [])
  else if r.target.path = listPath then builtin r.method (list lookup now r.target.query)
  else match app r.target.path with
    | some handler => (handler r, [])
    | none => (bareResponse 404, [])

end AuditTrail.Http
