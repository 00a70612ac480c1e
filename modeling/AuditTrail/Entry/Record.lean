import AuditTrail.Entry.Basic
import AuditTrail.Json.Reader
import AuditTrail.Json.Writer
import AuditTrail.Time.Reader
import AuditTrail.Word

/-!
# The written form of entries

An entry is written as a JSON object with nine members in a fixed order. It is read from such an
object with the members in any order, each exactly once, members of other names being passed over;
or from an array of the nine values.
-/

namespace AuditTrail

open Time (Instant)

namespace Role

/-- A role is written as its name. An object with the name as its only key and the value null
stands for the same. -/
def read (depth : Nat) : Json.Reader Role := fun s =>
  match Json.dropBlank s with
  | 0x22 :: s => do
    let (name, s) ← Json.Literal.read s
    let role ← ofName? name
    some (role, s)
  | 0x7B :: s =>
    if depth = 0 then none
    else do
      let ((name, _), s) ← Json.member (fun s => do
        let s ← Json.expect [0x6E, 0x75, 0x6C, 0x6C] (Json.dropBlank s)
        some ((), s)) s
      let role ← ofName? name
      match Json.dropBlank s with
      | 0x7D :: s => some (role, s)
      | _ => none
  | _ => none

def parse? (s : Bytes) : Option Role :=
  Json.whole (read Json.maxDepth) s

def ofJson? : Json → Option Role
  | .string name => ofName? name
  | .object [(name, .null)] => ofName? name
  | _ => none

end Role

namespace Time.Instant

/-- An instant is written as a string. -/
def read : Json.Reader Instant := fun s => do
  let (text, s) ← Json.text s
  let t ← relaxed? text
  some (t, s)

def ofJson? (v : Json) : Option Instant :=
  v.asString?.bind relaxed?

end Time.Instant

namespace Entry

/-- The members of an entry, in the order in which they are written. -/
inductive Field where
  | method
  | url
  | status
  | userId
  | userIp
  | userRole
  | receivedAt
  | requestBody
  | responseBody
  deriving DecidableEq, Repr

namespace Field

def all : List Field :=
  [method, url, status, userId, userIp, userRole, receivedAt, requestBody, responseBody]

def name : Field → String
  | method => "method"
  | url => "url"
  | status => "resp_status"
  | userId => "user_id"
  | userIp => "user_ip"
  | userRole => "user_role"
  | receivedAt => "received_at"
  | requestBody => "req_body"
  | responseBody => "resp_body"

def ofName? (s : String) : Option Field :=
  all.find? (·.name == s)

end Field

/-- The members of an entry that have been read so far. -/
structure Draft where
  method : Option String := none
  url : Option String := none
  status : Option Nat := none
  userId : Option Nat := none
  userIp : Option String := none
  userRole : Option Role := none
  receivedAt : Option Instant := none
  requestBody : Option Json.Object := none
  responseBody : Option Json.Object := none

namespace Draft

/-- The entry, once all members are there. -/
def finish? (d : Draft) : Option Entry := do
  some {
    method := ← d.method
    url := ← d.url
    status := ← d.status
    userId := ← d.userId
    userIp := ← d.userIp
    userRole := ← d.userRole
    receivedAt := ← d.receivedAt
    requestBody := ← d.requestBody
    responseBody := ← d.responseBody }

/-- Reads a value for a member that has none yet. -/
def once {α : Type} (old : Option α) (reader : Json.Reader α) (put : Option α → Draft) :
    Json.Reader Draft := fun s =>
  match old with
  | some _ => none
  | none => (reader s).map fun (x, s) => (put (some x), s)

/-- Reads the value of a member; `depth` bounds the nesting of a body. -/
def read (depth : Nat) (d : Draft) : Field → Json.Reader Draft
  | .method => once d.method Json.text ({ d with method := · })
  | .url => once d.url Json.text ({ d with url := · })
  | .status => once d.status (Json.natBelow Word.limit16) ({ d with status := · })
  | .userId => once d.userId (Json.natBelow Word.limit64) ({ d with userId := · })
  | .userIp => once d.userIp Json.text ({ d with userIp := · })
  | .userRole => once d.userRole (Role.read depth) ({ d with userRole := · })
  | .receivedAt => once d.receivedAt Instant.read ({ d with receivedAt := · })
  | .requestBody => once d.requestBody (Json.objectWithin depth) ({ d with requestBody := · })
  | .responseBody => once d.responseBody (Json.objectWithin depth) ({ d with responseBody := · })

/-- The members up to the closing brace, at most `n` of them. -/
def readMembers (depth : Nat) : Nat → Draft → Json.Reader Draft
  | 0, _, _ => none
  | n + 1, d, s => do
    let (name, s) ← Json.key s
    let s ← Json.colon s
    let (d, s) ← match Field.ofName? name with
      | some field => d.read depth field s
      | none => (Json.skip s).map fun (_, s) => (d, s)
    match Json.dropBlank s with
    | 0x7D :: s => some (d, s)
    | 0x2C :: s => readMembers depth n d s
    | _ => none

/-- The values of the given members up to the closing bracket. -/
def readValues (depth : Nat) : List Field → Draft → Json.Reader Draft
  | [], d, s =>
    match Json.dropBlank s with
    | 0x5D :: s => some (d, s)
    | _ => none
  | field :: fields, d, s => do
    let (d, s) ← d.read depth field s
    if fields.isEmpty then readValues depth fields d s
    else match Json.dropBlank s with
      | 0x2C :: s => readValues depth fields d s
      | _ => none

end Draft

/-- An entry whose containers nest at most `depth` deep, its own included. -/
def read (depth : Nat) : Json.Reader Entry := fun s =>
  match Json.dropBlank s with
  | 0x7B :: s => do
    let (d, s) ← Draft.readMembers (depth - 1) s.length {} s
    let e ← d.finish?
    some (e, s)
  | 0x5B :: s => do
    let (d, s) ← Draft.readValues (depth - 1) Field.all {} s
    let e ← d.finish?
    some (e, s)
  | _ => none

/-- The entry that a text holds. -/
def parse? (s : Bytes) : Option Entry :=
  Json.whole (read Json.maxDepth) s

/-- The text of one member's value. -/
def valueChars (e : Entry) : Field → List Char
  | .method => Json.Literal.quoted e.method
  | .url => Json.Literal.quoted e.url
  | .status => Nat.toDigits 10 e.status
  | .userId => Nat.toDigits 10 e.userId
  | .userIp => Json.Literal.quoted e.userIp
  | .userRole => Json.Literal.quoted e.userRole.name
  | .receivedAt => Json.Literal.quoted e.receivedAt.render
  | .requestBody => Json.objectChars e.requestBody
  | .responseBody => Json.objectChars e.responseBody

/-- The compact text of an entry, its members in the order of `Field.all`. -/
def chars (e : Entry) : List Char :=
  '\x7b' :: Json.commaSeparated
    (Field.all.map fun f => Json.Literal.quoted f.name ++ ':' :: e.valueChars f) ++ ['\x7d']

def render (e : Entry) : String :=
  String.ofList e.chars

/-- The JSON value of one member. -/
def value (e : Entry) : Field → Json
  | .method => .string e.method
  | .url => .string e.url
  | .status => .ofNat e.status
  | .userId => .ofNat e.userId
  | .userIp => .string e.userIp
  | .userRole => .string e.userRole.name
  | .receivedAt => .string e.receivedAt.render
  | .requestBody => .object e.requestBody
  | .responseBody => .object e.responseBody

def toJson (e : Entry) : Json :=
  .object (Json.Object.ofMembers (Field.all.map fun f => (f.name, e.value f)))

/-- The entry of an object with the nine members. -/
def ofJson? (v : Json) : Option Entry := do
  let o ← v.asObject?
  let get (f : Field) : Option Json := o.get? f.name
  some {
    method := ← (← get .method).asString?
    url := ← (← get .url).asString?
    status := ← (← get .status).asNat? Word.limit16
    userId := ← (← get .userId).asNat? Word.limit64
    userIp := ← (← get .userIp).asString?
    userRole := ← Role.ofJson? (← get .userRole)
    receivedAt := ← Instant.ofJson? (← get .receivedAt)
    requestBody := ← (← get .requestBody).asObject?
    responseBody := ← (← get .responseBody).asObject? }

end Entry

namespace Filter

def toJson (f : Filter) : Json :=
  .object (Json.Object.ofMembers
    [("from", .string f.start.render), ("to", .string f.stop.render), ("user_id", .ofNat f.userId),
      ("limit", .ofNat f.limit), ("offset", .ofNat f.offset)])

/-- The filter of an object with the five members. -/
def ofJson? (v : Json) : Option Filter := do
  let o ← v.asObject?
  some {
    start := ← Instant.ofJson? (← o.get? "from")
    stop := ← Instant.ofJson? (← o.get? "to")
    userId := ← (← o.get? "user_id").asNat? Word.limit64
    limit := ← (← o.get? "limit").asNat? Word.limit64
    offset := ← (← o.get? "offset").asNat? Word.limit64 }

end Filter
end AuditTrail
