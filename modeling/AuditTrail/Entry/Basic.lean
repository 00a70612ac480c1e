import AuditTrail.Json.Basic
import AuditTrail.Time.Instant

/-!
# Audit entries

What the audit trail keeps of one request: who sent it, what it asked for and how it was answered.
-/

namespace AuditTrail

open Time (Instant)

/-- The part that a user plays. -/
inductive Role where
  | shop
  | admin
  | user
  deriving DecidableEq, Repr, Inhabited

namespace Role

def all : List Role := [shop, admin, user]

def name : Role → String
  | shop => "shop"
  | admin => "admin"
  | user => "user"

def ofName? (s : String) : Option Role :=
  all.find? (·.name == s)

/-- The role of a user nobody has vouched for. -/
def default : Role := user

end Role

/-- Who sent a request. The number zero and neither mark stand for an unknown user. -/
structure Identity where
  userId : Nat
  isStore : Bool
  isAdmin : Bool
  deriving DecidableEq, Repr

namespace Identity

def anonymous : Identity := ⟨0, false, false⟩

/-- A store is a shop, whether or not it is an administrator too. -/
def role (who : Identity) : Role :=
  if who.isStore then .shop else if who.isAdmin then .admin else .user

end Identity

/-- The record of one audited request. -/
structure Entry where
  method : String
  url : String
  status : Nat
  userId : Nat
  userIp : String
  userRole : Role
  receivedAt : Instant
  requestBody : Json.Object
  responseBody : Json.Object
  deriving Inhabited

/-- Which entries a query asks for, and which page of them. User zero stands for every user. -/
structure Filter where
  start : Instant
  stop : Instant
  userId : Nat
  limit : Nat
  offset : Nat
  deriving DecidableEq, Repr

namespace Filter

/-- Both ends of the window belong to it. -/
def accepts (f : Filter) (e : Entry) : Bool :=
  f.start ≤ e.receivedAt && e.receivedAt ≤ f.stop && (f.userId == 0 || e.userId == f.userId)

end Filter
end AuditTrail
