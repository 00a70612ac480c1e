import AuditTrail.Binary64

/-!
# JSON values

Objects are association lists kept in the order of their keys, each key once; `Object.insert` is
the only way in, so that the last of several members with one key stays.
-/

namespace AuditTrail

/-- A number as it is kept: whole numbers of 64 bits exactly, all others as binary fractions. -/
inductive Number where
  | integer (value : Int)
  | float (value : Binary64)
  deriving DecidableEq, Inhabited

/-- A JSON value. -/
inductive Json where
  | null
  | bool (value : Bool)
  | number (value : Number)
  | string (value : String)
  | array (items : List Json)
  | object (members : List (String × Json))
  deriving Inhabited

namespace Json

/-- The members of an object, in the order of their keys. -/
abbrev Object := List (String × Json)

namespace Object

/-- Adds a member, in place of one with the same key. Texts are ordered by code points, which is
also the order of their UTF-8 octets. -/
def insert (key : String) (value : Json) : Object → Object
  | [] => [(key, value)]
  | (k, v) :: rest =>
    if key < k then (key, value) :: (k, v) :: rest
    else if key = k then (key, value) :: rest
    else (k, v) :: insert key value rest

/-- The object of a list of members; the last member with a key wins. -/
def ofMembers (members : List (String × Json)) : Object :=
  members.foldl (fun o (k, v) => insert k v o) []

def get? (o : Object) (key : String) : Option Json :=
  o.lookup key

/-- Every key of `o` stands before the next one. -/
def Sorted (o : Object) : Prop :=
  (o.map Prod.fst).Pairwise (· < ·)

/-- The members of both objects; where they share a key, the value of `top`. -/
def merge (base top : Object) : Object :=
  top.foldl (fun o (k, v) => insert k v o) base

end Object

/-- The value of an integer. -/
def ofNat (n : Nat) : Json :=
  number (.integer n)

def asString? : Json → Option String
  | string s => some s
  | _ => none

/-- A natural number below `bound`. -/
def asNat? (bound : Nat) : Json → Option Nat
  | number (.integer n) => if 0 ≤ n ∧ n < bound then some n.toNat else none
  | _ => none

def asObject? : Json → Option Object
  | object o => some o
  | _ => none

end Json
end AuditTrail
