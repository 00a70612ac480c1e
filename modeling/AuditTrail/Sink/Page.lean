import AuditTrail.Entry.Basic

/-!
# Pages of entries

The entries that a filter accepts, the newest first and entries of one instant in their stored
order, cut to the page that the filter asks for.
-/

namespace AuditTrail

/-- One page, and how many entries there are on all of them. -/
structure Page where
  items : List Entry
  total : Nat

namespace Page

/-- Newest first. -/
def ordered (es : List Entry) : List Entry :=
  es.mergeSort fun a b => b.receivedAt ≤ a.receivedAt

/-- The page of entries that have been accepted already. -/
def ofAccepted (f : Filter) (es : List Entry) : Page :=
  ⟨((ordered es).drop f.offset).take f.limit, es.length⟩

/-- The page of the entries that the filter accepts. -/
def select (f : Filter) (es : List Entry) : Page :=
  ofAccepted f (es.filter f.accepts)

end Page
end AuditTrail
