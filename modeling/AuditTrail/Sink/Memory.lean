import AuditTrail.Delivery
import AuditTrail.Sink.Page

/-!
# The sink in memory

Keeps its batches in order. It can be told to refuse the next few of them.
-/

namespace AuditTrail.Sink

structure Memory where
  batches : List (List Entry)
  attempts : Nat
  failuresLeft : Nat

namespace Memory

def empty : Memory := ⟨[], 0, 0⟩

/-- Refuses the next `n` batches, instead of what was to be refused before. -/
def failNext (m : Memory) (n : Nat) : Memory :=
  { m with failuresLeft := n }

def entries (m : Memory) : List Entry :=
  m.batches.flatten

def append (m : Memory) (batch : List Entry) : Memory × Except Failure Unit :=
  let m := { m with attempts := m.attempts + 1 }
  if 0 < m.failuresLeft then
    ({ m with failuresLeft := m.failuresLeft - 1 }, .error (.sink "injected failure"))
  else ({ m with batches := m.batches ++ [batch] }, .ok ())

def query (m : Memory) (f : Filter) : Page :=
  Page.select f m.entries

end Memory
end AuditTrail.Sink
