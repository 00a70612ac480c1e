import AuditTrail.Buffer.Basic

/-!
# Two holders of a double buffer

One party may hold the guard, which allows it to add entries and to swap; another may hold one slot
while its entries are written out. An operation of the guard holder that needs the held slot
waits, and is finished when that slot is released. A waiting swap has changed the active slot
already; what it waits for is a look at the slot it has made active.
-/

namespace AuditTrail.Buffer

variable {ε : Type}

/-- An operation of the guard holder that has to look into the active slot. -/
inductive Operation (ε : Type) where
  | push (entry : ε)
  | length
  | finishSwap (full : Slot)
  deriving DecidableEq, Repr

/-- What an operation gives back. -/
inductive Result where
  | pushed
  | length (n : Nat)
  | swapped (full : Slot) (resident : Nat)
  deriving DecidableEq, Repr

/-- The guard: nobody has it, or its holder is free to act, or waits in an operation. -/
inductive Guard (ε : Type) where
  | free
  | held
  | waiting (op : Operation ε)
  deriving DecidableEq, Repr

/-- A buffer with its two holders. A slot that its holder gave up for the other one is reserved for
the operation that waits for it. -/
structure Session (ε : Type) where
  buffer : DoubleBuffer ε
  guard : Guard ε
  held : Option Slot
  reserved : Option Slot
  deriving DecidableEq, Repr

/-- What the guard holder finds out at once. -/
inductive Answer where
  | done (r : Result)
  | pending
  | notHeld
  deriving DecidableEq, Repr

namespace Session

def start : Session ε := ⟨.empty, .free, none, none⟩

/-- Whether nobody can get at a slot. -/
def isBusy (s : Session ε) (slot : Slot) : Bool :=
  s.held == some slot || s.reserved == some slot

/-- Takes the guard, if it is free. -/
def lock? (s : Session ε) : Option (Session ε) :=
  match s.guard with
  | .free => some { s with guard := .held }
  | _ => none

/-- Gives the guard back, unless its holder waits. -/
def unlock? (s : Session ε) : Option (Session ε) :=
  match s.guard with
  | .held => some { s with guard := .free }
  | _ => none

/-- Whether the guard could be taken. -/
def canLock (s : Session ε) : Bool :=
  match s.guard with
  | .free => true
  | _ => false

/-- Carries an operation out on the active slot. -/
def perform (b : DoubleBuffer ε) : Operation ε → DoubleBuffer ε × Result
  | .push e => (b.push e, .pushed)
  | .length => (b, .length b.activeLength)
  | .finishSwap full => (b, .swapped full b.activeLength)

/-- Carries an operation out, or waits with it if the active slot is taken. -/
def attempt (s : Session ε) (op : Operation ε) : Session ε × Answer :=
  if s.isBusy s.buffer.active then ({ s with guard := .waiting op }, .pending)
  else
    let (b, r) := perform s.buffer op
    ({ s with buffer := b }, .done r)

/-- Adds an entry to the active slot. -/
def push (s : Session ε) (e : ε) : Session ε × Answer :=
  match s.guard with
  | .held => s.attempt (.push e)
  | _ => (s, .notHeld)

/-- The length of the active slot. -/
def length (s : Session ε) : Session ε × Answer :=
  match s.guard with
  | .held => s.attempt .length
  | _ => (s, .notHeld)

/-- Makes the other slot the active one, then looks at what it holds. -/
def swap (s : Session ε) : Session ε × Answer :=
  match s.guard with
  | .held => { s with buffer := s.buffer.swap }.attempt (.finishSwap s.buffer.active)
  | _ => (s, .notHeld)

/-- Whether the guard holder may act, and so look at the indices and the generation. -/
def mayAct (s : Session ε) : Bool :=
  match s.guard with
  | .held => true
  | _ => false

/-- The entries of a slot, if it can be got at. -/
def look? (s : Session ε) (slot : Slot) : Option (List ε) :=
  if s.isBusy slot then none else some (s.buffer.contents slot)

/-- Empties a slot, if it can be got at. -/
def clear? (s : Session ε) (slot : Slot) : Option (Session ε) :=
  if s.isBusy slot then none else some { s with buffer := s.buffer.clear slot }

/-- Adds an entry to a slot directly, if it can be got at. -/
def pushTo? (s : Session ε) (slot : Slot) (e : ε) : Option (Session ε) :=
  if s.isBusy slot then none else some { s with buffer := s.buffer.pushTo slot e }

/-- Whether an operation waits for a slot. -/
def awaits (s : Session ε) (slot : Slot) : Bool :=
  match s.guard with
  | .waiting _ => s.buffer.active == slot
  | _ => false

/-- Holds a slot. The other slot, if it was held, is given up, to the operation that waits for it
if there is one. -/
def hold? (s : Session ε) (slot : Slot) : Option (Session ε) :=
  if s.isBusy slot then none
  else
    let reserved := match s.held with
      | some old => if s.awaits old then some old else s.reserved
      | none => s.reserved
    some { s with held := some slot, reserved }

/-- Gives the held slot back, emptied if `clear` is set, and finishes the operation that waits. -/
def release? (s : Session ε) (clear : Bool) : Option (Session ε × Option Answer) :=
  match s.held with
  | none => none
  | some slot =>
    let b := if clear then s.buffer.clear slot else s.buffer
    let s : Session ε := { s with buffer := b, held := none, reserved := none }
    match s.guard with
    | .waiting op =>
      let (s, answer) := { s with guard := .held }.attempt op
      some (s, some answer)
    | _ => some (s, none)

/-! ### The single steps of a release

Between them the slot holder may go on: add to the slot, empty it, and hold the other one before the
operation that waits goes on. -/

/-- Adds an entry to the held slot. -/
def pushHeld? (s : Session ε) (e : ε) : Option (Session ε) :=
  s.held.map fun slot => { s with buffer := s.buffer.pushTo slot e }

/-- Empties the held slot. -/
def clearHeld? (s : Session ε) : Option (Session ε) :=
  s.held.map fun slot => { s with buffer := s.buffer.clear slot }

/-- Gives the held slot back, to the operation that waits for it if there is one. -/
def letGo? (s : Session ε) : Option (Session ε) :=
  s.held.map fun slot =>
    { s with held := none, reserved := if s.awaits slot then some slot else s.reserved }

/-- Finishes the operation that waits, once its slot is not held. -/
def resume? (s : Session ε) : Option (Session ε × Result) :=
  match s.guard with
  | .waiting op =>
    if s.held == some s.buffer.active then none
    else
      let (b, r) := perform s.buffer op
      some ({ s with buffer := b, guard := .held, reserved := none }, r)
  | _ => none

end Session
end AuditTrail.Buffer
