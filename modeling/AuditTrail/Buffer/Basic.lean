/-!
# The double buffer

Two slots of entries, one of them active. Entries are added to the active slot; a swap makes the
other slot the active one and counts a generation, and leaves the contents of both alone.
-/

namespace AuditTrail

/-- One of the two slots. -/
inductive Slot where
  | zero
  | one
  deriving DecidableEq, Repr, Inhabited

namespace Slot

def other : Slot → Slot
  | zero => one
  | one => zero

def index : Slot → Nat
  | zero => 0
  | one => 1

/-- The slot of an index, counted modulo two. -/
def ofIndex (n : Nat) : Slot :=
  if n % 2 = 0 then zero else one

@[simp] theorem other_other (s : Slot) : s.other.other = s := by cases s <;> rfl

@[simp] theorem other_ne (s : Slot) : s.other ≠ s := by cases s <;> simp [other]

theorem ofIndex_succ (n : Nat) : ofIndex (n + 1) = (ofIndex n).other := by
  unfold ofIndex
  rcases Nat.mod_two_eq_zero_or_one n with h | h <;> simp [h, other] <;> omega

theorem index_ofIndex (n : Nat) : (ofIndex n).index = n % 2 := by
  unfold ofIndex
  rcases Nat.mod_two_eq_zero_or_one n with h | h <;> simp [h, index]

end Slot

/-- A value for each slot. -/
structure PerSlot (α : Type) where
  zero : α
  one : α
  deriving DecidableEq, Repr, Inhabited

namespace PerSlot

variable {α : Type}

def get (p : PerSlot α) : Slot → α
  | .zero => p.zero
  | .one => p.one

def set (p : PerSlot α) (s : Slot) (x : α) : PerSlot α :=
  match s with
  | .zero => { p with zero := x }
  | .one => { p with one := x }

@[simp] theorem get_set_self (p : PerSlot α) (s : Slot) (x : α) : (p.set s x).get s = x := by
  cases s <;> rfl

@[simp] theorem get_set_other (p : PerSlot α) (s : Slot) (x : α) :
    (p.set s x).get s.other = p.get s.other := by
  cases s <;> rfl

theorem get_set (p : PerSlot α) (s t : Slot) (x : α) :
    (p.set s x).get t = if t = s then x else p.get t := by
  cases s <;> cases t <;> rfl

end PerSlot

/-- Two slots of entries and which of them is active. The generation is counted in 64 bits, which
are more than there can be swaps. -/
structure DoubleBuffer (ε : Type) where
  active : Slot
  generation : Nat
  slots : PerSlot (List ε)
  deriving DecidableEq, Repr

namespace DoubleBuffer

variable {ε : Type}

def empty : DoubleBuffer ε := ⟨.zero, 0, ⟨[], []⟩⟩

/-- The slot that is not active. -/
def backup (b : DoubleBuffer ε) : Slot :=
  b.active.other

def contents (b : DoubleBuffer ε) (s : Slot) : List ε :=
  b.slots.get s

def activeLength (b : DoubleBuffer ε) : Nat :=
  (b.contents b.active).length

/-- Adds an entry at the end of a slot. -/
def pushTo (b : DoubleBuffer ε) (s : Slot) (e : ε) : DoubleBuffer ε :=
  { b with slots := b.slots.set s (b.contents s ++ [e]) }

/-- Adds an entry at the end of the active slot. -/
def push (b : DoubleBuffer ε) (e : ε) : DoubleBuffer ε :=
  b.pushTo b.active e

/-- Makes the other slot the active one. -/
def swap (b : DoubleBuffer ε) : DoubleBuffer ε :=
  { b with active := b.active.other, generation := b.generation + 1 }

/-- Empties a slot. -/
def clear (b : DoubleBuffer ε) (s : Slot) : DoubleBuffer ε :=
  { b with slots := b.slots.set s [] }

@[simp] theorem contents_swap (b : DoubleBuffer ε) (s : Slot) :
    b.swap.contents s = b.contents s := rfl

@[simp] theorem contents_push_active (b : DoubleBuffer ε) (e : ε) :
    (b.push e).contents b.active = b.contents b.active ++ [e] := by
  simp [push, pushTo, contents]

theorem contents_clear (b : DoubleBuffer ε) (s t : Slot) :
    (b.clear s).contents t = if t = s then [] else b.contents t := by
  unfold clear contents
  rw [PerSlot.get_set]

@[simp] theorem active_swap (b : DoubleBuffer ε) : b.swap.active = b.backup := rfl

@[simp] theorem backup_swap (b : DoubleBuffer ε) : b.swap.backup = b.active := by
  simp [backup, swap]

theorem backup_ne_active (b : DoubleBuffer ε) : b.backup ≠ b.active :=
  b.active.other_ne

theorem eq_active_or_backup (b : DoubleBuffer ε) (s : Slot) : s = b.active ∨ s = b.backup := by
  unfold backup
  cases s <;> cases b.active <;> simp [Slot.other]

@[simp] theorem contents_push_backup (b : DoubleBuffer ε) (e : ε) :
    (b.push e).contents b.backup = b.contents b.backup := by
  simp [push, pushTo, contents, backup]

@[simp] theorem contents_clear_self (b : DoubleBuffer ε) (s : Slot) :
    (b.clear s).contents s = [] := by
  simp [clear, contents]

end DoubleBuffer
end AuditTrail
