import AuditTrail.Buffer.Session
import Mathlib.Data.List.Basic
import Mathlib.Tactic.Common

/-!
# What two holders do to a double buffer

One party has the guard and another one slot, and each takes its steps whenever it likes. Some
operations of the guard holder stop halfway, at a slot that the other party holds, and go on when it
is given back. In between the indices have changed already, but no entry is ever where it was not
put.
-/

namespace AuditTrail.Buffer

variable {ε : Type}

/-- What has been completed. A swap is begun when it has changed the active slot, which is named
here as it was before, and done when it gives back the slot that is full. -/
inductive Event (ε : Type) where
  | locked
  | unlocked
  | pushed (slot : Slot) (entry : ε)
  | cleared (slot : Slot)
  | swapBegun (former : Slot)
  | swapDone (full : Slot)

namespace Event

@[simp] def isLock : Event ε → Bool
  | locked => true
  | _ => false

@[simp] def isUnlock : Event ε → Bool
  | unlocked => true
  | _ => false

@[simp] def begun? : Event ε → Option Slot
  | swapBegun former => some former
  | _ => none

@[simp] def done? : Event ε → Option Slot
  | swapDone full => some full
  | _ => none

/-- The entry that is added to a slot. -/
@[simp] def pushedTo? (slot : Slot) : Event ε → Option ε
  | pushed s e => if s = slot then some e else none
  | _ => none

/-- Whether a slot is emptied. -/
@[simp] def clears (slot : Slot) : Event ε → Bool
  | cleared s => s = slot
  | _ => false

end Event

section Histories

variable (slot : Slot) (history : List (Event ε))

/-- The active slots before the swaps that have begun. -/
def begunIn : List Slot :=
  history.filterMap Event.begun?

/-- What the swaps that are done have given back. -/
def doneIn : List Slot :=
  history.filterMap Event.done?

/-- What has happened since a slot was last emptied. -/
def sinceCleared : List (Event ε) :=
  (history.reverse.takeWhile (!·.clears slot)).reverse

/-- The entries added to a slot since it was last emptied, in the order in which this was
completed. -/
def addedSince : List ε :=
  (sinceCleared slot history).filterMap (Event.pushedTo? slot)

@[simp] lemma begunIn_concat (event : Event ε) :
    begunIn (history ++ [event]) = begunIn history ++ event.begun?.toList := by
  unfold begunIn
  rw [List.filterMap_append]
  cases event <;> rfl

@[simp] lemma doneIn_concat (event : Event ε) :
    doneIn (history ++ [event]) = doneIn history ++ event.done?.toList := by
  unfold doneIn
  rw [List.filterMap_append]
  cases event <;> rfl

lemma addedSince_concat (event : Event ε) :
    addedSince slot (history ++ [event]) =
      if event.clears slot then []
      else addedSince slot history ++ (event.pushedTo? slot).toList := by
  have hreverse : (history ++ [event]).reverse = event :: history.reverse := by simp
  unfold addedSince sinceCleared
  rw [hreverse, List.takeWhile_cons]
  cases hclears : event.clears slot with
  | true => rfl
  | false =>
    simp only [Bool.not_false, if_true, Bool.false_eq_true, if_false, List.reverse_cons,
      List.filterMap_append]
    cases hpushed : event.pushedTo? slot with
    | none => simp only [List.filterMap_cons, hpushed, List.filterMap_nil, Option.toList]
    | some e => simp only [List.filterMap_cons, hpushed, List.filterMap_nil, Option.toList]

lemma addedSince_pushed (s : Slot) (e : ε) :
    addedSince slot (history ++ [.pushed s e]) =
      if slot = s then addedSince slot history ++ [e] else addedSince slot history := by
  rw [addedSince_concat]
  by_cases hs : slot = s
  · simp [hs]
  · simp [hs, Ne.symm hs]

end Histories

/-! ### Steps -/

/-- What the holders can do. The guard holder takes the guard, gives it back, and carries out
operations, which it resumes where they had to wait. The slot holder holds a slot, changes it, and
gives it back, or gets at a slot for one change only. -/
inductive Action (ε : Type) where
  | lock
  | unlock
  | push (entry : ε)
  | length
  | swap
  | resume
  | hold (slot : Slot)
  | pushHeld (entry : ε)
  | clearHeld
  | letGo
  | release (clear : Bool)
  | pushTo (slot : Slot) (entry : ε)
  | clear (slot : Slot)

/-- What an operation has completed on the active slot when it gives a result back. -/
def completed (active : Slot) : Operation ε → Result → List (Event ε)
  | .push e, .pushed => [.pushed active e]
  | .finishSwap _, .swapped full _ => [.swapDone full]
  | _, _ => []

namespace Session

/-- What comes of an operation that the guard holder tries. -/
def tried (op : Operation ε) (begun : List (Event ε)) :
    Session ε × Answer → Option (Session ε × List (Event ε))
  | (t, .done r) => some (t, begun ++ completed t.buffer.active op r)
  | (t, .pending) => some (t, begun)
  | (_, .notHeld) => none

/-- What comes of giving a slot back, first emptied or not. -/
def released (s : Session ε) (clear : Bool) : Option (Session ε × List (Event ε)) := do
  let slot ← s.held
  let (t, answer) ← s.release? clear
  let emptied := if clear then [.cleared slot] else []
  match s.guard, answer with
  | .waiting op, some (.done r) => some (t, emptied ++ completed t.buffer.active op r)
  | _, _ => some (t, emptied)

/-- The session after an action with what the action has completed, `none` where it is refused or
has to wait for its turn. -/
def act (s : Session ε) : Action ε → Option (Session ε × List (Event ε))
  | .lock => s.lock?.map fun t => (t, [.locked])
  | .unlock => s.unlock?.map fun t => (t, [.unlocked])
  | .push e => tried (.push e) [] (s.push e)
  | .length => tried .length [] s.length
  | .swap => tried (.finishSwap s.buffer.active) [.swapBegun s.buffer.active] s.swap
  | .resume =>
    match s.guard, s.resume? with
    | .waiting op, some (t, r) => some (t, completed t.buffer.active op r)
    | _, _ => none
  | .hold slot => (s.hold? slot).map fun t => (t, [])
  | .pushHeld e => do
    let slot ← s.held
    let t ← s.pushHeld? e
    return (t, [.pushed slot e])
  | .clearHeld => do
    let slot ← s.held
    let t ← s.clearHeld?
    return (t, [.cleared slot])
  | .letGo => s.letGo?.map fun t => (t, [])
  | .release clear => s.released clear
  | .pushTo slot e => (s.pushTo? slot e).map fun t => (t, [.pushed slot e])
  | .clear slot => (s.clear? slot).map fun t => (t, [.cleared slot])

/-- The session after some actions, with all that they have completed. An action that is refused
changes nothing. -/
def run (s : Session ε) : List (Action ε) → Session ε × List (Event ε)
  | [] => (s, [])
  | a :: actions =>
    match s.act a with
    | some (t, events) =>
      let (u, history) := t.run actions
      (u, events ++ history)
    | none => s.run actions

/-- The operations that are carried out as a whole on the active slot. -/
def operation? : Action ε → Option (Operation ε)
  | .push e => some (.push e)
  | .length => some .length
  | _ => none

lemma operation_ne_finishSwap {a : Action ε} {op : Operation ε} (h : operation? a = some op)
    (full : Slot) : op ≠ .finishSwap full := by
  rintro rfl
  cases a <;> cases h

/-- The held slot as it is given back, emptied or not. -/
def givenBack (s : Session ε) (slot : Slot) (clear : Bool) : DoubleBuffer ε :=
  if clear then s.buffer.clear slot else s.buffer

/-- The outcomes of an action, each with the state in which it comes about. -/
inductive Outcome (s : Session ε) : Action ε → Session ε → List (Event ε) → Prop where
  | lock : s.guard = .free → Outcome s .lock { s with guard := .held } [.locked]
  | unlock : s.guard = .held → Outcome s .unlock { s with guard := .free } [.unlocked]
  | operate {a : Action ε} {op : Operation ε} : operation? a = some op → s.guard = .held →
      s.isBusy s.buffer.active = false →
      Outcome s a { s with buffer := (perform s.buffer op).1 }
        (completed s.buffer.active op (perform s.buffer op).2)
  | wait {a : Action ε} {op : Operation ε} : operation? a = some op → s.guard = .held →
      s.isBusy s.buffer.active = true → Outcome s a { s with guard := .waiting op } []
  | swap : s.guard = .held → s.isBusy s.buffer.backup = false →
      Outcome s .swap { s with buffer := s.buffer.swap }
        [.swapBegun s.buffer.active, .swapDone s.buffer.active]
  | swapWaits : s.guard = .held → s.isBusy s.buffer.backup = true →
      Outcome s .swap
        { s with buffer := s.buffer.swap, guard := .waiting (.finishSwap s.buffer.active) }
        [.swapBegun s.buffer.active]
  | resume {op : Operation ε} : s.guard = .waiting op → s.held ≠ some s.buffer.active →
      Outcome s .resume
        { s with buffer := (perform s.buffer op).1, guard := .held, reserved := none }
        (completed s.buffer.active op (perform s.buffer op).2)
  | take {slot : Slot} : s.held = none → s.isBusy slot = false →
      Outcome s (.hold slot) { s with held := some slot } []
  | change {slot old : Slot} : s.held = some old → s.isBusy slot = false →
      Outcome s (.hold slot)
        { s with
          held := some slot
          reserved := if s.awaits old then some old else s.reserved } []
  | letGo {slot : Slot} : s.held = some slot →
      Outcome s .letGo
        { s with held := none, reserved := if s.awaits slot then some slot else s.reserved } []
  | pushHeld {slot : Slot} (e : ε) : s.held = some slot →
      Outcome s (.pushHeld e) { s with buffer := s.buffer.pushTo slot e } [.pushed slot e]
  | clearHeld {slot : Slot} : s.held = some slot →
      Outcome s .clearHeld { s with buffer := s.buffer.clear slot } [.cleared slot]
  | pushTo {slot : Slot} (e : ε) : s.isBusy slot = false →
      Outcome s (.pushTo slot e) { s with buffer := s.buffer.pushTo slot e } [.pushed slot e]
  | clear {slot : Slot} : s.isBusy slot = false →
      Outcome s (.clear slot) { s with buffer := s.buffer.clear slot } [.cleared slot]
  | release {slot : Slot} (clear : Bool) : s.held = some slot → (∀ op, s.guard ≠ .waiting op) →
      Outcome s (.release clear) ⟨s.givenBack slot clear, s.guard, none, none⟩
        (if clear then [.cleared slot] else [])
  | releaseWaiting {slot : Slot} {op : Operation ε} (clear : Bool) : s.held = some slot →
      s.guard = .waiting op →
      Outcome s (.release clear) ⟨(perform (s.givenBack slot clear) op).1, .held, none, none⟩
        ((if clear then [.cleared slot] else []) ++
          completed s.buffer.active op (perform (s.givenBack slot clear) op).2)

section Outcomes

variable {s t : Session ε} {events : List (Event ε)} {a : Action ε} {op : Operation ε}

@[simp] lemma active_perform (b : DoubleBuffer ε) (op : Operation ε) :
    (perform b op).1.active = b.active := by
  cases op <;> rfl

@[simp] lemma active_givenBack (s : Session ε) (slot : Slot) (clear : Bool) :
    (s.givenBack slot clear).active = s.buffer.active := by
  cases clear <;> rfl

/-- An operation on the active slot waits just if somebody is at it. -/
lemma tried_cases {begun : List (Event ε)}
    (h : tried op begun (s.attempt op) = some (t, events)) :
    (s.isBusy s.buffer.active = true ∧ t = { s with guard := .waiting op } ∧ events = begun) ∨
    (s.isBusy s.buffer.active = false ∧ t = { s with buffer := (perform s.buffer op).1 } ∧
      events = begun ++ completed s.buffer.active op (perform s.buffer op).2) := by
  unfold attempt at h
  split at h
  · next hbusy =>
    cases h
    exact .inl ⟨hbusy, rfl, rfl⟩
  · next hfree =>
    simp only [tried, active_perform, Option.some.injEq, Prod.mk.injEq] at h
    obtain ⟨rfl, rfl⟩ := h
    exact .inr ⟨by simpa using hfree, rfl, rfl⟩

lemma tried_outcome (ha : operation? a = some op) (hs : s.guard = .held)
    (h : tried op [] (s.attempt op) = some (t, events)) : Outcome s a t events := by
  rcases tried_cases h with ⟨hbusy, rfl, rfl⟩ | ⟨hfree, rfl, rfl⟩
  · exact .wait ha hs hbusy
  · exact .operate ha hs hfree

lemma swap_outcome (h : s.act .swap = some (t, events)) : Outcome s .swap t events := by
  simp only [act, Session.swap] at h
  split at h
  · next hs =>
    rcases tried_cases h with ⟨hbusy, rfl, rfl⟩ | ⟨hfree, rfl, rfl⟩
    · exact .swapWaits hs hbusy
    · exact .swap hs hfree
  · cases h

lemma resume_outcome (h : s.act .resume = some (t, events)) : Outcome s .resume t events := by
  simp only [act, resume?] at h
  split at h
  · next op t' r hs hresume =>
    rw [hs] at hresume
    simp only [Option.ite_none_left_eq_some, Option.some.injEq, Prod.mk.injEq] at hresume
    obtain ⟨hheld, rfl, rfl⟩ := hresume
    simp only [active_perform, Option.some.injEq, Prod.mk.injEq] at h
    obtain ⟨rfl, rfl⟩ := h
    exact .resume hs (by simpa using hheld)
  · cases h

lemma hold_outcome {slot : Slot} (h : s.act (.hold slot) = some (t, events)) :
    Outcome s (.hold slot) t events := by
  simp only [act, hold?] at h
  split at h
  · cases h
  · next hfree =>
    have hfree : s.isBusy slot = false := by simpa using hfree
    cases h
    cases hheld : s.held with
    | none => exact .take hheld hfree
    | some old => exact .change hheld hfree

/-- Whoever waits for the slot that is given back waits no longer. -/
lemma release_eq {slot : Slot} (hheld : s.held = some slot) (clear : Bool) :
    s.release? clear =
      match s.guard with
      | .waiting op =>
        let (b, r) := perform (s.givenBack slot clear) op
        some (⟨b, .held, none, none⟩, some (.done r))
      | guard => some (⟨s.givenBack slot clear, guard, none, none⟩, none) := by
  unfold release?
  rw [hheld]
  cases hguard : s.guard with
  | free => simp [givenBack]
  | held => simp [givenBack]
  | waiting op => simp [attempt, isBusy, givenBack]

lemma release_outcome {clear : Bool} (h : s.act (.release clear) = some (t, events)) :
    Outcome s (.release clear) t events := by
  simp only [act, released, bind, Option.bind_eq_some_iff] at h
  obtain ⟨slot, hheld, ⟨t', answer⟩, hrelease, h⟩ := h
  rw [release_eq hheld] at hrelease
  cases hguard : s.guard with
  | free | held =>
    simp only [hguard, Option.some.injEq, Prod.mk.injEq] at hrelease h
    obtain ⟨rfl, rfl⟩ := hrelease
    obtain ⟨rfl, rfl⟩ := h
    rw [← hguard]
    exact .release clear hheld (by rw [hguard]; nofun)
  | waiting op =>
    simp only [hguard, Option.some.injEq, Prod.mk.injEq] at hrelease h
    obtain ⟨rfl, rfl⟩ := hrelease
    simp only [active_perform, active_givenBack, Option.some.injEq, Prod.mk.injEq] at h
    obtain ⟨rfl, rfl⟩ := h
    exact .releaseWaiting clear hheld hguard

lemma act_outcome (h : s.act a = some (t, events)) : Outcome s a t events := by
  cases a with
  | lock =>
    simp only [act, lock?] at h
    split at h
    · next hs =>
      cases h
      exact .lock hs
    · cases h
  | unlock =>
    simp only [act, unlock?] at h
    split at h
    · next hs =>
      cases h
      exact .unlock hs
    · cases h
  | push e =>
    simp only [act, push] at h
    split at h
    · next hs => exact tried_outcome rfl hs h
    · cases h
  | length =>
    simp only [act, length] at h
    split at h
    · next hs => exact tried_outcome rfl hs h
    · cases h
  | swap => exact swap_outcome h
  | resume => exact resume_outcome h
  | hold slot => exact hold_outcome h
  | pushHeld e =>
    simp only [act, pushHeld?] at h
    cases hheld : s.held with
    | none =>
      rw [hheld] at h
      cases h
    | some slot =>
      rw [hheld] at h
      cases h
      rw [← hheld]
      exact .pushHeld e hheld
  | clearHeld =>
    simp only [act, clearHeld?] at h
    cases hheld : s.held with
    | none =>
      rw [hheld] at h
      cases h
    | some slot =>
      rw [hheld] at h
      cases h
      rw [← hheld]
      exact .clearHeld hheld
  | letGo =>
    simp only [act, letGo?, Option.map_map, Option.map_eq_some_iff] at h
    obtain ⟨slot, hheld, heq⟩ := h
    cases heq
    exact .letGo hheld
  | release clear => exact release_outcome h
  | pushTo slot e =>
    simp only [act, pushTo?] at h
    split at h
    · cases h
    · next hfree =>
      cases h
      exact .pushTo e (by simpa using hfree)
  | clear slot =>
    simp only [act, clear?] at h
    split at h
    · cases h
    · next hfree =>
      cases h
      exact .clear (by simpa using hfree)

end Outcomes

end Session
end AuditTrail.Buffer
