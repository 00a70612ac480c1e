import AuditTrail.Proofs.Holders
import Mathlib.Data.List.Basic
import Mathlib.Tactic.Common

/-!
# The law of the double buffer

The indices tell how many swaps have begun, also while one of them waits, and every slot holds the
entries that were added to it since it was last emptied. Both follow from what a single step adds to
the history. An operation that waits is attended by the slot it waits for: it is held, or
kept for that operation.
-/

namespace AuditTrail.Buffer

variable {ε : Type}

/-- How many guards there are. -/
@[simp] def guardsOf : Guard ε → Nat
  | .free => 0
  | .held | .waiting _ => 1

/-- The swap that waits, named by what it will give back. -/
@[simp] def unfinishedOf : Guard ε → List Slot
  | .waiting (.finishSwap full) => [full]
  | _ => []

/-- What holds of the guard and the buffer with the history that has led to them. -/
structure Lawful (guard : Guard ε) (b : DoubleBuffer ε) (history : List (Event ε)) : Prop where
  guards : history.countP Event.isLock = history.countP Event.isUnlock + guardsOf guard
  active : b.active = .ofIndex b.generation
  begun : begunIn history = (List.range b.generation).map Slot.ofIndex
  done : begunIn history = doneIn history ++ unfinishedOf guard
  contents : ∀ slot, b.contents slot = addedSince slot history

namespace Lawful

variable {guard : Guard ε} {b : DoubleBuffer ε} {history : List (Event ε)}

lemma at_start : Lawful Guard.free (.empty : DoubleBuffer ε) [] where
  guards := rfl
  active := rfl
  begun := rfl
  done := rfl
  contents slot := by cases slot <;> rfl

lemma locked (h : Lawful .free b history) : Lawful .held b (history ++ [.locked]) where
  guards := by simpa using h.guards
  active := h.active
  begun := by simpa using h.begun
  done := by simpa using h.done
  contents slot := by simpa [addedSince_concat] using h.contents slot

lemma unlocked (h : Lawful .held b history) : Lawful .free b (history ++ [.unlocked]) where
  guards := by simpa using h.guards
  active := h.active
  begun := by simpa using h.begun
  done := by simpa using h.done
  contents slot := by simpa [addedSince_concat] using h.contents slot

lemma waits {op : Operation ε} (h : Lawful .held b history) (hop : ∀ full, op ≠ .finishSwap full) :
    Lawful (.waiting op) b history where
  guards := h.guards
  active := h.active
  begun := h.begun
  done := by
    cases op with
    | push e => exact h.done
    | length => exact h.done
    | finishSwap full => exact (hop full rfl).elim
  contents := h.contents

/-- The one step that changes the indices. All swaps before it are done, as the guard is held. -/
lemma swapBegun (h : Lawful .held b history) :
    Lawful (.waiting (.finishSwap b.active)) b.swap (history ++ [.swapBegun b.active]) where
  guards := by simpa using h.guards
  active := by
    change b.active.other = .ofIndex (b.generation + 1)
    rw [h.active, Slot.ofIndex_succ]
  begun := by
    change _ = (List.range (b.generation + 1)).map Slot.ofIndex
    rw [begunIn_concat, h.begun, List.range_succ, List.map_append, List.map_singleton, ← h.active]
    rfl
  done := by
    have hdone : begunIn history = doneIn history := by simpa using h.done
    simp [hdone]
  contents slot := by
    rw [DoubleBuffer.contents_swap, addedSince_concat, h.contents]
    simp

lemma pushed (h : Lawful guard b history) (slot : Slot) (e : ε) :
    Lawful guard (b.pushTo slot e) (history ++ [.pushed slot e]) where
  guards := by simpa using h.guards
  active := h.active
  begun := by
    rw [begunIn_concat, h.begun]
    exact List.append_nil _
  done := by simpa using h.done
  contents other := by
    rw [addedSince_pushed, ← h.contents]
    unfold DoubleBuffer.pushTo DoubleBuffer.contents
    rw [PerSlot.get_set]
    split_ifs with hother
    · rw [hother]
    · rfl

lemma cleared (h : Lawful guard b history) (slot : Slot) :
    Lawful guard (b.clear slot) (history ++ [.cleared slot]) where
  guards := by simpa using h.guards
  active := h.active
  begun := by
    rw [begunIn_concat, h.begun]
    exact List.append_nil _
  done := by simpa using h.done
  contents other := by
    rw [DoubleBuffer.contents_clear, addedSince_concat, h.contents]
    simp [eq_comm]

lemma finished {op : Operation ε} (h : Lawful (.waiting op) b history) :
    Lawful .held (Session.perform b op).1
      (history ++ completed b.active op (Session.perform b op).2) := by
  cases op with
  | push e =>
    have hheld : Lawful .held b history := ⟨h.guards, h.active, h.begun, h.done, h.contents⟩
    exact hheld.pushed b.active e
  | length =>
    rw [show completed b.active .length _ = ([] : List (Event ε)) from rfl, List.append_nil]
    exact ⟨h.guards, h.active, h.begun, h.done, h.contents⟩
  | finishSwap full =>
    change Lawful .held b (history ++ [.swapDone full])
    refine ⟨?_, h.active, ?_, ?_, fun slot => ?_⟩
    · simpa using h.guards
    · simpa using h.begun
    · simpa using h.done
    · simpa [addedSince_concat] using h.contents slot

/-- An operation that is carried out at once begins and finishes in one step. -/
lemma outcome {s t : Session ε} {a : Action ε} {events : List (Event ε)}
    (h : Lawful s.guard s.buffer history) (hact : s.Outcome a t events) :
    Lawful t.guard t.buffer (history ++ events) := by
  cases hact with
  | lock hs =>
    rw [hs] at h
    exact h.locked
  | unlock hs =>
    rw [hs] at h
    exact h.unlocked
  | operate hop hs _ =>
    rw [hs] at h ⊢
    exact (h.waits (Session.operation_ne_finishSwap hop)).finished
  | wait hop hs _ =>
    rw [hs] at h
    rw [List.append_nil]
    exact h.waits (Session.operation_ne_finishSwap hop)
  | swap hs _ =>
    rw [hs] at h ⊢
    have := h.swapBegun.finished
    rwa [List.append_assoc] at this
  | swapWaits hs _ =>
    rw [hs] at h
    exact h.swapBegun
  | resume hs _ =>
    rw [hs] at h
    exact h.finished
  | take _ _ | change _ _ | letGo _ => rwa [List.append_nil]
  | @pushHeld slot e _ => exact h.pushed slot e
  | @pushTo slot e _ => exact h.pushed slot e
  | @clearHeld slot _ => exact h.cleared slot
  | @clear slot _ => exact h.cleared slot
  | @release slot clear _ _ =>
    cases clear with
    | false => rwa [if_neg Bool.false_ne_true, List.append_nil]
    | true => exact h.cleared slot
  | @releaseWaiting slot op clear _ hs =>
    rw [hs] at h
    cases clear with
    | false => exact h.finished
    | true =>
      rw [if_pos rfl, ← List.append_assoc]
      exact (h.cleared slot).finished

end Lawful

/-! ### Waiting -/

/-- Whoever waits, waits for the active slot: it is held, or kept for the operation that waits. No
slot is kept for anything else. -/
structure Attended (s : Session ε) : Prop where
  waits : ∀ op, s.guard = .waiting op →
    s.held = some s.buffer.active ∨ s.reserved = some s.buffer.active
  reserved : ∀ slot, s.reserved = some slot →
    slot = s.buffer.active ∧ s.held ≠ some slot ∧ ∃ op, s.guard = .waiting op

namespace Attended

variable {s t : Session ε} {guard : Guard ε} {b : DoubleBuffer ε} {op : Operation ε} {slot : Slot}

lemma isBusy_iff : s.isBusy slot = true ↔ s.held = some slot ∨ s.reserved = some slot := by
  simp [Session.isBusy]

lemma awaits_iff : s.awaits slot = true ↔ slot = s.buffer.active ∧ ∃ op, s.guard = .waiting op := by
  unfold Session.awaits
  cases s.guard with
  | free | held => simp
  | waiting op =>
    rw [beq_iff_eq, eq_comm]
    exact ⟨fun h => ⟨h, op, rfl⟩, And.left⟩

/-- Nothing is kept while nobody waits. -/
lemma unreserved (h : Attended s) (hs : ∀ op, s.guard ≠ .waiting op) : s.reserved = none := by
  cases hreserved : s.reserved with
  | none => rfl
  | some slot =>
    obtain ⟨-, -, op, hop⟩ := h.reserved slot hreserved
    exact (hs op hop).elim

/-- Where nobody waits and nothing is kept, there is nothing to attend to. -/
lemma of_idle (hguard : ∀ op, s.guard ≠ .waiting op) (hreserved : s.reserved = none) :
    Attended s where
  waits op hop := (hguard op hop).elim
  reserved slot h := by
    rw [hreserved] at h
    cases h

/-- What is written into the slots is of no account. -/
lemma of_same (h : Attended s) (hguard : t.guard = s.guard) (hheld : t.held = s.held)
    (hreserved : t.reserved = s.reserved) (hactive : t.buffer.active = s.buffer.active) :
    Attended t where
  waits := by
    rw [hguard, hheld, hreserved, hactive]
    exact h.waits
  reserved := by
    rw [hguard, hheld, hreserved, hactive]
    exact h.reserved

/-- An operation begins to wait where the active slot is busy; as nothing is kept, it is held. -/
lemma of_busy (h : Attended s) (hs : s.guard = .held) (hbusy : s.isBusy b.active = true) :
    Attended { s with buffer := b, guard := .waiting op } := by
  have hreserved : s.reserved = none := h.unreserved (by rw [hs]; nofun)
  have hheld : s.held = some b.active := by
    rcases isBusy_iff.mp hbusy with hheld | hkept
    · exact hheld
    · rw [hreserved] at hkept
      cases hkept
  refine ⟨fun _ _ => .inl hheld, fun slot hslot => ?_⟩
  rw [hreserved] at hslot
  cases hslot

/-- A slot that is given up is kept for the operation that waits for it. -/
lemma give (h : Attended s) (hheld : s.held = some slot) {held : Option Slot}
    (hnew : ∀ new, held = some new → s.isBusy new = false) :
    Attended
      { s with held, reserved := if s.awaits slot then some slot else s.reserved } := by
  have hfree : ∀ other, s.held = some other ∨ s.reserved = some other → held ≠ some other :=
    fun other hbusy hother =>
      Bool.false_ne_true ((hnew other hother).symm.trans (isBusy_iff.mpr hbusy))
  cases hawaits : s.awaits slot with
  | true =>
    obtain ⟨hslot, hwaiting⟩ := awaits_iff.mp hawaits
    refine ⟨fun _ _ => .inr (congrArg some hslot), fun other hother => ?_⟩
    cases hother
    exact ⟨hslot, hfree slot (.inl hheld), hwaiting⟩
  | false =>
    refine ⟨fun op hop => ?_, fun other hother => ?_⟩
    · rcases h.waits op hop with hactive | hkept
      · have hslot : slot = s.buffer.active := Option.some.inj (hheld.symm.trans hactive)
        rw [awaits_iff.mpr ⟨hslot, op, hop⟩] at hawaits
        cases hawaits
      · exact .inr hkept
    · obtain ⟨hslot, -, hwaiting⟩ := h.reserved other hother
      exact ⟨hslot, hfree other (.inr hother), hwaiting⟩

/-- Whoever holds nothing and takes a free slot keeps no one from what is kept for it. -/
lemma take (h : Attended s) (hheld : s.held = none) (hfree : s.isBusy slot = false) :
    Attended { s with held := some slot } := by
  refine ⟨fun op hop => ?_, fun other hother => ?_⟩
  · rcases h.waits op hop with hactive | hkept
    · rw [hheld] at hactive
      cases hactive
    · exact .inr hkept
  · obtain ⟨hslot, -, hwaiting⟩ := h.reserved other hother
    refine ⟨hslot, fun heq => ?_, hwaiting⟩
    cases heq
    exact Bool.false_ne_true (hfree.symm.trans (isBusy_iff.mpr (.inr hother)))

lemma outcome {a : Action ε} {events : List (Event ε)} (h : Attended s)
    (hact : s.Outcome a t events) : Attended t := by
  cases hact with
  | lock hs =>
    exact of_idle nofun (h.unreserved (by rw [hs]; nofun))
  | unlock hs =>
    exact of_idle nofun (h.unreserved (by rw [hs]; nofun))
  | operate _ _ _ => exact h.of_same rfl rfl rfl (Session.active_perform _ _)
  | wait _ hs hbusy => exact h.of_busy hs hbusy
  | swap hs _ =>
    have hguard : ∀ op, s.guard ≠ .waiting op := by
      rw [hs]
      nofun
    exact of_idle hguard (h.unreserved hguard)
  | swapWaits hs hbusy => exact h.of_busy hs hbusy
  | resume _ _ => exact of_idle nofun rfl
  | take hheld hfree => exact h.take hheld hfree
  | @change slot old hheld hfree =>
    refine h.give hheld fun new hnew => ?_
    cases hnew
    exact hfree
  | letGo hheld => exact h.give hheld nofun
  | pushHeld _ _ | clearHeld _ | pushTo _ _ | clear _ => exact h.of_same rfl rfl rfl rfl
  | release _ _ hs => exact of_idle hs rfl
  | releaseWaiting _ _ _ => exact of_idle nofun rfl

lemma at_start : Attended (.start : Session ε) :=
  of_idle nofun rfl

/-- To release a slot is to take its single steps at once. -/
theorem release_steps (h : Attended s) (clear : Bool) :
    s.release? clear = ((if clear then s.clearHeld? else some s).bind Session.letGo?).map fun t =>
      t.resume?.elim (t, none) fun next => (next.1, some (.done next.2)) := by
  obtain ⟨b, guard, held, reserved⟩ := s
  cases held with
  | none => cases clear <;> rfl
  | some slot =>
    cases guard with
    | free | held =>
      obtain rfl : reserved = none := h.unreserved nofun
      cases clear <;> rfl
    | waiting op => cases clear <;> rfl

/-- Whatever the guard holder tries on a buffer waits just if the active slot is held. -/
lemma attempt_eq (h : Attended s) (hs : s.guard = .held) (b : DoubleBuffer ε) (op : Operation ε) :
    ({ s with buffer := b } : Session ε).attempt op =
      if s.held = some b.active then ({ s with buffer := b, guard := .waiting op }, .pending)
      else
        ({ s with buffer := (Session.perform b op).1 }, .done (Session.perform b op).2) := by
  have hreserved : s.reserved = none := h.unreserved (by rw [hs]; nofun)
  have hbusy : ({ s with buffer := b } : Session ε).isBusy b.active = true ↔
      s.held = some b.active := by
    rw [isBusy_iff, hreserved]
    exact or_iff_left nofun
  exact if_congr hbusy rfl rfl

lemma push_eq (h : Attended s) (hs : s.guard = .held) (e : ε) :
    s.push e =
      if s.held = some s.buffer.active then ({ s with guard := .waiting (.push e) }, .pending)
      else ({ s with buffer := s.buffer.pushTo s.buffer.active e }, .done .pushed) := by
  have hpush : s.push e = s.attempt (.push e) := by rw [Session.push, hs]
  rw [hpush]
  exact h.attempt_eq hs s.buffer (.push e)

lemma length_eq (h : Attended s) (hs : s.guard = .held) :
    s.length =
      if s.held = some s.buffer.active then ({ s with guard := .waiting .length }, .pending)
      else (s, .done (.length (s.buffer.contents s.buffer.active).length)) := by
  have hlength : s.length = s.attempt .length := by rw [Session.length, hs]
  rw [hlength]
  exact h.attempt_eq hs s.buffer .length

lemma swap_eq (h : Attended s) (hs : s.guard = .held) :
    s.swap =
      if s.held = some s.buffer.backup then
        ({ s with buffer := s.buffer.swap, guard := .waiting (.finishSwap s.buffer.active) },
          .pending)
      else
        ({ s with buffer := s.buffer.swap },
          .done (.swapped s.buffer.active (s.buffer.contents s.buffer.backup).length)) := by
  have hswap : s.swap =
      { s with buffer := s.buffer.swap }.attempt (.finishSwap s.buffer.active) := by
    unfold Session.swap
    split
    · rfl
    · next hother => exact (hother hs).elim
  rw [hswap]
  exact h.attempt_eq hs s.buffer.swap (.finishSwap s.buffer.active)

end Attended

section Waiting

variable {s t : Session ε} {a : Action ε} {op : Operation ε} {events : List (Event ε)}

@[simp] lemma generation_perform (b : DoubleBuffer ε) :
    (Session.perform b op).1.generation = b.generation := by
  cases op <;> rfl

@[simp] lemma generation_givenBack (slot : Slot) (clear : Bool) :
    (s.givenBack slot clear).generation = s.buffer.generation := by
  cases clear <;> rfl

/-- A step leaves an operation that waits alone, or carries it out where the active slot is not
held. -/
lemma wait_step (hs : s.guard = .waiting op) (hact : s.Outcome a t events) :
    t.buffer.active = s.buffer.active ∧ t.buffer.generation = s.buffer.generation ∧
    (t.guard = s.guard ∨
      t.guard = .held ∧ t.held ≠ some s.buffer.active ∧
        ∃ b, t.buffer = (Session.perform b op).1 ∧
          completed s.buffer.active op (Session.perform b op).2 <:+ events) := by
  cases hact with
  | lock hguard | unlock hguard | operate _ hguard _ | wait _ hguard _ | swap hguard _
  | swapWaits hguard _ =>
    rw [hs] at hguard
    cases hguard
  | resume hguard hheld =>
    rw [hs] at hguard
    cases hguard
    exact ⟨by simp, by simp, .inr ⟨rfl, hheld, _, rfl, List.suffix_rfl⟩⟩
  | take _ _ | change _ _ | letGo _ | pushHeld _ _ | clearHeld _ | pushTo _ _ | clear _ =>
    exact ⟨rfl, rfl, .inl rfl⟩
  | release _ _ hguard => exact (hguard op hs).elim
  | @releaseWaiting slot _ clear _ hguard =>
    rw [hs] at hguard
    cases hguard
    exact ⟨by simp, by simp, .inr ⟨rfl, nofun, _, rfl, List.suffix_append _ _⟩⟩

/-- An operation that waits can be carried out as soon as the active slot is not held. -/
lemma resume_iff (hs : s.guard = .waiting op) :
    (s.act .resume).isSome = true ↔ s.held ≠ some s.buffer.active := by
  simp only [Session.act, Session.resume?, hs]
  by_cases hheld : s.held = some s.buffer.active
  · simp [hheld]
  · simp [hheld]

lemma lock_iff : (s.act .lock).isSome = true ↔ guardsOf s.guard = 0 := by
  simp only [Session.act, Session.lock?]
  cases s.guard <;> simp

end Waiting

/-! ### The law -/

lemma run_keeps {s : Session ε} {history : List (Event ε)} (actions : List (Action ε))
    (hlaw : Lawful s.guard s.buffer history) (hattended : Attended s) :
    Lawful (s.run actions).1.guard (s.run actions).1.buffer (history ++ (s.run actions).2) ∧
      Attended (s.run actions).1 := by
  induction actions generalizing s history with
  | nil =>
    rw [show (s.run []).2 = [] from rfl, List.append_nil]
    exact ⟨hlaw, hattended⟩
  | cons a actions ih =>
    unfold Session.run
    cases hact : s.act a with
    | none => exact ih hlaw hattended
    | some next =>
      obtain ⟨t, events⟩ := next
      have houtcome := Session.act_outcome hact
      have hnext := ih (hlaw.outcome houtcome) (hattended.outcome houtcome)
      rw [List.append_assoc] at hnext
      exact hnext

/-- The law of the double buffer, after any actions of the two holders. There is at most one guard.
The indices count the swaps that have begun, which give back in turn the slots that were active
before them; the last may still wait. A slot has exactly the entries that were added to it since it
was last emptied. A swap moves no entries. The guard holder adds an entry, asks for the length and
swaps at once, unless the slot that is active then is held. An operation that waits does so for the
active slot, changes no index, and is carried out in full once this slot has been given back. -/
theorem double_buffer_law (actions : List (Action ε)) :
    let s := (Session.start.run actions).1
    let history := (Session.start.run actions).2
    (history.countP Event.isLock = history.countP Event.isUnlock + guardsOf s.guard ∧
      ((s.act .lock).isSome = true ↔ guardsOf s.guard = 0)) ∧
    (s.buffer.active.index = s.buffer.generation % 2 ∧
      s.buffer.backup.index = (s.buffer.generation + 1) % 2) ∧
    (begunIn history = (List.range s.buffer.generation).map Slot.ofIndex ∧
      begunIn history = doneIn history ++ unfinishedOf s.guard) ∧
    (∀ slot, s.buffer.contents slot = addedSince slot history) ∧
    (s.guard = .held →
      (∀ slot, s.swap.1.buffer.contents slot = s.buffer.contents slot) ∧
      s.swap =
        if s.held = some s.buffer.backup then
          ({ s with buffer := s.buffer.swap, guard := .waiting (.finishSwap s.buffer.active) },
            .pending)
        else
          ({ s with buffer := s.buffer.swap },
            .done (.swapped s.buffer.active (s.buffer.contents s.buffer.backup).length))) ∧
    (s.guard = .held →
      (∀ e, s.push e =
        if s.held = some s.buffer.active then ({ s with guard := .waiting (.push e) }, .pending)
        else ({ s with buffer := s.buffer.pushTo s.buffer.active e }, .done .pushed)) ∧
      s.length =
        if s.held = some s.buffer.active then ({ s with guard := .waiting .length }, .pending)
        else (s, .done (.length (s.buffer.contents s.buffer.active).length))) ∧
    (∀ op, s.guard = .waiting op →
      (s.held = some s.buffer.active ∨ s.reserved = some s.buffer.active) ∧
      ((s.act .resume).isSome = true ↔ s.held ≠ some s.buffer.active) ∧
      ∀ a t events, s.act a = some (t, events) →
        t.buffer.active = s.buffer.active ∧ t.buffer.generation = s.buffer.generation ∧
        (t.guard = s.guard ∨
          t.guard = .held ∧ t.held ≠ some s.buffer.active ∧
            ∃ b, t.buffer = (Session.perform b op).1 ∧
              completed s.buffer.active op (Session.perform b op).2 <:+ events)) := by
  intro s history
  have hstart : Lawful (Session.start : Session ε).guard Session.start.buffer [] := Lawful.at_start
  obtain ⟨hlaw, hattended⟩ := run_keeps actions hstart Attended.at_start
  refine ⟨⟨hlaw.guards, lock_iff⟩, ⟨?_, ?_⟩, ⟨hlaw.begun, hlaw.done⟩, hlaw.contents,
    fun hs => ⟨fun slot => ?_, hattended.swap_eq hs⟩,
    fun hs => ⟨hattended.push_eq hs, hattended.length_eq hs⟩,
    fun op hs => ⟨hattended.waits op hs, resume_iff hs, fun a t events hact => ?_⟩⟩
  · rw [hlaw.active, Slot.index_ofIndex]
  · unfold DoubleBuffer.backup
    rw [hlaw.active, ← Slot.ofIndex_succ, Slot.index_ofIndex]
  · rw [hattended.swap_eq hs]
    split_ifs <;> rfl
  · exact wait_step hs (Session.act_outcome hact)

/-- A swap that begins while the slot it makes active is held, and is done when this is let go. What
is in that slot stays, and comes before what is added next. -/
theorem waiting_swap_is_done :
    let actions : List (Action Char) :=
      [.lock, .push 'a', .hold .one, .swap, .pushHeld 'b', .letGo, .resume]
    let s := (Session.start.run actions).1
    (Session.start.run actions).2 =
        [.locked, .pushed .zero 'a', .swapBegun .zero, .pushed .one 'b', .swapDone .zero] ∧
      s.buffer.active.index = 1 ∧ s.buffer.contents .zero = ['a'] ∧ s.buffer.contents .one = ['b'] ∧
      s.length = (s, .done (.length 1)) ∧
      s.push 'c' = ({ s with buffer := s.buffer.pushTo .one 'c' }, .done .pushed) := by
  intro actions s
  obtain ⟨-, ⟨hactive, -⟩, -, hcontents, -, hoperate, -⟩ := double_buffer_law actions
  obtain ⟨hpush, hlength⟩ := hoperate rfl
  exact ⟨rfl, hactive, hcontents .zero, hcontents .one, hlength, hpush 'c'⟩

end AuditTrail.Buffer
