import AuditTrail.StopSignal
import Mathlib.Data.List.Basic
import Mathlib.Tactic.Common

/-!
# No wake-up is lost

A wait registers before it looks at the flag, and a request raises the flag before it notifies. So
a wait that found the flag down had registered before the first notification, and this one wakes
it. A wait that registers later finds the flag up.
-/

namespace AuditTrail.StopSignal

namespace State

/-- The state in which the wait `i` has come to `w`. -/
def setWaiter (s : State) (i : Nat) (w : Waiter) : State :=
  { s with waiters := s.waiters.set i w }

/-- The state in which the request `i` has raised the flag. -/
def raise (s : State) (i : Nat) : State :=
  { s with isRequested := true, requesters := s.requesters.set i .flagRaised }

/-- The state in which the request `i` has notified the waits registered before. -/
def notify (s : State) (i : Nat) : State :=
  { s with
    notifications := s.notifications + 1
    requesters := s.requesters.set i .returned }

/-- What a step can do. -/
inductive Transition (s : State) : State → Prop where
  | callWait : Transition s { s with waiters := s.waiters ++ [.called] }
  | callRequest : Transition s { s with requesters := s.requesters ++ [.called] }
  | register {i : Nat} : s.waiters[i]? = some .called →
      Transition s (s.setWaiter i (.registered s.notifications))
  | pass {i since : Nat} : s.waiters[i]? = some (.registered since) → s.isRequested = true →
      Transition s (s.setWaiter i .returned)
  | fallAsleep {i since : Nat} : s.waiters[i]? = some (.registered since) →
      s.isRequested = false → Transition s (s.setWaiter i (.sleeping since))
  | wake {i since : Nat} : s.waiters[i]? = some (.sleeping since) → since < s.notifications →
      Transition s (s.setWaiter i .returned)
  | raise {i : Nat} : s.requesters[i]? = some .called → Transition s (s.raise i)
  | notify {i : Nat} : s.requesters[i]? = some .flagRaised → Transition s (s.notify i)

/-- The states that the steps of the tasks lead to, taken in any order. -/
inductive Reachable (s : State) : State → Prop where
  | refl : Reachable s s
  | step {t u : State} {m : Move} : Reachable s t → t.step m = some u → Reachable s u

/-- Whether the wait `i` has taken its first step, with which it registers. -/
def Begun (s : State) (i : Nat) : Prop :=
  ∃ w, s.waiters[i]? = some w ∧ w ≠ .called

/-- Whether the wait `i` has returned or its next step is its last one. -/
def Unblocked (s : State) (i : Nat) : Prop :=
  s.waiters[i]? = some .returned ∨ s.step (.waiter i) = some (s.setWaiter i .returned)

variable {s t u : State} {m : Move} {i : Nat} {w w' : Waiter}

lemma Reachable.trans (h : Reachable s t) (h' : Reachable t u) : Reachable s u := by
  induction h' with
  | refl => exact h
  | step _ hstep ih => exact ih.step hstep

lemma reachable_of_moves {moves : List Move} (h : moves.foldlM step s = some t) :
    Reachable s t := by
  induction moves generalizing s with
  | nil =>
    cases h
    exact .refl
  | cons m moves ih =>
    obtain ⟨u, hstep, hrest⟩ := Option.bind_eq_some_iff.mp h
    exact (Reachable.refl.step hstep).trans (ih hrest)

lemma called_of_not_begun (hi : i < s.waiters.length) (h : ¬s.Begun i) :
    s.waiters[i]? = some .called := by
  by_contra hother
  exact h ⟨s.waiters[i], List.getElem?_eq_getElem hi, fun heq => hother (by simp [hi, heq])⟩

lemma step_waiter (hw : s.waiters[i]? = some w) :
    s.step (.waiter i) = (s.nextWaiter w).map (s.setWaiter i) := by
  simp only [step, hw, bind, Option.bind]
  cases s.nextWaiter w <;> rfl

lemma transition_waiter (hw : s.waiters[i]? = some w) (hnext : s.nextWaiter w = some w') :
    Transition s (s.setWaiter i w') := by
  cases w with
  | called =>
    cases hnext
    exact .register hw
  | registered since =>
    cases hflag : s.isRequested with
    | true =>
      simp only [nextWaiter, hflag, if_true, Option.some.injEq] at hnext
      subst hnext
      exact .pass hw hflag
    | false =>
      simp only [nextWaiter, hflag, Bool.false_eq_true, if_false, Option.some.injEq] at hnext
      subst hnext
      exact .fallAsleep hw hflag
  | sleeping since =>
    simp only [nextWaiter, Option.ite_none_right_eq_some, Option.some.injEq] at hnext
    obtain ⟨hsince, rfl⟩ := hnext
    exact .wake hw hsince
  | returned => cases hnext

lemma step_transition (h : s.step m = some t) : Transition s t := by
  cases m with
  | callWait =>
    cases h
    exact .callWait
  | callRequest =>
    cases h
    exact .callRequest
  | waiter i =>
    obtain ⟨w, hw, h⟩ := Option.bind_eq_some_iff.mp h
    obtain ⟨w', hnext, h⟩ := Option.bind_eq_some_iff.mp h
    cases h
    exact transition_waiter hw hnext
  | requester i =>
    simp only [step] at h
    split at h
    · next hr =>
      cases h
      exact .raise hr
    · next hr =>
      cases h
      exact .notify hr
    · cases h
    · cases h

/-- The flag is up from the first step of a request on, and each request that has returned has
notified once. A wait that sleeps has registered before all notifications, and none has returned
while the flag was down. -/
structure Consistent (s : State) : Prop where
  raised : s.isRequested = true ↔ ∃ r ∈ s.requesters, r ≠ .called
  notified : s.notifications = s.requesters.count .returned
  registered : ∀ since, .registered since ∈ s.waiters → since ≤ s.notifications
  sleeping : ∀ since, .sleeping since ∈ s.waiters → since = 0
  returned : .returned ∈ s.waiters → s.isRequested = true

lemma consistent_start : Consistent start where
  raised := by simp [start]
  notified := rfl
  registered := by simp [start]
  sleeping := by simp [start]
  returned := by simp [start]

/-- There are notifications only while the flag is up. -/
lemma Consistent.requested (h : Consistent s) (hnotified : 0 < s.notifications) :
    s.isRequested = true := by
  rw [h.notified, List.count_pos_iff] at hnotified
  exact h.raised.mpr ⟨_, hnotified, by decide⟩

/-- Whatever the wait has come to, the requests and what they have done stay. -/
lemma Consistent.setWaiter (h : Consistent s)
    (hregistered : ∀ since, w = .registered since → since ≤ s.notifications)
    (hsleeping : ∀ since, w = .sleeping since → since = 0)
    (hreturned : w = .returned → s.isRequested = true) : Consistent (s.setWaiter i w) where
  raised := h.raised
  notified := h.notified
  registered since hmem := by
    rcases List.mem_or_eq_of_mem_set hmem with hmem | heq
    · exact h.registered since hmem
    · exact hregistered since heq.symm
  sleeping since hmem := by
    rcases List.mem_or_eq_of_mem_set hmem with hmem | heq
    · exact h.sleeping since hmem
    · exact hsleeping since heq.symm
  returned hmem := by
    rcases List.mem_or_eq_of_mem_set hmem with hmem | heq
    · exact h.returned hmem
    · exact hreturned heq.symm

lemma Consistent.raise (h : Consistent s) (hr : s.requesters[i]? = some .called) :
    Consistent (s.raise i) where
  raised := by
    have hlt := (List.getElem?_eq_some_iff.mp hr).1
    exact iff_of_true rfl ⟨.flagRaised, List.mem_set hlt _, by decide⟩
  notified := by
    obtain ⟨hlt, heq⟩ := List.getElem?_eq_some_iff.mp hr
    have hcount : (s.requesters.set i .flagRaised).count .returned =
        s.requesters.count .returned := by
      rw [List.count_set hlt, heq]
      simp
    rw [State.raise, hcount, ← h.notified]
  registered := h.registered
  sleeping := h.sleeping
  returned _ := rfl

lemma Consistent.notify (h : Consistent s) (hr : s.requesters[i]? = some .flagRaised) :
    Consistent (s.notify i) where
  raised := by
    have hlt := (List.getElem?_eq_some_iff.mp hr).1
    have hflag : s.isRequested = true :=
      h.raised.mpr ⟨.flagRaised, List.mem_of_getElem? hr, by decide⟩
    exact iff_of_true hflag ⟨.returned, List.mem_set hlt _, by decide⟩
  notified := by
    obtain ⟨hlt, heq⟩ := List.getElem?_eq_some_iff.mp hr
    have hcount : (s.requesters.set i .returned).count .returned =
        s.requesters.count .returned + 1 := by
      rw [List.count_set hlt, heq]
      simp
    rw [State.notify, hcount, ← h.notified]
  registered since hmem := Nat.le_succ_of_le (h.registered since hmem)
  sleeping := h.sleeping
  returned hmem := h.returned hmem

lemma Consistent.transition (h : Consistent s) (hstep : Transition s t) : Consistent t := by
  cases hstep with
  | callWait =>
    refine ⟨h.raised, h.notified, fun since hmem => ?_, fun since hmem => ?_, fun hmem => ?_⟩
    · exact h.registered since (by simpa using hmem)
    · exact h.sleeping since (by simpa using hmem)
    · exact h.returned (by simpa using hmem)
  | callRequest =>
    refine ⟨?_, ?_, h.registered, h.sleeping, h.returned⟩
    · simpa [or_and_right, exists_or] using h.raised
    · simpa using h.notified
  | register hw => exact h.setWaiter (by rintro _ ⟨⟩; exact Nat.le_refl _) nofun nofun
  | pass hw hflag => exact h.setWaiter nofun nofun fun _ => hflag
  -- The flag is down, so there was nothing to be notified of when the wait registered.
  | fallAsleep hw hflag =>
    refine h.setWaiter nofun ?_ nofun
    rintro _ ⟨⟩
    have hle := h.registered _ (List.mem_of_getElem? hw)
    by_contra hsome
    rw [h.requested (by omega)] at hflag
    cases hflag
  | wake hw hsince =>
    exact h.setWaiter nofun nofun fun _ => h.requested (Nat.zero_lt_of_lt hsince)
  | raise hr => exact h.raise hr
  | notify hr => exact h.notify hr

lemma Reachable.consistent (h : Reachable start s) : Consistent s := by
  induction h with
  | refl => exact consistent_start
  | step _ hstep ih => exact ih.transition (step_transition hstep)

lemma Transition.notifications_le (hstep : Transition s t) :
    s.notifications ≤ t.notifications := by
  cases hstep with
  | notify => exact Nat.le_succ _
  | callWait | callRequest | register | pass | fallAsleep | wake | raise => exact Nat.le_refl _

lemma Reachable.notifications_le (h : Reachable s t) : s.notifications ≤ t.notifications := by
  induction h with
  | refl => exact Nat.le_refl _
  | step _ hstep ih => exact Nat.le_trans ih (step_transition hstep).notifications_le

lemma Begun.setWaiter (h : s.Begun i) (hw : w ≠ .called) (j : Nat) : (s.setWaiter j w).Begun i := by
  obtain ⟨v, hv, hbegun⟩ := h
  by_cases heq : j = i
  · subst heq
    have hlt := (List.getElem?_eq_some_iff.mp hv).1
    exact ⟨w, List.getElem?_set_self hlt, hw⟩
  · exact ⟨v, by rw [State.setWaiter, List.getElem?_set_ne heq, hv], hbegun⟩

lemma Transition.begun (hstep : Transition s t) (h : s.Begun i) : t.Begun i := by
  cases hstep with
  | callWait =>
    obtain ⟨w, hw, hbegun⟩ := h
    have hlt := (List.getElem?_eq_some_iff.mp hw).1
    exact ⟨w, by rw [List.getElem?_append_left hlt, hw], hbegun⟩
  | callRequest | raise | notify => exact h
  | register | pass | fallAsleep | wake =>
    apply h.setWaiter
    nofun

lemma Reachable.begun (h : Reachable s t) (hbegun : s.Begun i) : t.Begun i := by
  induction h with
  | refl => exact hbegun
  | step _ hstep ih => exact (step_transition hstep).begun ih

/-- Once there has been a notification, the flag is up and every wait that sleeps is awake at its
next step. -/
lemma Consistent.unblocked (h : Consistent s) (hnotified : 0 < s.notifications)
    (hbegun : s.Begun i) : s.Unblocked i := by
  obtain ⟨w, hw, hbegun⟩ := hbegun
  cases w with
  | called => exact (hbegun rfl).elim
  | registered since =>
    refine .inr ?_
    rw [step_waiter hw, nextWaiter, h.requested hnotified]
    rfl
  | sleeping since =>
    refine .inr ?_
    have hsince := h.sleeping since (List.mem_of_getElem? hw)
    rw [step_waiter hw, nextWaiter, if_pos (by omega)]
    rfl
  | returned => exact .inl hw

/-- No wake-up is lost, whatever the number of waits and requests and the order of their steps. As
soon as a request has returned, the flag is up for good, and every wait that has registered by then
or registers later has returned or returns at its next step, whatever the other tasks do meanwhile.
And no wait returns before a request has begun. -/
theorem no_wake_up_is_lost (h : Reachable start s) :
    (.returned ∈ s.requesters → ∀ t, Reachable s t →
      t.isRequested = true ∧
      ∀ i < t.waiters.length, t.Unblocked i ∨
        t.waiters[i]? = some .called ∧ ∃ u, t.step (.waiter i) = some u ∧
          ∀ v, Reachable u v → v.Unblocked i) ∧
    (.returned ∈ s.waiters → ∃ r ∈ s.requesters, r ≠ .called) := by
  refine ⟨fun hreturned t ht => ?_, fun hreturned => ?_⟩
  · have hnotified : 0 < s.notifications := by
      rw [h.consistent.notified]
      exact List.count_pos_iff.mpr hreturned
    have hunblocked : ∀ v j, Reachable s v → v.Begun j → v.Unblocked j := by
      intro v j hv hbegun
      have hnow := Nat.lt_of_lt_of_le hnotified hv.notifications_le
      exact (h.trans hv).consistent.unblocked hnow hbegun
    have hnow := Nat.lt_of_lt_of_le hnotified ht.notifications_le
    refine ⟨(h.trans ht).consistent.requested hnow, fun i hi => ?_⟩
    by_cases hbegun : t.Begun i
    · exact .inl (hunblocked t i ht hbegun)
    · have hcalled := called_of_not_begun hi hbegun
      have hstep : t.step (.waiter i) = some (t.setWaiter i (.registered t.notifications)) :=
        step_waiter hcalled
      refine .inr ⟨hcalled, _, hstep, fun v hv => ?_⟩
      have hregistered : (t.setWaiter i (.registered t.notifications)).Begun i :=
        ⟨_, List.getElem?_set_self hi, nofun⟩
      exact hunblocked v i ((ht.step hstep).trans hv) (hv.begun hregistered)
  · exact h.consistent.raised.mp (h.consistent.returned hreturned)

/-- A request notifies while one wait sleeps, one is about to look at the flag and one has not
registered; then the first of them returns. -/
theorem first_of_three_waits_returns :
    let s : State := ⟨true, 1, [.returned, .registered 0, .called], [.returned]⟩
    Reachable start s ∧ .returned ∈ s.requesters ∧ .returned ∈ s.waiters ∧
      (∀ i < 3, s.Unblocked i ∨
        s.waiters[i]? = some .called ∧ ∃ u, s.step (.waiter i) = some u ∧
          ∀ v, Reachable u v → v.Unblocked i) ∧
      ∃ r ∈ s.requesters, r ≠ .called := by
  intro s
  have hmoves : [.callWait, .waiter 0, .callRequest, .waiter 0, .callWait, .waiter 1, .callWait,
      .requester 0, .requester 0, .waiter 0].foldlM step start = some s := by decide
  have hs : Reachable start s := reachable_of_moves hmoves
  obtain ⟨hafter, hbefore⟩ := no_wake_up_is_lost hs
  exact ⟨hs, by decide, by decide, (hafter (by decide) s .refl).2, hbefore (by decide)⟩

end State
end AuditTrail.StopSignal
