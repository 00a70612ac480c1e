import AuditTrail.Proofs.History
import AuditTrail.Proofs.Locks
import AuditTrail.Proofs.Schedule
import AuditTrail.Proofs.ShutdownOrder
import Mathlib.Logic.Function.Basic

/-!
# One delivery at a time

A delivery begins with the entries of a slot and calls the sink until it stores them or the retries
are used up; then the slot is emptied. There is at most one delivery at a time, by the flusher or
by a shutdown call, and until its end nobody else changes its slot, whether it is the active one or
not. So all calls of the sink in one delivery pass the entries with which it began.
-/

namespace AuditTrail.Pipeline

variable {ε : Type}

def Flusher.writes? : Flusher → Option Slot
  | .writing slot _ => some slot
  | _ => none

def Shutdown.writes? : Shutdown → Option Slot
  | .writing slot _ _ _ => some slot
  | _ => none

/-- The slot whose entries a task delivers, between two calls of the sink too. -/
def State.writes? (s : State ε) : Task → Option Slot
  | .worker _ => none
  | .flusher => s.flusher.writes?
  | .shutdown k => (s.calls[k]?).bind Shutdown.writes?

/-- No two tasks deliver at the same time. -/
def State.OneWriter (s : State ε) : Prop :=
  ∀ t u slot other, s.writes? t = some slot → s.writes? u = some other → t = u

/-- A delivery that begins: the writer, the slot and the entries. -/
def Event.begun? : Event ε → Option (Task × Slot × List ε)
  | batch writer _ slot entries => some (writer, slot, entries)
  | _ => none

/-- A call of the sink: the writer and the entries. -/
def Event.called? : Event ε → Option (Task × List ε)
  | called writer _ entries => some (writer, entries)
  | _ => none

/-- The calls of the sink, with what was passed to it. -/
def callsIn (history : List (Event ε)) : List (Task × List ε) :=
  history.filterMap Event.called?

/-- The delivery that has begun last. -/
def lastBegun? (history : List (Event ε)) : Option (Task × Slot × List ε) :=
  (history.filterMap Event.begun?).getLast?

/-- Every call of the sink belongs to the delivery that has begun last, and passes its entries. -/
def CallsAgree (history : List (Event ε)) : Prop :=
  ∀ past t a entries later, history = past ++ .called t a entries :: later →
    ∃ slot, lastBegun? past = some (t, slot, entries)

/-- What a transition does with the deliveries. -/
inductive DeliveryStep (s s' : State ε) (events : List (Event ε)) : Prop where
  | begins (t : Task) (cause : Option Handoff) (slot : Slot) (a : Attempt) : s.writes? t = none →
      s'.writes? = Function.update s.writes? t (some slot) → s'.buffer = s.buffer →
      events = [.batch t cause slot (s.buffer.contents slot),
        .called t a (s.buffer.contents slot)] → DeliveryStep s s' events
  | callsAgain (t : Task) (slot : Slot) (a : Attempt) : s.writes? t = some slot →
      s'.writes? = s.writes? → s'.buffer = s.buffer →
      events = [.called t a (s.buffer.contents slot)] → DeliveryStep s s' events
  | finishes (t : Task) (slot : Slot) (a : Attempt) (r : Reply) (stored : Bool) :
      s.writes? t = some slot → s'.writes? = Function.update s.writes? t none →
      s'.buffer = s.buffer.clear slot →
      events = [.replied t a (s.buffer.contents slot) r,
        .finished t slot (s.buffer.contents slot) stored] → DeliveryStep s s' events
  | breaks (t : Task) (slot : Slot) : s.writes? t = some slot →
      s'.writes? = Function.update s.writes? t none → s'.buffer = s.buffer →
      callsIn events = [] → lastBegun? events = none → ¬SinkReturns events →
      DeliveryStep s s' events
  | quiet : s'.writes? = s.writes? →
      (∀ t slot, s.writes? t = some slot →
        s'.buffer.contents slot = s.buffer.contents slot) →
      callsIn events = [] → lastBegun? events = none → DeliveryStep s s' events

section Steps

variable {plan : Plan ε} {s s' : State ε} {m : Move ε} {events history : List (Event ε)}

lemma holding_slot (s : State ε) (t : Task) : (s.holding t).slot = s.writes? t := by
  cases t with
  | worker i =>
    cases hw : s.workers[i]? with
    | none => simp [State.holding, hw, Holding.nothing, State.writes?]
    | some w =>
      rw [holding_worker hw]
      cases w <;> rfl
  | flusher =>
    simp only [State.holding, State.writes?]
    cases s.flusher <;> rfl
  | shutdown k =>
    cases hc : s.calls[k]? with
    | none => simp [State.holding, hc, Holding.nothing, State.writes?]
    | some c =>
      rw [holding_shutdown hc]
      simp only [State.writes?, hc, Option.bind_some]
      cases c <;> rfl

lemma Locked.lock_of_writes {t : Task} {slot : Slot} (inv : Locked s)
    (h : s.writes? t = some slot) : s.slotLocks.get slot = some t := by
  apply (inv.slots slot t).mpr
  rw [holding_slot]
  exact h

/-- A slot without lock is not the one that is written. -/
lemma Locked.ne_of_free {t : Task} {slot free : Slot} (inv : Locked s)
    (h : s.writes? t = some slot) (hfree : s.slotLocks.get free = none) : slot ≠ free := by
  rintro rfl
  rw [inv.lock_of_writes h] at hfree
  cases hfree

lemma writes_call {k : Nat} {c : Shutdown} (hc : s.calls[k]? = some c) :
    s.writes? (.shutdown k) = c.writes? := by
  simp [State.writes?, hc]

/-- Two shutdown calls that deliver would both hold the guard, and when one delivers the flusher
has ended. -/
lemma oneWriter (hlocked : Locked s) (horder : EndsInOrder s) : s.OneWriter := by
  intro t u slot other ht hu
  have hguard : ∀ k slot, s.writes? (.shutdown k) = some slot →
      s.guard = some (.shutdown k) ∧ s.flusher.isGone = true := by
    intro k slot hk
    obtain ⟨c, hc, hwrites⟩ := Option.bind_eq_some_iff.mp hk
    cases c with
    | writing slot phase slots drained =>
      have hgone := (horder.calls _ (List.mem_of_getElem? hc)).flusher rfl
      exact ⟨hlocked.guard_shutdown hc rfl, hgone⟩
    | _ => cases hwrites
  have hflusher : ∀ slot, s.writes? .flusher = some slot → s.flusher.isGone = false := by
    intro slot hf
    simp only [State.writes?] at hf
    cases hwriting : s.flusher <;> rw [hwriting] at hf <;> first | rfl | cases hf
  cases t with
  | worker i => cases ht
  | flusher =>
    cases u with
    | worker i => cases hu
    | flusher => rfl
    | shutdown k =>
      have hgone := (hguard k other hu).2
      rw [hflusher slot ht] at hgone
      cases hgone
  | shutdown j =>
    cases u with
    | worker i => cases hu
    | flusher =>
      have hgone := (hguard j slot ht).2
      rw [hflusher other hu] at hgone
      cases hgone
    | shutdown k =>
      have hj := (hguard j slot ht).1
      rw [(hguard k other hu).1] at hj
      exact (Option.some.inj hj).symm

lemma writes_of_flusher (hcalls : s'.calls = s.calls) :
    s'.writes? = Function.update s.writes? .flusher s'.flusher.writes? := by
  funext t
  cases t <;> simp [State.writes?, hcalls]

lemma writes_of_call {k : Nat} {c c' : Shutdown} {slot : Option Slot}
    (hc : s.calls[k]? = some c) (hcalls : s'.calls = s.calls.set k c')
    (hflusher : s'.flusher = s.flusher) (hslot : c'.writes? = slot) :
    s'.writes? = Function.update s.writes? (.shutdown k) slot := by
  have hlt := (List.getElem?_eq_some_iff.mp hc).1
  funext t
  cases t with
  | worker i => simp [State.writes?]
  | flusher => simp [State.writes?, hflusher]
  | shutdown j =>
    rw [Function.update_apply]
    by_cases hj : j = k
    · subst hj
      simp [State.writes?, hcalls, hlt, hslot]
    · simp [State.writes?, hcalls, hj, List.getElem?_set_ne (Ne.symm hj)]

lemma writes_same_flusher (hcalls : s'.calls = s.calls)
    (hsame : s'.flusher.writes? = s.flusher.writes?) : s'.writes? = s.writes? := by
  rw [writes_of_flusher hcalls, hsame]
  exact Function.update_eq_self Task.flusher s.writes?

lemma writes_same_call {k : Nat} {c c' : Shutdown} (hc : s.calls[k]? = some c)
    (hcalls : s'.calls = s.calls.set k c') (hflusher : s'.flusher = s.flusher)
    (hsame : c'.writes? = c.writes?) : s'.writes? = s.writes? := by
  rw [writes_of_call hc hcalls hflusher hsame, ← writes_call hc]
  exact Function.update_eq_self (Task.shutdown k) s.writes?

lemma not_sinkReturns {a : Attempt} {r : Reply} {p : RetryPolicy} {t : Task} {entries : List ε}
    (hverdict : State.verdict p a r = .broken) :
    ¬SinkReturns (Event.replied t a entries r :: events) := by
  rw [verdict_broken hverdict]
  intro hsink
  cases hsink _ List.mem_cons_self

lemma WorkerMoves.delivery {i : Nat} (hlocked : Locked s) (h : WorkerMoves plan s i s' events) :
    DeliveryStep s s' events := by
  obtain ⟨-, -, hflusher, -, hcalls⟩ := h.frame
  have hwrites : s'.writes? = s.writes? := writes_same_flusher hcalls (by rw [hflusher])
  cases h with
  | push e hw hfree =>
    refine .quiet hwrites ?_ rfl rfl
    intro t slot ht
    rcases s.buffer.eq_active_or_backup slot with hslot | hslot
    · exact (hlocked.ne_of_free ht hfree hslot).elim
    · rw [hslot]
      exact s.buffer.contents_push_backup e
  | _ => exact .quiet hwrites (fun _ _ _ => rfl) rfl rfl

lemma FlusherMoves.delivery (h : FlusherMoves plan s m s' events) : DeliveryStep s s' events := by
  obtain ⟨-, -, -, -, hcalls⟩ := h.frame
  cases h with
  | beginHandoff slot h hf _ _ =>
    have hnone : s.writes? .flusher = none := by simp [State.writes?, hf, Flusher.writes?]
    exact .begins .flusher (some h) slot plan.retry.first hnone (writes_of_flusher hcalls) rfl rfl
  | beginTimer slot hf _ _ =>
    have hnone : s.writes? .flusher = none := by simp [State.writes?, hf, Flusher.writes?]
    exact .begins .flusher none slot plan.retry.first hnone (writes_of_flusher hcalls) rfl rfl
  | wake slot a hf =>
    have hslot : s.writes? .flusher = some slot := by simp [State.writes?, hf, Flusher.writes?]
    exact .callsAgain .flusher slot a.next hslot
      (writes_same_flusher hcalls (by rw [hf]; rfl)) rfl rfl
  | finish slot a r stored hf _ =>
    have hslot : s.writes? .flusher = some slot := by simp [State.writes?, hf, Flusher.writes?]
    exact .finishes .flusher slot a r stored hslot (writes_of_flusher hcalls) rfl rfl
  | fail slot a r hf hverdict =>
    have hslot : s.writes? .flusher = some slot := by simp [State.writes?, hf, Flusher.writes?]
    exact .breaks .flusher slot hslot (writes_of_flusher hcalls) rfl rfl rfl
      (not_sinkReturns hverdict)
  | retry slot a r delay hf _ =>
    exact .quiet (writes_same_flusher hcalls (by rw [hf]; rfl)) (fun _ _ _ => rfl) rfl rfl
  | skipTick _ _ => exact .quiet rfl (fun _ _ _ => rfl) rfl rfl
  | _ =>
    have hsame : s.flusher.writes? = none := by simp [*, Flusher.writes?]
    exact .quiet (writes_same_flusher hcalls (by rw [hsame]; rfl)) (fun _ _ _ => rfl) rfl rfl

lemma ShutdownMoves.delivery {k : Nat} (h : ShutdownMoves plan s k m s' events) :
    DeliveryStep s s' events := by
  obtain ⟨-, -, -, -, hflusher⟩ := h.frame
  have hquiet : ∀ {c c'}, s.calls[k]? = some c → s'.calls = s.calls.set k c' →
      c'.writes? = c.writes? → s'.buffer = s.buffer → callsIn events = [] →
      lastBegun? events = none → DeliveryStep s s' events := by
    intro c c' hc hcalls hsame hbuffer hnone hbegun
    refine .quiet (writes_same_call hc hcalls hflusher hsame) ?_ hnone hbegun
    intro t slot _
    rw [hbuffer]
  cases h with
  | begin slot slots drained hc _ _ =>
    exact .begins (.shutdown k) none slot plan.retry.first (writes_call hc)
      (writes_of_call hc rfl hflusher rfl) rfl rfl
  | wake slot a slots drained hc =>
    exact .callsAgain (.shutdown k) slot a.next (writes_call hc)
      (writes_same_call hc rfl hflusher rfl) rfl rfl
  | finish slot a slots drained r stored hc _ =>
    exact .finishes (.shutdown k) slot a r stored (writes_call hc)
      (writes_of_call hc rfl hflusher rfl) rfl rfl
  | fail slot a slots drained r hc hverdict =>
    exact .breaks (.shutdown k) slot (writes_call hc) (writes_of_call hc rfl hflusher rfl) rfl rfl
      rfl (not_sinkReturns hverdict)
  | retry slot a slots drained r delay hc _ => exact hquiet hc rfl rfl rfl rfl rfl
  | close hc => exact hquiet hc rfl rfl rfl rfl rfl
  | late hc _ => exact hquiet hc rfl rfl rfl rfl rfl
  | claim hc _ => exact hquiet hc rfl rfl rfl rfl rfl
  | join hc _ => exact hquiet hc rfl rfl rfl rfl rfl
  | flusherStopped hc _ => exact hquiet hc rfl rfl rfl rfl rfl
  | flusherFailed hc _ => exact hquiet hc rfl rfl rfl rfl rfl
  | takeGuard hc _ => exact hquiet hc rfl rfl rfl rfl rfl
  | done drained hc => exact hquiet hc rfl rfl rfl rfl rfl
  | skip slot slots drained hc _ _ => exact hquiet hc rfl rfl rfl rfl rfl

theorem Transition.delivery (hlocked : Locked s) (h : Transition plan s m s' events) :
    DeliveryStep s s' events := by
  cases h with
  | send hoffered => cases hoffered <;> exact .quiet rfl (fun _ _ _ => rfl) rfl rfl
  | callShutdown =>
    refine .quiet ?_ (fun _ _ _ => rfl) rfl rfl
    funext t
    cases t with
    | worker i => rfl
    | flusher => rfl
    | shutdown k =>
      simp only [State.writes?, List.getElem?_append]
      split
      · rfl
      · next hk =>
        rw [List.getElem?_eq_none (Nat.le_of_not_lt hk)]
        cases k - s.calls.length <;> simp [Shutdown.writes?]
  | worker hworker => exact hworker.delivery hlocked
  | flusher hflusher => exact hflusher.delivery
  | shutdown hshutdown => exact hshutdown.delivery

/-! ### Calls of the sink -/

lemma lastBegun_append (history events : List (Event ε)) :
    lastBegun? (history ++ events) = (lastBegun? events).or (lastBegun? history) := by
  simp [lastBegun?, List.getLast?_append]

@[simp] lemma callsIn_append (history events : List (Event ε)) :
    callsIn (history ++ events) = callsIn history ++ callsIn events :=
  List.filterMap_append

/-- Whatever is passed to the sink is read from a slot. -/
lemma DeliveryStep.call {t : Task} {entries : List ε} (h : DeliveryStep s s' events)
    (hcall : (t, entries) ∈ callsIn events) : ∃ slot, entries = s.buffer.contents slot := by
  cases h with
  | begins u cause slot a _ _ _ hevents =>
    subst hevents
    cases List.mem_singleton.mp hcall
    exact ⟨slot, rfl⟩
  | callsAgain u slot a _ _ _ hevents =>
    subst hevents
    cases List.mem_singleton.mp hcall
    exact ⟨slot, rfl⟩
  | finishes u slot a r stored _ _ _ hevents =>
    subst hevents
    cases hcall
  | breaks u slot _ _ _ hcalls _ _ =>
    rw [hcalls] at hcall
    cases hcall
  | quiet _ _ hcalls _ =>
    rw [hcalls] at hcall
    cases hcall

lemma CallsAgree.append (h : CallsAgree history)
    (hnew : ∀ before t a entries after, events = before ++ .called t a entries :: after →
      ∃ slot, lastBegun? (history ++ before) = some (t, slot, entries)) :
    CallsAgree (history ++ events) := by
  intro past t a entries later hsplit
  rcases List.append_eq_append_iff.mp hsplit with ⟨before, rfl, hevents⟩ | ⟨rest, rfl, hrest⟩
  · exact hnew before t a entries later hevents
  · -- The call is in the history, or the first of the new events.
    cases rest with
    | nil =>
      have hcall := hnew [] t a entries later (by simpa using hrest.symm)
      simpa using hcall
    | cons e rest =>
      cases hrest
      exact h past t a entries rest rfl

lemma CallsAgree.quiet (h : CallsAgree history) (hcalls : callsIn events = []) :
    CallsAgree (history ++ events) := by
  apply h.append
  rintro before t a entries after rfl
  simp [callsIn, Event.called?] at hcalls

/-- The calls agree, and the slot of a delivery still holds the entries with which it began. -/
structure Delivering (s : State ε) (history : List (Event ε)) : Prop where
  calls : CallsAgree history
  current : ∀ t slot, s.writes? t = some slot →
    lastBegun? history = some (t, slot, s.buffer.contents slot)

/-- When the one writer is done, nobody delivers. -/
lemma nobody_writes {t : Task} {slot : Slot} (hone : s.OneWriter)
    (hslot : s.writes? t = some slot) (hwrites : s'.writes? = Function.update s.writes? t none)
    (u : Task) (other : Slot) : s'.writes? u ≠ some other := by
  rw [hwrites, Function.update_apply]
  by_cases hut : u = t
  · simp [hut]
  · rw [if_neg hut]
    intro hu
    exact hut (hone u t other slot hu hslot)

lemma Delivering.step (inv : Delivering s history) (h : DeliveryStep s s' events)
    (hone : s.OneWriter) (hone' : s'.OneWriter) : Delivering s' (history ++ events) := by
  have hkept : ∀ {events}, lastBegun? events = none →
      lastBegun? (history ++ events) = lastBegun? history := by
    intro events hnone
    rw [lastBegun_append, hnone, Option.none_or]
  cases h with
  | begins t cause slot a _ hwrites hbuffer hevents =>
    subst hevents
    have hself : s'.writes? t = some slot := by rw [hwrites, Function.update_self]
    constructor
    · apply inv.calls.append
      intro before u b entries after hsplit
      -- The only call comes second, right after the begin of its delivery.
      obtain ⟨rfl, hfirst⟩ | ⟨rest, rfl, hrest⟩ := List.cons_eq_append_iff.mp hsplit
      · cases hfirst
      · obtain ⟨rfl, hlast⟩ | ⟨rest, -, hrest⟩ := List.cons_eq_append_iff.mp hrest
        · cases hlast
          exact ⟨slot, by simp [lastBegun?, Event.begun?]⟩
        · simp at hrest
    · intro u other hu
      obtain rfl := hone' u t other slot hu hself
      rw [hself] at hu
      cases hu
      rw [hbuffer, lastBegun_append]
      rfl
  | callsAgain t slot a hslot hwrites hbuffer hevents =>
    subst hevents
    constructor
    · apply inv.calls.append
      intro before u b entries after hsplit
      obtain ⟨rfl, hfirst⟩ | ⟨rest, -, hrest⟩ := List.cons_eq_append_iff.mp hsplit
      · cases hfirst
        exact ⟨slot, by simpa using inv.current t slot hslot⟩
      · simp at hrest
    · rw [hwrites, hbuffer, hkept rfl]
      exact inv.current
  | finishes t slot a r stored hslot hwrites hbuffer hevents =>
    subst hevents
    refine ⟨inv.calls.quiet rfl, ?_⟩
    intro u other hu
    exact (nobody_writes hone hslot hwrites u other hu).elim
  | breaks t slot hslot hwrites hbuffer hcalls hbegun _ =>
    refine ⟨inv.calls.quiet hcalls, ?_⟩
    intro u other hu
    exact (nobody_writes hone hslot hwrites u other hu).elim
  | quiet hwrites hcontents hcalls hbegun =>
    refine ⟨inv.calls.quiet hcalls, ?_⟩
    rw [hwrites, hkept hbegun]
    intro t slot ht
    rw [hcontents t slot ht]
    exact inv.current t slot ht

/-- A delivery that does not end in a step leaves its slot as it is. -/
lemma DeliveryStep.goes_on {t : Task} {slot : Slot} (h : DeliveryStep s s' events)
    (hone : s.OneWriter) (ht : s.writes? t = some slot) (hsink : SinkReturns events)
    (hopen : ∀ entries stored, .finished t slot entries stored ∉ events) :
    s'.writes? t = some slot ∧ s'.buffer.contents slot = s.buffer.contents slot := by
  cases h with
  | begins u cause other a hnone hwrites hbuffer _ =>
    have hne : t ≠ u := by
      rintro rfl
      rw [hnone] at ht
      cases ht
    rw [hwrites, Function.update_of_ne hne, hbuffer]
    exact ⟨ht, rfl⟩
  | callsAgain u other a _ hwrites hbuffer _ =>
    rw [hwrites, hbuffer]
    exact ⟨ht, rfl⟩
  | finishes u other a r stored hu _ _ hevents =>
    obtain rfl := hone t u slot other ht hu
    rw [hu] at ht
    cases ht
    exact (hopen (s.buffer.contents slot) stored (by simp [hevents])).elim
  | breaks u other _ _ _ _ _ hbroken => exact (hbroken hsink).elim
  | quiet hwrites hcontents _ _ =>
    rw [hwrites]
    exact ⟨ht, hcontents t slot ht⟩

end Steps

section Runs

variable {plan : Plan ε} {s s' : State ε} {history later : List (Event ε)}

lemma Run.oneWriter (run : Run plan s history) : s.OneWriter :=
  Pipeline.oneWriter run.locked run.endsInOrder

theorem Run.delivering (run : Run plan s history) : Delivering s history := by
  induction run with
  | start =>
    constructor
    · intro past t a entries later hsplit
      simp at hsplit
    · intro t slot ht
      cases t <;> simp [State.writes?, State.start, Flusher.writes?] at ht
  | step m run hstep inv =>
    have run' := Run.step m run hstep
    exact inv.step ((step_transition hstep).delivery run.locked) run.oneWriter run'.oneWriter

lemma Run.delivery_goes_on {t : Task} {slot : Slot} {moves : List (Move ε)}
    (run : Run plan s history) (ht : s.writes? t = some slot)
    (hmoves : execFrom plan s moves = some (s', later)) (hsink : SinkReturns later)
    (hopen : ∀ entries stored, .finished t slot entries stored ∉ later) :
    s'.writes? t = some slot ∧ s'.buffer.contents slot = s.buffer.contents slot := by
  induction moves generalizing s history later with
  | nil =>
    cases hmoves
    exact ⟨ht, rfl⟩
  | cons m moves ih =>
    obtain ⟨u, events, rest, hstep, hrest, rfl⟩ := execFrom_cons hmoves
    obtain ⟨hsinkNow, hsinkRest⟩ := (sinkReturns_append _ _).mp hsink
    have hnow : u.writes? t = some slot ∧ u.buffer.contents slot = s.buffer.contents slot := by
      apply ((step_transition hstep).delivery run.locked).goes_on run.oneWriter ht hsinkNow
      intro entries stored hmem
      exact hopen entries stored (List.mem_append_left _ hmem)
    have hlater := ih (.step m run hstep) hnow.1 hrest hsinkRest fun entries stored hmem =>
      hopen entries stored (List.mem_append_right _ hmem)
    exact ⟨hlater.1, hlater.2.trans hnow.2⟩

end Runs
end AuditTrail.Pipeline
