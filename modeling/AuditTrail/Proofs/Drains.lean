import AuditTrail.Proofs.Deliveries
import AuditTrail.Proofs.Ledger
import AuditTrail.Proofs.Takeover

/-!
# What a shutdown writes

A shutdown call writes the backup slot and then the active one, so it begins two deliveries at most,
and what it has begun is finished when it returns. A batch that broke the sink under the flusher
stays where it was: it is the beginning of a slot, until a shutdown call writes this slot.
-/

namespace AuditTrail.Pipeline

variable {ε : Type}

namespace Event

def drained? : Event ε → Option (List ε)
  | batch (.shutdown _) _ _ entries => some entries
  | _ => none

def drainFinished? : Event ε → Option (List ε)
  | finished (.shutdown _) _ entries _ => some entries
  | _ => none

def flushed? : Event ε → Option (List ε)
  | finished .flusher _ entries _ => some entries
  | _ => none

/-- The entries of an attempt of the flusher that has broken the sink. -/
def interrupted? : Event ε → Option (List ε)
  | replied .flusher _ entries .broken => some entries
  | _ => none

end Event

/-- The batches that shutdown calls have begun to deliver. -/
def drainsIn (history : List (Event ε)) : List (List ε) :=
  history.filterMap Event.drained?

/-- The batches whose delivery by a shutdown call is over. -/
def drainsFinishedIn (history : List (Event ε)) : List (List ε) :=
  history.filterMap Event.drainFinished?

/-- The batches whose delivery by the flusher is over. -/
def flushesIn (history : List (Event ε)) : List (List ε) :=
  history.filterMap Event.flushed?

/-- The batch that the flusher was writing when it failed. -/
def interruptedIn (history : List (Event ε)) : List (List ε) :=
  history.filterMap Event.interrupted?

section Append

variable (history events : List (Event ε))

@[simp] lemma drainsIn_append :
    drainsIn (history ++ events) = drainsIn history ++ drainsIn events :=
  List.filterMap_append

@[simp] lemma drainsFinishedIn_append :
    drainsFinishedIn (history ++ events) = drainsFinishedIn history ++ drainsFinishedIn events :=
  List.filterMap_append

@[simp] lemma flushesIn_append :
    flushesIn (history ++ events) = flushesIn history ++ flushesIn events :=
  List.filterMap_append

@[simp] lemma interruptedIn_append :
    interruptedIn (history ++ events) = interruptedIn history ++ interruptedIn events :=
  List.filterMap_append

end Append

/-- The batch that a call is delivering. -/
def Shutdown.inHand (b : DoubleBuffer ε) : Shutdown → List (List ε)
  | .writing slot _ _ _ => [b.contents slot]
  | _ => []

/-- How many deliveries a call may still begin. -/
def Shutdown.slotsLeft : Shutdown → Nat
  | .draining slots _ | .writing _ _ slots _ => slots.length
  | .returned _ | .failed => 0
  | _ => 2

/-- All deliveries of shutdown calls are those of the call with the tasks: two at most, and finished
up to the one that is under way. -/
structure Draining (s : State ε) (history : List (Event ε)) : Prop where
  untaken : (∀ k, ¬s.hasTasks k) → drainsIn history = [] ∧ drainsFinishedIn history = []
  begun : ∀ (k : Nat) (c : Shutdown), s.calls[k]? = some c → c.hasTasks = true → c ≠ .failed →
    drainsIn history = drainsFinishedIn history ++ c.inHand s.buffer
  few : ∀ (k : Nat) (c : Shutdown), s.calls[k]? = some c → c.hasTasks = true →
    (drainsIn history).length + c.slotsLeft ≤ 2

section Steps

variable {plan : Plan ε} {s s' : State ε} {m : Move ε} {history events : List (Event ε)}

/-- A step that begins and ends no delivery of a shutdown call, and leaves the tasks with the call
that has them. -/
lemma Draining.keep (inv : Draining s history)
    (hcalls : ∀ (k : Nat) (c : Shutdown), s'.calls[k]? = some c → c.hasTasks = true →
      s.calls[k]? = some c)
    (htasks : ∀ k, s.hasTasks k → s'.hasTasks k)
    (hcontents : ∀ (k : Nat) (c : Shutdown), s.calls[k]? = some c →
      c.inHand s'.buffer = c.inHand s.buffer)
    (hdrains : drainsIn events = []) (hfinished : drainsFinishedIn events = []) :
    Draining s' (history ++ events) := by
  have hdrains' : drainsIn (history ++ events) = drainsIn history := by
    rw [drainsIn_append, hdrains, List.append_nil]
  have hfinished' : drainsFinishedIn (history ++ events) = drainsFinishedIn history := by
    rw [drainsFinishedIn_append, hfinished, List.append_nil]
  constructor
  · intro hnone
    rw [hdrains', hfinished']
    exact inv.untaken fun k hk => hnone k (htasks k hk)
  · intro k c hc hhas hne
    have hold := hcalls k c hc hhas
    rw [hdrains', hfinished', hcontents k c hold]
    exact inv.begun k c hold hhas hne
  · intro k c hc hhas
    rw [hdrains']
    exact inv.few k c (hcalls k c hc hhas) hhas

lemma Draining.same (inv : Draining s history) (hcalls : s'.calls = s.calls)
    (hcontents : ∀ (k : Nat) (c : Shutdown), s.calls[k]? = some c →
      c.inHand s'.buffer = c.inHand s.buffer)
    (hdrains : drainsIn events = []) (hfinished : drainsFinishedIn events = []) :
    Draining s' (history ++ events) := by
  refine inv.keep ?_ ?_ hcontents hdrains hfinished
  · rw [hcalls]
    exact fun _ _ hc _ => hc
  · unfold State.hasTasks
    rw [hcalls]
    exact fun _ hk => hk

/-- A step of the call with the tasks. -/
lemma Draining.call_step {k : Nat} {c c' : Shutdown} (inv : Draining s history)
    (hone : ∀ j, s.hasTasks j → j = k) (hc : s.calls[k]? = some c) (hhas : c.hasTasks = true)
    (hcalls : s'.calls = s.calls.set k c') (hhas' : c'.hasTasks = true)
    (hbegun : c' ≠ .failed → c ≠ .failed ∧
      c.inHand s.buffer ++ drainsIn events = drainsFinishedIn events ++ c'.inHand s'.buffer)
    (hleft : (drainsIn events).length + c'.slotsLeft ≤ c.slotsLeft) :
    Draining s' (history ++ events) := by
  have hlt := (List.getElem?_eq_some_iff.mp hc).1
  have hself : s'.calls[k]? = some c' := by simp [hcalls, hlt]
  have honly : ∀ (j : Nat) d, s'.calls[j]? = some d → d.hasTasks = true → d = c' := by
    intro j d hd hdhas
    by_cases hjk : k = j
    · subst hjk
      rw [hself] at hd
      exact (Option.some.inj hd).symm
    · rw [hcalls, List.getElem?_set_ne hjk] at hd
      exact (hjk (hone j ⟨d, hd, hdhas⟩).symm).elim
  constructor
  · intro hnone
    exact (hnone k ⟨c', hself, hhas'⟩).elim
  · intro j d hd hdhas hne
    obtain rfl := honly j d hd hdhas
    obtain ⟨hcne, hevents⟩ := hbegun hne
    rw [drainsIn_append, drainsFinishedIn_append, inv.begun k c hc hhas hcne, List.append_assoc,
      hevents, List.append_assoc]
  · intro j d hd hdhas
    obtain rfl := honly j d hd hdhas
    have hfew := inv.few k c hc hhas
    rw [drainsIn_append, List.length_append]
    omega

/-- A step of a call that neither has nor takes the tasks: nothing is said of it. -/
lemma Draining.other_call {k : Nat} {c c' : Shutdown} (inv : Draining s history)
    (hc : s.calls[k]? = some c) (hhas : c.hasTasks = false) (hcalls : s'.calls = s.calls.set k c')
    (hhas' : c'.hasTasks = false) (hbuffer : s'.buffer = s.buffer) (hdrains : drainsIn events = [])
    (hfinished : drainsFinishedIn events = []) : Draining s' (history ++ events) := by
  have hlt := (List.getElem?_eq_some_iff.mp hc).1
  refine inv.keep ?_ ?_ ?_ hdrains hfinished
  · intro j d hd hdhas
    by_cases hkj : k = j
    · subst hkj
      rw [hcalls, List.getElem?_set_self hlt] at hd
      rw [← Option.some.inj hd, hhas'] at hdhas
      cases hdhas
    · rwa [hcalls, List.getElem?_set_ne hkj] at hd
  · rintro j ⟨d, hd, hdhas⟩
    have hkj : k ≠ j := by
      rintro rfl
      rw [hc] at hd
      rw [← Option.some.inj hd, hhas] at hdhas
      cases hdhas
    exact ⟨d, by rwa [hcalls, List.getElem?_set_ne hkj], hdhas⟩
  · rw [hbuffer]
    exact fun _ _ _ => rfl

/-- The call that takes the tasks has drained nothing yet. -/
lemma Draining.claim {k : Nat} {c : Shutdown} (inv : Draining s history)
    (hc : s.calls[k]? = some c) (hnone : ∀ j, ¬s.hasTasks j) :
    Draining { s with tasksTaken := true, calls := s.calls.set k .joining } history := by
  obtain ⟨hdrains, hfinished⟩ := inv.untaken hnone
  have hlt := (List.getElem?_eq_some_iff.mp hc).1
  have honly : ∀ (j : Nat) d, (s.calls.set k .joining)[j]? = some d → d.hasTasks = true →
      d = .joining := by
    intro j d hd hdhas
    by_cases hkj : k = j
    · subst hkj
      rw [List.getElem?_set_self hlt] at hd
      exact (Option.some.inj hd).symm
    · rw [List.getElem?_set_ne hkj] at hd
      exact (hnone j ⟨d, hd, hdhas⟩).elim
  constructor
  · intro _
    exact ⟨hdrains, hfinished⟩
  · intro j d hd hdhas _
    rw [honly j d hd hdhas, hdrains, hfinished]
    rfl
  · intro j d hd hdhas
    rw [honly j d hd hdhas, hdrains]
    exact Nat.le_refl 2

lemma Draining.shutdown {k : Nat} (inv : Draining s history)
    (hone : ∀ i j, s.hasTasks i → s.hasTasks j → i = j)
    (huntaken : s.tasksTaken = false → ∀ j, ¬s.hasTasks j)
    (h : ShutdownMoves plan s k m s' events) : Draining s' (history ++ events) := by
  have hstep : ∀ {c c'}, s.calls[k]? = some c → c.hasTasks = true →
      s'.calls = s.calls.set k c' → c'.hasTasks = true →
      (c' ≠ .failed → c ≠ .failed ∧
        c.inHand s.buffer ++ drainsIn events = drainsFinishedIn events ++ c'.inHand s'.buffer) →
      (drainsIn events).length + c'.slotsLeft ≤ c.slotsLeft →
      Draining s' (history ++ events) := fun hc hhas =>
    inv.call_step (fun j hj => hone j k hj ⟨_, hc, hhas⟩) hc hhas
  cases h with
  | close hc => exact inv.other_call hc rfl rfl rfl rfl rfl rfl
  | late hc _ => exact inv.other_call hc rfl rfl rfl rfl rfl rfl
  | claim hc htaken =>
    rw [List.append_nil]
    exact inv.claim hc (huntaken htaken)
  | join hc _ => exact hstep hc rfl rfl rfl (fun _ => ⟨by simp, rfl⟩) (Nat.le_refl _)
  | flusherStopped hc _ => exact hstep hc rfl rfl rfl (fun _ => ⟨by simp, rfl⟩) (Nat.le_refl _)
  | flusherFailed hc _ => exact hstep hc rfl rfl rfl (fun _ => ⟨by simp, rfl⟩) (Nat.le_refl _)
  | takeGuard hc _ => exact hstep hc rfl rfl rfl (fun _ => ⟨by simp, rfl⟩) (Nat.le_refl _)
  | done drained hc => exact hstep hc rfl rfl rfl (fun _ => ⟨by simp, rfl⟩) (Nat.zero_le _)
  | skip slot slots drained hc _ _ =>
    exact hstep hc rfl rfl rfl (fun _ => ⟨by simp, rfl⟩) (by simp [drainsIn, Shutdown.slotsLeft])
  | begin slot slots drained hc _ _ =>
    exact hstep hc rfl rfl rfl (fun _ => ⟨by simp, rfl⟩) (Nat.le_of_eq (Nat.add_comm 1 _))
  | finish slot a slots drained r stored hc _ =>
    exact hstep hc rfl rfl rfl (fun _ => ⟨by simp, rfl⟩) (Nat.le_of_eq (Nat.zero_add _))
  | retry slot a slots drained r delay hc _ =>
    exact hstep hc rfl rfl rfl (fun _ => ⟨by simp, rfl⟩) (Nat.le_of_eq (Nat.zero_add _))
  | fail slot a slots drained r hc _ =>
    exact hstep hc rfl rfl rfl (fun hne => (hne rfl).elim) (Nat.zero_le _)
  | wake slot a slots drained hc =>
    exact hstep hc rfl rfl rfl (fun _ => ⟨by simp, rfl⟩) (Nat.le_of_eq (Nat.zero_add _))

lemma Shutdown.inHand_of_not_past {c : Shutdown} (h : c.isPastFlusher = false)
    (b : DoubleBuffer ε) : c.inHand b = [] := by
  cases c with
  | writing slot phase slots drained => cases h
  | _ => rfl

lemma Draining.transition (inv : Draining s history) (horder : EndsInOrder s)
    (hone : ∀ i j, s.hasTasks i → s.hasTasks j → i = j)
    (huntaken : s.tasksTaken = false → ∀ j, ¬s.hasTasks j) (h : Transition plan s m s' events) :
    Draining s' (history ++ events) := by
  -- While another task still goes on, no call delivers anything.
  have hnothing : (∃ w ∈ s.workers, w ≠ .stopped) ∨ s.flusher.isGone = false →
      ∀ (k : Nat) (c : Shutdown), s.calls[k]? = some c →
        c.inHand s'.buffer = c.inHand s.buffer := by
    intro hbusy k c hc
    have hfollows := horder.calls c (List.mem_of_getElem? hc)
    have hpast : c.isPastFlusher = false := by
      by_contra hpast
      have hpast : c.isPastFlusher = true := by simpa using hpast
      rcases hbusy with hbusy | hhere
      · have := Shutdown.isPastWorkers_of_isPastFlusher hpast
        simp [hfollows.not_past hbusy] at this
      · simp [hfollows.flusher hpast] at hhere
    rw [Shutdown.inHand_of_not_past hpast, Shutdown.inHand_of_not_past hpast]
  cases h with
  | send hoffered => cases hoffered <;> exact inv.same rfl (fun _ _ _ => rfl) rfl rfl
  | callShutdown =>
    refine inv.keep ?_ ?_ (fun _ _ _ => rfl) rfl rfl
    · intro k c hc hhas
      rw [List.getElem?_append] at hc
      split at hc
      · exact hc
      · cases List.mem_singleton.mp (List.mem_of_getElem? hc)
        cases hhas
    · rintro k ⟨c, hc, hhas⟩
      refine ⟨c, ?_, hhas⟩
      rw [List.getElem?_append_left (List.getElem?_eq_some_iff.mp hc).1, hc]
  | worker hworker =>
    obtain ⟨-, -, -, -, hcalls⟩ := hworker.frame
    obtain ⟨w, -, hw, hne, -⟩ := hworker.workers
    refine inv.same hcalls (hnothing (.inl ⟨w, List.mem_of_getElem? hw, hne⟩)) ?_ ?_ <;>
      cases hworker <;> rfl
  | flusher hflusher =>
    obtain ⟨-, -, -, -, hcalls⟩ := hflusher.frame
    refine inv.same hcalls (hnothing (.inr hflusher.not_gone)) ?_ ?_ <;> cases hflusher <;> rfl
  | shutdown hshutdown => exact inv.shutdown hone huntaken hshutdown

end Steps

section Runs

variable {plan : Plan ε} {s s' : State ε} {history : List (Event ε)}

theorem Run.draining (run : Run plan s history) : Draining s history := by
  induction run with
  | start =>
    constructor
    · intro _
      exact ⟨rfl, rfl⟩
    · intro k c hc
      cases hc
    · intro k c hc
      cases hc
  | step m run hstep inv =>
    obtain ⟨owner, htaken⟩ := run.takenBy
    refine inv.transition run.endsInOrder (fun _ _ => run.hasTasks_unique) ?_
      (step_transition hstep)
    intro hfalse j hj
    have howner : owner = none := by simpa [htaken.taken] using hfalse
    rw [howner] at htaken
    exact htaken.owned.not_holds_of_free j hj

/-- The deliveries that are over are those of the flusher and those of shutdown calls. -/
lemma Run.finished_perm (run : Run plan s history) :
    (finishedIn history).Perm (flushesIn history ++ drainsFinishedIn history) := by
  induction run with
  | start => rfl
  | @step s s' history events m _ hstep ih =>
    have hevents : finishedIn events = flushesIn events ++ drainsFinishedIn events := by
      cases step_transition hstep with
      | send hoffered => cases hoffered <;> rfl
      | callShutdown => rfl
      | worker hworker => cases hworker <;> rfl
      | flusher hflusher => cases hflusher <;> rfl
      | shutdown hshutdown => cases hshutdown <;> rfl
    rw [← Multiset.coe_eq_coe, ← Multiset.coe_add] at ih
    rw [finishedIn_append, flushesIn_append, drainsFinishedIn_append, hevents,
      ← Multiset.coe_eq_coe]
    simp only [← Multiset.coe_add, ih]
    ac_rfl

end Runs

/-! ### The batch that broke the sink -/

/-- The batch with which the flusher failed is the beginning of a slot, or a shutdown call has
begun to deliver it together with what was added to the slot since. -/
structure Interrupted (s : State ε) (history : List (Event ε)) : Prop where
  before : s.flusher ≠ .failed → interruptedIn history = []
  writing : ∀ slot, s.flusher.writes? = some slot → s.buffer.contents slot ≠ []
  after : s.flusher = .failed → ∃ entries, interruptedIn history = [entries] ∧ entries ≠ [] ∧
    ((∃ slot, entries <+: s.buffer.contents slot) ∨ ∃ b ∈ drainsIn history, entries <+: b)

section Steps

variable {plan : Plan ε} {s s' : State ε} {m : Move ε} {history events : List (Event ε)}

/-- A push leaves what was there at the beginning of each slot. -/
lemma contents_prefix_push (b : DoubleBuffer ε) (e : ε) (slot : Slot) :
    b.contents slot <+: (b.push e).contents slot := by
  rcases b.eq_active_or_backup slot with rfl | rfl
  · rw [DoubleBuffer.contents_push_active]
    exact List.prefix_append _ _
  · exact (b.contents_push_backup e).symm ▸ List.prefix_rfl

/-- A step of another task than the flusher keeps the beginning of each slot, except that a shutdown
call empties a slot whose delivery it has begun. -/
lemma Interrupted.keep (inv : Interrupted s history) (hflusher : s'.flusher = s.flusher)
    (hslots : ∀ slot, s.buffer.contents slot <+: s'.buffer.contents slot ∨
      s.flusher.isGone = true ∧ s.buffer.contents slot ∈ drainsIn history)
    (hnone : interruptedIn events = []) : Interrupted s' (history ++ events) := by
  have hsame : interruptedIn (history ++ events) = interruptedIn history := by
    rw [interruptedIn_append, hnone, List.append_nil]
  constructor
  · rw [hflusher, hsame]
    exact inv.before
  · rw [hflusher]
    intro slot hwrites hempty
    rcases hslots slot with hprefix | ⟨hgone, -⟩
    · rw [hempty, List.prefix_nil] at hprefix
      exact inv.writing slot hwrites hprefix
    · cases hf : s.flusher <;> simp [hf, Flusher.writes?, Flusher.isGone] at hwrites hgone
  · rw [hflusher, hsame, drainsIn_append]
    intro hfailed
    obtain ⟨entries, hentries, hne, hplace⟩ := inv.after hfailed
    refine ⟨entries, hentries, hne, ?_⟩
    rcases hplace with ⟨slot, hbegins⟩ | ⟨b, hb, hbegins⟩
    · rcases hslots slot with hprefix | ⟨-, hmem⟩
      · exact .inl ⟨slot, hbegins.trans hprefix⟩
      · exact .inr ⟨_, List.mem_append_left _ hmem, hbegins⟩
    · exact .inr ⟨b, List.mem_append_left _ hb, hbegins⟩

/-- A step of the flusher other than its failure. -/
lemma Interrupted.goes_on (inv : Interrupted s history) (hne : s.flusher ≠ .failed)
    (hne' : s'.flusher ≠ .failed) (hnone : interruptedIn events = [])
    (hwriting : ∀ slot, s'.flusher.writes? = some slot → s'.buffer.contents slot ≠ []) :
    Interrupted s' (history ++ events) := by
  refine ⟨fun _ => ?_, hwriting, fun hfailed => (hne' hfailed).elim⟩
  rw [interruptedIn_append, inv.before hne, hnone, List.append_nil]

lemma Interrupted.flusher (inv : Interrupted s history) (h : FlusherMoves plan s m s' events) :
    Interrupted s' (history ++ events) := by
  have hne : s.flusher ≠ .failed := by
    intro hfailed
    have := h.not_gone
    simp [hfailed, Flusher.isGone] at this
  have hrests : s'.flusher.writes? = none →
      ∀ slot, s'.flusher.writes? = some slot → s'.buffer.contents slot ≠ [] := by
    intro hnone slot hwrites
    rw [hnone] at hwrites
    cases hwrites
  cases h with
  | skipTick hf _ => exact inv.goes_on hne hne rfl inv.writing
  | beginHandoff slot h hf _ hfull =>
    refine inv.goes_on hne (by simp) rfl ?_
    rintro other ⟨⟩
    exact hfull
  | beginTimer slot hf _ hfull =>
    refine inv.goes_on hne (by simp) rfl ?_
    rintro other ⟨⟩
    exact hfull
  | wake slot a hf =>
    refine inv.goes_on hne (by simp) rfl ?_
    rintro other ⟨⟩
    exact inv.writing slot (by rw [hf]; rfl)
  | retry slot a r delay hf hverdict =>
    refine inv.goes_on hne (by simp) ?_ ?_
    · cases r with
      | broken => cases hverdict
      | _ => rfl
    · rintro other ⟨⟩
      exact inv.writing slot (by rw [hf]; rfl)
  | finish slot a r stored hf hverdict =>
    refine inv.goes_on hne (by simp) ?_ (hrests rfl)
    cases r with
    | broken => cases hverdict
    | _ => rfl
  | fail slot a r hf hverdict =>
    refine ⟨fun hne' => (hne' rfl).elim, hrests rfl, fun _ => ?_⟩
    have hfull : s.buffer.contents slot ≠ [] := inv.writing slot (by rw [hf]; rfl)
    refine ⟨s.buffer.contents slot, ?_, hfull, .inl ⟨slot, List.prefix_rfl⟩⟩
    rw [verdict_broken hverdict, interruptedIn_append, inv.before hne]
    rfl
  | _ => exact inv.goes_on hne (by simp) rfl (hrests rfl)

lemma Interrupted.transition (inv : Interrupted s history) (horder : EndsInOrder s)
    (hdrains : Draining s history) (h : Transition plan s m s' events) :
    Interrupted s' (history ++ events) := by
  cases h with
  | send hoffered =>
    cases hoffered <;> exact inv.keep rfl (fun _ => .inl List.prefix_rfl) rfl
  | callShutdown => exact inv.keep rfl (fun _ => .inl List.prefix_rfl) rfl
  | worker hworker =>
    obtain ⟨-, -, hflusher, -, -⟩ := hworker.frame
    cases hworker with
    | push e hw _ =>
      exact inv.keep rfl (fun slot => .inl (contents_prefix_push s.buffer e slot)) rfl
    | _ => exact inv.keep rfl (fun _ => .inl List.prefix_rfl) rfl
  | flusher hflusher => exact inv.flusher hflusher
  | shutdown hshutdown =>
    cases hshutdown with
    | finish slot a slots drained r stored hc _ =>
      refine inv.keep rfl (fun other => ?_) rfl
      by_cases hother : other = slot
      · subst hother
        have hgone := (horder.calls _ (List.mem_of_getElem? hc)).flusher rfl
        refine .inr ⟨hgone, ?_⟩
        rw [hdrains.begun _ _ hc rfl (by simp)]
        exact List.mem_append_right _ List.mem_cons_self
      · exact .inl ((s.buffer.contents_clear slot other).trans (if_neg hother) ▸ List.prefix_rfl)
    | _ => exact inv.keep rfl (fun _ => .inl List.prefix_rfl) rfl

end Steps

section Runs

variable {plan : Plan ε} {s : State ε} {history : List (Event ε)}

theorem Run.interrupted (run : Run plan s history) : Interrupted s history := by
  induction run with
  | start =>
    refine ⟨fun _ => rfl, ?_, ?_⟩
    · intro slot hwrites
      cases hwrites
    · intro hfailed
      cases hfailed
  | step m run hstep inv =>
    exact inv.transition run.endsInOrder run.draining (step_transition hstep)

/-- What is delivered when the call with the tasks returns: the flusher and this call have written
everything, the call in two batches at most. -/
lemma Run.drained_batches {k drained : Nat} (run : Run plan s history)
    (hworkers : 0 < plan.workers) (hc : s.calls[k]? = some (.returned (some drained))) :
    (drainsIn history).length ≤ 2 ∧
      (flushesIn history ++ drainsIn history).flatten.Perm
        ((acceptedIn history).map plan.redact) := by
  have hbegun := run.draining.begun k _ hc rfl (by simp)
  simp only [Shutdown.inHand, List.append_nil] at hbegun
  refine ⟨run.draining.few k _ hc rfl, ?_⟩
  rw [hbegun]
  exact run.finished_perm.flatten.symm.trans (run.drained hworkers hc).finished

/-- When the call with the tasks returns, it has written what the flusher was writing when it
failed. -/
lemma Run.interrupted_drained {k drained : Nat} (run : Run plan s history)
    (hfailed : s.flusher = .failed) (hc : s.calls[k]? = some (.returned (some drained))) :
    ∃ entries, interruptedIn history = [entries] ∧ entries ≠ [] ∧
      ∃ b ∈ drainsIn history, entries <+: b := by
  obtain ⟨entries, hentries, hne, ⟨slot, hbegins⟩ | hdrained⟩ := run.interrupted.after hfailed
  · rw [run.drained_empty hc, List.prefix_nil] at hbegins
    exact (hne hbegins).elim
  · exact ⟨entries, hentries, hne, hdrained⟩

end Runs
end AuditTrail.Pipeline
