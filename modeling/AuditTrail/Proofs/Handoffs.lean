import AuditTrail.Proofs.Deliveries
import AuditTrail.Proofs.Rendezvous

/-!
# One handoff at a time

A worker that has swapped a full slot out hands it over and waits, with the guard, until the
flusher has it. So there is at most one handoff that waits for its answer, it carries the current
generation, and the slot is as the swap has left it. As each swap counts a generation, the flusher
receives the handoffs in the order of their generations.
-/

namespace AuditTrail.Pipeline

variable {ε : Type}

/-- The handoff that the flusher has received and not answered yet. -/
def Flusher.handoff? : Flusher → Option Handoff
  | .locking _ origin => origin.handoff?
  | _ => none

/-- The handoffs without an answer: one in the channel, or one that the flusher has received. -/
def State.inFlight (s : State ε) : List Handoff :=
  s.handoff.toList ++ s.flusher.handoff?.toList

def Event.taken? : Event ε → Option Handoff
  | handoffTaken h => some h
  | _ => none

/-- The handoffs that the flusher has received. -/
def handoffsIn (history : List (Event ε)) : List Handoff :=
  history.filterMap Event.taken?

/-- At some moment of a run, worker `i` has made `generation` the current one by a swap, and
`entries` were in the slot `full` that was active before. -/
def SwappedOut (plan : Plan ε) (moves : List (Move ε)) (i : Nat) (full : Slot) (generation : Nat)
    (entries : List ε) : Prop :=
  ∃ earlier later u past u' past', moves = earlier ++ .worker i :: later ∧
    exec plan earlier = some (u, past) ∧ exec plan (earlier ++ [.worker i]) = some (u', past') ∧
    u'.buffer = u.buffer.swap ∧ u'.buffer.generation = generation ∧ u.buffer.active = full ∧
    u.buffer.contents full = entries

section Steps

variable {plan : Plan ε} {s s' : State ε} {m : Move ε} {events history : List (Event ε)}

lemma guard_of_full {w : Worker ε} {full : Slot} (h : w.full? = some full) :
    w.holding.guard = true := by
  cases w with
  | swapping e slot => rfl
  | handing e slot => rfl
  | awaiting e slot ack => rfl
  | _ => cases h

lemma full_of_hear {w : Worker ε} {ack : Ack} {full : Slot} (hack : ack ≠ .pending)
    (h : (w.hear ack).full? = some full) : w.full? = some full := by
  cases w with
  | awaiting e slot old =>
    cases ack with
    | pending => exact (hack rfl).elim
    | received => cases h
    | dropped => cases h
  | _ => exact h

lemma full_of_tellSender {h : Handoff} {ack : Ack} {i : Nat} {w' : Worker ε} {full : Slot}
    (hack : ack ≠ .pending) (hw' : (tellSender h ack s.workers)[i]? = some w')
    (hfull : w'.full? = some full) : ∃ w, s.workers[i]? = some w ∧ w.full? = some full := by
  rw [getElem?_tellSender] at hw'
  split at hw'
  · obtain ⟨w, hw, rfl⟩ := Option.map_eq_some_iff.mp hw'
    exact ⟨w, hw, full_of_hear hack hfull⟩
  · exact ⟨w', hw', hfull⟩

/-- The flusher gives no worker a full slot. -/
lemma FlusherMoves.full_worker {i : Nat} {w' : Worker ε} {full : Slot}
    (h : FlusherMoves plan s m s' events) (hw' : s'.workers[i]? = some w')
    (hfull : w'.full? = some full) : ∃ w, s.workers[i]? = some w ∧ w.full? = some full := by
  have hdropped : (tellDropped s.handoff s.workers)[i]? = some w' →
      ∃ w, s.workers[i]? = some w ∧ w.full? = some full := by
    intro hw'
    cases hh : s.handoff with
    | none =>
      rw [hh] at hw'
      exact ⟨w', hw', hfull⟩
    | some h =>
      rw [hh] at hw'
      exact full_of_tellSender (by simp) hw' hfull
  cases h with
  | beginHandoff _ _ _ _ _ => exact full_of_tellSender (by simp) hw' hfull
  | emptyHandoff _ _ _ _ _ => exact full_of_tellSender (by simp) hw' hfull
  | stop _ _ => exact hdropped hw'
  | fail _ _ _ _ _ => exact hdropped hw'
  | _ => exact ⟨w', hw', hfull⟩

/-- How a worker has come to a full slot: it had the slot before the step, which leaves the slot
and the generation alone, or the step is its swap. -/
inductive FullBefore (s s' : State ε) (m : Move ε) (i : Nat) (full : Slot) : Prop where
  | kept (w : Worker ε) : s.workers[i]? = some w → w.full? = some full →
      s'.buffer.generation = s.buffer.generation →
      s'.buffer.contents full = s.buffer.contents full →
      (s'.flusher.handoff? = none → s.flusher.handoff? = none) → FullBefore s s' m i full
  | swapped : m = .worker i → s'.buffer = s.buffer.swap → s.buffer.active = full →
      FullBefore s s' m i full

lemma FullBefore.same {i : Nat} {w : Worker ε} {full : Slot} (hw : s.workers[i]? = some w)
    (hfull : w.full? = some full) (hbuffer : s'.buffer = s.buffer)
    (hflusher : s'.flusher = s.flusher) : FullBefore s s' m i full := by
  refine .kept w hw hfull ?_ ?_ ?_
  · rw [hbuffer]
  · rw [hbuffer]
  · rw [hflusher]
    exact id

lemma WorkerMoves.full_before {i j : Nat} {w' : Worker ε} {full : Slot} (hlocked : Locked s)
    (h : WorkerMoves plan s j s' events) (hw' : s'.workers[i]? = some w')
    (hfull : w'.full? = some full) : FullBefore s s' (.worker j) i full := by
  obtain ⟨-, -, hflusher, -, -⟩ := h.frame
  obtain ⟨w, w₁, hw, -, hworkers⟩ := h.workers
  have hlt := (List.getElem?_eq_some_iff.mp hw).1
  by_cases hij : j = i
  · subst hij
    cases h with
    | swap e _ _ _ =>
      have hslot : w' = .swapping e s.buffer.active := by simpa [hlt, eq_comm] using hw'
      subst hslot
      cases hfull
      exact .swapped rfl rfl rfl
    | look e slot hw _ =>
      have hslot : w' = .handing e slot := by simpa [hlt, eq_comm] using hw'
      subst hslot
      cases hfull
      exact .same hw rfl rfl rfl
    | handOver e slot hw _ _ =>
      have hslot : w' = .awaiting e slot .pending := by simpa [hlt, eq_comm] using hw'
      subst hslot
      cases hfull
      exact .same hw rfl rfl rfl
    | _ =>
      simp only [List.getElem?_set_self hlt, Option.some.injEq] at hw'
      subst hw'
      cases hfull
  · rw [hworkers, List.getElem?_set_ne hij] at hw'
    have hguard : ∀ {v : Worker ε}, s.workers[j]? = some v → v.holding.guard = true → False := by
      intro v hv hholds
      have hi := hlocked.guard_worker hw' (guard_of_full hfull)
      rw [hlocked.guard_worker hv hholds] at hi
      exact hij (by simpa using hi)
    cases h with
    | swap e hv _ _ => exact (hguard hv rfl).elim
    | push e hv _ => exact (hguard hv rfl).elim
    | _ => exact .same hw' hfull rfl rfl

lemma FlusherMoves.full_before {i : Nat} {w' : Worker ε} {full : Slot} (hlocked : Locked s)
    (hmeet : Rendezvous s) (h : FlusherMoves plan s m s' events)
    (hw' : s'.workers[i]? = some w') (hfull : w'.full? = some full) :
    FullBefore s s' m i full := by
  obtain ⟨w, hw, hold⟩ := h.full_worker hw' hfull
  have hguard := hlocked.guard_worker hw (guard_of_full hold)
  have hfull' : s.full? = some full := (full_of_guard hguard hw).trans hold
  have hkept : s'.buffer = s.buffer → s.flusher.handoff? = none → FullBefore s s' m i full := by
    intro hbuffer hnone
    exact .kept w hw hold (by rw [hbuffer]) (by rw [hbuffer]) fun _ => hnone
  -- A sender that has been told holds its full slot no longer.
  have htold : ∀ {slot h}, s.flusher = .locking slot (.handoff h) → s'.guard = s.guard →
      s'.workers = tellSender h .received s.workers → False := by
    intro slot h hf hguard' hworkers
    have hnone := full_of_told (hmeet.taken slot h hf).2.2 (by simp) hguard' hworkers
    rw [full_of_guard (hguard'.trans hguard) hw', hfull] at hnone
    cases hnone
  cases h with
  | tick _ hfree =>
    rw [hfree] at hguard
    cases hguard
  | skipTick hf _ => exact hkept rfl (by simp [hf, Flusher.handoff?])
  | takeHandoff h hf _ => exact hkept rfl (by simp [hf, Flusher.handoff?])
  | beginHandoff slot h hf _ _ => exact (htold hf rfl rfl).elim
  | emptyHandoff slot h hf _ _ => exact (htold hf rfl rfl).elim
  | beginTimer slot hf _ _ => exact hkept rfl (by simp [hf, Flusher.handoff?, Origin.handoff?])
  | emptyTimer slot hf _ _ => exact hkept rfl (by simp [hf, Flusher.handoff?, Origin.handoff?])
  | keep hf _ _ => exact hkept rfl (by simp [hf, Flusher.handoff?])
  | swap hf _ _ =>
    rw [hlocked.guard_flusher (by rw [hf]; rfl)] at hguard
    cases hguard
  | look slot hf _ => exact hkept rfl (by simp [hf, Flusher.handoff?])
  | stop hf _ => exact hkept rfl (by simp [hf, Flusher.handoff?])
  | finish slot a r stored hf _ =>
    -- The slot that is emptied is the active one, with the older entries.
    have hslot := hmeet.target slot (by rw [hf]; rfl)
    rw [oldest_of_some hfull'] at hslot
    have hne : full ≠ slot := by
      rw [hmeet.full full hfull', hslot]
      exact s.buffer.backup_ne_active
    refine .kept w hw hold rfl ?_ fun _ => by simp [hf, Flusher.handoff?]
    exact (s.buffer.contents_clear slot full).trans (if_neg hne)
  | retry slot a r delay hf _ => exact hkept rfl (by simp [hf, Flusher.handoff?])
  | fail slot a r hf _ => exact hkept rfl (by simp [hf, Flusher.handoff?])
  | wake slot a hf => exact hkept rfl (by simp [hf, Flusher.handoff?])

lemma ShutdownMoves.full_before {i k : Nat} {w : Worker ε} {full : Slot} (hlocked : Locked s)
    (h : ShutdownMoves plan s k m s' events) (hw : s.workers[i]? = some w)
    (hfull : w.full? = some full) : FullBefore s s' m i full := by
  have hguard := hlocked.guard_worker hw (guard_of_full hfull)
  cases h with
  | finish slot a slots drained r stored hc _ =>
    rw [hlocked.guard_shutdown hc rfl] at hguard
    cases hguard
  | _ => exact .same hw hfull rfl rfl

theorem Transition.full_before {i : Nat} {w' : Worker ε} {full : Slot} (hlocked : Locked s)
    (hmeet : Rendezvous s) (h : Transition plan s m s' events)
    (hw' : s'.workers[i]? = some w') (hfull : w'.full? = some full) :
    FullBefore s s' m i full := by
  cases h with
  | send hoffered => cases hoffered <;> exact .same hw' hfull rfl rfl
  | callShutdown => exact .same hw' hfull rfl rfl
  | worker hworker => exact hworker.full_before hlocked hw' hfull
  | flusher hflusher => exact hflusher.full_before hlocked hmeet hw' hfull
  | shutdown hshutdown =>
    obtain ⟨-, -, hworkers, -, -⟩ := hshutdown.frame
    rw [hworkers] at hw'
    exact hshutdown.full_before hlocked hw' hfull

/-! ### Generations -/

lemma Transition.generation_le (h : Transition plan s m s' events) :
    s.buffer.generation ≤ s'.buffer.generation := by
  cases h with
  | send hoffered => cases hoffered <;> exact Nat.le_refl _
  | callShutdown => exact Nat.le_refl _
  | worker hworker =>
    cases hworker with
    | swap _ _ _ _ => exact Nat.le_succ _
    | _ => exact Nat.le_refl _
  | flusher hflusher =>
    cases hflusher with
    | swap _ _ _ => exact Nat.le_succ _
    | _ => exact Nat.le_refl _
  | shutdown hshutdown => cases hshutdown <;> exact Nat.le_refl _

lemma Transition.handoffs (h : Transition plan s m s' events) :
    handoffsIn events = [] ∨ ∃ h, s.handoff = some h ∧ s.flusher.handoff? = none ∧
      s'.flusher.handoff? = some h ∧ s'.buffer = s.buffer ∧ handoffsIn events = [h] := by
  cases h with
  | send hoffered => cases hoffered <;> exact .inl rfl
  | callShutdown => exact .inl rfl
  | worker hworker => cases hworker <;> exact .inl rfl
  | flusher hflusher =>
    cases hflusher with
    | takeHandoff h hf hhandoff =>
      exact .inr ⟨h, hhandoff, by simp [hf, Flusher.handoff?], rfl, rfl, rfl⟩
    | _ => exact .inl rfl
  | shutdown hshutdown => cases hshutdown <;> exact .inl rfl

/-- The generations of the handoffs that have been received increase, and a handoff that is still
to come has a higher one. -/
structure Ascending (s : State ε) (history : List (Event ε)) : Prop where
  received : (handoffsIn history).Pairwise fun g h => g.generation < h.generation
  reached : ∀ g ∈ handoffsIn history, g.generation ≤ s.buffer.generation
  coming : ∀ (i : Nat) (w : Worker ε) full, s.workers[i]? = some w → w.full? = some full →
    s.flusher.handoff? = none → ∀ g ∈ handoffsIn history, g.generation < s.buffer.generation

lemma Ascending.transition (inv : Ascending s history) (hlocked : Locked s)
    (hmeet : Rendezvous s) (h : Transition plan s m s' events) :
    Ascending s' (history ++ events) := by
  have hgeneration := h.generation_le
  rcases h.handoffs with hnone | ⟨handoff, hhandoff, hfree, hbusy, hbuffer, hevents⟩
  · have hsame : handoffsIn (history ++ events) = handoffsIn history := by
      rw [handoffsIn, List.filterMap_append]
      exact (congrArg (handoffsIn history ++ ·) hnone).trans (List.append_nil _)
    constructor
    · rw [hsame]
      exact inv.received
    · rw [hsame]
      intro g hg
      exact Nat.le_trans (inv.reached g hg) hgeneration
    · rw [hsame]
      intro i w full hw hfull hfree g hg
      cases h.full_before hlocked hmeet hw hfull with
      | kept v hv hold hkept _ hstill =>
        rw [hkept]
        exact inv.coming i v full hv hold (hstill hfree) g hg
      | swapped _ hswap _ =>
        rw [hswap]
        exact Nat.lt_succ_of_le (inv.reached g hg)
  · have hmore : handoffsIn (history ++ events) = handoffsIn history ++ [handoff] := by
      rw [← hevents]
      exact List.filterMap_append
    have hu := hmeet.offered handoff hhandoff
    obtain ⟨e, hw⟩ := hu.sender
    have hlower := inv.coming handoff.sender _ handoff.slot hw rfl hfree
    constructor
    · rw [hmore, List.pairwise_append]
      refine ⟨inv.received, List.pairwise_singleton _ _, ?_⟩
      intro g hg last hlast
      obtain rfl := List.mem_singleton.mp hlast
      rw [hu.generation]
      exact hlower g hg
    · rw [hmore, hbuffer]
      intro g hg
      rcases List.mem_append.mp hg with hg | hg
      · exact inv.reached g hg
      · obtain rfl := List.mem_singleton.mp hg
        exact Nat.le_of_eq hu.generation
    · intro i w full _ _ hnone
      rw [hbusy] at hnone
      cases hnone

end Steps

section Runs

variable {plan : Plan ε} {s : State ε} {history : List (Event ε)} {moves : List (Move ε)}

lemma full_of_start {i : Nat} {w : Worker ε} (hw : (State.start plan).workers[i]? = some w) :
    w.full? = none := by
  rw [List.eq_of_mem_replicate (List.mem_of_getElem? hw)]
  rfl

theorem Run.ascending (run : Run plan s history) : Ascending s history := by
  induction run with
  | start =>
    constructor
    · exact List.Pairwise.nil
    · intro g hg
      cases hg
    · intro i w full _ _ _ g hg
      cases hg
  | step m run hstep inv =>
    exact inv.transition run.locked run.rendezvous (step_transition hstep)

/-- A worker with a full slot has swapped it out under the generation that is still the current
one, and the slot has not changed since. -/
theorem swapped_out {i : Nat} {w : Worker ε} {full : Slot}
    (h : exec plan moves = some (s, history)) (hw : s.workers[i]? = some w)
    (hfull : w.full? = some full) :
    SwappedOut plan moves i full s.buffer.generation (s.buffer.contents full) := by
  induction moves using List.reverseRecOn generalizing s history w with
  | nil =>
    cases h
    rw [full_of_start hw] at hfull
    cases hfull
  | append_singleton moves m ih =>
    obtain ⟨u, before, events, hmoves, hstep, rfl⟩ := exec_concat_inv h
    have run := run_iff_exec.mpr ⟨_, hmoves⟩
    cases (step_transition hstep).full_before run.locked run.rendezvous hw hfull with
    | kept v hv hold hgeneration hcontents _ =>
      obtain ⟨earlier, later, t, past, t', past', rfl, hrest⟩ := ih hmoves hv hold
      rw [hgeneration, hcontents]
      exact ⟨earlier, later ++ [m], t, past, t', past', by simp, hrest⟩
    | swapped hm hswap hactive =>
      subst hm
      refine ⟨moves, [], u, before, s, _, rfl, hmoves, h, hswap, rfl, hactive, ?_⟩
      rw [hswap, DoubleBuffer.contents_swap]

lemma Rendezvous.of_inFlight (inv : Rendezvous s) {h : Handoff} (hh : h ∈ s.inFlight) :
    s.Unanswered h := by
  rcases List.mem_append.mp hh with hh | hh
  · exact inv.offered h (Option.mem_toList.mp hh)
  · have hf := Option.mem_toList.mp hh
    cases hflusher : s.flusher with
    | locking slot origin =>
      rw [hflusher] at hf
      cases origin with
      | handoff g =>
        cases hf
        exact (inv.taken slot h hflusher).2.2
      | timer => cases hf
    | _ =>
      rw [hflusher] at hf
      cases hf

lemma Rendezvous.inFlight_length_le (inv : Rendezvous s) : s.inFlight.length ≤ 1 := by
  unfold State.inFlight
  cases hf : s.flusher with
  | locking slot origin =>
    cases origin with
    | handoff h => simp [(inv.taken slot h hf).2.1, Flusher.handoff?, Origin.handoff?]
    | timer => cases s.handoff <;> simp [Flusher.handoff?, Origin.handoff?]
  | _ => cases s.handoff <;> simp [Flusher.handoff?]

/-- There is one writer at most; all its calls pass the entries with which its delivery began, and
its slot keeps them until it has finished. -/
structure SingleWriter (plan : Plan ε) (s : State ε) (history : List (Event ε)) : Prop where
  one : s.OneWriter
  calls : CallsAgree history
  current : ∀ t slot, s.writes? t = some slot →
    lastBegun? history = some (t, slot, s.buffer.contents slot)
  untouched : ∀ t slot moves s' later, s.writes? t = some slot →
    execFrom plan s moves = some (s', later) → SinkReturns later →
    (∀ entries stored, .finished t slot entries stored ∉ later) →
    s'.writes? t = some slot ∧ s'.buffer.contents slot = s.buffer.contents slot

/-- There is one handoff in flight at most, from the task with the guard, for the backup slot as it
was swapped out under the current generation; and generations are received in order. -/
structure SingleHandoff (plan : Plan ε) (moves : List (Move ε)) (s : State ε)
    (history : List (Event ε)) : Prop where
  one : s.inFlight.length ≤ 1
  guard : ∀ h ∈ s.inFlight, s.guard = some (.worker h.sender)
  slot : ∀ h ∈ s.inFlight, h.slot = s.buffer.backup
  generation : ∀ h ∈ s.inFlight, h.generation = s.buffer.generation
  entries : ∀ h ∈ s.inFlight,
    SwappedOut plan moves h.sender h.slot h.generation (s.buffer.contents h.slot)
  received : (handoffsIn history).Pairwise fun g h => g.generation < h.generation

/-- In every state that a run reaches there is at most one writer and at most one handoff. -/
theorem one_writer_one_handoff (plan : Plan ε) (moves : List (Move ε)) (s : State ε)
    (history : List (Event ε)) (h : exec plan moves = some (s, history)) :
    SingleWriter plan s history ∧ SingleHandoff plan moves s history := by
  have run := run_iff_exec.mpr ⟨moves, h⟩
  have hmeet := run.rendezvous
  constructor
  · refine ⟨run.oneWriter, run.delivering.calls, run.delivering.current, ?_⟩
    intro t slot more s' later ht hmore hsink hopen
    exact run.delivery_goes_on ht hmore hsink hopen
  · refine ⟨hmeet.inFlight_length_le, ?_, ?_, ?_, ?_, run.ascending.received⟩
    · intro g hg
      exact (hmeet.of_inFlight hg).guard
    · intro g hg
      exact hmeet.full g.slot (hmeet.of_inFlight hg).full
    · intro g hg
      exact (hmeet.of_inFlight hg).generation
    · intro g hg
      have hu := hmeet.of_inFlight hg
      obtain ⟨e, hw⟩ := hu.sender
      rw [hu.generation]
      exact swapped_out h hw rfl

end Runs

/-- A run of a narrow pipeline: the timer makes the flusher swap the slot with `a` out, and before
it begins to write this slot, a worker swaps the other one with `b` out too and hands it over. -/
def entangledRun (a b c : ε) : List (Move ε) :=
  let worker (n : Nat) : List (Move ε) := List.replicate n (.worker 0)
  List.flatten [
    [.send a], worker 6, [.tick], List.replicate 2 .flusher, [.send b], worker 6, [.send c],
    worker 7, [.flusher]]

/-- In this run the flusher writes the slot that is the active one, while a handoff is in flight. -/
theorem entangled_run_is_exclusive : ∃ s history,
    exec narrowPlan (entangledRun 1 2 3) = some (s, history) ∧
      s.writes? .flusher = some .zero ∧ s.buffer.active = .zero ∧
      s.inFlight = [⟨.one, 2, 0⟩] ∧ SingleWriter narrowPlan s history ∧
      SingleHandoff narrowPlan (entangledRun 1 2 3) s history := by
  have hrun : ∃ s history, exec narrowPlan (entangledRun 1 2 3) = some (s, history) ∧
      s.writes? .flusher = some .zero ∧ s.buffer.active = .zero ∧
      s.inFlight = [⟨.one, 2, 0⟩] := ⟨_, _, rfl, rfl, rfl, rfl⟩
  obtain ⟨s, history, hexec, hwrites, hactive, hflight⟩ := hrun
  exact ⟨s, history, hexec, hwrites, hactive, hflight,
    one_writer_one_handoff narrowPlan (entangledRun 1 2 3) s history hexec⟩

end AuditTrail.Pipeline
