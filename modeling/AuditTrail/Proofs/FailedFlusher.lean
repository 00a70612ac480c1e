import AuditTrail.Proofs.Conservation
import AuditTrail.Proofs.Drains
import AuditTrail.Proofs.Progress

/-!
# After a failure of the flusher

A flusher that the sink has ended holds no lock, and whoever waited for it has been told. So the
workers go on: each of them that has the guard can take its next step, and together they push all
that was accepted. The slots grow, as nobody empties them any more, until a shutdown call writes
both: it writes whatever the flusher had not finished, and no entry of it twice.
-/

namespace AuditTrail.Pipeline

variable {ε : Type}

/-- No worker waits for the flusher: it holds no lock, no handoff is on its way to it, and each
worker with the guard can take its next step. -/
structure Unhindered (plan : Plan ε) (s : State ε) : Prop where
  guard : s.guard ≠ some .flusher
  slots : ∀ slot, s.slotLocks.get slot ≠ some .flusher
  answered : ∀ (i : Nat) e full, s.workers[i]? ≠ some (.awaiting e full .pending)
  goesOn : ∀ (i : Nat) w, s.workers[i]? = some w → w.holding.guard = true →
    ∃ next, step plan s (.worker i) = some next

/-- All that was accepted has been pushed. -/
def AllPushed (redact : ε → ε) (history : List (Event ε)) : Prop :=
  (pushedIn history).Perm ((acceptedIn history).map redact)

section Workers

variable {plan : Plan ε} {s s' : State ε} {m : Move ε} {history events : List (Event ε)}

lemma Transition.stays_failed (h : Transition plan s m s' events) (hfailed : s.flusher = .failed) :
    s'.flusher = .failed := by
  cases h with
  | send hoffered => cases hoffered <;> exact hfailed
  | callShutdown => exact hfailed
  | worker hworker => exact hworker.frame.2.2.1.trans hfailed
  | flusher hflusher =>
    have hhere := hflusher.not_gone
    simp [hfailed, Flusher.isGone] at hhere
  | shutdown hshutdown => exact hshutdown.frame.2.2.2.2.trans hfailed

lemma nothing_in_flight_of_failed (hattended : Attended s) (hfailed : s.flusher = .failed) :
    s.inFlight = [] := by
  have hempty := hattended.gone (by rw [hfailed]; rfl)
  simp [State.inFlight, hempty, hfailed, Flusher.handoff?]

lemma answered_of_failed (hattended : Attended s) (hfailed : s.flusher = .failed) (i : Nat) (e : ε)
    (full : Slot) : s.workers[i]? ≠ some (.awaiting e full .pending) := by
  intro hw
  obtain ⟨h, hflight, -⟩ := hattended.sender i e full hw
  rw [nothing_in_flight_of_failed hattended hfailed] at hflight
  cases hflight

/-- While a worker has not stopped, the slots are locked by the flusher or by nobody. -/
lemma slot_free_of_worker {i : Nat} {w : Worker ε} (hlocked : Locked s) (horder : EndsInOrder s)
    (hfailed : s.flusher = .failed) (hw : s.workers[i]? = some w) (hne : w ≠ .stopped)
    (slot : Slot) : s.slotLocks.get slot = none := by
  cases hlock : s.slotLocks.get slot with
  | none => rfl
  | some t =>
    have hwrites : (s.holding t).slot = some slot := (hlocked.slots slot t).mp hlock
    rw [holding_slot] at hwrites
    cases t with
    | worker j => cases hwrites
    | flusher => simp [State.writes?, hfailed, Flusher.writes?] at hwrites
    | shutdown k =>
      obtain ⟨c, hc, hslot⟩ := Option.bind_eq_some_iff.mp hwrites
      cases c with
      | writing other phase slots drained =>
        have hstopped := (horder.calls _ (List.mem_of_getElem? hc)).workers rfl
        exact (hne (hstopped w (List.mem_of_getElem? hw))).elim
      | _ => cases hslot

lemma guard_worker_goes_on {i : Nat} {w : Worker ε} (hlocked : Locked s) (horder : EndsInOrder s)
    (hattended : Attended s) (hfailed : s.flusher = .failed) (hw : s.workers[i]? = some w)
    (hguard : w.holding.guard = true) : ∃ next, step plan s (.worker i) = some next := by
  have hne : w ≠ .stopped := by
    rintro rfl
    cases hguard
  have hfree := slot_free_of_worker hlocked horder hfailed hw hne s.buffer.active
  cases w with
  | measuring e =>
    by_cases hlarge : plan.threshold < s.buffer.activeLength
    · exact ⟨_, (WorkerMoves.swap e hw hfree hlarge).step⟩
    · exact ⟨_, (WorkerMoves.keep e hw hfree (Nat.le_of_not_lt hlarge)).step⟩
  | swapping e full => exact ⟨_, (WorkerMoves.look e full hw hfree).step⟩
  | handing e full => exact ⟨_, (WorkerMoves.refused e full hw (by rw [hfailed]; rfl)).step⟩
  | awaiting e full ack =>
    cases ack with
    | pending => exact (answered_of_failed hattended hfailed i e full hw).elim
    | received => exact ⟨_, (WorkerMoves.received e full hw).step⟩
    | dropped => exact ⟨_, (WorkerMoves.dropped e full hw).step⟩
  | pushing e => exact ⟨_, (WorkerMoves.push e hw hfree).step⟩
  | _ => cases hguard

lemma Run.unhindered (run : Run plan s history) (hfailed : s.flusher = .failed) :
    Unhindered plan s := by
  constructor
  · exact run.locked.guard_ne_flusher (by rw [hfailed]; rfl)
  · intro slot hlock
    have hholds : (s.holding .flusher).slot = some slot := (run.locked.slots slot .flusher).mp hlock
    simp [State.holding, hfailed, Flusher.holding, Holding.nothing] at hholds
  · exact answered_of_failed run.attended hfailed
  · intro i w
    exact guard_worker_goes_on run.locked run.endsInOrder run.attended hfailed

section Rest

variable (hrest : ∀ i, step plan s (.worker i) = none)

include hrest

lemma no_move_at_rest {i : Nat} (h : WorkerMoves plan s i s' events) : False := by
  have hstep := h.step
  rw [hrest i] at hstep
  cases hstep

/-- A worker with an entry could go on, as the guard is free or held by a worker that could. -/
lemma hand_empty_at_rest {i : Nat} {w : Worker ε} (run : Run plan s history)
    (hfailed : s.flusher = .failed) (hw : s.workers[i]? = some w) :
    w.carried? plan.redact = none := by
  have hunhindered := run.unhindered hfailed
  have hguarded : ∀ {j : Nat} {v}, s.workers[j]? = some v → v.holding.guard = false := by
    intro j v hv
    by_contra hholds
    obtain ⟨next, hnext⟩ := hunhindered.goesOn j v hv (by simpa using hholds)
    rw [hrest j] at hnext
    cases hnext
  cases w with
  | carrying e => exact (no_move_at_rest hrest (.redact e hw)).elim
  | ready e =>
    cases hguard : s.guard with
    | none => exact (no_move_at_rest hrest (.takeGuard e hw hguard)).elim
    | some t =>
      have hholds : (s.holding t).guard = true := (run.locked.guard t).mp hguard
      cases t with
      | worker j =>
        cases hv : s.workers[j]? with
        | none => simp [State.holding, hv, Holding.nothing] at hholds
        | some v =>
          rw [holding_worker hv, hguarded hv] at hholds
          cases hholds
      | flusher => exact (hunhindered.guard hguard).elim
      | shutdown k =>
        -- A call has the guard only after all workers have stopped.
        cases hc : s.calls[k]? with
        | none => simp [State.holding, hc, Holding.nothing] at hholds
        | some c =>
          rw [holding_shutdown hc] at hholds
          have hpast : c.isPastWorkers = true := by
            cases c <;> first | rfl | cases hholds
          have hstopped := (run.endsInOrder.calls c (List.mem_of_getElem? hc)).workers hpast
          cases hstopped _ (List.mem_of_getElem? hw)
  | waiting | receiving | stopped => rfl
  | _ => cases hguarded hw

/-- A worker with the receiving end would take an entry, and then the next one gets it. -/
lemma queue_empty_at_rest (run : Run plan s history) (hworkers : 0 < plan.workers)
    (hfailed : s.flusher = .failed) : s.queue = [] := by
  have hreceiving : ∀ i : Nat, s.workers[i]? = some .receiving → s.queue = [] := by
    intro i hw
    cases hqueue : s.queue with
    | nil => rfl
    | cons e queue => exact (no_move_at_rest hrest (.receive e queue hw hqueue)).elim
  have hlength := run.workers_length
  obtain ⟨w, hmem⟩ := List.exists_mem_of_length_pos (l := s.workers) (by omega)
  obtain ⟨i, hw⟩ := List.mem_iff_getElem?.mp hmem
  have hempty := hand_empty_at_rest hrest run hfailed hw
  cases w with
  | stopped => exact (run.endsInOrder.worker hmem).2
  | receiving => exact hreceiving i hw
  | waiting =>
    cases hreceiver : s.receiver with
    | none => exact (no_move_at_rest hrest (.takeReceiver hw hreceiver)).elim
    | some j =>
      have hholds : (s.holding (.worker j)).receiver = true :=
        (run.locked.receiver j).mp hreceiver
      cases hv : s.workers[j]? with
      | none => simp [State.holding, hv, Holding.nothing] at hholds
      | some v =>
        rw [holding_worker hv] at hholds
        cases v with
        | receiving => exact hreceiving j hv
        | _ => cases hholds
  | _ => cases hempty

lemma all_pushed_at_rest (run : Run plan s history) (hworkers : 0 < plan.workers)
    (hfailed : s.flusher = .failed) : AllPushed plan.redact history := by
  have hhands : (s.hands plan.redact).reduceOption = [] := by
    rw [List.reduceOption_eq_nil_iff]
    refine ⟨_, List.eq_replicate_iff.mpr ⟨rfl, ?_⟩⟩
    intro hand hhand
    obtain ⟨w, hmem, rfl⟩ := List.mem_map.mp hhand
    obtain ⟨i, hw⟩ := List.mem_iff_getElem?.mp hmem
    exact hand_empty_at_rest hrest run hfailed hw
  have hreceived := run.balanced.hands
  rw [hhands, Multiset.coe_nil, add_zero, Multiset.coe_eq_coe] at hreceived
  unfold AllPushed
  rw [run.balanced.queue, queue_empty_at_rest hrest run hworkers hfailed, List.append_nil,
    List.map_map]
  exact hreceived.symm

end Rest

lemma stays_failed {moves : List (Move ε)} (hfailed : s.flusher = .failed)
    (h : execFrom plan s moves = some (s', events)) : s'.flusher = .failed := by
  induction moves generalizing s events with
  | nil =>
    cases h
    exact hfailed
  | cons m moves ih =>
    obtain ⟨u, now, later, hstep, hrest, -⟩ := execFrom_cons h
    exact ih ((step_transition hstep).stays_failed hfailed) hrest

lemma accepted_of_workers {moves : List (Move ε)} (hmoves : ∀ m ∈ moves, ∃ i, m = .worker i)
    (h : execFrom plan s moves = some (s', events)) : acceptedIn events = [] := by
  induction moves generalizing s events with
  | nil =>
    cases h
    rfl
  | cons m moves ih =>
    obtain ⟨u, now, later, hstep, hrest, rfl⟩ := execFrom_cons h
    obtain ⟨i, rfl⟩ := hmoves m List.mem_cons_self
    have hnow : acceptedIn now = [] := by
      cases step_transition hstep with
      | worker hworker => cases hworker <;> rfl
      | flusher hflusher => cases hflusher
      | shutdown hshutdown => cases hshutdown
    rw [acceptedIn_append, hnow, ih (fun n hn => hmoves n (List.mem_cons_of_mem _ hn)) hrest]
    rfl

/-- The workers alone push all that was accepted. -/
lemma Run.workers_push_all (run : Run plan s history) (hworkers : 0 < plan.workers)
    (hfailed : s.flusher = .failed) : ∃ moves s' later, (∀ m ∈ moves, ∃ i, m = .worker i) ∧
      execFrom plan s moves = some (s', later) ∧
      (pushedIn (history ++ later)).Perm ((acceptedIn history).map plan.redact) := by
  have hkind : ∀ m : Move ε, (∃ i, m = .worker i) → m.advances = true := by
    rintro m ⟨i, rfl⟩
    rfl
  obtain ⟨moves, s', later, hmoves, hexec, -, hend⟩ := exists_end plan hkind s
  refine ⟨moves, s', later, hmoves, hexec, ?_⟩
  have hall := all_pushed_at_rest (fun i => hend _ ⟨i, rfl⟩) (run.extend hexec) hworkers
    (stays_failed hfailed hexec)
  rwa [AllPushed, acceptedIn_append, accepted_of_workers hmoves hexec, List.append_nil] at hall

end Workers

/-! ### The shutdown after the failure -/

section Calls

variable {plan : Plan ε} {s s' : State ε} {m : Move ε} {events : List (Event ε)}

lemma Transition.calls_unbroken (h : Transition plan s m s' events) (hsink : SinkReturns events)
    (hcalls : .failed ∉ s.calls) : .failed ∉ s'.calls := by
  cases h with
  | send hoffered => cases hoffered <;> exact hcalls
  | callShutdown => simpa using hcalls
  | worker hworker => rwa [hworker.frame.2.2.2.2]
  | flusher hflusher => rwa [hflusher.frame.2.2.2.2]
  | shutdown hshutdown =>
    cases hshutdown with
    | fail slot a slots drained r _ hverdict => exact (not_sinkReturns hverdict hsink).elim
    | _ =>
      intro hmem
      rcases List.mem_or_eq_of_mem_set hmem with hmem | heq
      · exact hcalls hmem
      · cases heq

lemma calls_unbroken {moves : List (Move ε)} (hcalls : .failed ∉ s.calls)
    (h : execFrom plan s moves = some (s', events)) (hsink : SinkReturns events) :
    .failed ∉ s'.calls := by
  induction moves generalizing s events with
  | nil =>
    cases h
    exact hcalls
  | cons m moves ih =>
    obtain ⟨u, now, later, hstep, hrest, rfl⟩ := execFrom_cons h
    obtain ⟨hnow, hlater⟩ := (sinkReturns_append _ _).mp hsink
    exact ih ((step_transition hstep).calls_unbroken hnow hcalls) hrest hlater

/-- A closed pipeline whose calls the sink has not ended completes, whatever the sink has done to
the flusher. -/
lemma Run.completes {history : List (Event ε)} (run : Run plan s history)
    (hcalls : .failed ∉ s.calls) (hclosed : s.isOpen = false) :
    ∃ moves s' later, (∀ m ∈ moves, m.advances = true) ∧
      execFrom plan s moves = some (s', later) ∧ SinkReturns later ∧ Completed s' := by
  obtain ⟨moves, s', later, hmoves, hexec, hsink, hquiet⟩ := exists_quiet plan s
  exact ⟨moves, s', later, hmoves, hexec, hsink, (run.extend hexec).completed_of_calls
    (calls_unbroken hcalls hexec hsink) (stays_closed hclosed hexec) hquiet⟩

end Calls

section Tickets

variable {plan : Plan ε} {moves : List (Move ε)} {s : State (ε × Nat)}
  {history : List (Event (ε × Nat))}

/-- What the flusher had not finished is in the batches of the call with the tasks, once. -/
lemma Ticketed.onlyIn_drains {k drained : Nat} {e : ε} {n : Nat} (inv : Ticketed moves history)
    (run : Run plan.ticketed s history) (hworkers : 0 < plan.workers)
    (hc : s.calls[k]? = some (.returned (some drained))) (haccepted : (e, n) ∈ acceptedIn history)
    (hunfinished : ∀ b ∈ flushesIn history, ∀ q ∈ b, q.2 ≠ n) :
    OnlyIn (fun i : Nat => ((drainsIn history)[i]?).getD []) (plan.redact e, n) := by
  have hperm := (run.drained_batches hworkers hc).2
  have hnodup := ((hperm.map Prod.snd).nodup_iff).mpr inv.redacted_nodup
  have hmem : (plan.redact e, n) ∈ (flushesIn history ++ drainsIn history).flatten :=
    hperm.mem_iff.mpr (List.mem_map_of_mem haccepted)
  rw [List.flatten_append] at hnodup hmem
  apply onlyIn_batches_of_nodup
  · rw [List.map_append] at hnodup
    exact hnodup.sublist (List.sublist_append_right _ _)
  · refine (List.mem_append.mp hmem).resolve_left ?_
    intro hflushed
    obtain ⟨b, hb, hq⟩ := List.mem_flatten.mp hflushed
    exact hunfinished b hb _ hq rfl

end Tickets

/-- A failure of the flusher loses nothing. In every state after it no worker waits for the flusher;
as long as something accepted has not been pushed, some worker can take a step, each such step takes
away from the work that remains, and the workers alone can push everything. A shutdown still
completes if the sink does not end it too, and when it has returned, it has written the batch with
which the flusher failed, and each accepted entry that the flusher had not finished is once in one
of the two batches, at most, that the shutdown has written. -/
theorem failed_flusher_loses_nothing (c : Config) (hc : c.problem? = none)
    (moves : List (Move Entry)) (s : State Entry) (history : List (Event Entry))
    (run : exec (Timed.planOf c) moves = some (s, history)) (hfailed : s.flusher = .failed) :
    Unhindered (Timed.planOf c) s ∧
    (AllPushed Redaction.entry history ∨
      ∃ i next, step (Timed.planOf c) s (.worker i) = some next) ∧
    (∀ i s' events, step (Timed.planOf c) s (.worker i) = some (s', events) →
      s'.work (Timed.planOf c) < s.work (Timed.planOf c)) ∧
    (∃ moves' s' later, (∀ m ∈ moves', ∃ i, m = .worker i) ∧
      execFrom (Timed.planOf c) s moves' = some (s', later) ∧
      (pushedIn (history ++ later)).Perm ((acceptedIn history).map Redaction.entry)) ∧
    (s.isOpen = false → .failed ∉ s.calls →
      (s.Quiet (Timed.planOf c) → Completed s) ∧
      ∃ moves' s' later, (∀ m ∈ moves', m.advances = true) ∧
        execFrom (Timed.planOf c) s moves' = some (s', later) ∧ SinkReturns later ∧
        Completed s') ∧
    ∃ t tagged,
      exec (Timed.planOf c).ticketed (withTickets moves) = some (t, tagged) ∧
      t.map Prod.fst = s ∧ tagged.map (Event.map Prod.fst) = history ∧ Ticketed moves tagged ∧
      ∀ k drained : Nat, s.calls[k]? = some (.returned (some drained)) →
        (drainsIn tagged).length ≤ 2 ∧
        (∃ entries, interruptedIn tagged = [entries] ∧ entries ≠ [] ∧
          ∃ b ∈ drainsIn tagged, entries <+: b) ∧
        ∀ e n, (e, n) ∈ acceptedIn tagged → (∀ b ∈ flushesIn tagged, ∀ q ∈ b, q.2 ≠ n) →
          OnlyIn (fun i : Nat => ((drainsIn tagged)[i]?).getD []) (Redaction.entry e, n) := by
  have hworkers : 0 < (Timed.planOf c).workers := workers_pos hc
  have hrun := run_iff_exec.mpr ⟨_, run⟩
  refine ⟨hrun.unhindered hfailed, ?_, ?_, hrun.workers_push_all hworkers hfailed, ?_, ?_⟩
  · by_cases hrest : ∀ i, step (Timed.planOf c) s (.worker i) = none
    · exact .inl (all_pushed_at_rest hrest hrun hworkers hfailed)
    · right
      simpa [Option.ne_none_iff_exists'] using hrest
  · intro i s' events hstep
    exact (step_transition hstep).work_lt rfl
  · intro hclosed hcalls
    exact ⟨hrun.completed_of_calls hcalls hclosed, hrun.completes hcalls hclosed⟩
  · obtain ⟨t, tagged, hexec, rfl, rfl⟩ := exec_withTickets run
    have inv := ticketed_of_exec hexec
    have htagged := run_iff_exec.mpr ⟨_, hexec⟩
    refine ⟨t, tagged, hexec, rfl, rfl, inv, ?_⟩
    intro k drained hcall
    refine ⟨(htagged.drained_batches hworkers hcall).1,
      htagged.interrupted_drained hfailed hcall, ?_⟩
    intro e n haccepted hunfinished
    exact inv.onlyIn_drains htagged hworkers hcall haccepted hunfinished

/-- The sink ends the flusher while it writes `a` for a worker with `b`. The entry `c` ends up behind
`a`, and a shutdown call writes both slots. -/
def failingRun (a b c : ε) : List (Move ε) :=
  let worker (n : Nat) : List (Move ε) := List.replicate n (.worker 0)
  let call (n : Nat) : List (Move ε) := List.replicate n (.shutdown 0)
  List.flatten [
    [.send a], worker 6, [.send b], worker 7,
    [.flusher, .flusher, .reply .flusher .broken], worker 2, [.send c], worker 8,
    [.callShutdown], call 2, worker 2, call 4, [.reply (.shutdown 0) .stored], call 1,
    [.reply (.shutdown 0) .stored], call 1]

/-- In the failing run the entry that was being written is in one of the two batches of the shutdown
call. -/
theorem failing_run_drained : ∃ t tagged,
    exec (Timed.planOf narrowConfig).ticketed (withTickets (failingRun default default default)) =
      some (t, tagged) ∧
    flushesIn tagged = [] ∧ interruptedIn tagged = [[(Redaction.entry default, 0)]] ∧
    (drainsIn tagged).length = 2 ∧
    OnlyIn (fun i : Nat => ((drainsIn tagged)[i]?).getD []) (Redaction.entry default, 0) := by
  have hrun : ∃ s history,
      exec (Timed.planOf narrowConfig) (failingRun default default default) = some (s, history) ∧
      s.flusher = .failed ∧ s.calls[0]? = some (.returned (some 3)) :=
    ⟨_, _, rfl, rfl, rfl⟩
  have htickets : ∃ t tagged,
      exec (Timed.planOf narrowConfig).ticketed (withTickets (failingRun default default default)) =
        some (t, tagged) ∧ (default, 0) ∈ acceptedIn tagged ∧ flushesIn tagged = [] ∧
      interruptedIn tagged = [[(Redaction.entry default, 0)]] ∧ (drainsIn tagged).length = 2 :=
    ⟨_, _, rfl, List.mem_cons_self, rfl, rfl, rfl⟩
  obtain ⟨s, history, hexec, hfailed, hcall⟩ := hrun
  obtain ⟨t, tagged, htagged, haccepted, hflushes, hinterrupted, hlength⟩ := htickets
  obtain ⟨-, -, -, -, -, t', tagged', htagged', -, -, -, hdrained⟩ :=
    failed_flusher_loses_nothing narrowConfig rfl _ s history hexec hfailed
  rw [htagged] at htagged'
  cases htagged'
  obtain ⟨-, -, honly⟩ := hdrained 0 3 hcall
  exact ⟨t, tagged, htagged, hflushes, hinterrupted, hlength,
    honly default 0 haccepted (by simp [hflushes])⟩

end AuditTrail.Pipeline
