import AuditTrail.Pipeline.Timed
import AuditTrail.Proofs.Ledger
import AuditTrail.Proofs.Locks
import AuditTrail.Proofs.Schedule

/-!
# The call that takes the tasks

Any number of shutdown calls may be made at the same time. One of them takes the tasks of the
pipeline over and ends them; every other call finds the tasks taken and returns at once, however
far the first one has come. So it is the return of the call with the tasks that means that nothing
is left, and the return of another call means so only after it.
-/

namespace AuditTrail.Pipeline

variable {ε : Type}

def Shutdown.hasTasks : Shutdown → Bool
  | .joining | .stopping | .locking | .draining _ _ | .writing _ _ _ _ | .returned (some _)
  | .failed => true
  | .closing | .claiming | .returned none => false

def State.hasTasks (s : State ε) (k : Nat) : Prop :=
  ∃ c, s.calls[k]? = some c ∧ c.hasTasks = true

/-- The tasks have been taken by the call `owner`, if by any, and no call has come too late before
that. -/
structure TakenBy (s : State ε) (owner : Option Nat) : Prop where
  taken : s.tasksTaken = owner.isSome
  owned : Owned owner s.hasTasks
  late : .returned none ∈ s.calls → owner.isSome = true

section Steps

variable {plan : Plan ε} {s s' : State ε} {m : Move ε} {events : List (Event ε)}
  {owner owner' : Option Nat}

lemma hasTasks_iff {k : Nat} {c : Shutdown} (hc : s.calls[k]? = some c) :
    s.hasTasks k ↔ c.hasTasks = true := by
  simp [State.hasTasks, hc]

lemma TakenBy.call_step {k : Nat} {c c' : Shutdown} (inv : TakenBy s owner)
    (hc : s.calls[k]? = some c) (hcalls : s'.calls = s.calls.set k c')
    (htaken : s'.tasksTaken = owner'.isSome)
    (hpassed : Passed k owner owner' (c.hasTasks = true) (c'.hasTasks = true))
    (hstays : owner.isSome = true → owner'.isSome = true)
    (hlate : c' = .returned none → owner'.isSome = true) : TakenBy s' owner' := by
  have hlt := (List.getElem?_eq_some_iff.mp hc).1
  have hc' : s'.calls[k]? = some c' := by simp [hcalls, hlt]
  constructor
  · exact htaken
  · apply inv.owned.pass (t := k)
    · intro j hj
      simp only [State.hasTasks, hcalls, List.getElem?_set_ne (Ne.symm hj)]
    · rw [hasTasks_iff hc, hasTasks_iff hc']
      exact hpassed
  · rw [hcalls]
    intro hmem
    rcases List.mem_or_eq_of_mem_set hmem with hmem | heq
    · exact hstays (inv.late hmem)
    · exact hlate heq.symm

lemma TakenBy.call_keep {k : Nat} {c c' : Shutdown} (inv : TakenBy s owner)
    (hc : s.calls[k]? = some c) (hcalls : s'.calls = s.calls.set k c')
    (htaken : s'.tasksTaken = s.tasksTaken) (hsame : c'.hasTasks = c.hasTasks)
    (hlate : c' ≠ .returned none) : TakenBy s' owner :=
  inv.call_step hc hcalls (htaken.trans inv.taken) (.kept (by rw [hsame])) id
    fun heq => (hlate heq).elim

lemma TakenBy.shutdown {k : Nat} (inv : TakenBy s owner)
    (h : ShutdownMoves plan s k m s' events) : ∃ owner', TakenBy s' owner' := by
  cases h with
  | late hc htaken =>
    have howner : owner.isSome = true := inv.taken ▸ htaken
    exact ⟨owner, inv.call_step hc rfl inv.taken (.kept Iff.rfl) id fun _ => howner⟩
  | claim hc htaken =>
    have hfree : owner = none := by simpa [inv.taken] using htaken
    exact ⟨some k, inv.call_step hc rfl rfl (.taken hfree rfl) (fun _ => rfl) fun _ => rfl⟩
  | close hc => exact ⟨owner, inv.call_keep hc rfl rfl rfl (by simp)⟩
  | join hc _ => exact ⟨owner, inv.call_keep hc rfl rfl rfl (by simp)⟩
  | flusherStopped hc _ => exact ⟨owner, inv.call_keep hc rfl rfl rfl (by simp)⟩
  | flusherFailed hc _ => exact ⟨owner, inv.call_keep hc rfl rfl rfl (by simp)⟩
  | takeGuard hc _ => exact ⟨owner, inv.call_keep hc rfl rfl rfl (by simp)⟩
  | done drained hc => exact ⟨owner, inv.call_keep hc rfl rfl rfl (by simp)⟩
  | skip slot slots drained hc _ _ => exact ⟨owner, inv.call_keep hc rfl rfl rfl (by simp)⟩
  | begin slot slots drained hc _ _ => exact ⟨owner, inv.call_keep hc rfl rfl rfl (by simp)⟩
  | finish slot a slots drained r stored hc _ =>
    exact ⟨owner, inv.call_keep hc rfl rfl rfl (by simp)⟩
  | retry slot a slots drained r delay hc _ =>
    exact ⟨owner, inv.call_keep hc rfl rfl rfl (by simp)⟩
  | fail slot a slots drained r hc _ => exact ⟨owner, inv.call_keep hc rfl rfl rfl (by simp)⟩
  | wake slot a slots drained hc => exact ⟨owner, inv.call_keep hc rfl rfl rfl (by simp)⟩

lemma WorkerMoves.tasksTaken {i : Nat} (h : WorkerMoves plan s i s' events) :
    s'.tasksTaken = s.tasksTaken := by
  cases h <;> rfl

lemma FlusherMoves.tasksTaken (h : FlusherMoves plan s m s' events) :
    s'.tasksTaken = s.tasksTaken := by
  cases h <;> rfl

lemma TakenBy.same (inv : TakenBy s owner) (htaken : s'.tasksTaken = s.tasksTaken)
    (hcalls : s'.calls = s.calls) : TakenBy s' owner := by
  constructor
  · exact htaken.trans inv.taken
  · unfold State.hasTasks
    rw [hcalls]
    exact inv.owned
  · rw [hcalls]
    exact inv.late

lemma TakenBy.transition (inv : TakenBy s owner) (h : Transition plan s m s' events) :
    ∃ owner', TakenBy s' owner' := by
  cases h with
  | send hoffered => cases hoffered <;> exact ⟨owner, inv.same rfl rfl⟩
  | callShutdown =>
    -- A new call has not taken the tasks.
    refine ⟨owner, inv.taken, inv.owned.same ?_, by simpa using inv.late⟩
    intro k
    simp only [State.hasTasks, List.getElem?_append]
    split
    · rfl
    · next hk =>
      rw [List.getElem?_eq_none (Nat.le_of_not_lt hk)]
      cases k - s.calls.length <;> simp [Shutdown.hasTasks]
  | worker hworker =>
    obtain ⟨-, -, -, -, hcalls⟩ := hworker.frame
    exact ⟨owner, inv.same hworker.tasksTaken hcalls⟩
  | flusher hflusher =>
    obtain ⟨-, -, -, -, hcalls⟩ := hflusher.frame
    exact ⟨owner, inv.same hflusher.tasksTaken hcalls⟩
  | shutdown hshutdown => exact inv.shutdown hshutdown

end Steps

section Runs

variable {plan : Plan ε} {s : State ε} {history : List (Event ε)}

theorem Run.takenBy (run : Run plan s history) : ∃ owner, TakenBy s owner := by
  induction run with
  | start =>
    refine ⟨none, rfl, ?_, by simp [State.start]⟩
    intro k
    simp [State.hasTasks, State.start]
  | step m _ hstep ih =>
    obtain ⟨owner, inv⟩ := ih
    exact inv.transition (step_transition hstep)

lemma Run.hasTasks_unique (run : Run plan s history) {j k : Nat} (hj : s.hasTasks j)
    (hk : s.hasTasks k) : j = k := by
  obtain ⟨owner, inv⟩ := run.takenBy
  exact inv.owned.unique hj hk

/-- A call returns when it has taken the tasks, or after another one has. -/
lemma Run.exists_hasTasks {k : Nat} {result : Option Nat} (run : Run plan s history)
    (hreturned : s.calls[k]? = some (.returned result)) :
    ∃ j, s.hasTasks j ∧ (j = k ↔ result.isSome = true) := by
  cases result with
  | some drained => exact ⟨k, ⟨_, hreturned, rfl⟩, by simp⟩
  | none =>
    obtain ⟨owner, inv⟩ := run.takenBy
    obtain ⟨j, rfl⟩ := Option.isSome_iff_exists.mp (inv.late (List.mem_of_getElem? hreturned))
    have hj : s.hasTasks j := (inv.owned j).mp rfl
    refine ⟨j, hj, ?_⟩
    have hne : j ≠ k := by
      rintro rfl
      have := (hasTasks_iff hreturned).mp hj
      cases this
    simp [hne]

/-- Nothing is left: every task of the pipeline has ended, and all that was accepted is finished. -/
structure Drained (redact : ε → ε) (s : State ε) (history : List (Event ε)) : Prop where
  queue : s.queue = []
  workers : ∀ w ∈ s.workers, w = .stopped
  slots : ∀ slot, s.buffer.contents slot = []
  finished : (finishedIn history).flatten.Perm ((acceptedIn history).map redact)

lemma Run.drained {k drained : Nat} (run : Run plan s history) (hworkers : 0 < plan.workers)
    (hc : s.calls[k]? = some (.returned (some drained))) : Drained plan.redact s history := by
  obtain ⟨hqueue, hstopped⟩ := run.drained_stops hworkers hc
  have hempty := run.drained_empty hc
  refine ⟨hqueue, hstopped, hempty, ?_⟩
  have hslots := run.balanced.slots
  rw [State.stored, hempty, hempty, Multiset.coe_nil, add_zero, zero_add,
    Multiset.coe_eq_coe] at hslots
  exact hslots.symm.trans (run.drained_pushed hworkers hc)

end Runs

lemma workers_pos {c : Config} (hc : c.problem? = none) : 0 < c.workers := by
  unfold Config.problem? at hc
  split at hc
  · cases hc
  · split at hc
    · cases hc
    · next hne => exact Nat.pos_of_ne_zero hne

/-- The return of the call with the tasks means that all that was accepted is finished. If some
call has returned, exactly one call has taken the tasks: the one that has returned if it tells a
number of entries, in particular if it is the only call, and another one if it does not. -/
theorem taking_call_returns_drained (c : Config) (hc : c.problem? = none) (s : State Entry)
    (history : List (Event Entry)) (run : Run (Timed.planOf c) s history) (k : Nat)
    (result : Option Nat) (hreturned : s.calls[k]? = some (.returned result)) :
    (∃ j, s.hasTasks j ∧ (∀ i, s.hasTasks i → i = j) ∧ (j = k ↔ result.isSome = true) ∧
      ∀ drained : Nat, s.calls[j]? = some (.returned (some drained)) →
        Drained Redaction.entry s history) ∧
    (s.calls.length = 1 → Drained Redaction.entry s history) := by
  have hworkers : 0 < (Timed.planOf c).workers := workers_pos hc
  obtain ⟨j, hj, hiff⟩ := run.exists_hasTasks hreturned
  refine ⟨⟨j, hj, fun i hi => run.hasTasks_unique hi hj, hiff, ?_⟩, ?_⟩
  · intro drained hdrained
    exact run.drained hworkers hdrained
  · intro hone
    -- The call with the tasks is the call `k` itself, as there is no other.
    obtain ⟨call, hcall, -⟩ := hj
    have hlt := (List.getElem?_eq_some_iff.mp hcall).1
    have hlt' := (List.getElem?_eq_some_iff.mp hreturned).1
    obtain ⟨drained, rfl⟩ := Option.isSome_iff_exists.mp (hiff.mp (by omega))
    exact run.drained hworkers hreturned

/-- Two shutdown calls: while the first one delivers the entry `e`, the second one begins and
returns. -/
def raceRun (e : ε) : List (Move ε) :=
  let worker (n : Nat) : List (Move ε) := List.replicate n (.worker 0)
  let call (k n : Nat) : List (Move ε) := List.replicate n (.shutdown k)
  List.flatten [
    [.send e], worker 7, [.callShutdown], call 0 2, worker 1, call 0 1, [.stopFlusher],
    call 0 4, [.callShutdown], call 1 2]

/-- When the first call is done too, the return of the second one means that nothing is left. -/
theorem race_run_drained : ∃ s history,
    exec (Timed.planOf narrowConfig)
        (raceRun default ++ [.reply (.shutdown 0) .stored, .shutdown 0]) = some (s, history) ∧
      s.calls = [.returned (some 1), .returned none] ∧ Drained Redaction.entry s history := by
  have hrun : ∃ s history,
      exec (Timed.planOf narrowConfig)
          (raceRun default ++ [.reply (.shutdown 0) .stored, .shutdown 0]) = some (s, history) ∧
        s.calls = [.returned (some 1), .returned none] :=
    ⟨_, _, rfl, rfl⟩
  obtain ⟨s, history, hexec, hcalls⟩ := hrun
  have run := run_iff_exec.mpr ⟨_, hexec⟩
  obtain ⟨⟨j, -, hunique, -, hdrained⟩, -⟩ := taking_call_returns_drained narrowConfig rfl s history
    run 1 none (by simp [hcalls])
  have hj : 0 = j := hunique 0 ⟨.returned (some 1), by simp [hcalls], rfl⟩
  exact ⟨s, history, hexec, hcalls, hdrained 1 (by simp [← hj, hcalls])⟩

/-- A call may return before the entries are finished: in the race the second call has returned,
and the entry that was accepted is still being delivered by the first one. -/
theorem late_call_returns_undrained : ∃ s history,
    exec (Timed.planOf narrowConfig) (raceRun default) = some (s, history) ∧
      SinkReturns history ∧ s.calls[1]? = some (.returned none) ∧
      acceptedIn history = [default] ∧ finishedIn history = [] ∧
      s.buffer.contents .zero = [Redaction.entry default] ∧
      ¬(finishedIn history).flatten.Perm ((acceptedIn history).map Redaction.entry) := by
  refine ⟨_, _, rfl, by decide, rfl, rfl, rfl, rfl, ?_⟩
  intro hperm
  cases hperm.length_eq

end AuditTrail.Pipeline
