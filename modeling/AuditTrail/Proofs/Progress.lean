import AuditTrail.Proofs.Handoffs
import AuditTrail.Proofs.RemainingWork
import AuditTrail.Proofs.Takeover

/-!
# A shutdown always completes

Whom does a task wait for? A task that wants a slot waits for the one that writes it, and a writer
waits for nobody, as the sink answers. A worker with a handoff waits for the flusher, which waits at
most for a slot. Who wants the guard waits for one of these, and a worker that wants an entry waits
for one that takes entries from a closed queue. So if no task at all can take a step, then all
workers have stopped and all shutdown calls have returned. As every step takes some of the remaining
work away, a shutdown cannot go on for ever either.
-/

namespace AuditTrail.Pipeline

variable {ε : Type}

/-- No task can take a step. -/
def State.Quiet (plan : Plan ε) (s : State ε) : Prop :=
  ∀ m, m.advances = true → step plan s m = none

/-- Nobody waits in vain for a handoff or for the stop signal. -/
structure Attended (s : State ε) : Prop where
  sender : ∀ i e full, s.workers[i]? = some (.awaiting e full .pending) →
    ∃ h ∈ s.inFlight, h.sender = i
  gone : s.flusher.isGone = true → s.handoff = none
  signal : ∀ c ∈ s.calls, c.isPastWorkers = true → s.stopSignal = true

section Steps

variable {plan : Plan ε} {s s' : State ε} {m : Move ε} {events : List (Event ε)}

lemma Attended.same (inv : Attended s) (hworkers : s'.workers = s.workers)
    (hhandoff : s'.handoff = s.handoff) (hflusher : s'.flusher = s.flusher)
    (hsignal : ∀ c ∈ s'.calls, c.isPastWorkers = true → s'.stopSignal = true) : Attended s' := by
  constructor
  · unfold State.inFlight
    rw [hworkers, hhandoff, hflusher]
    exact inv.sender
  · rw [hflusher, hhandoff]
    exact inv.gone
  · exact hsignal

lemma Attended.worker {i : Nat} (inv : Attended s) (h : WorkerMoves plan s i s' events) :
    Attended s' := by
  obtain ⟨w, w', hw, -, hworkers⟩ := h.workers
  obtain ⟨-, -, hflusher, hsignal, hcalls⟩ := h.frame
  have hlt := (List.getElem?_eq_some_iff.mp hw).1
  constructor
  · intro j e full hj
    by_cases hij : i = j
    · subst hij
      cases h with
      | handOver e₁ full₁ _ _ _ =>
        exact ⟨_, List.mem_append_left _ (List.mem_singleton_self _), rfl⟩
      | _ => simp [hlt] at hj
    · rw [hworkers, List.getElem?_set_ne hij] at hj
      obtain ⟨h₀, hmem, hsender⟩ := inv.sender j e full hj
      refine ⟨h₀, ?_, hsender⟩
      cases h with
      | handOver e₁ full₁ _ _ hfree =>
        unfold State.inFlight at hmem
        rw [hfree] at hmem
        exact List.mem_append_right _ hmem
      | _ => exact hmem
  · rw [hflusher]
    intro hgone
    cases h with
    | handOver e full _ hhere _ =>
      rw [hgone] at hhere
      cases hhere
    | _ => exact inv.gone hgone
  · rw [hcalls, hsignal]
    exact inv.signal

lemma awaiting_of_tellSender {h : Handoff} {ack : Ack} {workers : List (Worker ε)} {i : Nat} {e : ε}
    {full : Slot} (hack : ack ≠ .pending)
    (hw : (tellSender h ack workers)[i]? = some (.awaiting e full .pending)) :
    h.sender ≠ i ∧ workers[i]? = some (.awaiting e full .pending) := by
  rw [getElem?_tellSender] at hw
  split at hw
  · obtain ⟨w, -, heard⟩ := Option.map_eq_some_iff.mp hw
    cases w with
    | awaiting e₁ full₁ old =>
      cases heard
      exact (hack rfl).elim
    | _ => cases heard
  · next hne => exact ⟨hne, hw⟩

/-- When the only handoff in flight is answered, no other worker waits for the flusher. -/
lemma Attended.told {h : Handoff} {ack : Ack} (inv : Attended s) (hack : ack ≠ .pending)
    (hflight : s.inFlight = [h]) (i : Nat) (e : ε) (full : Slot) :
    (tellSender h ack s.workers)[i]? ≠ some (.awaiting e full .pending) := by
  intro hw
  obtain ⟨hne, hw⟩ := awaiting_of_tellSender hack hw
  obtain ⟨g, hg, hsender⟩ := inv.sender i e full hw
  rw [hflight, List.mem_singleton] at hg
  subst hg
  exact hne hsender

lemma Attended.flusher (inv : Attended s) (hmeet : Rendezvous s)
    (h : FlusherMoves plan s m s' events) : Attended s' := by
  obtain ⟨-, -, -, hsignal, hcalls⟩ := h.frame
  have hsame : s'.workers = s.workers → s'.inFlight = s.inFlight → s'.flusher.isGone = false →
      Attended s' := by
    intro hworkers hflight hhere
    refine ⟨?_, by simp [hhere], by rw [hcalls, hsignal]; exact inv.signal⟩
    rw [hworkers, hflight]
    exact inv.sender
  have hkeep : s'.workers = s.workers → s'.handoff = s.handoff →
      s'.flusher.handoff? = s.flusher.handoff? → s'.flusher.isGone = false → Attended s' := by
    intro hworkers hhandoff hflusher hhere
    refine hsame hworkers ?_ hhere
    unfold State.inFlight
    rw [hhandoff, hflusher]
  have hanswered : (∀ (i : Nat) (e : ε) full, s'.workers[i]? ≠ some (.awaiting e full .pending)) →
      s'.handoff = none → Attended s' := by
    intro hnobody hnone
    refine ⟨?_, fun _ => hnone, by rw [hcalls, hsignal]; exact inv.signal⟩
    intro i e full hw
    exact (hnobody i e full hw).elim
  have hdropped : s.flusher.handoff? = none → ∀ (i : Nat) (e : ε) full,
      (tellDropped s.handoff s.workers)[i]? ≠ some (.awaiting e full .pending) := by
    intro hnone i e full
    cases hh : s.handoff with
    | none =>
      intro hw
      obtain ⟨g, hg, -⟩ := inv.sender i e full hw
      simp [State.inFlight, hh, hnone] at hg
    | some h => exact inv.told (by simp) (by simp [State.inFlight, hh, hnone]) i e full
  have hlast : ∀ {slot h}, s.flusher = .locking slot (.handoff h) →
      s.handoff = none ∧ s.inFlight = [h] := by
    intro slot h hf
    have hnone := (hmeet.taken slot h hf).2.1
    exact ⟨hnone, by simp [State.inFlight, hf, hnone, Flusher.handoff?, Origin.handoff?]⟩
  cases h with
  | tick hf _ => exact hkeep rfl rfl (by rw [hf]; rfl) rfl
  | skipTick _ _ => exact inv
  | takeHandoff h hf hhandoff =>
    refine hsame rfl ?_ rfl
    simp [State.inFlight, hf, hhandoff, Flusher.handoff?, Origin.handoff?]
  | beginHandoff slot h hf _ _ =>
    obtain ⟨hnone, hflight⟩ := hlast hf
    exact hanswered (inv.told (by simp) hflight) hnone
  | emptyHandoff slot h hf _ _ =>
    obtain ⟨hnone, hflight⟩ := hlast hf
    exact hanswered (inv.told (by simp) hflight) hnone
  | beginTimer slot hf _ _ => exact hkeep rfl rfl (by rw [hf]; rfl) rfl
  | emptyTimer slot hf _ _ => exact hkeep rfl rfl (by rw [hf]; rfl) rfl
  | keep hf _ _ => exact hkeep rfl rfl (by rw [hf]; rfl) rfl
  | swap hf _ _ => exact hkeep rfl rfl (by rw [hf]; rfl) rfl
  | look full hf _ => exact hkeep rfl rfl (by rw [hf]; rfl) rfl
  | stop hf _ => exact hanswered (hdropped (by rw [hf]; rfl)) rfl
  | finish slot a r stored hf _ => exact hkeep rfl rfl (by rw [hf]; rfl) rfl
  | retry slot a r delay hf _ => exact hkeep rfl rfl (by rw [hf]; rfl) rfl
  | fail slot a r hf _ => exact hanswered (hdropped (by rw [hf]; rfl)) rfl
  | wake slot a hf => exact hkeep rfl rfl (by rw [hf]; rfl) rfl

lemma Attended.shutdown {k : Nat} (inv : Attended s) (h : ShutdownMoves plan s k m s' events) :
    Attended s' := by
  obtain ⟨-, -, hworkers, hhandoff, hflusher⟩ := h.frame
  have hset : ∀ {c c'}, s.calls[k]? = some c → s'.calls = s.calls.set k c' →
      s'.stopSignal = s.stopSignal → (c'.isPastWorkers = true → c.isPastWorkers = true) →
      Attended s' := by
    intro c c' hc hcalls hsignal hpast
    apply inv.same hworkers hhandoff hflusher
    rw [hcalls, hsignal]
    intro d hd hdpast
    rcases List.mem_or_eq_of_mem_set hd with hd | rfl
    · exact inv.signal d hd hdpast
    · exact inv.signal c (List.mem_of_getElem? hc) (hpast hdpast)
  cases h with
  | join hc _ => exact inv.same hworkers hhandoff hflusher fun _ _ _ => rfl
  | close hc => exact hset hc rfl rfl (by simp [Shutdown.isPastWorkers])
  | late hc _ => exact hset hc rfl rfl (by simp [Shutdown.isPastWorkers])
  | claim hc _ => exact hset hc rfl rfl (by simp [Shutdown.isPastWorkers])
  | flusherStopped hc _ => exact hset hc rfl rfl fun _ => rfl
  | flusherFailed hc _ => exact hset hc rfl rfl fun _ => rfl
  | takeGuard hc _ => exact hset hc rfl rfl fun _ => rfl
  | done drained hc => exact hset hc rfl rfl fun _ => rfl
  | skip slot slots drained hc _ _ => exact hset hc rfl rfl fun _ => rfl
  | begin slot slots drained hc _ _ => exact hset hc rfl rfl fun _ => rfl
  | finish slot a slots drained r stored hc _ => exact hset hc rfl rfl fun _ => rfl
  | retry slot a slots drained r delay hc _ => exact hset hc rfl rfl fun _ => rfl
  | fail slot a slots drained r hc _ => exact hset hc rfl rfl fun _ => rfl
  | wake slot a slots drained hc => exact hset hc rfl rfl fun _ => rfl

lemma Attended.transition (inv : Attended s) (hmeet : Rendezvous s)
    (h : Transition plan s m s' events) : Attended s' := by
  cases h with
  | send hoffered => cases hoffered <;> exact inv.same rfl rfl rfl inv.signal
  | callShutdown =>
    refine inv.same rfl rfl rfl ?_
    intro c hc hpast
    rcases List.mem_append.mp hc with hc | hc
    · exact inv.signal c hc hpast
    · rw [List.mem_singleton.mp hc] at hpast
      cases hpast
  | worker hworker => exact inv.worker hworker
  | flusher hflusher => exact inv.flusher hmeet hflusher
  | shutdown hshutdown => exact inv.shutdown hshutdown

/-! ### Where no task can take a step -/

lemma State.Quiet.no_transition (hquiet : s.Quiet plan) (hm : m.advances = true)
    (h : Transition plan s m s' events) : False := by
  have hstep := h.step
  rw [hquiet m hm] at hstep
  cases hstep

lemma State.Quiet.no_worker {i : Nat} (hquiet : s.Quiet plan)
    (h : WorkerMoves plan s i s' events) : False :=
  hquiet.no_transition rfl (.worker h)

lemma State.Quiet.no_flusher (hquiet : s.Quiet plan) (hm : m.advances = true)
    (h : FlusherMoves plan s m s' events) : False :=
  hquiet.no_transition hm (.flusher h)

lemma State.Quiet.no_call {k : Nat} (hquiet : s.Quiet plan) (hm : m.advances = true)
    (h : ShutdownMoves plan s k m s' events) : False :=
  hquiet.no_transition hm (.shutdown h)

/-- A writer would get its answer, or end its pause. -/
lemma State.Quiet.no_writer (hquiet : s.Quiet plan) (t : Task) : s.writes? t = none := by
  cases t with
  | worker i => rfl
  | flusher =>
    cases hf : s.flusher with
    | writing slot phase =>
      cases phase with
      | calling a =>
        exact (hquiet.no_flusher (m := .reply .flusher .stored) rfl
          (.finish slot a .stored true hf rfl)).elim
      | pausing a => exact (hquiet.no_flusher rfl (.wake slot a hf)).elim
    | _ => simp [State.writes?, hf, Flusher.writes?]
  | shutdown k =>
    cases hc : s.calls[k]? with
    | none => simp [State.writes?, hc]
    | some c =>
      cases c with
      | writing slot phase slots drained =>
        cases phase with
        | calling a =>
          exact (hquiet.no_call (m := .reply (.shutdown k) .stored) rfl
            (.finish slot a slots drained .stored true hc rfl)).elim
        | pausing a => exact (hquiet.no_call rfl (.wake slot a slots drained hc)).elim
      | _ => simp [State.writes?, hc, Shutdown.writes?]

lemma State.Quiet.slot_free (hquiet : s.Quiet plan) (hlocked : Locked s) (slot : Slot) :
    s.slotLocks.get slot = none := by
  cases hlock : s.slotLocks.get slot with
  | none => rfl
  | some t =>
    have hholds : (s.holding t).slot = some slot := (hlocked.slots slot t).mp hlock
    rw [holding_slot, hquiet.no_writer t] at hholds
    cases hholds

lemma State.Quiet.flusher_rests (hquiet : s.Quiet plan) (hlocked : Locked s) :
    s.flusher = .idle ∨ s.flusher.isGone = true := by
  have hfree := hquiet.slot_free hlocked
  cases hf : s.flusher with
  | idle => exact .inl rfl
  | stopped => exact .inr rfl
  | failed => exact .inr rfl
  | locking slot origin =>
    have hslot := hfree slot
    by_cases hempty : s.buffer.contents slot = []
    · cases origin with
      | handoff h => exact (hquiet.no_flusher rfl (.emptyHandoff slot h hf hslot hempty)).elim
      | timer => exact (hquiet.no_flusher rfl (.emptyTimer slot hf hslot hempty)).elim
    · cases origin with
      | handoff h => exact (hquiet.no_flusher rfl (.beginHandoff slot h hf hslot hempty)).elim
      | timer => exact (hquiet.no_flusher rfl (.beginTimer slot hf hslot hempty)).elim
  | measuring =>
    by_cases hempty : s.buffer.activeLength = 0
    · exact (hquiet.no_flusher rfl (.keep hf (hfree _) hempty)).elim
    · exact (hquiet.no_flusher rfl (.swap hf (hfree _) hempty)).elim
  | swapping full => exact (hquiet.no_flusher rfl (.look full hf (hfree _))).elim
  | writing slot phase =>
    have hwriter := hquiet.no_writer .flusher
    simp [State.writes?, hf, Flusher.writes?] at hwriter

lemma State.Quiet.channel_empty (hquiet : s.Quiet plan) (hlocked : Locked s)
    (hattended : Attended s) : s.handoff = none := by
  rcases hquiet.flusher_rests hlocked with hidle | hgone
  · cases hh : s.handoff with
    | none => rfl
    | some h => exact (hquiet.no_flusher rfl (.takeHandoff h hidle hh)).elim
  · exact hattended.gone hgone

lemma State.Quiet.nothing_in_flight (hquiet : s.Quiet plan) (hlocked : Locked s)
    (hattended : Attended s) : s.inFlight = [] := by
  unfold State.inFlight
  rw [hquiet.channel_empty hlocked hattended]
  rcases hquiet.flusher_rests hlocked with hidle | hgone
  · rw [hidle]
    rfl
  · cases hf : s.flusher <;> simp [hf, Flusher.isGone, Flusher.handoff?] at hgone ⊢

/-- A worker with the guard could go on: the slots are free and its handoff has been answered. -/
lemma State.Quiet.no_guard_worker {i : Nat} {w : Worker ε} (hquiet : s.Quiet plan)
    (hlocked : Locked s) (hattended : Attended s) (hw : s.workers[i]? = some w) :
    w.holding.guard = false := by
  have hfree := hquiet.slot_free hlocked s.buffer.active
  cases w with
  | measuring e =>
    by_cases hlarge : plan.threshold < s.buffer.activeLength
    · exact (hquiet.no_worker (.swap e hw hfree hlarge)).elim
    · exact (hquiet.no_worker (.keep e hw hfree (Nat.le_of_not_lt hlarge))).elim
  | swapping e full => exact (hquiet.no_worker (.look e full hw hfree)).elim
  | handing e full =>
    cases hgone : s.flusher.isGone with
    | true => exact (hquiet.no_worker (.refused e full hw hgone)).elim
    | false =>
      have hempty := hquiet.channel_empty hlocked hattended
      exact (hquiet.no_worker (.handOver e full hw hgone hempty)).elim
  | awaiting e full ack =>
    cases ack with
    | pending =>
      obtain ⟨h, hh, -⟩ := hattended.sender i e full hw
      rw [hquiet.nothing_in_flight hlocked hattended] at hh
      cases hh
    | received => exact (hquiet.no_worker (.received e full hw)).elim
    | dropped => exact (hquiet.no_worker (.dropped e full hw)).elim
  | pushing e => exact (hquiet.no_worker (.push e hw hfree)).elim
  | _ => rfl

lemma State.Quiet.no_draining {k : Nat} {slots : List Slot} {drained : Nat}
    (hquiet : s.Quiet plan) (hlocked : Locked s) :
    s.calls[k]? ≠ some (.draining slots drained) := by
  intro hc
  cases slots with
  | nil => exact hquiet.no_call rfl (.done drained hc)
  | cons slot slots =>
    have hfree := hquiet.slot_free hlocked slot
    by_cases hempty : s.buffer.contents slot = []
    · exact hquiet.no_call rfl (.skip slot slots drained hc hfree hempty)
    · exact hquiet.no_call rfl (.begin slot slots drained hc hfree hempty)

lemma State.Quiet.guard_free (hquiet : s.Quiet plan) (hlocked : Locked s)
    (hattended : Attended s) : s.guard = none := by
  cases hguard : s.guard with
  | none => rfl
  | some t =>
    have hholds := (hlocked.guard t).mp hguard
    cases t with
    | worker i =>
      cases hw : s.workers[i]? with
      | none => simp [State.holding, hw, Holding.nothing] at hholds
      | some w =>
        rw [holding_worker hw, hquiet.no_guard_worker hlocked hattended hw] at hholds
        cases hholds
    | flusher =>
      rcases hquiet.flusher_rests hlocked with hidle | hgone
      · simp [State.holding, hidle, Flusher.holding, Holding.nothing] at hholds
      · cases hf : s.flusher <;>
          simp [State.holding, hf, Flusher.isGone, Flusher.holding, Holding.nothing] at hholds hgone
    | shutdown k =>
      cases hc : s.calls[k]? with
      | none => simp [State.holding, hc, Holding.nothing] at hholds
      | some c =>
        rw [holding_shutdown hc] at hholds
        cases c with
        | draining slots drained => exact (hquiet.no_draining hlocked hc).elim
        | writing slot phase slots drained =>
          have hwriter := hquiet.no_writer (.shutdown k)
          rw [writes_call hc] at hwriter
          cases hwriter
        | _ => cases hholds

/-- With the queue closed a worker with the receiving end takes an entry or stops, and then the next
one gets the receiving end. -/
lemma State.Quiet.workers_stopped (hquiet : s.Quiet plan) (hlocked : Locked s)
    (hattended : Attended s) (hclosed : s.isOpen = false) : ∀ w ∈ s.workers, w = .stopped := by
  have hreceiving : ∀ i : Nat, s.workers[i]? ≠ some .receiving := by
    intro i hw
    cases hqueue : s.queue with
    | nil => exact hquiet.no_worker (.stop hw hqueue hclosed)
    | cons e queue => exact hquiet.no_worker (.receive e queue hw hqueue)
  intro w hmem
  obtain ⟨i, hw⟩ := List.mem_iff_getElem?.mp hmem
  have hguard := hquiet.no_guard_worker hlocked hattended hw
  cases w with
  | stopped => rfl
  | waiting =>
    cases hreceiver : s.receiver with
    | none => exact (hquiet.no_worker (.takeReceiver hw hreceiver)).elim
    | some j =>
      have hholds : (s.holding (.worker j)).receiver = true :=
        (hlocked.receiver j).mp hreceiver
      cases hv : s.workers[j]? with
      | none => simp [State.holding, hv, Holding.nothing] at hholds
      | some v =>
        rw [holding_worker hv] at hholds
        cases v with
        | receiving => exact (hreceiving j hv).elim
        | _ => cases hholds
  | receiving => exact (hreceiving i hw).elim
  | carrying e => exact (hquiet.no_worker (.redact e hw)).elim
  | ready e => exact (hquiet.no_worker (.takeGuard e hw (hquiet.guard_free hlocked hattended))).elim
  | _ => cases hguard

lemma State.Quiet.call_over {c : Shutdown} (hquiet : s.Quiet plan) (hlocked : Locked s)
    (hattended : Attended s) (hclosed : s.isOpen = false) (hmem : c ∈ s.calls) :
    c.isOver = true := by
  obtain ⟨k, hc⟩ := List.mem_iff_getElem?.mp hmem
  have hstopped := hquiet.workers_stopped hlocked hattended hclosed
  cases c with
  | closing => exact (hquiet.no_call rfl (.close hc)).elim
  | claiming =>
    cases htaken : s.tasksTaken with
    | true => exact (hquiet.no_call rfl (.late hc htaken)).elim
    | false => exact (hquiet.no_call rfl (.claim hc htaken)).elim
  | joining => exact (hquiet.no_call rfl (.join hc (workersDone_iff.mpr hstopped))).elim
  | stopping =>
    rcases hquiet.flusher_rests hlocked with hidle | hgone
    · have hsignal := hattended.signal _ hmem rfl
      exact (hquiet.no_flusher rfl (.stop hidle hsignal)).elim
    · cases hf : s.flusher with
      | stopped => exact (hquiet.no_call rfl (.flusherStopped hc hf)).elim
      | failed => exact (hquiet.no_call rfl (.flusherFailed hc hf)).elim
      | _ => simp [hf, Flusher.isGone] at hgone
  | locking =>
    have hguard := hquiet.guard_free hlocked hattended
    exact (hquiet.no_call rfl (.takeGuard hc hguard)).elim
  | draining slots drained => exact (hquiet.no_draining hlocked hc).elim
  | writing slot phase slots drained =>
    have hwriter := hquiet.no_writer (.shutdown k)
    rw [writes_call hc] at hwriter
    cases hwriter
  | returned drained => rfl
  | failed => rfl

/-! ### Continuations -/

lemma Transition.stays_closed (h : Transition plan s m s' events) (hclosed : s.isOpen = false) :
    s'.isOpen = false := by
  cases h with
  | send hoffered => cases hoffered <;> exact hclosed
  | callShutdown => exact hclosed
  | worker hworker => exact hworker.frame.1.trans hclosed
  | flusher hflusher => exact hflusher.frame.2.1.trans hclosed
  | shutdown hshutdown =>
    cases hshutdown with
    | close _ => rfl
    | _ => exact hclosed

lemma Transition.sinkReturns (h : Transition plan s m s' events) (hm : m.advances = true) :
    SinkReturns events := by
  have hreply : ∀ {t : Task} {a : Attempt} {entries : List ε} {r : Reply},
      (Move.reply t r : Move ε).advances = true →
        (Event.replied t a entries r).breaksSink = false := by
    intro t a entries r hm
    cases r with
    | broken => cases hm
    | _ => rfl
  cases h with
  | send _ => cases hm
  | callShutdown => cases hm
  | worker hworker => cases hworker <;> simp [SinkReturns, Event.breaksSink]
  | flusher hflusher =>
    cases hflusher with
    | finish _ _ _ _ _ _ => simpa [SinkReturns, Event.breaksSink] using hreply hm
    | retry _ _ _ _ _ _ => simpa [SinkReturns, Event.breaksSink] using hreply hm
    | fail _ _ _ _ _ => simpa [SinkReturns, Event.breaksSink] using hreply hm
    | _ => simp [SinkReturns, Event.breaksSink]
  | shutdown hshutdown =>
    cases hshutdown with
    | finish _ _ _ _ _ _ _ _ => simpa [SinkReturns, Event.breaksSink] using hreply hm
    | retry _ _ _ _ _ _ _ _ => simpa [SinkReturns, Event.breaksSink] using hreply hm
    | fail _ _ _ _ _ _ _ => simpa [SinkReturns, Event.breaksSink] using hreply hm
    | _ => simp [SinkReturns, Event.breaksSink]

/-- A sink that answers with a breakdown has not returned. -/
lemma Transition.breaks {t : Task} (h : Transition plan s (.reply t .broken) s' events) :
    ¬SinkReturns events := by
  cases h with
  | flusher hflusher =>
    cases hflusher with
    | finish slot a r stored _ hverdict => cases hverdict
    | retry slot a r delay _ hverdict => cases hverdict
    | fail slot a r _ hverdict => exact not_sinkReturns hverdict
  | shutdown hshutdown =>
    cases hshutdown with
    | finish slot a slots drained r stored _ hverdict => cases hverdict
    | retry slot a slots drained r delay _ hverdict => cases hverdict
    | fail slot a slots drained r _ hverdict => exact not_sinkReturns hverdict

lemma step_closed_send {e : ε} (hclosed : s.isOpen = false)
    (h : Transition plan s (.send e) s' events) : s' = s := by
  cases h with
  | send hoffered =>
    cases hoffered with
    | accepted hopen _ =>
      rw [hclosed] at hopen
      cases hopen
    | full _ _ => rfl
    | closed _ => rfl
  | flusher hflusher => cases hflusher
  | shutdown hshutdown => cases hshutdown

/-- Without ticks and new calls, the steps of a closed pipeline use up the work that remains. -/
lemma work_used {moves : List (Move ε)} {later : List (Event ε)} (hclosed : s.isOpen = false)
    (h : execFrom plan s moves = some (s', later)) (hsink : SinkReturns later)
    (hmoves : ∀ m ∈ moves, m ≠ .tick ∧ m ≠ .callShutdown) :
    (moves.filter Move.advances).length + s'.work plan ≤ s.work plan := by
  induction moves generalizing s later with
  | nil =>
    cases h
    simp
  | cons m moves ih =>
    obtain ⟨u, events, rest, hstep, hrest, rfl⟩ := execFrom_cons h
    have htransition := step_transition hstep
    obtain ⟨hnow, hlater⟩ := (sinkReturns_append _ _).mp hsink
    have hused := ih (htransition.stays_closed hclosed) hrest hlater fun n hn =>
      hmoves n (List.mem_cons_of_mem _ hn)
    cases hm : m.advances with
    | true =>
      have hless := htransition.work_lt hm
      rw [List.filter_cons_of_pos hm, List.length_cons]
      omega
    | false =>
      -- What is left of the moves from outside is an offer, and nothing is accepted any more.
      have hsame : u = s := by
        obtain ⟨htick, hcall⟩ := hmoves m List.mem_cons_self
        cases m with
        | send e => exact step_closed_send hclosed htransition
        | callShutdown => exact (hcall rfl).elim
        | tick => exact (htick rfl).elim
        | reply t r =>
          cases r with
          | broken => exact (htransition.breaks hnow).elim
          | _ => cases hm
        | _ => cases hm
      rw [List.filter_cons_of_neg (by simp [hm]), ← hsame]
      exact hused

end Steps

section Runs

variable {plan : Plan ε} {s s' : State ε} {history later : List (Event ε)}
  {moves : List (Move ε)}

theorem Run.attended (run : Run plan s history) : Attended s := by
  induction run with
  | start =>
    constructor
    · intro i e full hw
      cases List.eq_of_mem_replicate (List.mem_of_getElem? hw)
    · intro hgone
      cases hgone
    · intro c hc
      cases hc
  | step m run hstep inv => exact inv.transition run.rendezvous (step_transition hstep)

lemma stays_closed (hclosed : s.isOpen = false)
    (h : execFrom plan s moves = some (s', later)) : s'.isOpen = false := by
  induction moves generalizing s later with
  | nil =>
    cases h
    exact hclosed
  | cons m moves ih =>
    obtain ⟨u, events, rest, hstep, hrest, -⟩ := execFrom_cons h
    exact ih ((step_transition hstep).stays_closed hclosed) hrest

/-- All shutdown calls have returned, the one with the tasks among them. -/
structure Completed (s : State ε) : Prop where
  returned : ∀ c ∈ s.calls, ∃ result, c = .returned result
  taken : ∃ k drained : Nat, s.calls[k]? = some (.returned (some drained))

/-- Where no task of a closed pipeline can take a step, the shutdown is complete, unless the sink has
ended a call; whether it has ended the flusher does not matter. -/
theorem Run.completed_of_calls (run : Run plan s history) (hcalls : .failed ∉ s.calls)
    (hclosed : s.isOpen = false) (hquiet : s.Quiet plan) : Completed s := by
  have hreturned : ∀ c ∈ s.calls, ∃ result, c = .returned result := by
    intro c hc
    have hover := hquiet.call_over run.locked run.attended hclosed hc
    cases c with
    | returned result => exact ⟨result, rfl⟩
    | failed => exact (hcalls hc).elim
    | _ => cases hover
  refine ⟨hreturned, ?_⟩
  obtain ⟨c, hc, -⟩ := run.endsInOrder.closed hclosed
  obtain ⟨result, rfl⟩ := hreturned c hc
  obtain ⟨k, hk⟩ := List.mem_iff_getElem?.mp hc
  obtain ⟨j, ⟨d, hd, htasks⟩, -⟩ := run.exists_hasTasks hk
  obtain ⟨result', rfl⟩ := hreturned d (List.mem_of_getElem? hd)
  cases result' with
  | none => cases htasks
  | some drained => exact ⟨j, drained, hd⟩

/-- Where no task of a closed pipeline can take a step, the shutdown is complete. -/
theorem Run.completed (run : Run plan s history) (hsink : SinkReturns history)
    (hclosed : s.isOpen = false) (hquiet : s.Quiet plan) : Completed s :=
  run.completed_of_calls (run.unbroken hsink).calls hclosed hquiet

/-- Tasks that only take steps of some kind can go on until they have no such step left. -/
lemma exists_end (plan : Plan ε) {kind : Move ε → Prop} (hkind : ∀ m, kind m → m.advances = true)
    (s : State ε) : ∃ moves s' later, (∀ m ∈ moves, kind m) ∧
      execFrom plan s moves = some (s', later) ∧ SinkReturns later ∧
      ∀ m, kind m → step plan s' m = none := by
  induction hwork : s.work plan using Nat.strong_induction_on generalizing s with
  | _ n ih =>
    by_cases hend : ∀ m, kind m → step plan s m = none
    · exact ⟨[], s, [], by simp, rfl, by simp [SinkReturns], hend⟩
    · obtain ⟨m, hm, hstep⟩ : ∃ m, kind m ∧ step plan s m ≠ none := by
        simpa using hend
      obtain ⟨⟨u, events⟩, hstep⟩ := Option.ne_none_iff_exists'.mp hstep
      have htransition := step_transition hstep
      obtain ⟨moves, s', later, hmoves, hexec, hsink, hend⟩ :=
        ih (u.work plan) (hwork ▸ htransition.work_lt (hkind m hm)) u rfl
      refine ⟨m :: moves, s', events ++ later, ?_, ?_, ?_, hend⟩
      · rintro n (_ | ⟨_, hn⟩)
        · exact hm
        · exact hmoves n hn
      · simp only [execFrom, hstep, hexec]
      · exact (sinkReturns_append _ _).mpr ⟨htransition.sinkReturns (hkind m hm), hsink⟩

/-- The tasks can go on until none of them can take a step. -/
lemma exists_quiet (plan : Plan ε) (s : State ε) : ∃ moves s' later,
    (∀ m ∈ moves, m.advances = true) ∧ execFrom plan s moves = some (s', later) ∧
      SinkReturns later ∧ s'.Quiet plan :=
  exists_end plan (fun _ => id) s

/-- As long as the sink returns, a shutdown that has closed the queue cannot get stuck: some task
can take a step until the call with the tasks has returned, every such step takes away from the work
that remains, and a continuation without further ticks and calls that cannot go on is complete. The
policy leaves out `2 ^ 32 - 1` retries, which a counter of 32 bits would never use up. -/
theorem shutdown_completes (plan : Plan ε) (s : State ε) (history : List (Event ε))
    (run : Run plan s history) (hsink : SinkReturns history) (hclosed : s.isOpen = false)
    (hopen : ∀ k drained : Nat, s.calls[k]? ≠ some (.returned (some drained))) :
    (∃ m s' events, m.advances = true ∧ step plan s m = some (s', events)) ∧
    (∀ m s' events, m.advances = true → step plan s m = some (s', events) →
      s'.work plan < s.work plan) ∧
    (∀ moves s' later, execFrom plan s moves = some (s', later) → SinkReturns later →
      (∀ m ∈ moves, m ≠ .tick ∧ m ≠ .callShutdown) →
      (moves.filter Move.advances).length + s'.work plan ≤ s.work plan ∧
        (s'.Quiet plan → Completed s')) ∧
    ∃ moves s' later, (∀ m ∈ moves, m.advances = true) ∧
      execFrom plan s moves = some (s', later) ∧ SinkReturns later ∧ Completed s' := by
  have hcompleted : ∀ {moves s' later}, execFrom plan s moves = some (s', later) →
      SinkReturns later → s'.Quiet plan → Completed s' := by
    intro moves s' later hexec hlater hquiet
    exact (run.extend hexec).completed ((sinkReturns_append _ _).mpr ⟨hsink, hlater⟩)
      (stays_closed hclosed hexec) hquiet
  refine ⟨?_, ?_, ?_, ?_⟩
  · by_contra hstuck
    have hquiet : s.Quiet plan := by
      intro m hm
      cases hstep : step plan s m with
      | none => rfl
      | some next => exact (hstuck ⟨m, next.1, next.2, hm, hstep⟩).elim
    obtain ⟨k, drained, hk⟩ := (run.completed hsink hclosed hquiet).taken
    exact hopen k drained hk
  · intro m s' events hm hstep
    exact (step_transition hstep).work_lt hm
  · intro moves s' later hexec hlater hmoves
    exact ⟨work_used hclosed hexec hlater hmoves, hcompleted hexec hlater⟩
  · obtain ⟨moves, s', later, hmoves, hexec, hlater, hquiet⟩ := exists_quiet plan s
    exact ⟨moves, s', later, hmoves, hexec, hlater, hcompleted hexec hlater hquiet⟩

end Runs

/-- A shutdown that begins while a slot is written and a handoff is in flight completes. -/
theorem entangled_run_completes : ∃ s history,
    exec narrowPlan (entangledRun 1 2 3 ++ [.callShutdown, .shutdown 0, .shutdown 0]) =
        some (s, history) ∧
      SinkReturns history ∧ s.isOpen = false ∧ s.writes? .flusher = some .zero ∧
      s.inFlight = [⟨.one, 2, 0⟩] ∧ s.calls = [.joining] ∧
      ∃ moves s' later, (∀ m ∈ moves, m.advances = true) ∧
        execFrom narrowPlan s moves = some (s', later) ∧ SinkReturns later ∧ Completed s' := by
  have hrun : ∃ s history,
      exec narrowPlan (entangledRun 1 2 3 ++ [.callShutdown, .shutdown 0, .shutdown 0]) =
          some (s, history) ∧
        SinkReturns history ∧ s.isOpen = false ∧ s.writes? .flusher = some .zero ∧
        s.inFlight = [⟨.one, 2, 0⟩] ∧ s.calls = [.joining] :=
    ⟨_, _, rfl, by decide, rfl, rfl, rfl, rfl⟩
  obtain ⟨s, history, hexec, hsink, hclosed, hwrites, hflight, hcalls⟩ := hrun
  have hopen : ∀ k drained : Nat, s.calls[k]? ≠ some (.returned (some drained)) := by
    intro k drained
    rw [hcalls]
    cases k <;> simp
  obtain ⟨-, -, -, hend⟩ := shutdown_completes narrowPlan s history (run_iff_exec.mpr ⟨_, hexec⟩)
    hsink hclosed hopen
  exact ⟨s, history, hexec, hsink, hclosed, hwrites, hflight, hcalls, hend⟩

end AuditTrail.Pipeline
