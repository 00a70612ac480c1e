import AuditTrail.Proofs.Schedule

/-!
# Relabelled pipelines

A pipeline looks into its entries only to redact them. So when all entries of a run are replaced,
the run goes on as before with the replaced entries, as long as redaction respects the replacement.
In particular each entry may carry a number of its own: the pipeline never sees the number, and two
entries that look alike can be told apart.
-/

namespace AuditTrail

def DoubleBuffer.map {ε δ : Type} (f : ε → δ) (b : DoubleBuffer ε) : DoubleBuffer δ where
  active := b.active
  generation := b.generation
  slots := ⟨b.slots.zero.map f, b.slots.one.map f⟩

namespace Pipeline

variable {ε δ : Type}

def Worker.map (f : ε → δ) : Worker ε → Worker δ
  | waiting => .waiting
  | receiving => .receiving
  | carrying e => .carrying (f e)
  | ready e => .ready (f e)
  | measuring e => .measuring (f e)
  | swapping e full => .swapping (f e) full
  | handing e full => .handing (f e) full
  | awaiting e full ack => .awaiting (f e) full ack
  | pushing e => .pushing (f e)
  | stopped => .stopped

def Event.map (f : ε → δ) : Event ε → Event δ
  | accepted e => .accepted (f e)
  | rejectedFull e => .rejectedFull (f e)
  | rejectedClosed e => .rejectedClosed (f e)
  | received i e => .received i (f e)
  | bufferFull size => .bufferFull size
  | swapped resident => .swapped resident
  | handoffTaken h => .handoffTaken h
  | handoffFailed slot => .handoffFailed slot
  | pushed e generation => .pushed (f e) generation
  | workerStopped i => .workerStopped i
  | batch writer cause slot entries => .batch writer cause slot (entries.map f)
  | called writer a entries => .called writer a (entries.map f)
  | replied writer a entries r => .replied writer a (entries.map f) r
  | paused writer delay => .paused writer delay
  | finished writer slot entries stored => .finished writer slot (entries.map f) stored
  | tickSkipped => .tickSkipped
  | flusherStopped => .flusherStopped
  | flusherFailed => .flusherFailed
  | failureNoticed => .failureNoticed
  | shutdownReturned k drained => .shutdownReturned k drained

def Move.map (f : ε → δ) : Move ε → Move δ
  | send e => .send (f e)
  | callShutdown => .callShutdown
  | tick => .tick
  | reply writer r => .reply writer r
  | wake writer => .wake writer
  | worker i => .worker i
  | flusher => .flusher
  | stopFlusher => .stopFlusher
  | shutdown k => .shutdown k

def State.map (f : ε → δ) (s : State ε) : State δ where
  queue := s.queue.map f
  isOpen := s.isOpen
  receiver := s.receiver
  workers := s.workers.map (Worker.map f)
  buffer := s.buffer.map f
  guard := s.guard
  slotLocks := s.slotLocks
  handoff := s.handoff
  flusher := s.flusher
  stopSignal := s.stopSignal
  tasksTaken := s.tasksTaken
  calls := s.calls

/-- The same next step, with other entries. -/
def relabelNext (f : ε → δ) (n : Next ε) : Next δ :=
  (n.1.map f, n.2.map (Event.map f))

/-- Two plans that differ in their entries only. -/
structure Plan.Relabels (f : ε → δ) (plan : Plan ε) (plan' : Plan δ) : Prop where
  queueSize : plan'.queueSize = plan.queueSize
  workers : plan'.workers = plan.workers
  threshold : plan'.threshold = plan.threshold
  retry : plan'.retry = plan.retry
  redact : ∀ e, plan'.redact (f e) = f (plan.redact e)

section Parts

variable (f : ε → δ) (b : DoubleBuffer ε) (s : State ε)

@[simp] lemma contents_map (slot : Slot) : (b.map f).contents slot = (b.contents slot).map f := by
  cases slot <;> rfl

@[simp] lemma activeLength_map : (b.map f).activeLength = b.activeLength := by
  unfold DoubleBuffer.activeLength
  rw [contents_map, List.length_map]
  rfl

@[simp] lemma swap_map : (b.map f).swap = b.swap.map f := rfl

@[simp] lemma push_map (e : ε) : (b.map f).push (f e) = (b.push e).map f := by
  obtain ⟨active, generation, zero, one⟩ := b
  cases active <;>
    simp [DoubleBuffer.push, DoubleBuffer.pushTo, DoubleBuffer.map, DoubleBuffer.contents,
      PerSlot.get, PerSlot.set]

@[simp] lemma clear_map (slot : Slot) : (b.map f).clear slot = (b.clear slot).map f := by
  cases slot <;> rfl

@[simp] lemma setWorker_map (i : Nat) (w : Worker ε) :
    (s.map f).setWorker i (w.map f) = (s.setWorker i w).map f := by
  simp [State.map, State.setWorker]

lemma worker_map (i : Nat) : (s.map f).workers[i]? = (s.workers[i]?).map (Worker.map f) :=
  List.getElem?_map

@[simp] lemma acknowledge_map (h : Handoff) (ack : Ack) :
    (s.map f).acknowledge h ack = (s.acknowledge h ack).map f := by
  unfold State.acknowledge
  rw [worker_map]
  cases s.workers[h.sender]? with
  | none => rfl
  | some w =>
    cases w with
    | awaiting e full old => exact setWorker_map f s h.sender (.awaiting e full ack)
    | _ => rfl

@[simp] lemma dropHandoff_map : (s.map f).dropHandoff = s.dropHandoff.map f := by
  unfold State.dropHandoff
  have hhandoff : (s.map f).handoff = s.handoff := rfl
  rw [hhandoff]
  cases s.handoff with
  | none => rfl
  | some h => exact acknowledge_map f { s with handoff := none } h .dropped

lemma workersDone_map : (s.map f).workersDone = s.workersDone := by
  unfold State.workersDone
  change (s.workers.map (Worker.map f)).all _ = _
  rw [List.all_map]
  congr 1
  funext w
  cases w <;> rfl

end Parts

section Steps

variable (f : ε → δ) (s : State ε)

/-- A step of a worker that ends in a new state of this worker. -/
lemma relabel_setWorker (i : Nat) (w : Worker ε) (events : List (Event ε)) :
    some ((s.map f).setWorker i (w.map f), events.map (Event.map f)) =
      (some (s.setWorker i w, events)).map (relabelNext f) := by
  rw [setWorker_map]
  rfl

lemma handOver_map (i : Nat) (e : ε) (full : Slot) :
    (s.map f).handOver i (f e) full = (s.handOver i e full).map (relabelNext f) := by
  unfold State.handOver
  have hflusher : (s.map f).flusher = s.flusher := rfl
  have hhandoff : (s.map f).handoff = s.handoff := rfl
  rw [hflusher, hhandoff]
  by_cases hgone : s.flusher.isGone = true
  · rw [if_pos hgone, if_pos hgone]
    exact relabel_setWorker f s i (.pushing e) [.handoffFailed full]
  · rw [if_neg hgone, if_neg hgone]
    cases s.handoff with
    | some h => rfl
    | none =>
      exact relabel_setWorker f { s with handoff := some ⟨full, s.buffer.generation, i⟩ } i
        (.awaiting e full .pending) []

variable {f} {plan : Plan ε} {plan' : Plan δ} (hplan : plan.Relabels f plan')

include hplan

lemma send_map (e : ε) : (s.map f).send plan' (f e) = relabelNext f (s.send plan e) := by
  unfold State.send
  have hlength : (s.map f).queue.length = s.queue.length := List.length_map _
  rw [hlength, hplan.queueSize]
  change (if (!s.isOpen) = true then _ else _) = _
  split
  · rfl
  · split
    · simp [relabelNext, State.map, Event.map]
    · rfl

lemma measure_map (i : Nat) (e : ε) :
    some ((s.map f).measure plan' i (f e)) = (some (s.measure plan i e)).map (relabelNext f) := by
  unfold State.measure
  have hlength : (s.map f).buffer.activeLength = s.buffer.activeLength := activeLength_map f _
  simp only [hlength, hplan.threshold]
  by_cases hlarge : plan.threshold < s.buffer.activeLength
  · rw [if_pos hlarge, if_pos hlarge]
    exact relabel_setWorker f { s with buffer := s.buffer.swap } i (.swapping e s.buffer.active)
      [.bufferFull s.buffer.activeLength]
  · rw [if_neg hlarge, if_neg hlarge]
    exact relabel_setWorker f s i (.pushing e) []

lemma workerStep_map (i : Nat) :
    (s.map f).workerStep plan' i = (s.workerStep plan i).map (relabelNext f) := by
  unfold State.workerStep
  rw [worker_map]
  cases s.workers[i]? with
  | none => rfl
  | some w =>
    cases w with
    | waiting =>
      change (if s.receiver = none then _ else _) = Option.map _ (if _ then _ else _)
      by_cases hfree : s.receiver = none
      · rw [if_pos hfree, if_pos hfree]
        exact relabel_setWorker f { s with receiver := some i } i .receiving []
      · rw [if_neg hfree, if_neg hfree]
        rfl
    | receiving =>
      cases hqueue : s.queue with
      | cons e queue =>
        have hqueue' : (s.map f).queue = f e :: queue.map f := by
          rw [← List.map_cons, ← hqueue]
          rfl
        simp only [hqueue']
        exact relabel_setWorker f { s with queue, receiver := none } i (.carrying e)
          [.received i e]
      | nil =>
        have hqueue' : (s.map f).queue = [] := by
          rw [← List.map_nil (f := f), ← hqueue]
          rfl
        simp only [hqueue']
        change (if s.isOpen = true then _ else _) = Option.map _ (if _ then _ else _)
        by_cases hopen : s.isOpen = true
        · rw [if_pos hopen, if_pos hopen]
          rfl
        · rw [if_neg hopen, if_neg hopen]
          exact relabel_setWorker f { s with queue := [], receiver := none } i .stopped
            [.workerStopped i]
    | carrying e =>
      change some ((s.map f).setWorker i (.ready (plan'.redact (f e))), []) = _
      rw [hplan.redact]
      exact relabel_setWorker f s i (.ready (plan.redact e)) []
    | ready e =>
      change (if s.guard = none then _ else _) = Option.map _ (if _ then _ else _)
      by_cases hfree : s.guard = none
      · rw [if_pos hfree, if_pos hfree]
        exact relabel_setWorker f { s with guard := some (.worker i) } i (.measuring e) []
      · rw [if_neg hfree, if_neg hfree]
        rfl
    | measuring e =>
      change (if s.isFree s.buffer.active = true then _ else _) =
        Option.map _ (if _ then _ else _)
      by_cases hfree : s.isFree s.buffer.active = true
      · rw [if_pos hfree, if_pos hfree]
        exact measure_map s hplan i e
      · rw [if_neg hfree, if_neg hfree]
        rfl
    | swapping e full =>
      change (if s.isFree s.buffer.active = true then _ else _) =
        Option.map _ (if _ then _ else _)
      by_cases hfree : s.isFree s.buffer.active = true
      · rw [if_pos hfree, if_pos hfree]
        have hlength : (s.map f).buffer.activeLength = s.buffer.activeLength :=
          activeLength_map f _
        rw [hlength]
        exact relabel_setWorker f s i (.handing e full) [.swapped s.buffer.activeLength]
      · rw [if_neg hfree, if_neg hfree]
        rfl
    | handing e full => exact handOver_map f s i e full
    | awaiting e full ack =>
      cases ack with
      | pending => rfl
      | received => exact relabel_setWorker f s i (.pushing e) []
      | dropped => exact relabel_setWorker f s i (.pushing e) [.handoffFailed full]
    | pushing e =>
      change (if s.isFree s.buffer.active = true then _ else _) =
        Option.map _ (if _ then _ else _)
      by_cases hfree : s.isFree s.buffer.active = true
      · rw [if_pos hfree, if_pos hfree]
        have hpush : (s.map f).buffer.push (f e) = (s.buffer.push e).map f := push_map f _ e
        unfold State.push
        rw [hpush]
        exact relabel_setWorker f { s with buffer := s.buffer.push e, guard := none } i .waiting
          [.pushed e s.buffer.generation]
      · rw [if_neg hfree, if_neg hfree]
        rfl
    | stopped => rfl

lemma beginWrite_map (slot : Slot) (origin : Origin) :
    (s.map f).beginWrite plan' slot origin = relabelNext f (s.beginWrite plan slot origin) := by
  have hcontents : ∀ t : State ε, (t.map f).buffer.contents slot =
      (t.buffer.contents slot).map f := fun t => contents_map f t.buffer slot
  unfold State.beginWrite
  cases origin with
  | handoff h =>
    simp only [acknowledge_map, hcontents, List.isEmpty_map, hplan.retry]
    split <;> rfl
  | timer =>
    simp only [hcontents, List.isEmpty_map, hplan.retry]
    split <;> rfl

lemma flusherStep_map :
    (s.map f).flusherStep plan' = (s.flusherStep plan).map (relabelNext f) := by
  unfold State.flusherStep
  have hlength : (s.map f).buffer.activeLength = s.buffer.activeLength := activeLength_map f _
  have hflusher : (s.map f).flusher = s.flusher := rfl
  have hfree : ∀ slot, (s.map f).isFree slot = s.isFree slot := fun _ => rfl
  have hactive : (s.map f).buffer.active = s.buffer.active := rfl
  have hhandoff : (s.map f).handoff = s.handoff := rfl
  rw [hflusher, hhandoff]
  cases s.flusher with
  | idle => cases s.handoff <;> rfl
  | locking slot origin =>
    simp only [hfree]
    split
    · rw [beginWrite_map s hplan]
      rfl
    · rfl
  | measuring =>
    simp only [hfree, hactive, hlength]
    split
    · split <;> rfl
    · rfl
  | swapping full =>
    simp only [hfree, hactive, hlength]
    split <;> rfl
  | writing slot phase => rfl
  | stopped => rfl
  | failed => rfl

omit hplan in
lemma tick_map : (s.map f).tick = s.tick.map (relabelNext f) := by
  unfold State.tick
  have hflusher : (s.map f).flusher = s.flusher := rfl
  have hguard : (s.map f).guard = s.guard := rfl
  rw [hflusher, hguard]
  cases s.flusher with
  | idle =>
    by_cases hfree : s.guard = none
    · simp only [if_pos hfree]
      rfl
    · simp only [if_neg hfree]
      rfl
  | _ => rfl

omit hplan in
lemma stopFlusher_map : (s.map f).stopFlusher = s.stopFlusher.map (relabelNext f) := by
  unfold State.stopFlusher
  have hflusher : (s.map f).flusher = s.flusher := rfl
  have hsignal : (s.map f).stopSignal = s.stopSignal := rfl
  have hdrop := dropHandoff_map f { s with flusher := .stopped }
  rw [hflusher, hsignal]
  cases s.flusher with
  | idle =>
    by_cases hstop : s.stopSignal = true
    · simp only [if_pos hstop]
      exact congrArg (fun t => some (t, [Event.flusherStopped])) hdrop
    · simp only [if_neg hstop]
      rfl
  | _ => rfl

lemma replyFlusher_map (r : Reply) :
    (s.map f).replyFlusher plan' r = (s.replyFlusher plan r).map (relabelNext f) := by
  unfold State.replyFlusher
  have hflusher : (s.map f).flusher = s.flusher := rfl
  have hcontents : ∀ slot, (s.map f).buffer.contents slot = (s.buffer.contents slot).map f :=
    contents_map f s.buffer
  rw [hflusher]
  cases s.flusher with
  | writing slot phase =>
    cases phase with
    | calling a =>
      simp only [hplan.retry, hcontents]
      cases State.verdict plan.retry a r with
      | finished stored =>
        have hclear : (s.map f).buffer.clear slot = (s.buffer.clear slot).map f :=
          clear_map f s.buffer slot
        simp only [hclear]
        rfl
      | again delay => rfl
      | broken =>
        have hdrop := dropHandoff_map f (State.unlockSlot { s with flusher := .failed } slot)
        exact congrArg (fun t => some (t, [Event.replied .flusher a ((s.buffer.contents slot).map f)
          r, .flusherFailed])) hdrop
    | pausing a => rfl
  | _ => rfl

omit hplan in
lemma wakeFlusher_map : (s.map f).wakeFlusher = s.wakeFlusher.map (relabelNext f) := by
  unfold State.wakeFlusher
  have hflusher : (s.map f).flusher = s.flusher := rfl
  have hcontents : ∀ slot, (s.map f).buffer.contents slot = (s.buffer.contents slot).map f :=
    contents_map f s.buffer
  rw [hflusher]
  cases s.flusher with
  | writing slot phase =>
    cases phase with
    | calling a => rfl
    | pausing a =>
      simp only [hcontents]
      rfl
  | _ => rfl

lemma replyShutdown_map (k : Nat) (r : Reply) :
    (s.map f).replyShutdown plan' k r = (s.replyShutdown plan k r).map (relabelNext f) := by
  unfold State.replyShutdown
  have hcalls : (s.map f).calls = s.calls := rfl
  have hcontents : ∀ slot, (s.map f).buffer.contents slot = (s.buffer.contents slot).map f :=
    contents_map f s.buffer
  rw [hcalls]
  cases s.calls[k]? with
  | none => rfl
  | some c =>
    cases c with
    | writing slot phase slots drained =>
      cases phase with
      | calling a =>
        simp only [hplan.retry, hcontents]
        cases State.verdict plan.retry a r with
        | finished stored =>
          have hclear : (s.map f).buffer.clear slot = (s.buffer.clear slot).map f :=
            clear_map f s.buffer slot
          simp only [hclear]
          rfl
        | again delay => rfl
        | broken => rfl
      | pausing a => rfl
    | _ => rfl

omit hplan in
lemma wakeShutdown_map (k : Nat) :
    (s.map f).wakeShutdown k = (s.wakeShutdown k).map (relabelNext f) := by
  unfold State.wakeShutdown
  have hcalls : (s.map f).calls = s.calls := rfl
  have hcontents : ∀ slot, (s.map f).buffer.contents slot = (s.buffer.contents slot).map f :=
    contents_map f s.buffer
  rw [hcalls]
  cases s.calls[k]? with
  | none => rfl
  | some c =>
    cases c with
    | writing slot phase slots drained =>
      cases phase with
      | calling a => rfl
      | pausing a =>
        simp only [hcontents]
        rfl
    | _ => rfl

lemma drain_map (k drained : Nat) (slots : List Slot) :
    (s.map f).drain plan' k drained slots = (s.drain plan k drained slots).map (relabelNext f) := by
  cases slots with
  | nil => rfl
  | cons slot slots =>
    have hfree : (s.map f).isFree slot = s.isFree slot := rfl
    have hcontents : (s.map f).buffer.contents slot = (s.buffer.contents slot).map f :=
      contents_map f s.buffer slot
    simp only [State.drain, hfree, hcontents, List.isEmpty_map, List.length_map, hplan.retry]
    split
    · split <;> rfl
    · rfl

lemma shutdownStep_map (k : Nat) :
    (s.map f).shutdownStep plan' k = (s.shutdownStep plan k).map (relabelNext f) := by
  unfold State.shutdownStep
  have hcalls : (s.map f).calls = s.calls := rfl
  rw [hcalls]
  cases s.calls[k]? with
  | none => rfl
  | some c =>
    cases c with
    | closing => rfl
    | claiming =>
      have htaken : (s.map f).tasksTaken = s.tasksTaken := rfl
      simp only [htaken]
      split <;> rfl
    | joining =>
      simp only [workersDone_map]
      split <;> rfl
    | stopping =>
      have hflusher : (s.map f).flusher = s.flusher := rfl
      simp only [hflusher]
      cases s.flusher <;> rfl
    | locking =>
      have hguard : (s.map f).guard = s.guard := rfl
      simp only [hguard]
      split <;> rfl
    | draining slots drained => exact drain_map s hplan k drained slots
    | _ => rfl

/-- A step does the same with other entries. -/
theorem step_map (m : Move ε) :
    step plan' (s.map f) (m.map f) = (step plan s m).map (relabelNext f) := by
  cases m with
  | send e => exact congrArg some (send_map s hplan e)
  | callShutdown => rfl
  | tick => exact tick_map s
  | reply writer r =>
    cases writer with
    | worker i => rfl
    | flusher => exact replyFlusher_map s hplan r
    | shutdown k => exact replyShutdown_map s hplan k r
  | wake writer =>
    cases writer with
    | worker i => rfl
    | flusher => exact wakeFlusher_map s
    | shutdown k => exact wakeShutdown_map s k
  | worker i => exact workerStep_map s hplan i
  | flusher => exact flusherStep_map s hplan
  | stopFlusher => exact stopFlusher_map s
  | shutdown k => exact shutdownStep_map s hplan k

lemma execFrom_map (moves : List (Move ε)) :
    execFrom plan' (s.map f) (moves.map (Move.map f)) =
      (execFrom plan s moves).map (relabelNext f) := by
  induction moves generalizing s with
  | nil => rfl
  | cons m moves ih =>
    simp only [List.map_cons, execFrom, step_map s hplan]
    cases step plan s m with
    | none => rfl
    | some next =>
      obtain ⟨t, events⟩ := next
      simp only [Option.map_some, relabelNext, ih]
      cases execFrom plan t moves with
      | none => rfl
      | some last => simp [relabelNext]

omit s in
/-- A run with other entries is the same run, relabelled. -/
theorem exec_map (moves : List (Move ε)) :
    exec plan' (moves.map (Move.map f)) = (exec plan moves).map (relabelNext f) := by
  have hstart : State.start plan' = (State.start plan).map f := by
    simp [State.start, State.map, hplan.workers, Worker.map, DoubleBuffer.map,
      DoubleBuffer.empty]
  unfold exec
  rw [hstart]
  exact execFrom_map (State.start plan) hplan moves

end Steps
end Pipeline
end AuditTrail
