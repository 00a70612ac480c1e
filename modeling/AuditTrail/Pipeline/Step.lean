import AuditTrail.Pipeline.State

/-!
# The steps of the pipeline

`step` says which single steps are possible in a state and what each of them does. Every
interleaving of senders, workers, flusher, timer, sink and shutdown calls is a sequence of such
steps, a `Run`. A task that has to wait has no step.
-/

namespace AuditTrail.Pipeline

/-- A choice of the next step: from outside, or by one of the tasks. -/
inductive Move (ε : Type) where
  | send (e : ε)
  | callShutdown
  | tick
  /-- The sink answers the call of a writer. -/
  | reply (writer : Task) (r : Reply)
  /-- The pause of a writer is over. -/
  | wake (writer : Task)
  | worker (i : Nat)
  | flusher
  /-- The flusher follows the stop signal. -/
  | stopFlusher
  | shutdown (k : Nat)
  deriving DecidableEq, Repr

variable {ε : Type}

/-- The next state and what happened. -/
abbrev Next (ε : Type) := State ε × List (Event ε)

namespace State

/-- Accepts an entry if the queue is open and has room. -/
def send (plan : Plan ε) (s : State ε) (e : ε) : Next ε :=
  if !s.isOpen then (s, [.rejectedClosed e])
  else if s.queue.length < plan.queueSize then
    ({ s with queue := s.queue ++ [e] }, [.accepted e])
  else (s, [.rejectedFull e])

/-! ## Workers -/

/-- With the guard: swaps if the active slot has grown above the threshold. -/
def measure (plan : Plan ε) (s : State ε) (i : Nat) (e : ε) : Next ε :=
  let size := s.buffer.activeLength
  if plan.threshold < size then
    ({ s with buffer := s.buffer.swap }.setWorker i (.swapping e s.buffer.active),
      [.bufferFull size])
  else (s.setWorker i (.pushing e), [])

/-- Offers the full slot to the flusher. -/
def handOver (s : State ε) (i : Nat) (e : ε) (full : Slot) : Option (Next ε) :=
  if s.flusher.isGone then some (s.setWorker i (.pushing e), [.handoffFailed full])
  else match s.handoff with
    | some _ => none
    | none =>
      some ({ s with handoff := some ⟨full, s.buffer.generation, i⟩ }.setWorker i
        (.awaiting e full .pending), [])

/-- Adds the entry to the active slot and gives the guard back. -/
def push (s : State ε) (i : Nat) (e : ε) : Next ε :=
  ({ s with buffer := s.buffer.push e, guard := none }.setWorker i .waiting,
    [.pushed e s.buffer.generation])

/-- The next step of a worker. -/
def workerStep (plan : Plan ε) (s : State ε) (i : Nat) : Option (Next ε) :=
  match s.workers[i]? with
  | none => none
  | some .waiting =>
    if s.receiver = none then some ({ s with receiver := some i }.setWorker i .receiving, [])
    else none
  | some .receiving =>
    match s.queue with
    | e :: queue =>
      some ({ s with queue, receiver := none }.setWorker i (.carrying e), [.received i e])
    | [] =>
      if s.isOpen then none
      else some ({ s with receiver := none }.setWorker i .stopped, [.workerStopped i])
  | some (.carrying e) => some (s.setWorker i (.ready (plan.redact e)), [])
  | some (.ready e) =>
    if s.guard = none then
      some ({ s with guard := some (.worker i) }.setWorker i (.measuring e), [])
    else none
  | some (.measuring e) => if s.isFree s.buffer.active then some (s.measure plan i e) else none
  | some (.swapping e full) =>
    if s.isFree s.buffer.active then
      some (s.setWorker i (.handing e full), [.swapped s.buffer.activeLength])
    else none
  | some (.handing e full) => s.handOver i e full
  | some (.awaiting e full ack) =>
    match ack with
    | .pending => none
    | .received => some (s.setWorker i (.pushing e), [])
    | .dropped => some (s.setWorker i (.pushing e), [.handoffFailed full])
  | some (.pushing e) => if s.isFree s.buffer.active then some (s.push i e) else none
  | some .stopped => none

/-! ## The flusher -/

/-- Locks a slot, tells the sender of a handoff so, and begins to deliver the entries. -/
def beginWrite (plan : Plan ε) (s : State ε) (slot : Slot) (origin : Origin) : Next ε :=
  let s := match origin with
    | .handoff h => s.acknowledge h .received
    | .timer => s
  let entries := s.buffer.contents slot
  if entries.isEmpty then ({ s with flusher := .idle }, [])
  else
    let a := plan.retry.first
    ({ s with flusher := .writing slot (.calling a) }.lockSlot slot .flusher,
      [.batch .flusher origin.handoff? slot entries, .called .flusher a entries])

/-- The next step of the flusher that needs neither the timer nor the sink. -/
def flusherStep (plan : Plan ε) (s : State ε) : Option (Next ε) :=
  match s.flusher with
  | .idle =>
    match s.handoff with
    | some h =>
      some ({ s with handoff := none, flusher := .locking h.slot (.handoff h) },
        [.handoffTaken h])
    | none => none
  | .locking slot origin => if s.isFree slot then some (s.beginWrite plan slot origin) else none
  | .measuring =>
    if s.isFree s.buffer.active then
      if s.buffer.activeLength = 0 then some ({ s with guard := none, flusher := .idle }, [])
      else some ({ s with buffer := s.buffer.swap, flusher := .swapping s.buffer.active }, [])
    else none
  | .swapping full =>
    if s.isFree s.buffer.active then
      some ({ s with guard := none, flusher := .locking full .timer },
        [.swapped s.buffer.activeLength])
    else none
  | .writing _ _ | .stopped | .failed => none

/-- The timer goes off: the flusher takes the guard, or skips the tick if the guard is taken. -/
def tick (s : State ε) : Option (Next ε) :=
  match s.flusher with
  | .idle =>
    if s.guard = none then some ({ s with guard := some .flusher, flusher := .measuring }, [])
    else some (s, [.tickSkipped])
  | _ => none

/-- The flusher ends; a handoff that it has not taken is lost to its sender. -/
def stopFlusher (s : State ε) : Option (Next ε) :=
  match s.flusher with
  | .idle =>
    if s.stopSignal then some ({ s with flusher := .stopped }.dropHandoff, [.flusherStopped])
    else none
  | _ => none

/-! ## Deliveries -/

/-- What follows the answer of the sink to an attempt. -/
inductive Verdict where
  | finished (stored : Bool)
  | again (delay : Duration)
  | broken
  deriving DecidableEq, Repr

def verdict (p : RetryPolicy) (a : Attempt) : Reply → Verdict
  | .stored => .finished true
  | .refused _ => if p.allowsRetry a then .again a.delay else .finished false
  | .broken => .broken

/-- The sink answers the flusher. A sink that breaks down ends it: the lock of the slot is released
and its entries stay. -/
def replyFlusher (plan : Plan ε) (s : State ε) (r : Reply) : Option (Next ε) :=
  match s.flusher with
  | .writing slot (.calling a) =>
    let entries := s.buffer.contents slot
    let replied : Event ε := .replied .flusher a entries r
    match verdict plan.retry a r with
    | .finished stored =>
      some ({ s with buffer := s.buffer.clear slot, flusher := .idle }.unlockSlot slot,
        [replied, .finished .flusher slot entries stored])
    | .again delay =>
      some ({ s with flusher := .writing slot (.pausing a) }, [replied, .paused .flusher delay])
    | .broken =>
      some (({ s with flusher := .failed }.unlockSlot slot).dropHandoff, [replied, .flusherFailed])
  | _ => none

/-- The flusher calls the sink again. -/
def wakeFlusher (s : State ε) : Option (Next ε) :=
  match s.flusher with
  | .writing slot (.pausing a) =>
    some ({ s with flusher := .writing slot (.calling a.next) },
      [.called .flusher a.next (s.buffer.contents slot)])
  | _ => none

/-- The sink answers a shutdown call. -/
def replyShutdown (plan : Plan ε) (s : State ε) (k : Nat) (r : Reply) : Option (Next ε) :=
  match s.calls[k]? with
  | some (.writing slot (.calling a) slots drained) =>
    let entries := s.buffer.contents slot
    let replied : Event ε := .replied (.shutdown k) a entries r
    match verdict plan.retry a r with
    | .finished stored =>
      some (({ s with buffer := s.buffer.clear slot }.unlockSlot slot).setCall k
          (.draining slots drained),
        [replied, .finished (.shutdown k) slot entries stored])
    | .again delay =>
      some (s.setCall k (.writing slot (.pausing a) slots drained),
        [replied, .paused (.shutdown k) delay])
    | .broken =>
      some (({ s with guard := none }.unlockSlot slot).setCall k .failed, [replied])
  | _ => none

/-- A shutdown call calls the sink again. -/
def wakeShutdown (s : State ε) (k : Nat) : Option (Next ε) :=
  match s.calls[k]? with
  | some (.writing slot (.pausing a) slots drained) =>
    some (s.setCall k (.writing slot (.calling a.next) slots drained),
      [.called (.shutdown k) a.next (s.buffer.contents slot)])
  | _ => none

def reply (plan : Plan ε) (s : State ε) (r : Reply) : Task → Option (Next ε)
  | .flusher => s.replyFlusher plan r
  | .shutdown k => s.replyShutdown plan k r
  | .worker _ => none

def wake (s : State ε) : Task → Option (Next ε)
  | .flusher => s.wakeFlusher
  | .shutdown k => s.wakeShutdown k
  | .worker _ => none

/-! ## Shutdown -/

/-- Whether every worker has stopped. -/
def workersDone (s : State ε) : Bool :=
  s.workers.all fun w => match w with
    | .stopped => true
    | _ => false

/-- With the guard: locks the next slot and delivers what it holds, or gives the guard back after
the last one. -/
def drain (plan : Plan ε) (s : State ε) (k : Nat) (drained : Nat) : List Slot → Option (Next ε)
  | [] =>
    some ({ s with guard := none }.setCall k (.returned (some drained)),
      [.shutdownReturned k (some drained)])
  | slot :: slots =>
    if s.isFree slot then
      let entries := s.buffer.contents slot
      if entries.isEmpty then some (s.setCall k (.draining slots drained), [])
      else
        let a := plan.retry.first
        some ((s.lockSlot slot (.shutdown k)).setCall k
            (.writing slot (.calling a) slots (drained + entries.length)),
          [.batch (.shutdown k) none slot entries, .called (.shutdown k) a entries])
    else none

/-- The next step of a shutdown call that does not need the sink. The backup slot is drained before
the active one. -/
def shutdownStep (plan : Plan ε) (s : State ε) (k : Nat) : Option (Next ε) :=
  match s.calls[k]? with
  | none => none
  | some .closing => some ({ s with isOpen := false }.setCall k .claiming, [])
  | some .claiming =>
    if s.tasksTaken then
      some (s.setCall k (.returned none), [.shutdownReturned k none])
    else some ({ s with tasksTaken := true }.setCall k .joining, [])
  | some .joining =>
    if s.workersDone then some ({ s with stopSignal := true }.setCall k .stopping, []) else none
  | some .stopping =>
    match s.flusher with
    | .stopped => some (s.setCall k .locking, [])
    | .failed => some (s.setCall k .locking, [.failureNoticed])
    | _ => none
  | some .locking =>
    if s.guard = none then
      some ({ s with guard := some (.shutdown k) }.setCall k
        (.draining [s.buffer.backup, s.buffer.active] 0), [])
    else none
  | some (.draining slots drained) => s.drain plan k drained slots
  | some (.writing _ _ _ _) => none
  | some (.returned _) => none
  | some .failed => none

end State

/-- The effect of a move, or `none` where it is not possible. -/
def step (plan : Plan ε) (s : State ε) : Move ε → Option (Next ε)
  | .send e => some (s.send plan e)
  | .callShutdown => some ({ s with calls := s.calls ++ [.closing] }, [])
  | .tick => s.tick
  | .reply t r => s.reply plan r t
  | .wake t => s.wake t
  | .worker i => s.workerStep plan i
  | .flusher => s.flusherStep plan
  | .stopFlusher => s.stopFlusher
  | .shutdown k => s.shutdownStep plan k

/-- The runs of a pipeline from its start: each state that can be reached, with all that has
happened on the way. -/
inductive Run (plan : Plan ε) : State ε → List (Event ε) → Prop where
  | start : Run plan (.start plan) []
  | step {s s' : State ε} {history events : List (Event ε)} (m : Move ε) :
    Run plan s history → Pipeline.step plan s m = some (s', events) →
    Run plan s' (history ++ events)

end AuditTrail.Pipeline
