import AuditTrail.Proofs.Transition

/-!
# What a history shows

A run collects everything that happens in it. The functions here read off one kind of event each,
in the order in which the events happened. `Flow` says what a transition does with the entries
themselves: one entry enters the queue, moves on to a worker or to a slot, or the entries of a slot
are finished; all other transitions leave every entry where it is.
-/

namespace AuditTrail.Pipeline

variable {ε : Type}

namespace Event

def accepted? : Event ε → Option ε
  | accepted e => some e
  | _ => none

def rejected? : Event ε → Option ε
  | rejectedFull e | rejectedClosed e => some e
  | _ => none

/-- The worker that has received an entry, and the entry. -/
def received? : Event ε → Option (Nat × ε)
  | received i e => some (i, e)
  | _ => none

/-- The entry of a push and the generation under which it was pushed. -/
def pushed? : Event ε → Option (ε × Nat)
  | pushed e generation => some (e, generation)
  | _ => none

def batch? : Event ε → Option (List ε)
  | batch _ _ _ entries => some entries
  | _ => none

def finished? : Event ε → Option (List ε)
  | finished _ _ entries _ => some entries
  | _ => none

/-- Whether a call of the sink has not come back. -/
def breaksSink : Event ε → Bool
  | replied _ _ _ .broken => true
  | _ => false

end Event

/-- The entries that were accepted. -/
def acceptedIn (history : List (Event ε)) : List ε :=
  history.filterMap Event.accepted?

/-- The entries that were rejected. -/
def rejectedIn (history : List (Event ε)) : List ε :=
  history.filterMap Event.rejected?

/-- The entries that workers have received, with the workers. -/
def receiptsIn (history : List (Event ε)) : List (Nat × ε) :=
  history.filterMap Event.received?

/-- The entries that were added to the buffer, with their generations. -/
def pushesIn (history : List (Event ε)) : List (ε × Nat) :=
  history.filterMap Event.pushed?

/-- The batches whose delivery has begun. -/
def batchesIn (history : List (Event ε)) : List (List ε) :=
  history.filterMap Event.batch?

/-- The batches whose delivery is over. -/
def finishedIn (history : List (Event ε)) : List (List ε) :=
  history.filterMap Event.finished?

/-- The entries that were added to the buffer. -/
def pushedIn (history : List (Event ε)) : List ε :=
  (pushesIn history).map Prod.fst

/-- The entries that were added to the buffer under a generation. -/
def pushedUnder (history : List (Event ε)) (generation : Nat) : List ε :=
  ((pushesIn history).filter fun p => p.2 = generation).map Prod.fst

/-- Every answer of the sink came back, whether it had stored the entries or refused them. -/
def SinkReturns (history : List (Event ε)) : Prop :=
  ∀ e ∈ history, e.breaksSink = false

instance (history : List (Event ε)) : Decidable (SinkReturns history) :=
  inferInstanceAs (Decidable (∀ e ∈ history, e.breaksSink = false))

section Append

variable (history events : List (Event ε))

@[simp] lemma acceptedIn_append :
    acceptedIn (history ++ events) = acceptedIn history ++ acceptedIn events :=
  List.filterMap_append

@[simp] lemma rejectedIn_append :
    rejectedIn (history ++ events) = rejectedIn history ++ rejectedIn events :=
  List.filterMap_append

@[simp] lemma receiptsIn_append :
    receiptsIn (history ++ events) = receiptsIn history ++ receiptsIn events :=
  List.filterMap_append

@[simp] lemma pushesIn_append :
    pushesIn (history ++ events) = pushesIn history ++ pushesIn events :=
  List.filterMap_append

@[simp] lemma batchesIn_append :
    batchesIn (history ++ events) = batchesIn history ++ batchesIn events :=
  List.filterMap_append

@[simp] lemma finishedIn_append :
    finishedIn (history ++ events) = finishedIn history ++ finishedIn events :=
  List.filterMap_append

@[simp] lemma pushedIn_append :
    pushedIn (history ++ events) = pushedIn history ++ pushedIn events := by
  simp [pushedIn]

@[simp] lemma pushedUnder_append (generation : Nat) :
    pushedUnder (history ++ events) generation =
      pushedUnder history generation ++ pushedUnder events generation := by
  simp [pushedUnder]

lemma sinkReturns_append :
    SinkReturns (history ++ events) ↔ SinkReturns history ∧ SinkReturns events :=
  List.forall_mem_append

end Append

/-- No task has been ended by the sink. -/
structure State.Unbroken (s : State ε) : Prop where
  flusher : s.flusher ≠ .failed
  calls : .failed ∉ s.calls

lemma verdict_broken {p : RetryPolicy} {a : Attempt} {r : Reply}
    (h : State.verdict p a r = .broken) : r = .broken := by
  cases r with
  | stored => cases h
  | refused _ =>
    simp only [State.verdict] at h
    split at h <;> cases h
  | broken => rfl

section Unbroken

variable {plan : Plan ε} {s s' : State ε} {m : Move ε} {events : List (Event ε)}

lemma State.Unbroken.set {k : Nat} {c : Shutdown} (h : s.Unbroken) (hc : c ≠ .failed)
    (hcalls : s'.calls = s.calls.set k c) (hflusher : s'.flusher = s.flusher) : s'.Unbroken := by
  constructor
  · rw [hflusher]
    exact h.flusher
  · rw [hcalls]
    intro hmem
    rcases List.mem_or_eq_of_mem_set hmem with hmem | heq
    · exact h.calls hmem
    · exact hc heq.symm

lemma State.Unbroken.transition (inv : s.Unbroken) (hsink : SinkReturns events)
    (h : Transition plan s m s' events) : s'.Unbroken := by
  cases h with
  | send hoffered => cases hoffered <;> exact ⟨inv.flusher, inv.calls⟩
  | callShutdown => exact ⟨inv.flusher, by simpa using inv.calls⟩
  | worker hworker =>
    obtain ⟨-, -, hflusher, -, hcalls⟩ := hworker.frame
    exact ⟨hflusher ▸ inv.flusher, hcalls ▸ inv.calls⟩
  | flusher hflusher =>
    obtain ⟨-, -, -, -, hcalls⟩ := hflusher.frame
    refine ⟨?_, hcalls ▸ inv.calls⟩
    cases hflusher with
    | skipTick _ _ => exact inv.flusher
    | fail slot a r _ hverdict =>
      rw [verdict_broken hverdict] at hsink
      cases hsink _ List.mem_cons_self
    | _ => simp
  | shutdown hshutdown =>
    obtain ⟨-, -, -, -, hflusher⟩ := hshutdown.frame
    cases hshutdown with
    | fail slot a slots drained r _ hverdict =>
      rw [verdict_broken hverdict] at hsink
      cases hsink _ List.mem_cons_self
    | _ => exact inv.set (by simp) rfl hflusher

theorem Run.unbroken {history : List (Event ε)} (run : Run plan s history)
    (hsink : SinkReturns history) : s.Unbroken := by
  induction run with
  | start => exact ⟨by simp [State.start], by simp [State.start]⟩
  | step m _ hstep ih =>
    have hsplit := (sinkReturns_append _ _).mp hsink
    exact (ih hsplit.1).transition hsplit.2 (step_transition hstep)

end Unbroken

/-! ### The way of the entries -/

/-- The entries in the hands of the workers, worker by worker, as `redact` leaves them. -/
def State.hands (redact : ε → ε) (s : State ε) : List (Option ε) :=
  s.workers.map (Worker.carried? redact)

/-- What a transition does with the entries. -/
inductive Flow (redact : ε → ε) (s s' : State ε) (events : List (Event ε)) : Prop where
  | accepted (e : ε) : s'.queue = s.queue ++ [e] → s'.hands redact = s.hands redact →
      s'.buffer.contents = s.buffer.contents → events = [.accepted e] →
      Flow redact s s' events
  | received (i : Nat) (e : ε) : s.queue = e :: s'.queue → (s.hands redact)[i]? = some none →
      s'.hands redact = (s.hands redact).set i (some (redact e)) →
      s'.buffer.contents = s.buffer.contents → events = [.received i e] →
      Flow redact s s' events
  | pushed (i : Nat) (e : ε) : s'.queue = s.queue → (s.hands redact)[i]? = some (some e) →
      s'.hands redact = (s.hands redact).set i none → s'.buffer = s.buffer.push e →
      events = [.pushed e s.buffer.generation] → Flow redact s s' events
  | finished (writer : Task) (slot : Slot) (a : Attempt) (r : Reply) (stored : Bool) :
      s'.queue = s.queue → s'.hands redact = s.hands redact →
      s'.buffer = s.buffer.clear slot →
      events = [.replied writer a (s.buffer.contents slot) r,
        .finished writer slot (s.buffer.contents slot) stored] →
      Flow redact s s' events
  | quiet : s'.queue = s.queue → s'.hands redact = s.hands redact →
      s'.buffer.contents = s.buffer.contents → acceptedIn events = [] →
      receiptsIn events = [] → pushesIn events = [] → finishedIn events = [] →
      Flow redact s s' events

section Flows

variable {plan : Plan ε} {s s' : State ε} {m : Move ε} {events : List (Event ε)}

lemma hands_set {redact : ε → ε} {i : Nat} {w' : Worker ε} {hand : Option ε}
    (hworkers : s'.workers = s.workers.set i w') (hhand : w'.carried? redact = hand) :
    s'.hands redact = (s.hands redact).set i hand := by
  simp only [State.hands, hworkers, List.map_set, hhand]

lemma hands_getElem {redact : ε → ε} {i : Nat} {w : Worker ε} (hw : s.workers[i]? = some w) :
    (s.hands redact)[i]? = some (w.carried? redact) := by
  simp [State.hands, hw]

/-- A worker that goes on with the same entry leaves all hands as they are. -/
lemma hands_same {redact : ε → ε} {i : Nat} {w w' : Worker ε} (hw : s.workers[i]? = some w)
    (hworkers : s'.workers = s.workers.set i w')
    (hsame : w'.carried? redact = w.carried? redact) : s'.hands redact = s.hands redact := by
  rw [hands_set hworkers hsame]
  have hhand : (s.hands redact)[i]? = some (w.carried? redact) := hands_getElem hw
  obtain ⟨hlt, hget⟩ := List.getElem?_eq_some_iff.mp hhand
  rw [← hget]
  exact List.set_getElem_self hlt

lemma carried_hear (redact : ε → ε) (w : Worker ε) (ack : Ack) :
    (w.hear ack).carried? redact = w.carried? redact := by
  cases w <;> rfl

lemma FlusherMoves.hands (redact : ε → ε) (h : FlusherMoves plan s m s' events) :
    s'.hands redact = s.hands redact := by
  rcases h.workers with hworkers | ⟨handoff, ack, hworkers⟩
  · simp only [State.hands, hworkers]
  · simp only [State.hands, hworkers]
    exact map_tellSender (carried_hear redact) handoff ack s.workers

lemma WorkerMoves.flow {i : Nat} (h : WorkerMoves plan s i s' events) :
    Flow plan.redact s s' events := by
  cases h with
  | takeReceiver hw _ => exact .quiet rfl (hands_same hw rfl rfl) rfl rfl rfl rfl rfl
  | receive e queue hw hqueue =>
    exact .received i e hqueue (hands_getElem hw) (hands_set rfl rfl) rfl rfl
  | push e hw _ => exact .pushed i e rfl (hands_getElem hw) (hands_set rfl rfl) rfl rfl
  | stop hw _ _ => exact .quiet rfl (hands_same hw rfl rfl) rfl rfl rfl rfl rfl
  | redact e hw => exact .quiet rfl (hands_same hw rfl rfl) rfl rfl rfl rfl rfl
  | takeGuard e hw _ => exact .quiet rfl (hands_same hw rfl rfl) rfl rfl rfl rfl rfl
  | swap e hw _ _ => exact .quiet rfl (hands_same hw rfl rfl) rfl rfl rfl rfl rfl
  | keep e hw _ _ => exact .quiet rfl (hands_same hw rfl rfl) rfl rfl rfl rfl rfl
  | look e full hw _ => exact .quiet rfl (hands_same hw rfl rfl) rfl rfl rfl rfl rfl
  | refused e full hw _ => exact .quiet rfl (hands_same hw rfl rfl) rfl rfl rfl rfl rfl
  | handOver e full hw _ _ => exact .quiet rfl (hands_same hw rfl rfl) rfl rfl rfl rfl rfl
  | received e full hw => exact .quiet rfl (hands_same hw rfl rfl) rfl rfl rfl rfl rfl
  | dropped e full hw => exact .quiet rfl (hands_same hw rfl rfl) rfl rfl rfl rfl rfl

lemma FlusherMoves.flow (h : FlusherMoves plan s m s' events) :
    Flow plan.redact s s' events := by
  have hhands := h.hands plan.redact
  cases h with
  | finish slot a r stored _ _ => exact .finished .flusher slot a r stored rfl hhands rfl rfl
  | _ => exact .quiet rfl hhands rfl rfl rfl rfl rfl

lemma ShutdownMoves.flow {k : Nat} (h : ShutdownMoves plan s k m s' events) :
    Flow plan.redact s s' events := by
  cases h with
  | finish slot a slots drained r stored _ _ =>
    exact .finished (.shutdown k) slot a r stored rfl rfl rfl rfl
  | _ => exact .quiet rfl rfl rfl rfl rfl rfl rfl

theorem Transition.flow (h : Transition plan s m s' events) : Flow plan.redact s s' events := by
  cases h with
  | send hoffered =>
    cases hoffered with
    | accepted _ _ => exact .accepted _ rfl rfl rfl rfl
    | full _ _ => exact .quiet rfl rfl rfl rfl rfl rfl rfl
    | closed _ => exact .quiet rfl rfl rfl rfl rfl rfl rfl
  | callShutdown => exact .quiet rfl rfl rfl rfl rfl rfl rfl
  | worker hworker => exact hworker.flow
  | flusher hflusher => exact hflusher.flow
  | shutdown hshutdown => exact hshutdown.flow

end Flows
end AuditTrail.Pipeline
