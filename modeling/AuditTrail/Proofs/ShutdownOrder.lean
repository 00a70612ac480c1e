import AuditTrail.Proofs.Transition

/-!
# The order of a shutdown

A shutdown closes the queue, then the workers stop, then the flusher ends, then the slots are
drained, the backup slot first. Here this order is an invariant: how far a shutdown call has come
tells what the other tasks can no longer do, and which slots are empty.
-/

namespace AuditTrail.Pipeline

variable {ε : Type}

/-- Whether a call has come so far only after all workers had stopped. -/
def Shutdown.isPastWorkers : Shutdown → Bool
  | .stopping | .locking | .draining _ _ | .writing _ _ _ _ | .returned (some _) | .failed => true
  | _ => false

/-- Whether a call has come so far only after the flusher had ended. -/
def Shutdown.isPastFlusher : Shutdown → Bool
  | .locking | .draining _ _ | .writing _ _ _ _ | .returned (some _) | .failed => true
  | _ => false

/-- What a call knows of the slots: those it has been through are empty. -/
def Shutdown.Drains (b : DoubleBuffer ε) : Shutdown → Prop
  | .draining slots _ => slots = [b.backup, b.active] ∨
      slots = [b.active] ∧ b.contents b.backup = [] ∨ slots = [] ∧ ∀ slot, b.contents slot = []
  | .writing slot _ slots _ => slot = b.backup ∧ slots = [b.active] ∨
      slot = b.active ∧ slots = [] ∧ b.contents b.backup = []
  | .returned (some _) => ∀ slot, b.contents slot = []
  | _ => True

/-- A shutdown call has come as far as the state of the other tasks allows. -/
structure Shutdown.Follows (s : State ε) (c : Shutdown) : Prop where
  closed : c ≠ .closing → s.isOpen = false
  workers : c.isPastWorkers = true → ∀ w ∈ s.workers, w = .stopped
  flusher : c.isPastFlusher = true → s.flusher.isGone = true
  drains : c.Drains s.buffer

/-- The tasks end in the order in which a shutdown ends them. -/
structure EndsInOrder (s : State ε) : Prop where
  calls : ∀ c ∈ s.calls, c.Follows s
  closed : s.isOpen = false → ∃ c ∈ s.calls, c ≠ .closing
  worker : .stopped ∈ s.workers → s.isOpen = false ∧ s.queue = []
  signal : s.stopSignal = true → ∀ w ∈ s.workers, w = .stopped
  flusher : s.flusher = .stopped → s.stopSignal = true

section Steps

variable {plan : Plan ε} {s s' : State ε} {m : Move ε} {events : List (Event ε)}

lemma workersDone_iff : s.workersDone = true ↔ ∀ w ∈ s.workers, w = .stopped := by
  unfold State.workersDone
  rw [List.all_eq_true]
  apply forall₂_congr
  intro w _
  cases w <;> simp

lemma hear_stopped_iff (w : Worker ε) (ack : Ack) : w.hear ack = .stopped ↔ w = .stopped := by
  cases w <;> simp [Worker.hear]

lemma stopped_mem_tellSender (h : Handoff) (ack : Ack) (workers : List (Worker ε)) :
    .stopped ∈ tellSender h ack workers ↔ .stopped ∈ workers := by
  simp only [List.mem_iff_getElem?, getElem?_tellSender]
  apply exists_congr
  intro i
  split
  · simp [hear_stopped_iff]
  · rfl

lemma all_stopped_tellSender (h : Handoff) (ack : Ack) (workers : List (Worker ε))
    (hall : ∀ w ∈ workers, w = .stopped) : tellSender h ack workers = workers := by
  apply List.ext_getElem?
  intro i
  rw [getElem?_tellSender]
  split
  · cases hw : workers[i]? with
    | none => rfl
    | some w =>
      have hw := hall w (List.mem_of_getElem? hw)
      subst hw
      rfl
  · rfl

/-- As long as a worker has not stopped, no call has come past the workers. -/
lemma Shutdown.Follows.not_past {c : Shutdown} (h : c.Follows s)
    (hbusy : ∃ w ∈ s.workers, w ≠ .stopped) : c.isPastWorkers = false := by
  obtain ⟨w, hw, hne⟩ := hbusy
  by_contra hpast
  exact hne (h.workers (by simpa using hpast) w hw)

lemma Shutdown.isPastWorkers_of_isPastFlusher {c : Shutdown} (h : c.isPastFlusher = true) :
    c.isPastWorkers = true := by
  cases c with
  | returned drained => cases drained <;> simp_all [isPastFlusher, isPastWorkers]
  | _ => simp_all [isPastFlusher, isPastWorkers]

lemma Shutdown.drains_of_not_past {c : Shutdown} (h : c.isPastFlusher = false)
    (b : DoubleBuffer ε) : c.Drains b := by
  cases c with
  | returned drained => cases drained <;> simp_all [isPastFlusher, Drains]
  | _ => simp_all [isPastFlusher, Drains]

lemma EndsInOrder.worker_step {i : Nat} (inv : EndsInOrder s)
    (h : WorkerMoves plan s i s' events) : EndsInOrder s' := by
  obtain ⟨w, w', hw, hne, hworkers⟩ := h.workers
  obtain ⟨hopen, -, hflusher, hsignal, hcalls⟩ := h.frame
  have hbusy : ∃ w ∈ s.workers, w ≠ .stopped := ⟨w, List.mem_of_getElem? hw, hne⟩
  constructor
  · intro c hc
    rw [hcalls] at hc
    have hfollows := inv.calls c hc
    have hpast := hfollows.not_past hbusy
    have hpast' : c.isPastFlusher = false := by
      by_contra hpast'
      have := Shutdown.isPastWorkers_of_isPastFlusher (by simpa using hpast')
      simp [hpast] at this
    constructor
    · rw [hopen]
      exact hfollows.closed
    · simp [hpast]
    · simp [hpast']
    · exact Shutdown.drains_of_not_past hpast' _
  · rw [hopen, hcalls]
    exact inv.closed
  · rw [hopen]
    intro hstopped
    cases h with
    | stop _ hqueue hclosed => exact ⟨hclosed, hqueue⟩
    | receive e queue hw hqueue =>
      have hold := List.mem_or_eq_of_mem_set hstopped
      have hempty := (inv.worker (by simpa using hold)).2
      rw [hqueue] at hempty
      cases hempty
    | _ =>
      have hold := List.mem_or_eq_of_mem_set hstopped
      exact inv.worker (by simpa using hold)
  · rw [hsignal]
    intro hstop
    exact (hne (inv.signal hstop w (List.mem_of_getElem? hw))).elim
  · rw [hflusher, hsignal]
    exact inv.flusher

lemma EndsInOrder.flusher_step (inv : EndsInOrder s) (h : FlusherMoves plan s m s' events) :
    EndsInOrder s' := by
  obtain ⟨hqueue, hopen, -, hsignal, hcalls⟩ := h.frame
  have hgone := h.not_gone
  have hall : (∀ w ∈ s.workers, w = .stopped) → ∀ w ∈ s'.workers, w = .stopped := by
    intro hall
    rcases h.workers with hworkers | ⟨handoff, ack, hworkers⟩
    · rwa [hworkers]
    · rwa [hworkers, all_stopped_tellSender handoff ack s.workers hall]
  constructor
  · intro c hc
    rw [hcalls] at hc
    have hfollows := inv.calls c hc
    have hpast : c.isPastFlusher = false := by
      by_contra hpast
      have := hfollows.flusher (by simpa using hpast)
      simp [hgone] at this
    constructor
    · rw [hopen]
      exact hfollows.closed
    · intro hpast
      exact hall (hfollows.workers hpast)
    · simp [hpast]
    · exact Shutdown.drains_of_not_past hpast _
  · rw [hopen, hcalls]
    exact inv.closed
  · rw [hopen, hqueue]
    intro hstopped
    apply inv.worker
    rcases h.workers with hworkers | ⟨handoff, ack, hworkers⟩
    · rwa [hworkers] at hstopped
    · rwa [hworkers, stopped_mem_tellSender] at hstopped
  · rw [hsignal]
    intro hstop
    exact hall (inv.signal hstop)
  · rw [hsignal]
    intro hstopped
    cases h with
    | stop _ hstop => exact hstop
    | skipTick hf _ =>
      rw [hf] at hstopped
      cases hstopped
    | _ => cases hstopped

/-- What a call knows of the slots stays true when a slot is emptied. -/
lemma Shutdown.Drains.clear {c : Shutdown} {b : DoubleBuffer ε} (h : c.Drains b) (slot : Slot) :
    c.Drains (b.clear slot) := by
  have hempty : ∀ other, b.contents other = [] → (b.clear slot).contents other = [] := by
    intro other hother
    rw [DoubleBuffer.contents_clear, hother, ite_self]
  cases c with
  | draining slots drained =>
    rcases h with h | ⟨h, hbackup⟩ | ⟨h, hall⟩
    · exact .inl h
    · exact .inr (.inl ⟨h, hempty _ hbackup⟩)
    · exact .inr (.inr ⟨h, fun other => hempty other (hall other)⟩)
  | writing slot phase slots drained =>
    rcases h with h | ⟨h, hslots, hbackup⟩
    · exact .inl h
    · exact .inr ⟨h, hslots, hempty _ hbackup⟩
  | returned drained =>
    cases drained with
    | none => trivial
    | some n => exact fun other => hempty other (h other)
  | _ => trivial

/-- A slot that a call finds empty is behind it. -/
lemma Shutdown.Drains.skip {b : DoubleBuffer ε} {slot : Slot} {slots : List Slot} {drained : Nat}
    (h : (draining (slot :: slots) drained).Drains b) (hempty : b.contents slot = []) :
    (draining slots drained).Drains b := by
  rcases h with h | ⟨h, hbackup⟩ | ⟨h, -⟩
  · cases h
    exact .inr (.inl ⟨rfl, hempty⟩)
  · cases h
    refine .inr (.inr ⟨rfl, ?_⟩)
    intro other
    rcases b.eq_active_or_backup other with hother | hother
    · rwa [hother]
    · rwa [hother]
  · cases h

lemma Shutdown.Drains.begin {b : DoubleBuffer ε} {slot : Slot} {slots : List Slot}
    {drained drained' : Nat} {phase : Phase}
    (h : (draining (slot :: slots) drained).Drains b) :
    (writing slot phase slots drained').Drains b := by
  rcases h with h | ⟨h, hbackup⟩ | ⟨h, -⟩
  · cases h
    exact .inl ⟨rfl, rfl⟩
  · cases h
    exact .inr ⟨rfl, rfl, hbackup⟩
  · cases h

lemma Shutdown.Drains.finish {b : DoubleBuffer ε} {slot : Slot} {slots : List Slot}
    {drained : Nat} {phase : Phase} (h : (writing slot phase slots drained).Drains b) :
    (draining slots drained).Drains (b.clear slot) := by
  have hself : (b.clear slot).contents slot = [] := b.contents_clear_self slot
  rcases h with ⟨h, hslots⟩ | ⟨h, hslots, hbackup⟩
  · subst h
    exact .inr (.inl ⟨hslots, hself⟩)
  · subst h
    refine .inr (.inr ⟨hslots, ?_⟩)
    intro other
    rcases b.eq_active_or_backup other with hother | hother
    · rwa [hother]
    · rw [hother, DoubleBuffer.contents_clear, hbackup, ite_self]

/-- What the other calls know stays true in a step of a shutdown call. -/
lemma Shutdown.Follows.other {k : Nat} {c : Shutdown} (hc : c.Follows s)
    (h : ShutdownMoves plan s k m s' events) : c.Follows s' := by
  obtain ⟨-, -, hworkers, -, hflusher⟩ := h.frame
  have hopen : s.isOpen = false → s'.isOpen = false := by
    intro hopen
    cases h with
    | close _ => rfl
    | _ => exact hopen
  have hdrains : c.Drains s'.buffer := by
    cases h with
    | finish slot _ _ _ _ _ _ _ => exact hc.drains.clear slot
    | _ => exact hc.drains
  constructor
  · intro hne
    exact hopen (hc.closed hne)
  · rw [hworkers]
    exact hc.workers
  · rw [hflusher]
    exact hc.flusher
  · exact hdrains

/-- All other calls go on as they are, so a step is about what call `k` may know after it. -/
lemma EndsInOrder.call_step {k : Nat} {c c' : Shutdown} (inv : EndsInOrder s)
    (h : ShutdownMoves plan s k m s' events) (hc : s.calls[k]? = some c)
    (hcalls : s'.calls = s.calls.set k c') (hfollows : c'.Follows s') (hne : c' ≠ .closing)
    (hsignal : s'.stopSignal = true → ∀ w ∈ s.workers, w = .stopped)
    (hsignal' : s.stopSignal = true → s'.stopSignal = true) : EndsInOrder s' := by
  obtain ⟨hqueue, -, hworkers, -, hflusher⟩ := h.frame
  have hlt := (List.getElem?_eq_some_iff.mp hc).1
  constructor
  · intro d hd
    rw [hcalls] at hd
    rcases List.mem_or_eq_of_mem_set hd with hd | hd
    · exact (inv.calls d hd).other h
    · rwa [hd]
  · intro _
    refine ⟨c', ?_, hne⟩
    rw [hcalls]
    exact List.mem_set hlt c'
  · rw [hworkers, hqueue]
    intro hstopped
    exact ⟨hfollows.closed hne, (inv.worker hstopped).2⟩
  · rw [hworkers]
    exact hsignal
  · rw [hflusher]
    intro hstopped
    exact hsignal' (inv.flusher hstopped)

lemma EndsInOrder.shutdown_step {k : Nat} (inv : EndsInOrder s)
    (h : ShutdownMoves plan s k m s' events) : EndsInOrder s' := by
  have hself : ∀ {c}, s.calls[k]? = some c → c.Follows s := fun hc =>
    inv.calls _ (List.mem_of_getElem? hc)
  have hset : ∀ {c c'}, s.calls[k]? = some c → s'.calls = s.calls.set k c' → c'.Follows s' →
      c' ≠ .closing → (s'.stopSignal = true → ∀ w ∈ s.workers, w = .stopped) →
      (s.stopSignal = true → s'.stopSignal = true) → EndsInOrder s' := inv.call_step h
  cases h with
  | close hc =>
    exact hset hc rfl ⟨fun _ => rfl, by simp [Shutdown.isPastWorkers],
      by simp [Shutdown.isPastFlusher], trivial⟩ (by simp) inv.signal id
  | late hc _ =>
    exact hset hc rfl ⟨fun _ => (hself hc).closed (by simp), by simp [Shutdown.isPastWorkers],
      by simp [Shutdown.isPastFlusher], trivial⟩ (by simp) inv.signal id
  | claim hc _ =>
    exact hset hc rfl ⟨fun _ => (hself hc).closed (by simp), by simp [Shutdown.isPastWorkers],
      by simp [Shutdown.isPastFlusher], trivial⟩ (by simp) inv.signal id
  | join hc hdone =>
    have hstopped := workersDone_iff.mp hdone
    exact hset hc rfl ⟨fun _ => (hself hc).closed (by simp), fun _ => hstopped,
      by simp [Shutdown.isPastFlusher], trivial⟩ (by simp) (fun _ => hstopped) fun _ => rfl
  | flusherStopped hc hf =>
    exact hset hc rfl ⟨fun _ => (hself hc).closed (by simp), fun _ => (hself hc).workers rfl,
      fun _ => by simp [hf, Flusher.isGone], trivial⟩ (by simp) inv.signal id
  | flusherFailed hc hf =>
    exact hset hc rfl ⟨fun _ => (hself hc).closed (by simp), fun _ => (hself hc).workers rfl,
      fun _ => by simp [hf, Flusher.isGone], trivial⟩ (by simp) inv.signal id
  | takeGuard hc _ =>
    exact hset hc rfl ⟨fun _ => (hself hc).closed (by simp), fun _ => (hself hc).workers rfl,
      fun _ => (hself hc).flusher rfl, .inl rfl⟩ (by simp) inv.signal id
  | done drained hc =>
    have hdrains := (hself hc).drains
    simp only [Shutdown.Drains, List.ne_cons_self, List.nil_eq, reduceCtorEq, false_and,
      false_or, true_and] at hdrains
    exact hset hc rfl ⟨fun _ => (hself hc).closed (by simp), fun _ => (hself hc).workers rfl,
      fun _ => (hself hc).flusher rfl, hdrains⟩ (by simp) inv.signal id
  | skip slot slots drained hc _ hempty =>
    exact hset hc rfl ⟨fun _ => (hself hc).closed (by simp), fun _ => (hself hc).workers rfl,
      fun _ => (hself hc).flusher rfl, (hself hc).drains.skip hempty⟩ (by simp) inv.signal id
  | begin slot slots drained hc _ _ =>
    exact hset hc rfl ⟨fun _ => (hself hc).closed (by simp), fun _ => (hself hc).workers rfl,
      fun _ => (hself hc).flusher rfl, (hself hc).drains.begin⟩ (by simp) inv.signal id
  | finish slot a slots drained r stored hc _ =>
    exact hset hc rfl ⟨fun _ => (hself hc).closed (by simp), fun _ => (hself hc).workers rfl,
      fun _ => (hself hc).flusher rfl, (hself hc).drains.finish⟩ (by simp) inv.signal id
  | retry slot a slots drained r delay hc _ =>
    exact hset hc rfl ⟨fun _ => (hself hc).closed (by simp), fun _ => (hself hc).workers rfl,
      fun _ => (hself hc).flusher rfl, (hself hc).drains⟩ (by simp) inv.signal id
  | fail slot a slots drained r hc _ =>
    exact hset hc rfl ⟨fun _ => (hself hc).closed (by simp), fun _ => (hself hc).workers rfl,
      fun _ => (hself hc).flusher rfl, trivial⟩ (by simp) inv.signal id
  | wake slot a slots drained hc =>
    exact hset hc rfl ⟨fun _ => (hself hc).closed (by simp), fun _ => (hself hc).workers rfl,
      fun _ => (hself hc).flusher rfl, (hself hc).drains⟩ (by simp) inv.signal id

lemma EndsInOrder.transition (inv : EndsInOrder s) (h : Transition plan s m s' events) :
    EndsInOrder s' := by
  cases h with
  | send hoffered =>
    cases hoffered with
    | accepted hopen _ =>
      refine ⟨fun c hc => ?_, inv.closed, ?_, inv.signal, inv.flusher⟩
      · have hfollows := inv.calls c hc
        exact ⟨hfollows.closed, hfollows.workers, hfollows.flusher, hfollows.drains⟩
      · intro hstopped
        have hclosed := (inv.worker hstopped).1
        rw [hopen] at hclosed
        cases hclosed
    | full _ _ => exact inv
    | closed _ => exact inv
  | callShutdown =>
    refine ⟨fun c hc => ?_, ?_, inv.worker, inv.signal, inv.flusher⟩
    · rcases List.mem_append.mp hc with hc | hc
      · have hfollows := inv.calls c hc
        exact ⟨hfollows.closed, hfollows.workers, hfollows.flusher, hfollows.drains⟩
      · cases List.mem_singleton.mp hc
        exact ⟨by simp, by simp [Shutdown.isPastWorkers], by simp [Shutdown.isPastFlusher],
          trivial⟩
    · intro hopen
      obtain ⟨c, hc, hne⟩ := inv.closed hopen
      exact ⟨c, List.mem_append_left _ hc, hne⟩
  | worker hworker => exact inv.worker_step hworker
  | flusher hflusher => exact inv.flusher_step hflusher
  | shutdown hshutdown => exact inv.shutdown_step hshutdown

end Steps

lemma endsInOrder_start (plan : Plan ε) : EndsInOrder (State.start plan) := by
  constructor
  · intro c hc
    cases hc
  · intro hopen
    cases hopen
  · intro hstopped
    have := List.eq_of_mem_replicate hstopped
    cases this
  · intro hsignal
    cases hsignal
  · intro hstopped
    cases hstopped

theorem Run.endsInOrder {plan : Plan ε} {s : State ε} {history : List (Event ε)}
    (run : Run plan s history) : EndsInOrder s := by
  induction run with
  | start => exact endsInOrder_start plan
  | step m _ hstep inv => exact inv.transition (step_transition hstep)

end AuditTrail.Pipeline
