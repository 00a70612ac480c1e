import AuditTrail.Proofs.Transition

/-!
# Who holds which lock

The state notes the owner of each lock beside the tasks themselves. In every reachable state the
two agree: a task owns the receiving end, the guard or a slot exactly when it has come to a point
at which it holds it. So each lock has at most one holder, and the progress of one task tells what
the others cannot be doing.
-/

namespace AuditTrail.Pipeline

variable {ε : Type}

/-- The owner of a lock is the one task that holds it. -/
def Owned {τ : Type} (owner : Option τ) (holds : τ → Prop) : Prop :=
  ∀ t, owner = some t ↔ holds t

/-- What a step of `t` does to a lock and its owner: it leaves both alone, takes the lock if it is
free, or gives it back. -/
inductive Passed {τ : Type} (t : τ) (owner : Option τ) :
    Option τ → Prop → Prop → Prop where
  | kept {before after : Prop} : (after ↔ before) → Passed t owner owner before after
  | taken {before after : Prop} : owner = none → after → Passed t owner (some t) before after
  | given {before after : Prop} : before → ¬after → Passed t owner none before after

namespace Owned

variable {τ : Type} {owner owner' : Option τ} {holds holds' : τ → Prop} {t u : τ}

lemma unique (h : Owned owner holds) (ht : holds t) (hu : holds u) : t = u := by
  have hto := (h t).mpr ht
  have huo := (h u).mpr hu
  rw [hto] at huo
  exact Option.some.inj huo

lemma not_holds_of_free (h : Owned none holds) (t : τ) : ¬holds t := by
  intro ht
  cases (h t).mpr ht

lemma same (h : Owned owner holds) (hsame : ∀ t, holds' t ↔ holds t) : Owned owner holds' := by
  intro t
  rw [hsame t]
  exact h t

/-- A step of one task keeps the owner of a lock right. -/
lemma pass (h : Owned owner holds) (hsame : ∀ u, u ≠ t → (holds' u ↔ holds u))
    (hstep : Passed t owner owner' (holds t) (holds' t)) : Owned owner' holds' := by
  intro u
  by_cases hut : u = t
  · subst hut
    generalize hb : holds u = before at hstep
    generalize ha : holds' u = after at hstep
    cases hstep with
    | kept hiff =>
      rw [hiff, ← hb]
      exact h u
    | taken _ hafter => simp [hafter]
    | given _ hafter => simp [hafter]
  · rw [hsame u hut]
    generalize hb : holds t = before at hstep
    generalize ha : holds' t = after at hstep
    cases hstep with
    | kept _ => exact h u
    | taken hfree _ =>
      subst hfree
      have hu := h.not_holds_of_free u
      simp [hu, Ne.symm hut]
    | given hbefore _ =>
      have hu : ¬holds u := by
        intro hu
        exact hut (h.unique hu (hb ▸ hbefore))
      simp [hu]

end Owned

/-- The locks that a task holds. -/
structure Holding where
  receiver : Bool
  guard : Bool
  slot : Option Slot
  deriving DecidableEq

namespace Holding

def nothing : Holding := ⟨false, false, none⟩

def theReceiver : Holding := ⟨true, false, none⟩

def theGuard : Holding := ⟨false, true, none⟩

end Holding

def Worker.holding : Worker ε → Holding
  | .waiting | .carrying _ | .ready _ | .stopped => .nothing
  | .receiving => .theReceiver
  | .measuring _ | .swapping _ _ | .handing _ _ | .awaiting _ _ _ | .pushing _ => .theGuard

def Flusher.holding : Flusher → Holding
  | .idle | .locking _ _ | .stopped | .failed => .nothing
  | .measuring | .swapping _ => .theGuard
  | .writing slot _ => ⟨false, false, some slot⟩

def Shutdown.holding : Shutdown → Holding
  | .draining _ _ => .theGuard
  | .writing slot _ _ _ => ⟨false, true, some slot⟩
  | _ => .nothing

def State.holding (s : State ε) : Task → Holding
  | .worker i => ((s.workers.map Worker.holding)[i]?).getD .nothing
  | .flusher => s.flusher.holding
  | .shutdown k => ((s.calls.map Shutdown.holding)[k]?).getD .nothing

/-- Every lock is owned by the task that holds it. -/
structure Locked (s : State ε) : Prop where
  receiver : Owned s.receiver fun i => (s.holding (.worker i)).receiver = true
  guard : Owned s.guard fun t => (s.holding t).guard = true
  slots : ∀ slot, Owned (s.slotLocks.get slot) fun t => (s.holding t).slot = some slot

section Steps

variable {plan : Plan ε} {s s' : State ε} {m : Move ε} {events : List (Event ε)}

lemma holding_worker {i : Nat} {w : Worker ε} (hw : s.workers[i]? = some w) :
    s.holding (.worker i) = w.holding := by
  simp [State.holding, hw]

lemma holding_shutdown {k : Nat} {c : Shutdown} (hc : s.calls[k]? = some c) :
    s.holding (.shutdown k) = c.holding := by
  simp [State.holding, hc]

/-- A worker at a point at which it holds the guard is the one noted as its owner. -/
lemma Locked.guard_worker {i : Nat} {w : Worker ε} (inv : Locked s)
    (hw : s.workers[i]? = some w) (hholds : w.holding.guard = true) :
    s.guard = some (.worker i) := by
  apply (inv.guard (.worker i)).mpr
  rw [holding_worker hw]
  exact hholds

lemma Locked.guard_flusher (inv : Locked s) (hholds : s.flusher.holding.guard = true) :
    s.guard = some .flusher :=
  (inv.guard .flusher).mpr hholds

lemma Locked.guard_ne_flusher (inv : Locked s) (hholds : s.flusher.holding.guard = false) :
    s.guard ≠ some .flusher := by
  intro hguard
  have hflusher : s.flusher.holding.guard = true := (inv.guard .flusher).mp hguard
  rw [hholds] at hflusher
  cases hflusher

lemma Locked.guard_shutdown {k : Nat} {c : Shutdown} (inv : Locked s)
    (hc : s.calls[k]? = some c) (hholds : c.holding.guard = true) :
    s.guard = some (.shutdown k) := by
  apply (inv.guard (.shutdown k)).mpr
  rw [holding_shutdown hc]
  exact hholds

/-- Only the worker that is noted as the owner of the guard has it. -/
lemma Locked.no_guard {i : Nat} {w : Worker ε} (inv : Locked s) (hw : s.workers[i]? = some w)
    (hne : s.guard ≠ some (.worker i)) : w.holding.guard = false := by
  by_contra hholds
  exact hne (inv.guard_worker hw (by simpa using hholds))

/-- A step of a worker may pass the receiving end or the guard on. -/
lemma Locked.worker_step {i : Nat} {w w' : Worker ε} (inv : Locked s)
    (hw : s.workers[i]? = some w) (hworkers : s'.workers = s.workers.set i w')
    (hflusher : s'.flusher = s.flusher) (hcalls : s'.calls = s.calls)
    (hlocks : s'.slotLocks = s.slotLocks)
    (hreceiver : Passed i s.receiver s'.receiver (w.holding.receiver = true)
      (w'.holding.receiver = true))
    (hguard : Passed (.worker i) s.guard s'.guard (w.holding.guard = true)
      (w'.holding.guard = true)) : Locked s' := by
  have hlt := (List.getElem?_eq_some_iff.mp hw).1
  have hself : s'.holding (.worker i) = w'.holding := holding_worker (by simp [hworkers, hlt])
  have hother : ∀ t, t ≠ .worker i → s'.holding t = s.holding t := by
    intro t ht
    cases t with
    | worker j =>
      have hij : i ≠ j := by
        intro hij
        exact ht (by rw [hij])
      simp only [State.holding, hworkers, List.map_set, List.getElem?_set_ne hij]
    | flusher => simp only [State.holding, hflusher]
    | shutdown k => simp only [State.holding, hcalls]
  have hslot : ∀ w : Worker ε, w.holding.slot = none := by
    intro w
    cases w <;> rfl
  constructor
  · apply inv.receiver.pass (t := i)
    · intro j hj
      rw [hother (.worker j) (by simpa using hj)]
    · rw [hself, holding_worker hw]
      exact hreceiver
  · apply inv.guard.pass (t := .worker i)
    · intro t ht
      rw [hother t ht]
    · rw [hself, holding_worker hw]
      exact hguard
  · intro slot
    rw [hlocks]
    apply (inv.slots slot).same
    intro t
    by_cases ht : t = .worker i
    · rw [ht, hself, holding_worker hw, hslot, hslot]
    · rw [hother t ht]

lemma Locked.worker {i : Nat} (inv : Locked s) (h : WorkerMoves plan s i s' events) :
    Locked s' := by
  cases h with
  | takeReceiver hw hfree =>
    exact inv.worker_step hw rfl rfl rfl rfl (.taken hfree rfl) (.kept Iff.rfl)
  | receive e queue hw _ =>
    exact inv.worker_step hw rfl rfl rfl rfl
      (.given rfl (by simp [Worker.holding, Holding.nothing])) (.kept Iff.rfl)
  | stop hw _ _ =>
    exact inv.worker_step hw rfl rfl rfl rfl
      (.given rfl (by simp [Worker.holding, Holding.nothing])) (.kept Iff.rfl)
  | redact e hw => exact inv.worker_step hw rfl rfl rfl rfl (.kept Iff.rfl) (.kept Iff.rfl)
  | takeGuard e hw hfree =>
    exact inv.worker_step hw rfl rfl rfl rfl (.kept Iff.rfl) (.taken hfree rfl)
  | swap e hw _ _ => exact inv.worker_step hw rfl rfl rfl rfl (.kept Iff.rfl) (.kept Iff.rfl)
  | keep e hw _ _ => exact inv.worker_step hw rfl rfl rfl rfl (.kept Iff.rfl) (.kept Iff.rfl)
  | look e full hw _ => exact inv.worker_step hw rfl rfl rfl rfl (.kept Iff.rfl) (.kept Iff.rfl)
  | refused e full hw _ => exact inv.worker_step hw rfl rfl rfl rfl (.kept Iff.rfl) (.kept Iff.rfl)
  | handOver e full hw _ _ =>
    exact inv.worker_step hw rfl rfl rfl rfl (.kept Iff.rfl) (.kept Iff.rfl)
  | received e full hw => exact inv.worker_step hw rfl rfl rfl rfl (.kept Iff.rfl) (.kept Iff.rfl)
  | dropped e full hw => exact inv.worker_step hw rfl rfl rfl rfl (.kept Iff.rfl) (.kept Iff.rfl)
  | push e hw _ =>
    exact inv.worker_step hw rfl rfl rfl rfl (.kept Iff.rfl)
      (.given rfl (by simp [Worker.holding, Holding.nothing]))

lemma holding_hear (w : Worker ε) (ack : Ack) : (w.hear ack).holding = w.holding := by
  cases w <;> rfl

/-- What becomes of the locks of the slots in a step of `t` that takes the lock of one slot. -/
lemma passed_take_slot {t : Task} {slot : Slot} {held : Option Slot}
    (hfree : s.slotLocks.get slot = none) (hheld : held = none) (other : Slot) :
    Passed t (s.slotLocks.get other) ((s.slotLocks.set slot (some t)).get other)
      (held = some other) (some slot = some other) := by
  rw [PerSlot.get_set]
  split
  · next hother =>
    subst hother
    exact .taken hfree rfl
  · next hother => exact .kept (by simp [hheld, Ne.symm hother])

/-- What becomes of the locks of the slots in a step of `t` that gives the lock of one back. -/
lemma passed_give_slot {t : Task} {slot : Slot} {held : Option Slot} (hheld : held = none)
    (other : Slot) : Passed t (s.slotLocks.get other) ((s.slotLocks.set slot none).get other)
      (some slot = some other) (held = some other) := by
  rw [PerSlot.get_set]
  split
  · next hother =>
    subst hother
    exact .given rfl (by simp [hheld])
  · next hother => exact .kept (by simp [hheld, Ne.symm hother])

/-- A step of the flusher may pass the guard or the lock of a slot on. -/
lemma Locked.flusher_step (inv : Locked s)
    (hworkers : s'.workers.map Worker.holding = s.workers.map Worker.holding)
    (hcalls : s'.calls = s.calls) (hreceiver : s'.receiver = s.receiver)
    (hguard : Passed .flusher s.guard s'.guard (s.flusher.holding.guard = true)
      (s'.flusher.holding.guard = true))
    (hslots : ∀ slot, Passed .flusher (s.slotLocks.get slot) (s'.slotLocks.get slot)
      (s.flusher.holding.slot = some slot) (s'.flusher.holding.slot = some slot)) :
    Locked s' := by
  have hother : ∀ t, t ≠ .flusher → s'.holding t = s.holding t := by
    intro t ht
    cases t with
    | worker i => simp only [State.holding, hworkers]
    | flusher => exact (ht rfl).elim
    | shutdown k => simp only [State.holding, hcalls]
  constructor
  · rw [hreceiver]
    apply inv.receiver.same
    intro i
    rw [hother (.worker i) (by simp)]
  · apply inv.guard.pass (t := .flusher)
    · intro t ht
      rw [hother t ht]
    · exact hguard
  · intro slot
    apply (inv.slots slot).pass (t := .flusher)
    · intro t ht
      rw [hother t ht]
    · exact hslots slot

/-- A step after which the flusher holds what it held before. -/
lemma Locked.flusher_keep (inv : Locked s)
    (hworkers : s'.workers.map Worker.holding = s.workers.map Worker.holding)
    (hcalls : s'.calls = s.calls) (hreceiver : s'.receiver = s.receiver)
    (hguard : s'.guard = s.guard) (hslots : s'.slotLocks = s.slotLocks)
    (hholding : s'.flusher.holding = s.flusher.holding) : Locked s' := by
  refine inv.flusher_step hworkers hcalls hreceiver ?_ fun slot => ?_
  · rw [hguard, hholding]
    exact .kept Iff.rfl
  · rw [hslots, hholding]
    exact .kept Iff.rfl

lemma Locked.flusher (inv : Locked s) (h : FlusherMoves plan s m s' events) : Locked s' := by
  cases h with
  | tick hf hfree =>
    refine inv.flusher_step rfl rfl rfl (.taken hfree rfl) fun slot => ?_
    exact .kept (by simp [hf, Flusher.holding, Holding.nothing, Holding.theGuard])
  | skipTick _ _ => exact inv
  | takeHandoff h hf _ => exact inv.flusher_keep rfl rfl rfl rfl rfl (by rw [hf]; rfl)
  | beginHandoff slot h hf hfree _ =>
    refine inv.flusher_step (map_tellSender holding_hear _ _ _) rfl rfl ?_ ?_
    · exact .kept (by simp [hf, Flusher.holding, Holding.nothing])
    · exact passed_take_slot hfree (by simp [hf, Flusher.holding, Holding.nothing])
  | emptyHandoff slot h hf _ _ =>
    exact inv.flusher_keep (map_tellSender holding_hear _ _ _) rfl rfl rfl rfl (by rw [hf]; rfl)
  | beginTimer slot hf hfree _ =>
    refine inv.flusher_step rfl rfl rfl ?_ ?_
    · exact .kept (by simp [hf, Flusher.holding, Holding.nothing])
    · exact passed_take_slot hfree (by simp [hf, Flusher.holding, Holding.nothing])
  | emptyTimer slot hf _ _ => exact inv.flusher_keep rfl rfl rfl rfl rfl (by rw [hf]; rfl)
  | keep hf _ _ | look full hf _ =>
    refine inv.flusher_step rfl rfl rfl ?_ fun slot => ?_
    · exact .given (by simp [hf, Flusher.holding, Holding.theGuard])
        (by simp [Flusher.holding, Holding.nothing])
    · exact .kept (by simp [hf, Flusher.holding, Holding.nothing, Holding.theGuard])
  | swap hf _ _ => exact inv.flusher_keep rfl rfl rfl rfl rfl (by rw [hf]; rfl)
  | stop hf _ =>
    exact inv.flusher_keep (map_tellDropped holding_hear _ _) rfl rfl rfl rfl (by rw [hf]; rfl)
  | finish slot a r stored hf _ =>
    refine inv.flusher_step rfl rfl rfl ?_ ?_
    · exact .kept (by simp [hf, Flusher.holding, Holding.nothing])
    · rw [hf]
      exact passed_give_slot rfl
  | retry slot a r delay hf _ => exact inv.flusher_keep rfl rfl rfl rfl rfl (by rw [hf]; rfl)
  | fail slot a r hf _ =>
    refine inv.flusher_step (map_tellDropped holding_hear _ _) rfl rfl ?_ ?_
    · exact .kept (by simp [hf, Flusher.holding, Holding.nothing])
    · rw [hf]
      exact passed_give_slot rfl
  | wake slot a hf => exact inv.flusher_keep rfl rfl rfl rfl rfl (by rw [hf]; rfl)

/-- A step of a shutdown call may pass the guard or the lock of a slot on. -/
lemma Locked.shutdown_step {k : Nat} {c c' : Shutdown} (inv : Locked s)
    (hc : s.calls[k]? = some c) (hcalls : s'.calls = s.calls.set k c')
    (hworkers : s'.workers = s.workers) (hflusher : s'.flusher = s.flusher)
    (hreceiver : s'.receiver = s.receiver)
    (hguard : Passed (.shutdown k) s.guard s'.guard (c.holding.guard = true)
      (c'.holding.guard = true))
    (hslots : ∀ slot, Passed (.shutdown k) (s.slotLocks.get slot) (s'.slotLocks.get slot)
      (c.holding.slot = some slot) (c'.holding.slot = some slot)) : Locked s' := by
  have hlt := (List.getElem?_eq_some_iff.mp hc).1
  have hself : s'.holding (.shutdown k) = c'.holding := holding_shutdown (by simp [hcalls, hlt])
  have hother : ∀ t, t ≠ .shutdown k → s'.holding t = s.holding t := by
    intro t ht
    cases t with
    | worker i => simp only [State.holding, hworkers]
    | flusher => simp only [State.holding, hflusher]
    | shutdown j =>
      have hkj : k ≠ j := by
        intro hkj
        exact ht (by rw [hkj])
      simp only [State.holding, hcalls, List.map_set, List.getElem?_set_ne hkj]
  constructor
  · rw [hreceiver]
    apply inv.receiver.same
    intro i
    rw [hother (.worker i) (by simp)]
  · apply inv.guard.pass (t := .shutdown k)
    · intro t ht
      rw [hother t ht]
    · rw [hself, holding_shutdown hc]
      exact hguard
  · intro slot
    apply (inv.slots slot).pass (t := .shutdown k)
    · intro t ht
      rw [hother t ht]
    · rw [hself, holding_shutdown hc]
      exact hslots slot

lemma Locked.shutdown {k : Nat} (inv : Locked s) (h : ShutdownMoves plan s k m s' events) :
    Locked s' := by
  have hkept : ∀ slot, Passed (Task.shutdown k) (s.slotLocks.get slot) (s.slotLocks.get slot)
      (none = some slot) (none = some slot) := fun _ => .kept Iff.rfl
  cases h with
  | close hc => exact inv.shutdown_step hc rfl rfl rfl rfl (.kept Iff.rfl) hkept
  | late hc _ => exact inv.shutdown_step hc rfl rfl rfl rfl (.kept Iff.rfl) hkept
  | claim hc _ => exact inv.shutdown_step hc rfl rfl rfl rfl (.kept Iff.rfl) hkept
  | join hc _ => exact inv.shutdown_step hc rfl rfl rfl rfl (.kept Iff.rfl) hkept
  | flusherStopped hc _ => exact inv.shutdown_step hc rfl rfl rfl rfl (.kept Iff.rfl) hkept
  | flusherFailed hc _ => exact inv.shutdown_step hc rfl rfl rfl rfl (.kept Iff.rfl) hkept
  | takeGuard hc hfree => exact inv.shutdown_step hc rfl rfl rfl rfl (.taken hfree rfl) hkept
  | done drained hc =>
    exact inv.shutdown_step hc rfl rfl rfl rfl
      (.given rfl (by simp [Shutdown.holding, Holding.nothing])) hkept
  | skip slot slots drained hc _ _ =>
    exact inv.shutdown_step hc rfl rfl rfl rfl (.kept Iff.rfl) hkept
  | begin slot slots drained hc hfree _ =>
    exact inv.shutdown_step hc rfl rfl rfl rfl (.kept Iff.rfl) (passed_take_slot hfree rfl)
  | finish slot a slots drained r stored hc _ =>
    exact inv.shutdown_step hc rfl rfl rfl rfl (.kept Iff.rfl) (passed_give_slot rfl)
  | retry slot a slots drained r delay hc _ =>
    exact inv.shutdown_step hc rfl rfl rfl rfl (.kept Iff.rfl) fun _ => .kept Iff.rfl
  | fail slot a slots drained r hc _ =>
    exact inv.shutdown_step hc rfl rfl rfl rfl
      (.given rfl (by simp [Shutdown.holding, Holding.nothing])) (passed_give_slot rfl)
  | wake slot a slots drained hc =>
    exact inv.shutdown_step hc rfl rfl rfl rfl (.kept Iff.rfl) fun _ => .kept Iff.rfl

lemma Locked.transition (inv : Locked s) (h : Transition plan s m s' events) : Locked s' := by
  cases h with
  | send hoffered => cases hoffered <;> exact ⟨inv.receiver, inv.guard, inv.slots⟩
  | callShutdown =>
    have hsame : ∀ t, State.holding { s with calls := s.calls ++ [.closing] } t = s.holding t := by
      intro t
      cases t with
      | worker i => rfl
      | flusher => rfl
      | shutdown k =>
        simp only [State.holding, List.map_append, List.getElem?_append]
        split
        · rfl
        · next hk =>
          have hnone : (s.calls.map Shutdown.holding)[k]? = none :=
            List.getElem?_eq_none (Nat.le_of_not_lt hk)
          rw [hnone]
          cases k - (s.calls.map Shutdown.holding).length <;> rfl
    exact ⟨inv.receiver.same fun i => by rw [hsame],
      inv.guard.same fun t => by rw [hsame],
      fun slot => (inv.slots slot).same fun t => by rw [hsame]⟩
  | worker hworker => exact inv.worker hworker
  | flusher hflusher => exact inv.flusher hflusher
  | shutdown hshutdown => exact inv.shutdown hshutdown

end Steps

lemma locked_start (plan : Plan ε) : Locked (State.start plan) := by
  have hnothing : ∀ t, (State.start plan).holding t = .nothing := by
    intro t
    cases t with
    | worker i =>
      simp only [State.holding, State.start, List.map_replicate, List.getElem?_replicate]
      split <;> rfl
    | flusher => rfl
    | shutdown k => rfl
  constructor
  · intro i
    simp only [hnothing, Holding.nothing]
    simp [State.start]
  · intro t
    simp only [hnothing, Holding.nothing]
    simp [State.start]
  · intro slot t
    simp only [hnothing, Holding.nothing]
    cases slot <;> simp [State.start, PerSlot.get]

theorem Run.locked {plan : Plan ε} {s : State ε} {history : List (Event ε)}
    (run : Run plan s history) : Locked s := by
  induction run with
  | start => exact locked_start plan
  | step m _ hstep inv => exact inv.transition (step_transition hstep)

end AuditTrail.Pipeline
