import AuditTrail.Proofs.Ledger
import AuditTrail.Proofs.Rendezvous
import AuditTrail.Proofs.Schedule

/-!
# Batches are generations

The buffer counts its swaps, so the entries fall into generations: those that were pushed under the
same count. The two slots and the two writers are one way to keep a log. Every batch is a whole
generation, the batches come in the order of the generations, and what is still in the slots is
the end of the log: the generations that are closed and wait to be written, and the current one.
-/

namespace AuditTrail.Pipeline

variable {ε : Type}

/-- The slot that the flusher has swapped out by itself and is about to write. -/
def Flusher.due? : Flusher → Option Slot
  | .locking slot .timer => some slot
  | _ => none

def Task.isShutdown : Task → Bool
  | .shutdown _ => true
  | _ => false

namespace State

/-- The slots of closed generations that wait to be written, the older one first. -/
def pending (s : State ε) : List Slot :=
  s.flusher.due?.toList ++ s.full?.toList

/-- The entries of the current generation. Right after a swap the active slot may still hold those
of an older one, and a shutdown call may be writing them already. -/
def current (s : State ε) : List ε :=
  if s.full?.isSome || (s.slotLocks.get s.buffer.active).any Task.isShutdown then []
  else s.buffer.contents s.buffer.active

/-- What is still to be written, generation by generation. -/
def unwritten (s : State ε) : List (List ε) :=
  s.pending.map s.buffer.contents ++ [s.current]

end State

/-- The lists that hold any entries. -/
def withEntries (lists : List (List ε)) : List (List ε) :=
  lists.filter fun entries => !entries.isEmpty

/-- The entries that were pushed, generation by generation up to the last one. -/
def generations (history : List (Event ε)) (last : Nat) : List (List ε) :=
  (List.range (last + 1)).map (pushedUnder history)

/-- The log of the generations: the batches, and then what is still to be written. -/
structure Generational (s : State ε) (history : List (Event ε)) : Prop where
  bounded : ∀ p ∈ pushesIn history, p.2 ≤ s.buffer.generation
  current : s.flusher.isGone = false → pushedUnder history s.buffer.generation = s.current
  closed : ∀ k < s.buffer.generation, pushedUnder history k ≠ []
  written : withEntries (generations history s.buffer.generation) =
    batchesIn history ++ withEntries s.unwritten
  log : pushedIn history = (generations history s.buffer.generation).flatten

section Lists

variable {history events : List (Event ε)}

lemma withEntries_append (first second : List (List ε)) :
    withEntries (first ++ second) = withEntries first ++ withEntries second :=
  List.filter_append first second

@[simp] lemma withEntries_nil : withEntries ([[]] : List (List ε)) = [] := rfl

lemma withEntries_singleton {entries : List ε} (h : entries ≠ []) :
    withEntries [entries] = [entries] := by
  simp [withEntries, h]

lemma flatten_withEntries (lists : List (List ε)) :
    (withEntries lists).flatten = lists.flatten := by
  unfold withEntries
  exact List.flatten_filter_not_isEmpty

lemma generations_eq (history : List (Event ε)) (last : Nat) :
    generations history last =
      (List.range last).map (pushedUnder history) ++ [pushedUnder history last] := by
  unfold generations
  rw [List.range_succ, List.map_append]
  rfl

lemma generations_succ (history : List (Event ε)) (last : Nat) :
    generations history (last + 1) =
      generations history last ++ [pushedUnder history (last + 1)] :=
  generations_eq history (last + 1)

lemma pushedUnder_of_no_push (h : pushesIn events = []) :
    pushedUnder (history ++ events) = pushedUnder history := by
  funext k
  rw [pushedUnder_append]
  simp [pushedUnder, h]

lemma pushedIn_of_no_push (h : pushesIn events = []) :
    pushedIn (history ++ events) = pushedIn history := by
  rw [pushedIn_append]
  simp [pushedIn, h]

lemma pushesIn_of_no_push (h : pushesIn events = []) :
    pushesIn (history ++ events) = pushesIn history := by
  rw [pushesIn_append, h, List.append_nil]

end Lists

section Steps

variable {plan : Plan ε} {s s' : State ε} {m : Move ε} {history events : List (Event ε)}

/-- A step without a swap or a push moves the first of the unwritten generations to the batches, or
none. -/
lemma Generational.write (inv : Generational s history) (hpushes : pushesIn events = [])
    (hgeneration : s'.buffer.generation = s.buffer.generation)
    (hcurrent : s'.flusher.isGone = false → s.flusher.isGone = false ∧ s'.current = s.current)
    (hwritten : withEntries s.unwritten = batchesIn events ++ withEntries s'.unwritten) :
    Generational s' (history ++ events) := by
  have hunder : pushedUnder (history ++ events) = pushedUnder history :=
    pushedUnder_of_no_push hpushes
  have hgenerations : generations (history ++ events) = generations history := by
    unfold generations
    rw [hunder]
  constructor
  · rw [pushesIn_of_no_push hpushes, hgeneration]
    exact inv.bounded
  · rw [hunder, hgeneration]
    intro hgone
    obtain ⟨hgone, hsame⟩ := hcurrent hgone
    rw [hsame]
    exact inv.current hgone
  · rw [hunder, hgeneration]
    exact inv.closed
  · rw [hgenerations, hgeneration, inv.written, hwritten, batchesIn_append, List.append_assoc]
  · rw [pushedIn_of_no_push hpushes, hgenerations, hgeneration]
    exact inv.log

/-- A generation that has not begun has no entries. -/
lemma Generational.later (inv : Generational s history) {k : Nat}
    (hk : s.buffer.generation < k) : pushedUnder history k = [] := by
  unfold pushedUnder
  rw [List.map_eq_nil_iff, List.filter_eq_nil_iff]
  intro p hp
  have hle := inv.bounded p hp
  simp only [decide_eq_true_eq]
  omega

/-- A swap closes the current generation and opens an empty one. -/
lemma Generational.swap (inv : Generational s history) (hpushes : pushesIn events = [])
    (hbatches : batchesIn events = [])
    (hgeneration : s'.buffer.generation = s.buffer.generation + 1)
    (hgone : s.flusher.isGone = false) (hne : s.current ≠ []) (hcurrent : s'.current = [])
    (hunwritten : s'.unwritten = s.unwritten ++ [[]]) :
    Generational s' (history ++ events) := by
  have hunder : pushedUnder (history ++ events) = pushedUnder history :=
    pushedUnder_of_no_push hpushes
  have hgenerations : generations (history ++ events) = generations history := by
    unfold generations
    rw [hunder]
  have hempty := inv.later (Nat.lt_succ_self s.buffer.generation)
  constructor
  · rw [pushesIn_of_no_push hpushes, hgeneration]
    intro p hp
    exact Nat.le_succ_of_le (inv.bounded p hp)
  · intro _
    rw [hunder, hgeneration, hempty, hcurrent]
  · rw [hunder, hgeneration]
    intro k hk
    rcases Nat.lt_succ_iff_lt_or_eq.mp hk with hk | rfl
    · exact inv.closed k hk
    · rw [inv.current hgone]
      exact hne
  · rw [hgenerations, hgeneration, generations_succ, hempty, withEntries_append, inv.written,
      batchesIn_append, hbatches, hunwritten, withEntries_append, List.append_nil,
      List.append_assoc]
  · rw [pushedIn_of_no_push hpushes, hgenerations, hgeneration, generations_succ, hempty, inv.log]
    simp

/-- A push adds an entry to the current generation. -/
lemma Generational.push {e : ε} (inv : Generational s history)
    (hgeneration : s'.buffer.generation = s.buffer.generation)
    (hgone : s.flusher.isGone = false) (hcurrent : s'.current = s.current ++ [e])
    (hpending : s'.pending.map s'.buffer.contents = s.pending.map s.buffer.contents) :
    Generational s' (history ++ [.pushed e s.buffer.generation]) := by
  have hother : ∀ k, k ≠ s.buffer.generation →
      pushedUnder (history ++ [.pushed e s.buffer.generation]) k = pushedUnder history k := by
    intro k hk
    rw [pushedUnder_append]
    simp [pushedUnder, pushesIn, Event.pushed?, Ne.symm hk]
  have hself : pushedUnder (history ++ [.pushed e s.buffer.generation]) s.buffer.generation =
      s.current ++ [e] := by
    rw [pushedUnder_append, inv.current hgone]
    simp [pushedUnder, pushesIn, Event.pushed?]
  have hrange : (List.range s.buffer.generation).map
      (pushedUnder (history ++ [.pushed e s.buffer.generation])) =
      (List.range s.buffer.generation).map (pushedUnder history) := by
    apply List.map_congr_left
    intro k hk
    exact hother k (Nat.ne_of_lt (List.mem_range.mp hk))
  have hwritten := inv.written
  have hlog := inv.log
  rw [generations_eq, inv.current hgone] at hwritten hlog
  constructor
  · rw [pushesIn_append, hgeneration]
    intro p hp
    rcases List.mem_append.mp hp with hp | hp
    · exact inv.bounded p hp
    · cases List.mem_singleton.mp hp
      exact Nat.le_refl _
  · intro _
    rw [hgeneration, hself, hcurrent]
  · rw [hgeneration]
    intro k hk
    rw [hother k (Nat.ne_of_lt hk)]
    exact inv.closed k hk
  · rw [hgeneration, generations_eq, hrange, hself]
    unfold State.unwritten at hwritten ⊢
    rw [hpending, hcurrent]
    simp only [withEntries_append, ← List.append_assoc] at hwritten ⊢
    rw [List.append_cancel_right hwritten, batchesIn_append]
    simp [batchesIn, Event.batch?]
  · rw [hgeneration, generations_eq, hrange, hself, pushedIn_append, hlog]
    simp [pushedIn, pushesIn, Event.pushed?]

lemma current_same (hfull : s'.full? = s.full?) (hbuffer : s'.buffer = s.buffer)
    (hlocks : (s'.slotLocks.get s.buffer.active).any Task.isShutdown =
      (s.slotLocks.get s.buffer.active).any Task.isShutdown) : s'.current = s.current := by
  unfold State.current
  rw [hfull, hbuffer, hlocks]

lemma unwritten_same (hfull : s'.full? = s.full?) (hbuffer : s'.buffer = s.buffer)
    (hlocks : (s'.slotLocks.get s.buffer.active).any Task.isShutdown =
      (s.slotLocks.get s.buffer.active).any Task.isShutdown)
    (hdue : s'.flusher.due? = s.flusher.due?) : s'.unwritten = s.unwritten := by
  unfold State.unwritten State.pending
  rw [current_same hfull hbuffer hlocks, hfull, hbuffer, hdue]

lemma Generational.keep (inv : Generational s history) (hpushes : pushesIn events = [])
    (hbatches : batchesIn events = []) (hfull : s'.full? = s.full?)
    (hbuffer : s'.buffer = s.buffer) (hlocks : s'.slotLocks = s.slotLocks)
    (hdue : s'.flusher.due? = s.flusher.due?)
    (hgone : s'.flusher.isGone = false → s.flusher.isGone = false) :
    Generational s' (history ++ events) := by
  refine inv.write hpushes (by rw [hbuffer]) ?_ ?_
  · intro hgone'
    exact ⟨hgone hgone', current_same hfull hbuffer (by rw [hlocks])⟩
  · rw [unwritten_same hfull hbuffer (by rw [hlocks]) hdue, hbatches]
    rfl

/-! ### Workers -/

lemma due_target {f : Flusher} {slot : Slot} (h : f.due? = some slot) : f.target? = some slot := by
  cases f with
  | locking other origin =>
    cases origin with
    | handoff _ => cases h
    | timer => exact h
  | _ => cases h

/-- A slot that nobody has locked, with nothing swapped out, holds the current generation. -/
lemma current_of_free (hfull : s.full? = none) (hfree : s.slotLocks.get s.buffer.active = none) :
    s.current = s.buffer.contents s.buffer.active := by
  simp [State.current, hfull, hfree]

lemma current_of_full {slot : Slot} (hfull : s.full? = some slot) : s.current = [] := by
  simp [State.current, hfull]

lemma unwritten_swap (hfull : s.full? = none) (hfree : s.slotLocks.get s.buffer.active = none)
    (hfull' : s'.full? = some s.buffer.active) (hcontents : s'.buffer.contents = s.buffer.contents)
    (hdue : s'.flusher.due? = s.flusher.due?) : s'.unwritten = s.unwritten ++ [[]] := by
  unfold State.unwritten State.pending
  rw [current_of_free hfull hfree, current_of_full hfull', hfull, hfull', hcontents, hdue]
  simp

/-- A flusher that stops or has stopped leaves no worker behind. -/
lemma not_gone_of_worker {i : Nat} {w : Worker ε} (horder : EndsInOrder s)
    (hunbroken : s.Unbroken) (hw : s.workers[i]? = some w) (hne : w ≠ .stopped) :
    s.flusher.isGone = false := by
  by_contra hgone
  exact hunbroken.flusher (horder.refused hw hne (by simpa using hgone))

/-- A worker that neither swaps nor pushes. -/
lemma Generational.worker_keep {i : Nat} {w w' : Worker ε} (inv : Generational s history)
    (hw : s.workers[i]? = some w) (hworkers : s'.workers = s.workers.set i w')
    (hfull : w'.full? = w.full?) (hpushes : pushesIn events = [])
    (hbatches : batchesIn events = []) (hguard : s'.guard = s.guard)
    (hbuffer : s'.buffer = s.buffer) (hlocks : s'.slotLocks = s.slotLocks)
    (hflusher : s'.flusher = s.flusher) : Generational s' (history ++ events) := by
  apply inv.keep hpushes hbatches _ hbuffer hlocks
  · rw [hflusher]
  · rw [hflusher]
    exact id
  · exact full_of_worker_keep hw hguard hworkers hflusher hfull

lemma Generational.worker {i : Nat} (inv : Generational s history) (hlocked : Locked s)
    (horder : EndsInOrder s) (hmeet : Rendezvous s) (hunbroken : s.Unbroken)
    (h : WorkerMoves plan s i s' events) : Generational s' (history ++ events) := by
  cases h with
  | takeReceiver hw _ => exact inv.worker_keep hw rfl rfl rfl rfl rfl rfl rfl rfl
  | receive e queue hw _ => exact inv.worker_keep hw rfl rfl rfl rfl rfl rfl rfl rfl
  | stop hw _ _ => exact inv.worker_keep hw rfl rfl rfl rfl rfl rfl rfl rfl
  | redact e hw => exact inv.worker_keep hw rfl rfl rfl rfl rfl rfl rfl rfl
  | keep e hw _ _ => exact inv.worker_keep hw rfl rfl rfl rfl rfl rfl rfl rfl
  | look e full hw _ => exact inv.worker_keep hw rfl rfl rfl rfl rfl rfl rfl rfl
  | handOver e full hw _ _ => exact inv.worker_keep hw rfl rfl rfl rfl rfl rfl rfl rfl
  | received e full hw => exact inv.worker_keep hw rfl rfl rfl rfl rfl rfl rfl rfl
  | dropped e full hw => exact inv.worker_keep hw rfl rfl rfl rfl rfl rfl rfl rfl
  | takeGuard e hw hfree =>
    have hlt := (List.getElem?_eq_some_iff.mp hw).1
    refine inv.keep rfl rfl ?_ rfl rfl rfl id
    rw [full_of_free hfree]
    exact full_of_guard (i := i) (w := .measuring e) rfl (by simp [hlt])
  | refused e full hw hgone =>
    exact (hunbroken.flusher (horder.refused hw (by simp) hgone)).elim
  | swap e hw hfree hlarge =>
    have hguard := hlocked.guard_worker hw rfl
    have hfull : s.full? = none := full_of_guard hguard hw
    have hcurrent := current_of_free hfull hfree
    have hfull' : State.full? { s with
        buffer := s.buffer.swap
        workers := s.workers.set i (.swapping e s.buffer.active) } = some s.buffer.active :=
      full_of_worker_step hguard hw rfl rfl rfl
    refine inv.swap rfl rfl rfl (not_gone_of_worker horder hunbroken hw (by simp)) ?_
      (current_of_full hfull') (unwritten_swap hfull hfree hfull' rfl rfl)
    rw [current_of_free hfull hfree]
    intro hempty
    unfold DoubleBuffer.activeLength at hlarge
    rw [hempty] at hlarge
    cases hlarge
  | push e hw hfree =>
    have hguard := hlocked.guard_worker hw rfl
    have hfull : s.full? = none := full_of_guard hguard hw
    have hfull' : State.full? { s with
        buffer := s.buffer.push e, guard := none, workers := s.workers.set i .waiting } = none :=
      rfl
    refine inv.push rfl (not_gone_of_worker horder hunbroken hw (by simp)) ?_ ?_
    · rw [current_of_free hfull hfree]
      refine Eq.trans (current_of_free hfull' hfree) ?_
      exact s.buffer.contents_push_active e
    · unfold State.pending
      rw [hfull', hfull]
      apply List.map_congr_left
      intro slot hslot
      have htarget : s.flusher.target? = some slot := due_target (by simpa using hslot)
      have hbackup := (hmeet.target slot htarget).trans (oldest_of_none hfull)
      rw [hbackup]
      exact s.buffer.contents_push_backup e

/-! ### The flusher -/

lemma current_of_empty (h : s.buffer.contents s.buffer.active = []) : s.current = [] := by
  unfold State.current
  rw [h, ite_self]

/-- Before the flusher has a slot that was handed over to it, this slot is all there is to write. -/
lemma unwritten_handed {slot : Slot} {h : Handoff} (hmeet : Rendezvous s)
    (hf : s.flusher = .locking slot (.handoff h)) :
    s.unwritten = [s.buffer.contents slot, []] := by
  obtain ⟨hslot, hu, -⟩ := hmeet.handed hf
  unfold State.unwritten State.pending
  rw [current_of_full hu.full, hu.full, hf, hslot, hmeet.full h.slot hu.full]
  rfl

/-- A slot that the flusher is about to write by itself comes first. -/
lemma unwritten_due {slot : Slot} (hdue : s.flusher.due? = some slot)
    (hdue' : s'.flusher.due? = none) (hfull : s'.full? = s.full?) (hbuffer : s'.buffer = s.buffer)
    (hlocks : (s'.slotLocks.get s.buffer.active).any Task.isShutdown =
      (s.slotLocks.get s.buffer.active).any Task.isShutdown) :
    s.unwritten = s.buffer.contents slot :: s'.unwritten := by
  unfold State.unwritten State.pending
  rw [current_same hfull hbuffer hlocks, hfull, hbuffer, hdue, hdue']
  rfl

lemma withEntries_cons (entries : List ε) (lists : List (List ε)) :
    withEntries (entries :: lists) = withEntries [entries] ++ withEntries lists :=
  withEntries_append [entries] lists

/-- The flusher is no shutdown call, so its locks do not show in the current generation. -/
lemma any_shutdown_set_flusher (slot other : Slot) (hfree : s.slotLocks.get slot = none) :
    ((s.slotLocks.set slot (some .flusher)).get other).any Task.isShutdown =
      (s.slotLocks.get other).any Task.isShutdown := by
  rw [PerSlot.get_set]
  split
  · next hother =>
    rw [hother, hfree]
    rfl
  · rfl

lemma Generational.begin_handoff {slot : Slot} {h : Handoff} (inv : Generational s history)
    (hmeet : Rendezvous s) (hf : s.flusher = .locking slot (.handoff h))
    (hpushes : pushesIn events = []) (hfull : s'.full? = none) (hbuffer : s'.buffer = s.buffer)
    (hdue : s'.flusher.due? = none)
    (hbatches : batchesIn events = withEntries [s.buffer.contents slot]) :
    Generational s' (history ++ events) := by
  obtain ⟨-, hu, hactive⟩ := hmeet.handed hf
  have hcurrent : s'.current = [] := current_of_empty (by rw [hbuffer]; exact hactive)
  refine inv.write hpushes (by rw [hbuffer]) ?_ ?_
  · intro _
    exact ⟨by rw [hf]; rfl, hcurrent.trans (current_of_full hu.full).symm⟩
  · have hunwritten : s'.unwritten = [[]] := by
      unfold State.unwritten State.pending
      rw [hfull, hdue, hcurrent]
      rfl
    rw [unwritten_handed hmeet hf, hunwritten, hbatches, withEntries_cons]

/-- The slot that the flusher has written is none of those that are still to be written. -/
lemma unwritten_clear {slot : Slot} (hmeet : Rendezvous s) (hslot : slot = s.oldest)
    (hfull : s'.full? = s.full?) (hbuffer : s'.buffer = s.buffer.clear slot)
    (hlocks : (s'.slotLocks.get s.buffer.active).any Task.isShutdown =
      (s.slotLocks.get s.buffer.active).any Task.isShutdown)
    (hdue : s.flusher.due? = none) (hdue' : s'.flusher.due? = none) :
    s'.current = s.current ∧ s'.unwritten = s.unwritten := by
  have hactive : s'.buffer.active = s.buffer.active := by rw [hbuffer]; rfl
  cases hs : s.full? with
  | none =>
    rw [oldest_of_none hs] at hslot
    rw [hs] at hfull
    have hne : s.buffer.active ≠ slot := by
      rw [hslot]
      exact s.buffer.backup_ne_active.symm
    have hcurrent : s'.current = s.current := by
      unfold State.current
      rw [hfull, hs, hactive, hlocks, hbuffer, DoubleBuffer.contents_clear, if_neg hne]
    refine ⟨hcurrent, ?_⟩
    unfold State.unwritten State.pending
    rw [hcurrent, hfull, hs, hdue, hdue']
    rfl
  | some full =>
    rw [oldest_of_some hs] at hslot
    rw [hs] at hfull
    have hne : full ≠ slot := by
      rw [hmeet.full full hs, hslot]
      exact s.buffer.backup_ne_active
    have hcurrent : s'.current = s.current := by
      rw [current_of_full hs, current_of_full hfull]
    refine ⟨hcurrent, ?_⟩
    unfold State.unwritten State.pending
    rw [hcurrent, hfull, hs, hdue, hdue', hbuffer]
    simp [DoubleBuffer.contents_clear, hne]

/-- The flusher begins with the slot that it has swapped out by itself, which is a batch if it has
entries. -/
lemma Generational.begin_timer {slot : Slot} (inv : Generational s history) (hlocked : Locked s)
    (hf : s.flusher = .locking slot .timer) (hpushes : pushesIn events = [])
    (hguard : s'.guard = s.guard) (hworkers : s'.workers = s.workers)
    (hbuffer : s'.buffer = s.buffer) (hdue : s'.flusher.due? = none)
    (hlocks : (s'.slotLocks.get s.buffer.active).any Task.isShutdown =
      (s.slotLocks.get s.buffer.active).any Task.isShutdown)
    (hbatches : batchesIn events = withEntries [s.buffer.contents slot]) :
    Generational s' (history ++ events) := by
  have hfull : s'.full? = s.full? :=
    full_without_flusher (hlocked.guard_ne_flusher (by rw [hf]; rfl)) hguard hworkers
  refine inv.write hpushes (by rw [hbuffer]) ?_ ?_
  · intro _
    exact ⟨by rw [hf]; rfl, current_same hfull hbuffer hlocks⟩
  · rw [unwritten_due (by rw [hf]; rfl) hdue hfull hbuffer hlocks, withEntries_cons, hbatches]

lemma Generational.flusher_swaps (inv : Generational s history) (hlocked : Locked s)
    (hf : s.flusher = .measuring) (hfree : s.slotLocks.get s.buffer.active = none)
    (hne : s.buffer.activeLength ≠ 0) :
    Generational { s with buffer := s.buffer.swap, flusher := .swapping s.buffer.active }
      (history ++ []) := by
  have hguard := hlocked.guard_flusher (by rw [hf]; rfl)
  have hfull : s.full? = none := (full_of_flusher hguard).trans (by rw [hf]; rfl)
  have hfull' : State.full? { s with
      buffer := s.buffer.swap
      flusher := .swapping s.buffer.active } = some s.buffer.active := full_of_flusher hguard
  refine inv.swap rfl rfl rfl (by rw [hf]; rfl) ?_ (current_of_full hfull')
    (unwritten_swap hfull hfree hfull' rfl (by rw [hf]; rfl))
  rw [current_of_free hfull hfree]
  intro hempty
  exact hne (by unfold DoubleBuffer.activeLength; rw [hempty]; rfl)

/-- The guard is given back before the slot is locked. The slot stays pending, now as the one that
is due, and the current generation has not begun. -/
lemma Generational.flusher_looks {full : Slot} (inv : Generational s history) (hlocked : Locked s)
    (hmeet : Rendezvous s) (hf : s.flusher = .swapping full) (hpushes : pushesIn events = [])
    (hbatches : batchesIn events = []) :
    Generational { s with guard := none, flusher := .locking full .timer }
      (history ++ events) := by
  have hguard := hlocked.guard_flusher (by rw [hf]; rfl)
  have hfull : s.full? = some full := (full_of_flusher hguard).trans (by rw [hf]; rfl)
  have hactive := hmeet.empty (by rw [hf]; rfl) (by simp [hf])
  rw [oldest_of_some hfull] at hactive
  have hcurrent : State.current { s with guard := none, flusher := .locking full .timer } =
      s.current := by
    rw [current_of_full hfull]
    exact current_of_empty hactive
  refine inv.write hpushes rfl ?_ ?_
  · intro _
    exact ⟨by rw [hf]; rfl, hcurrent⟩
  · unfold State.unwritten State.pending
    rw [hcurrent, hfull, hf, hbatches]
    rfl

/-- The batch was counted when its delivery began, so the slot that is cleared is not pending. -/
lemma Generational.flusher_finishes {slot : Slot} {phase : Phase} (inv : Generational s history)
    (hlocked : Locked s) (hmeet : Rendezvous s) (hf : s.flusher = .writing slot phase)
    (hpushes : pushesIn events = []) (hbatches : batchesIn events = []) :
    Generational
      { s with
        buffer := s.buffer.clear slot
        slotLocks := s.slotLocks.set slot none
        flusher := .idle } (history ++ events) := by
  have hslot := hmeet.target slot (by rw [hf]; rfl)
  have howner : s.slotLocks.get slot = some .flusher :=
    (hlocked.slots slot .flusher).mpr (by simp [State.holding, hf, Flusher.holding])
  have hlocks : ((s.slotLocks.set slot none).get s.buffer.active).any Task.isShutdown =
      (s.slotLocks.get s.buffer.active).any Task.isShutdown := by
    rw [PerSlot.get_set]
    split
    · next hactive =>
      rw [hactive, howner]
      rfl
    · rfl
  have hfull : State.full? { s with
      buffer := s.buffer.clear slot
      slotLocks := s.slotLocks.set slot none
      flusher := .idle } = s.full? :=
    full_without_flusher (hlocked.guard_ne_flusher (by rw [hf]; rfl)) rfl rfl
  obtain ⟨hcurrent, hunwritten⟩ :=
    unwritten_clear hmeet hslot hfull rfl hlocks (by rw [hf]; rfl) rfl
  refine inv.write hpushes rfl ?_ ?_
  · intro _
    exact ⟨by rw [hf]; rfl, hcurrent⟩
  · rw [hunwritten, hbatches]
    rfl

/-- While the flusher pauses, calls the sink again or takes a handoff, the log stays as it is. -/
lemma Generational.flusher_keep (inv : Generational s history) (hlocked : Locked s)
    (hholds : s.flusher.holding.guard = false) (hpushes : pushesIn events = [])
    (hbatches : batchesIn events = []) (hguard : s'.guard = s.guard)
    (hworkers : s'.workers = s.workers) (hbuffer : s'.buffer = s.buffer)
    (hlocks : s'.slotLocks = s.slotLocks) (hdue : s'.flusher.due? = s.flusher.due?)
    (hgone : s'.flusher.isGone = false → s.flusher.isGone = false) :
    Generational s' (history ++ events) :=
  inv.keep hpushes hbatches
    (full_without_flusher (hlocked.guard_ne_flusher hholds) hguard hworkers) hbuffer hlocks hdue
    hgone

lemma Generational.flusher (inv : Generational s history) (hlocked : Locked s)
    (horder : EndsInOrder s) (hmeet : Rendezvous s) (hunbroken : s'.Unbroken)
    (h : FlusherMoves plan s m s' events) : Generational s' (history ++ events) := by
  cases h with
  | tick hf hfree =>
    refine inv.keep rfl rfl ?_ rfl rfl (by rw [hf]; rfl) fun _ => by rw [hf]; rfl
    rw [full_of_free hfree]
    exact full_of_flusher rfl
  | skipTick _ _ => exact inv.keep rfl rfl rfl rfl rfl rfl id
  | takeHandoff h hf _ =>
    exact inv.flusher_keep hlocked (by rw [hf]; rfl) rfl rfl rfl rfl rfl rfl (by rw [hf]; rfl)
      fun _ => by rw [hf]; rfl
  | beginHandoff slot h hf _ hne =>
    obtain ⟨-, hu, -⟩ := hmeet.handed hf
    exact inv.begin_handoff hmeet hf rfl (full_of_told hu (by simp) rfl rfl) rfl rfl
      (withEntries_singleton hne).symm
  | emptyHandoff slot h hf _ hempty =>
    obtain ⟨-, hu, -⟩ := hmeet.handed hf
    exact inv.begin_handoff hmeet hf rfl (full_of_told hu (by simp) rfl rfl) rfl rfl
      (by rw [hempty]; rfl)
  | beginTimer slot hf hfree hne =>
    exact inv.begin_timer hlocked hf rfl rfl rfl rfl rfl
      (any_shutdown_set_flusher slot s.buffer.active hfree) (withEntries_singleton hne).symm
  | emptyTimer slot hf _ hempty =>
    exact inv.begin_timer hlocked hf rfl rfl rfl rfl rfl rfl (by rw [hempty]; rfl)
  | keep hf _ _ =>
    have hguard := hlocked.guard_flusher (by rw [hf]; rfl)
    refine inv.keep rfl rfl ?_ rfl rfl (by rw [hf]; rfl) fun _ => by rw [hf]; rfl
    rw [full_of_flusher hguard, hf]
    rfl
  | swap hf hfree hne => exact inv.flusher_swaps hlocked hf hfree hne
  | look full hf _ => exact inv.flusher_looks hlocked hmeet hf rfl rfl
  | stop hf hsignal =>
    have hhandoff := hmeet.no_handoff_left horder hsignal
    exact inv.flusher_keep hlocked (by rw [hf]; rfl) rfl rfl rfl (by rw [hhandoff]; rfl) rfl rfl
      (by rw [hf]; rfl) nofun
  | finish slot a r stored hf _ => exact inv.flusher_finishes hlocked hmeet hf rfl rfl
  | retry slot a r delay hf _ =>
    exact inv.flusher_keep hlocked (by rw [hf]; rfl) rfl rfl rfl rfl rfl rfl (by rw [hf]; rfl)
      fun _ => by rw [hf]; rfl
  | fail slot a r hf _ => exact (hunbroken.flusher rfl).elim
  | wake slot a hf =>
    exact inv.flusher_keep hlocked (by rw [hf]; rfl) rfl rfl rfl rfl rfl rfl (by rw [hf]; rfl)
      fun _ => by rw [hf]; rfl

/-! ### Shutdown calls -/

/-- A call that drains the slots finds nothing else to write than the current generation. -/
lemma unwritten_of_call {k : Nat} (hguard : s.guard = some (.shutdown k))
    (hgone : s.flusher.isGone = true) : s.unwritten = [s.current] := by
  unfold State.unwritten State.pending
  rw [full_of_call hguard]
  cases hf : s.flusher with
  | stopped => rfl
  | failed => rfl
  | _ => simp [hf, Flusher.isGone] at hgone

/-- After the flusher has stopped, only the active slot can hold entries. -/
lemma backup_empty_of_call {k : Nat} (hmeet : Rendezvous s) (hunbroken : s.Unbroken)
    (hguard : s.guard = some (.shutdown k)) (hgone : s.flusher.isGone = true) :
    s.buffer.contents s.buffer.backup = [] := by
  have hstopped : s.flusher = .stopped := by
    cases hf : s.flusher with
    | stopped => rfl
    | failed => exact (hunbroken.flusher hf).elim
    | _ => simp [hf, Flusher.isGone] at hgone
  have hempty := hmeet.empty (by rw [hstopped]; rfl) hunbroken.flusher
  rwa [oldest_of_none (full_of_call hguard)] at hempty

/-- With the guard, a call writes the current generation, or goes on with less to write than
before. -/
lemma Generational.call {k : Nat} (inv : Generational s history)
    (hguard : s.guard = some (.shutdown k)) (hgone : s.flusher.isGone = true)
    (hguard' : s'.guard = s.guard) (hflusher : s'.flusher = s.flusher)
    (hgeneration : s'.buffer.generation = s.buffer.generation) (hpushes : pushesIn events = [])
    (hwritten : withEntries [s.current] = batchesIn events ++ withEntries [s'.current]) :
    Generational s' (history ++ events) := by
  refine inv.write hpushes hgeneration ?_ ?_
  · rw [hflusher, hgone]
    intro hgone'
    cases hgone'
  · rw [unwritten_of_call hguard hgone,
      unwritten_of_call (hguard'.trans hguard) (by rw [hflusher, hgone])]
    exact hwritten

lemma Generational.begin_call {k : Nat} {slot : Slot} {slots : List Slot} {drained : Nat}
    (inv : Generational s history) (hlocked : Locked s) (horder : EndsInOrder s)
    (hmeet : Rendezvous s) (hunbroken : s.Unbroken)
    (hc : s.calls[k]? = some (.draining (slot :: slots) drained))
    (hfree : s.slotLocks.get slot = none) (hne : s.buffer.contents slot ≠ [])
    (hguard' : s'.guard = s.guard) (hflusher : s'.flusher = s.flusher)
    (hbuffer : s'.buffer = s.buffer)
    (hlocks : s'.slotLocks = s.slotLocks.set slot (some (.shutdown k)))
    (hpushes : pushesIn events = []) (hbatches : batchesIn events = [s.buffer.contents slot]) :
    Generational s' (history ++ events) := by
  have hguard := hlocked.guard_shutdown hc rfl
  have hgone := (horder.calls _ (List.mem_of_getElem? hc)).flusher rfl
  have hactive : slot = s.buffer.active := by
    rcases s.buffer.eq_active_or_backup slot with hslot | hslot
    · exact hslot
    · rw [hslot, backup_empty_of_call hmeet hunbroken hguard hgone] at hne
      exact (hne rfl).elim
  subst hactive
  apply inv.call hguard hgone hguard' hflusher (by rw [hbuffer]) hpushes
  have hcurrent : s'.current = [] := by
    simp [State.current, hbuffer, hlocks, Task.isShutdown]
  rw [hcurrent, hbatches, current_of_free (full_of_call hguard) hfree, withEntries_singleton hne]
  rfl

lemma Generational.finish_call {k : Nat} {slot : Slot} {phase : Phase} {slots : List Slot}
    {drained : Nat} (inv : Generational s history) (hlocked : Locked s) (horder : EndsInOrder s)
    (hc : s.calls[k]? = some (.writing slot phase slots drained))
    (hguard' : s'.guard = s.guard) (hflusher : s'.flusher = s.flusher)
    (hbuffer : s'.buffer = s.buffer.clear slot) (hlocks : s'.slotLocks = s.slotLocks.set slot none)
    (hpushes : pushesIn events = []) (hbatches : batchesIn events = []) :
    Generational s' (history ++ events) := by
  have hguard := hlocked.guard_shutdown hc rfl
  have hgone := (horder.calls _ (List.mem_of_getElem? hc)).flusher rfl
  have howner : s.slotLocks.get slot = some (.shutdown k) := by
    apply (hlocked.slots slot (.shutdown k)).mpr
    rw [holding_shutdown hc]
    rfl
  have hactive : s'.buffer.active = s.buffer.active := by
    rw [hbuffer]
    rfl
  apply inv.call hguard hgone hguard' hflusher (by rw [hbuffer]; rfl) hpushes
  have hcurrent : s'.current = s.current := by
    by_cases hslot : s.buffer.active = slot
    · have hbefore : s.current = [] := by simp [State.current, hslot, howner, Task.isShutdown]
      rw [hbefore]
      apply current_of_empty
      rw [hactive, hbuffer, hslot, DoubleBuffer.contents_clear_self]
    · unfold State.current
      rw [full_of_call hguard, full_of_call (hguard'.trans hguard), hactive, hlocks,
        PerSlot.get_set, if_neg hslot, hbuffer, DoubleBuffer.contents_clear, if_neg hslot]
  rw [hcurrent, hbatches]
  rfl

lemma Generational.shutdown {k : Nat} (inv : Generational s history) (hlocked : Locked s)
    (horder : EndsInOrder s) (hmeet : Rendezvous s) (hunbroken : s.Unbroken)
    (hunbroken' : s'.Unbroken) (h : ShutdownMoves plan s k m s' events) :
    Generational s' (history ++ events) := by
  cases h with
  | takeGuard hc hfree =>
    refine inv.keep rfl rfl ?_ rfl rfl rfl id
    simp [State.full?, hfree]
  | done drained hc =>
    refine inv.keep rfl rfl ?_ rfl rfl rfl id
    rw [full_of_call (hlocked.guard_shutdown hc rfl)]
    rfl
  | begin slot slots drained hc hfree hne =>
    exact inv.begin_call hlocked horder hmeet hunbroken hc hfree hne rfl rfl rfl rfl rfl rfl
  | finish slot a slots drained r stored hc _ =>
    exact inv.finish_call hlocked horder hc rfl rfl rfl rfl rfl rfl
  | fail slot a slots drained r hc _ =>
    have hlt := (List.getElem?_eq_some_iff.mp hc).1
    exact (hunbroken'.calls (List.mem_set hlt _)).elim
  | _ => exact inv.keep rfl rfl rfl rfl rfl rfl id

lemma Generational.transition (inv : Generational s history) (hlocked : Locked s)
    (horder : EndsInOrder s) (hmeet : Rendezvous s) (hunbroken : s.Unbroken)
    (hunbroken' : s'.Unbroken) (h : Transition plan s m s' events) :
    Generational s' (history ++ events) := by
  cases h with
  | send hoffered => cases hoffered <;> exact inv.keep rfl rfl rfl rfl rfl rfl id
  | callShutdown => exact inv.keep rfl rfl rfl rfl rfl rfl id
  | worker hworker => exact inv.worker hlocked horder hmeet hunbroken hworker
  | flusher hflusher => exact inv.flusher hlocked horder hmeet hunbroken' hflusher
  | shutdown hshutdown => exact inv.shutdown hlocked horder hmeet hunbroken hunbroken' hshutdown

end Steps

section Runs

variable {plan : Plan ε} {s : State ε} {history : List (Event ε)}

lemma generational_start (plan : Plan ε) : Generational (State.start plan) [] := by
  constructor
  · intro p hp
    cases hp
  · intro _
    rfl
  · intro k hk
    cases hk
  · rfl
  · rfl

theorem Run.generational (run : Run plan s history) (hsink : SinkReturns history) :
    Generational s history := by
  induction run with
  | start => exact generational_start plan
  | step m run hstep inv =>
    have hbefore := ((sinkReturns_append _ _).mp hsink).1
    exact (inv hbefore).transition run.locked run.endsInOrder run.rendezvous
      (run.unbroken hbefore) ((run.step m hstep).unbroken hsink) (step_transition hstep)

/-! ### What the batches are -/

/-- Without gaps: exactly the first generations hold any entries. -/
lemma Generational.exists_count (inv : Generational s history) :
    ∃ n, withEntries (generations history s.buffer.generation) =
      (List.range n).map (pushedUnder history) ∧
      ∀ k, k < n ↔ pushedUnder history k ≠ [] := by
  have hclosed : withEntries ((List.range s.buffer.generation).map (pushedUnder history)) =
      (List.range s.buffer.generation).map (pushedUnder history) := by
    unfold withEntries
    rw [List.filter_eq_self]
    intro entries hentries
    obtain ⟨k, hk, rfl⟩ := List.mem_map.mp hentries
    simpa using inv.closed k (List.mem_range.mp hk)
  rw [generations_eq, withEntries_append, hclosed]
  by_cases hlast : pushedUnder history s.buffer.generation = []
  · refine ⟨s.buffer.generation, by rw [hlast]; simp, ?_⟩
    intro k
    refine ⟨inv.closed k, ?_⟩
    intro hne
    by_contra hk
    rcases Nat.lt_or_eq_of_le (Nat.le_of_not_lt hk) with hk | rfl
    · exact hne (inv.later hk)
    · exact hne hlast
  · refine ⟨s.buffer.generation + 1, ?_, ?_⟩
    · rw [withEntries_singleton hlast, List.range_succ, List.map_append]
      rfl
    · intro k
      constructor
      · intro hk
        rcases Nat.lt_succ_iff_lt_or_eq.mp hk with hk | rfl
        · exact inv.closed k hk
        · exact hlast
      · intro hne
        by_contra hk
        exact hne (inv.later (by omega))

lemma Generational.batches_eq (inv : Generational s history) :
    batchesIn history =
      (List.range (batchesIn history).length).map (pushedUnder history) := by
  obtain ⟨n, hn, -⟩ := inv.exists_count
  have hbegins : batchesIn history <+: (List.range n).map (pushedUnder history) :=
    ⟨_, inv.written.symm.trans hn⟩
  have hle : (batchesIn history).length ≤ n := by simpa using hbegins.length_le
  have htake := List.prefix_iff_eq_take.mp hbegins
  rwa [← List.map_take, List.take_range, Nat.min_eq_left hle] at htake

lemma Generational.batch_ne_nil (inv : Generational s history) :
    ∀ b ∈ batchesIn history, b ≠ [] := by
  intro b hb
  have hmem : b ∈ withEntries (generations history s.buffer.generation) := by
    rw [inv.written]
    exact List.mem_append_left _ hb
  simpa using (List.mem_filter.mp hmem).2

/-- The batches are the beginning of the log. -/
lemma Generational.flatten_begins (inv : Generational s history) :
    (batchesIn history).flatten <+: pushedIn history := by
  rw [inv.log, ← flatten_withEntries (generations _ _), inv.written, List.flatten_append]
  exact List.prefix_append _ _

lemma withEntries_unwritten_of_empty (hempty : ∀ slot, s.buffer.contents slot = []) :
    withEntries s.unwritten = [] := by
  unfold State.unwritten withEntries
  rw [current_of_empty (hempty _), List.filter_eq_nil_iff]
  intro entries hentries
  rcases List.mem_append.mp hentries with hentries | hentries
  · obtain ⟨slot, -, rfl⟩ := List.mem_map.mp hentries
    simp [hempty slot]
  · cases List.mem_singleton.mp hentries
    simp

/-- When the slots are empty, the batches are the whole log. -/
lemma Generational.flatten_eq (inv : Generational s history)
    (hempty : ∀ slot, s.buffer.contents slot = []) :
    (batchesIn history).flatten = pushedIn history := by
  rw [inv.log, ← flatten_withEntries (generations _ _), inv.written,
    withEntries_unwritten_of_empty hempty, List.append_nil]

lemma Generational.count_eq (inv : Generational s history)
    (hempty : ∀ slot, s.buffer.contents slot = []) (k : Nat) :
    k < (batchesIn history).length ↔ pushedUnder history k ≠ [] := by
  obtain ⟨n, hn, hcount⟩ := inv.exists_count
  rw [inv.written, withEntries_unwritten_of_empty hempty, List.append_nil] at hn
  have hlength : (batchesIn history).length = n := by rw [hn]; simp
  rw [hlength]
  exact hcount k

/-- The batches are the generations, one by one and in order, and each of them is the whole list of
the entries that were pushed under it. When the shutdown call that drains the slots has returned,
no generation is left out and the batches together are all that was pushed. -/
theorem batches_are_generations (run : Run plan s history) (hsink : SinkReturns history) :
    batchesIn history =
        (List.range (batchesIn history).length).map (pushedUnder history) ∧
      (∀ b ∈ batchesIn history, b ≠ []) ∧
      (batchesIn history).flatten <+: pushedIn history ∧
      ∀ k drained : Nat, s.calls[k]? = some (.returned (some drained)) →
        (∀ generation, generation < (batchesIn history).length ↔
          pushedUnder history generation ≠ []) ∧
        (batchesIn history).flatten = pushedIn history := by
  have inv := run.generational hsink
  refine ⟨inv.batches_eq, inv.batch_ne_nil, inv.flatten_begins, ?_⟩
  intro k drained hc
  have hempty := run.drained_empty hc
  exact ⟨inv.count_eq hempty, inv.flatten_eq hempty⟩

/-- In the short run there are two generations with one entry each. -/
theorem short_run_batches : ∃ s history, Run narrowPlan s history ∧ SinkReturns history ∧
    s.calls[0]? = some (.returned (some 1)) ∧ batchesIn history = [[1], [3]] ∧
    (∀ generation, generation < (batchesIn history).length ↔
      pushedUnder history generation ≠ []) ∧
    (batchesIn history).flatten = pushedIn history := by
  have hrun : ∃ s history, Run narrowPlan s history ∧ SinkReturns history ∧
      s.calls[0]? = some (.returned (some 1)) ∧ batchesIn history = [[1], [3]] :=
    ⟨_, _, run_iff_exec.mpr ⟨shortRun 1 2 3, rfl⟩, by decide, rfl, rfl⟩
  obtain ⟨s, history, run, hsink, hcall, hbatches⟩ := hrun
  exact ⟨s, history, run, hsink, hcall, hbatches,
    (batches_are_generations run hsink).2.2.2 0 1 hcall⟩

end Runs
end AuditTrail.Pipeline
