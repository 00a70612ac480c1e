import AuditTrail.Proofs.AcceptanceOrder
import AuditTrail.Proofs.FailedFlusher

/-!
# The order of a drain

A shutdown call writes the backup slot before the active one, as if the backup slot held the older
entries. Each slot by itself holds its entries in the order in which they were pushed, and as long
as the flusher lives there is nothing in the backup slot when the call comes. After a failure of the
flusher the slots change places without being emptied: then the active slot may hold entries from
before the last swap, and these are older than what the backup slot got in between. So the two
batches are in the order of the pushes exactly when one of the two conditions fails.
-/

namespace AuditTrail.Pipeline

variable {ε : Type}

/-- Whether a worker has measured the active slot and not pushed yet. -/
def Worker.isMidway : Worker ε → Bool
  | .swapping _ _ | .handing _ _ | .awaiting _ _ _ | .pushing _ => true
  | _ => false

/-- The slots hold the entries of the pushes `held`. Generations alternate between the slots, and no
generation is skipped: the last entry of the backup slot is of the one before the current. -/
structure Layered (s : State ε) (history : List (Event ε)) (held : PerSlot (List (ε × Nat))) :
    Prop where
  contents : ∀ slot, s.buffer.contents slot = (held.get slot).map Prod.fst
  within : ∀ slot, (held.get slot).Sublist (pushesIn history)
  sides : ∀ slot, ∀ p ∈ held.get slot, Slot.ofIndex p.2 = slot
  ascending : (pushesIn history).Pairwise fun p q => p.2 ≤ q.2
  bounded : ∀ p ∈ pushesIn history, p.2 ≤ s.buffer.generation
  active : s.buffer.active = Slot.ofIndex s.buffer.generation
  backup : ∀ p ∈ (held.get s.buffer.backup).getLast?, p.2 + 1 = s.buffer.generation
  fresh : (∀ w ∈ s.workers, w.isMidway = false) →
    ∀ p ∈ (held.get s.buffer.active).getLast?, p.2 = s.buffer.generation

section Steps

variable {plan : Plan ε} {s s' : State ε} {m : Move ε} {history events : List (Event ε)}
  {held : PerSlot (List (ε × Nat))}

lemma Layered.same (inv : Layered s history held) (hbuffer : s'.buffer = s.buffer)
    (hidle : (∀ w ∈ s'.workers, w.isMidway = false) → ∀ w ∈ s.workers, w.isMidway = false)
    (hpushes : pushesIn events = []) : Layered s' (history ++ events) held := by
  constructor
  · rw [hbuffer]
    exact inv.contents
  · rw [pushesIn_of_no_push hpushes]
    exact inv.within
  · exact inv.sides
  · rw [pushesIn_of_no_push hpushes]
    exact inv.ascending
  · rw [pushesIn_of_no_push hpushes, hbuffer]
    exact inv.bounded
  · rw [hbuffer]
    exact inv.active
  · rw [hbuffer]
    exact inv.backup
  · rw [hbuffer]
    intro hidle'
    exact inv.fresh (hidle hidle')

lemma Layered.push {e : ε} (inv : Layered s history held) (hbuffer : s'.buffer = s.buffer.push e) :
    Layered s' (history ++ [.pushed e s.buffer.generation])
      (held.set s.buffer.active (held.get s.buffer.active ++ [(e, s.buffer.generation)])) := by
  have hpushes : pushesIn (history ++ [.pushed e s.buffer.generation]) =
      pushesIn history ++ [(e, s.buffer.generation)] :=
    pushesIn_append _ _
  have hother : s.buffer.backup ≠ s.buffer.active := s.buffer.backup_ne_active
  have hactive : s'.buffer.active = s.buffer.active := by rw [hbuffer]; rfl
  have hbackup : s'.buffer.backup = s.buffer.backup := by rw [hbuffer]; rfl
  have hgeneration : s'.buffer.generation = s.buffer.generation := by rw [hbuffer]; rfl
  constructor
  · intro slot
    rw [hbuffer, PerSlot.get_set]
    rcases s.buffer.eq_active_or_backup slot with rfl | rfl
    · rw [DoubleBuffer.contents_push_active, if_pos rfl, inv.contents, List.map_append]
      rfl
    · rw [DoubleBuffer.contents_push_backup, if_neg hother, inv.contents]
  · intro slot
    rw [hpushes, PerSlot.get_set]
    split
    · exact (inv.within _).append (List.Sublist.refl _)
    · exact (inv.within slot).trans (List.sublist_append_left _ _)
  · intro slot p hp
    rw [PerSlot.get_set] at hp
    split at hp
    · next hslot =>
      subst hslot
      rcases List.mem_append.mp hp with hp | hp
      · exact inv.sides _ p hp
      · rw [List.mem_singleton.mp hp]
        exact inv.active.symm
    · exact inv.sides slot p hp
  · rw [hpushes]
    refine List.pairwise_append.mpr ⟨inv.ascending, List.pairwise_singleton _ _, ?_⟩
    intro p hp q hq
    rw [List.mem_singleton.mp hq]
    exact inv.bounded p hp
  · rw [hpushes, hgeneration]
    intro p hp
    rcases List.mem_append.mp hp with hp | hp
    · exact inv.bounded p hp
    · rw [List.mem_singleton.mp hp]
  · rw [hactive, hgeneration]
    exact inv.active
  · rw [hbackup, hgeneration, PerSlot.get_set, if_neg hother]
    exact inv.backup
  · rw [hactive, hgeneration, PerSlot.get_set_self, List.getLast?_concat]
    rintro - p ⟨⟩
    rfl

lemma Layered.clear {slot : Slot} (inv : Layered s history held)
    (hbuffer : s'.buffer = s.buffer.clear slot)
    (hidle : (∀ w ∈ s'.workers, w.isMidway = false) → ∀ w ∈ s.workers, w.isMidway = false)
    (hpushes : pushesIn events = []) : Layered s' (history ++ events) (held.set slot []) := by
  have hactive : s'.buffer.active = s.buffer.active := by rw [hbuffer]; rfl
  have hbackup : s'.buffer.backup = s.buffer.backup := by rw [hbuffer]; rfl
  have hgeneration : s'.buffer.generation = s.buffer.generation := by rw [hbuffer]; rfl
  constructor
  · intro other
    rw [hbuffer, DoubleBuffer.contents_clear, PerSlot.get_set]
    split
    · rfl
    · exact inv.contents other
  · intro other
    rw [pushesIn_of_no_push hpushes, PerSlot.get_set]
    split
    · exact List.nil_sublist _
    · exact inv.within other
  · intro other p hp
    rw [PerSlot.get_set] at hp
    split at hp
    · cases hp
    · exact inv.sides other p hp
  · rw [pushesIn_of_no_push hpushes]
    exact inv.ascending
  · rw [pushesIn_of_no_push hpushes, hgeneration]
    exact inv.bounded
  · rw [hactive, hgeneration]
    exact inv.active
  · rw [hbackup, hgeneration, PerSlot.get_set]
    split
    · rintro p ⟨⟩
    · exact inv.backup
  · rw [hactive, hgeneration, PerSlot.get_set]
    intro hidle'
    split
    · rintro p ⟨⟩
    · exact inv.fresh (hidle hidle')

/-- At a swap the last entry of the active slot is of the generation that ends. The new generation
begins with a push, before the next swap, or in an empty slot. -/
lemma Layered.swap (inv : Layered s history held) (hbuffer : s'.buffer = s.buffer.swap)
    (hidle : ∀ w ∈ s.workers, w.isMidway = false)
    (hnext : (∃ w ∈ s'.workers, w.isMidway = true) ∨ s.buffer.contents s.buffer.backup = [])
    (hpushes : pushesIn events = []) : Layered s' (history ++ events) held := by
  have hactive : s'.buffer.active = s.buffer.backup := by rw [hbuffer, DoubleBuffer.active_swap]
  have hbackup : s'.buffer.backup = s.buffer.active := by rw [hbuffer, DoubleBuffer.backup_swap]
  have hgeneration : s'.buffer.generation = s.buffer.generation + 1 := by rw [hbuffer]; rfl
  constructor
  · rw [hbuffer]
    exact inv.contents
  · rw [pushesIn_of_no_push hpushes]
    exact inv.within
  · exact inv.sides
  · rw [pushesIn_of_no_push hpushes]
    exact inv.ascending
  · rw [pushesIn_of_no_push hpushes, hgeneration]
    intro p hp
    exact Nat.le_succ_of_le (inv.bounded p hp)
  · rw [hactive, hgeneration, Slot.ofIndex_succ, ← inv.active]
    rfl
  · rw [hbackup, hgeneration]
    intro p hp
    rw [inv.fresh hidle p hp]
  · rw [hactive, hgeneration]
    intro hidle' p hp
    rcases hnext with ⟨w, hw, hmidway⟩ | hempty
    · rw [hidle' w hw] at hmidway
      cases hmidway
    · rw [inv.contents, List.map_eq_nil_iff] at hempty
      rw [hempty] at hp
      cases hp

lemma holding_of_midway {w : Worker ε} (h : w.isMidway = true) : w.holding.guard = true := by
  cases w <;> first | rfl | cases h

/-- Who is midway has the guard. -/
lemma Locked.idle (hlocked : Locked s)
    (hguard : ∀ i, s.guard = some (.worker i) → ∃ w, s.workers[i]? = some w ∧ w.isMidway = false) :
    ∀ w ∈ s.workers, w.isMidway = false := by
  intro w hmem
  obtain ⟨i, hw⟩ := List.mem_iff_getElem?.mp hmem
  by_contra hmidway
  have hmidway : w.isMidway = true := by simpa using hmidway
  obtain ⟨v, hv, hidle⟩ := hguard i (hlocked.guard_worker hw (holding_of_midway hmidway))
  rw [hw] at hv
  cases hv
  rw [hmidway] at hidle
  cases hidle

/-- A worker that gets midway, or was not there, hides no other worker that is. -/
lemma idle_of_set {i : Nat} {w w' : Worker ε} (hw : s.workers[i]? = some w)
    (h : w.isMidway = false ∨ w'.isMidway = true)
    (hidle : ∀ v ∈ s.workers.set i w', v.isMidway = false) :
    ∀ v ∈ s.workers, v.isMidway = false := by
  intro v hmem
  obtain ⟨j, hv⟩ := List.mem_iff_getElem?.mp hmem
  by_cases hij : i = j
  · subst hij
    rw [hw] at hv
    cases hv
    refine h.resolve_right ?_
    intro hmidway
    rw [hidle w' (List.mem_set (List.getElem?_eq_some_iff.mp hw).1 w')] at hmidway
    cases hmidway
  · apply hidle v
    rw [List.mem_iff_getElem?]
    exact ⟨j, by rw [List.getElem?_set_ne hij, hv]⟩

lemma midway_hear (w : Worker ε) (ack : Ack) : (w.hear ack).isMidway = w.isMidway := by
  cases w <;> rfl

lemma FlusherMoves.idle (h : FlusherMoves plan s m s' events)
    (hidle : ∀ w ∈ s'.workers, w.isMidway = false) : ∀ w ∈ s.workers, w.isMidway = false := by
  have hsame : s'.workers.map Worker.isMidway = s.workers.map Worker.isMidway := by
    rcases h.workers with hworkers | ⟨handoff, ack, hworkers⟩
    · rw [hworkers]
    · rw [hworkers, map_tellSender midway_hear]
  intro w hw
  have hmem : w.isMidway ∈ s'.workers.map Worker.isMidway := hsame ▸ List.mem_map_of_mem hw
  obtain ⟨v, hv, heq⟩ := List.mem_map.mp hmem
  rw [← heq, hidle v hv]

lemma Layered.worker {i : Nat} (inv : Layered s history held) (hlocked : Locked s)
    (h : WorkerMoves plan s i s' events) : ∃ held', Layered s' (history ++ events) held' := by
  cases h with
  | swap e hw _ _ =>
    have hguard := hlocked.guard_worker hw rfl
    refine ⟨held, inv.swap rfl (hlocked.idle ?_) (.inl ⟨.swapping e s.buffer.active, ?_, rfl⟩) rfl⟩
    · intro j hj
      rw [hguard] at hj
      cases hj
      exact ⟨_, hw, rfl⟩
    · exact List.mem_set (List.getElem?_eq_some_iff.mp hw).1 _
  | push e hw _ => exact ⟨_, inv.push rfl⟩
  | takeReceiver hw _ => exact ⟨held, inv.same rfl (idle_of_set hw (.inl rfl)) rfl⟩
  | receive e queue hw _ => exact ⟨held, inv.same rfl (idle_of_set hw (.inl rfl)) rfl⟩
  | stop hw _ _ => exact ⟨held, inv.same rfl (idle_of_set hw (.inl rfl)) rfl⟩
  | redact e hw => exact ⟨held, inv.same rfl (idle_of_set hw (.inl rfl)) rfl⟩
  | takeGuard e hw _ => exact ⟨held, inv.same rfl (idle_of_set hw (.inl rfl)) rfl⟩
  | keep e hw _ _ => exact ⟨held, inv.same rfl (idle_of_set hw (.inr rfl)) rfl⟩
  | look e full hw _ => exact ⟨held, inv.same rfl (idle_of_set hw (.inr rfl)) rfl⟩
  | refused e full hw _ => exact ⟨held, inv.same rfl (idle_of_set hw (.inr rfl)) rfl⟩
  | handOver e full hw _ _ => exact ⟨held, inv.same rfl (idle_of_set hw (.inr rfl)) rfl⟩
  | received e full hw => exact ⟨held, inv.same rfl (idle_of_set hw (.inr rfl)) rfl⟩
  | dropped e full hw => exact ⟨held, inv.same rfl (idle_of_set hw (.inr rfl)) rfl⟩

lemma Layered.flusher (inv : Layered s history held) (hlocked : Locked s) (hmeet : Rendezvous s)
    (h : FlusherMoves plan s m s' events) : ∃ held', Layered s' (history ++ events) held' := by
  have hidle := h.idle
  cases h with
  | swap hf _ _ =>
    have hguard := hlocked.guard_flusher (by rw [hf]; rfl)
    refine ⟨held, inv.swap rfl (hlocked.idle ?_) (.inr ?_) rfl⟩
    · intro i hi
      rw [hguard] at hi
      cases hi
    · -- A living flusher that writes nothing has emptied the slot with the older entries.
      have hfull : s.full? = none := by rw [full_of_flusher hguard, hf]; rfl
      rw [← oldest_of_none hfull]
      exact hmeet.empty (by rw [hf]; rfl) (by simp [hf])
  | finish slot a r stored hf _ => exact ⟨_, inv.clear rfl hidle rfl⟩
  | _ => exact ⟨held, inv.same rfl hidle rfl⟩

lemma Layered.transition (inv : Layered s history held) (hlocked : Locked s)
    (hmeet : Rendezvous s) (h : Transition plan s m s' events) :
    ∃ held', Layered s' (history ++ events) held' := by
  cases h with
  | send hoffered => cases hoffered <;> exact ⟨held, inv.same rfl id rfl⟩
  | callShutdown => exact ⟨held, inv.same rfl id rfl⟩
  | worker hworker => exact inv.worker hlocked hworker
  | flusher hflusher => exact inv.flusher hlocked hmeet hflusher
  | shutdown hshutdown =>
    cases hshutdown with
    | finish slot a slots drained r stored hc _ => exact ⟨_, inv.clear rfl id rfl⟩
    | _ => exact ⟨held, inv.same rfl id rfl⟩

end Steps

theorem Run.layered {plan : Plan ε} {s : State ε} {history : List (Event ε)}
    (run : Run plan s history) : ∃ held, Layered s history held := by
  induction run with
  | start =>
    refine ⟨⟨[], []⟩, ?_, ?_, ?_, List.Pairwise.nil, ?_, rfl, ?_, ?_⟩
    · rintro (_ | _) <;> rfl
    · rintro (_ | _) <;> exact List.nil_sublist _
    · rintro (_ | _) p ⟨⟩
    · rintro p ⟨⟩
    · rintro p ⟨⟩
    · rintro - p ⟨⟩
  | step m run hstep ih =>
    obtain ⟨held, inv⟩ := ih
    exact inv.transition run.locked run.rendezvous (step_transition hstep)

/-! ### Both slots together -/

section Order

/-- Of an ascending list, some early members and then some late ones are a sublist. -/
lemma append_sublist_of_ascending {l early late : List (ε × Nat)} {g : Nat}
    (hl : l.Pairwise fun p q => p.2 ≤ q.2) (hearly : early.Sublist l) (hlate : late.Sublist l)
    (hbelow : ∀ p ∈ early, p.2 < g) (habove : ∀ p ∈ late, g ≤ p.2) :
    (early ++ late).Sublist l := by
  induction l generalizing early with
  | nil =>
    rw [List.sublist_nil.mp hearly]
    exact hlate
  | cons x l ih =>
    obtain ⟨hx, hl⟩ := List.pairwise_cons.mp hl
    by_cases hlow : x.2 < g
    · have hlate : late.Sublist l := by
        rcases List.sublist_cons_iff.mp hlate with hlate | ⟨rest, rfl, -⟩
        · exact hlate
        · have := habove x List.mem_cons_self
          omega
      rcases List.sublist_cons_iff.mp hearly with hearly | ⟨rest, rfl, hrest⟩
      · exact (ih hl hearly hlate hbelow).cons x
      · have hbelow : ∀ p ∈ rest, p.2 < g := fun p hp => hbelow p (List.mem_cons_of_mem _ hp)
        exact (ih hl hrest hlate hbelow).cons_cons x
    · -- Nothing in the list is early.
      cases early with
      | nil => exact hlate
      | cons p early =>
        have hp := hbelow p List.mem_cons_self
        rcases List.mem_cons.mp (hearly.mem List.mem_cons_self) with rfl | hmem
        · exact (hlow hp).elim
        · have := hx p hmem
          omega

lemma sublist_of_map_sublist {α β : Type} {f : α → β} {l m : List α} (hnodup : (m.map f).Nodup)
    (hmem : ∀ a ∈ l, a ∈ m) (h : (l.map f).Sublist (m.map f)) : l.Sublist m := by
  obtain ⟨l', hsub, hmap⟩ := List.sublist_map_iff.mp h
  have hsame : l = l' := by
    apply List.ext_getElem (by simpa using congrArg List.length hmap)
    intro n hn hn'
    apply List.inj_on_of_nodup_map hnodup (hmem _ (List.getElem_mem hn))
      (hsub.mem (List.getElem_mem hn'))
    simpa [hn, hn'] using congrArg (·[n]?) hmap
  exact hsame ▸ hsub

variable {s : State ε} {history : List (Event ε)} {held : PerSlot (List (ε × Nat))}

lemma Layered.slot_sublist (inv : Layered s history held) (slot : Slot) :
    (s.buffer.contents slot).Sublist (pushedIn history) := by
  rw [inv.contents]
  exact (inv.within slot).map Prod.fst

/-- What the backup slot holds is of an earlier generation. -/
lemma Layered.backup_below (inv : Layered s history held) {p : ε × Nat}
    (hp : p ∈ held.get s.buffer.backup) : p.2 < s.buffer.generation := by
  have hle := inv.bounded p ((inv.within _).mem hp)
  have hside := inv.sides _ p hp
  rcases Nat.lt_or_eq_of_le hle with hlt | heq
  · exact hlt
  · rw [heq, ← inv.active] at hside
    exact (s.buffer.backup_ne_active hside.symm).elim

lemma mem_pushedUnder {e : ε} {k : Nat} :
    e ∈ pushedUnder history k ↔ (e, k) ∈ pushesIn history := by
  simp [pushedUnder]

/-- The backup slot and then the active one are in the order of the pushes if one of them leaves
nothing to compare, and only then. -/
lemma Layered.drain_sublist_iff (inv : Layered s history held)
    (hnodup : (pushedIn history).Nodup) :
    (s.buffer.contents s.buffer.backup ++ s.buffer.contents s.buffer.active).Sublist
        (pushedIn history) ↔
      s.buffer.contents s.buffer.backup = [] ∨
        ∀ e ∈ s.buffer.contents s.buffer.active,
          e ∈ pushedUnder history s.buffer.generation := by
  have hactive : ∀ e ∈ s.buffer.contents s.buffer.active,
      ∃ p ∈ held.get s.buffer.active, p.1 = e := by
    rw [inv.contents]
    exact fun e he => List.mem_map.mp he
  constructor
  · intro hsub
    rw [or_iff_not_imp_left]
    intro hne e he
    rw [inv.contents, inv.contents, ← List.map_append] at hsub
    have hmem : ∀ p ∈ held.get s.buffer.backup ++ held.get s.buffer.active,
        p ∈ pushesIn history := by
      intro p hp
      rcases List.mem_append.mp hp with hp | hp
      · exact (inv.within _).mem hp
      · exact (inv.within _).mem hp
    have hordered := inv.ascending.sublist (sublist_of_map_sublist hnodup hmem hsub)
    rw [inv.contents, List.map_eq_nil_iff] at hne
    obtain ⟨p, hp, rfl⟩ := hactive e he
    -- Between the last entry of the backup slot and `p` there is less than two generations.
    have hlast := List.getLast?_eq_some_getLast hne
    have hprevious := inv.backup _ hlast
    have hle := (List.pairwise_append.mp hordered).2.2 _ (List.getLast_mem hne) p hp
    have hbounded := inv.bounded p ((inv.within _).mem hp)
    have hside := inv.sides _ p hp
    have hside' := inv.sides _ _ (List.getLast_mem hne)
    have happart : p.2 ≠ ((held.get s.buffer.backup).getLast hne).2 := by
      intro heq
      rw [heq, hside'] at hside
      exact s.buffer.backup_ne_active hside
    have heq : p.2 = s.buffer.generation := by omega
    rw [mem_pushedUnder, ← heq]
    exact (inv.within _).mem hp
  · rintro (hempty | hcurrent)
    · rw [hempty, List.nil_append]
      exact inv.slot_sublist _
    · have hlate : ∀ p ∈ held.get s.buffer.active, s.buffer.generation ≤ p.2 := by
        intro p hp
        have he := hcurrent p.1 (by rw [inv.contents]; exact List.mem_map_of_mem hp)
        have hsame := List.inj_on_of_nodup_map hnodup ((inv.within _).mem hp)
          (mem_pushedUnder.mp he) rfl
        rw [hsame]
      rw [inv.contents, inv.contents, ← List.map_append]
      exact (append_sublist_of_ascending inv.ascending (inv.within _) (inv.within _)
        (fun p hp => inv.backup_below hp) hlate).map Prod.fst

end Order

/-- A flusher that has not failed leaves nothing in the backup slot for a shutdown call. -/
lemma Run.backup_drained {plan : Plan ε} {s : State ε} {history : List (Event ε)} {k : Nat}
    {slots : List Slot} {drained : Nat} (run : Run plan s history)
    (hc : s.calls[k]? = some (.draining slots drained)) (hlives : s.flusher ≠ .failed) :
    s.buffer.contents s.buffer.backup = [] := by
  have hguard := run.locked.guard_shutdown hc rfl
  have hgone := (run.endsInOrder.calls _ (List.mem_of_getElem? hc)).flusher rfl
  rw [← oldest_of_none (full_of_call hguard)]
  refine run.rendezvous.empty ?_ hlives
  cases hf : s.flusher <;> first | rfl | simp [hf, Flusher.isGone] at hgone

/-- What a shutdown call finds when it begins to drain. The entries of each slot are in the order
of their pushes, and a flusher that has not failed has left nothing in the backup slot. Both slots
together, the backup slot first, are in the order of the pushes if and only if the backup slot is
empty or nothing in the active slot is from before the last swap. -/
theorem drain_order (c : Config) (moves : List (Move Entry)) (s : State Entry)
    (history : List (Event Entry)) (run : exec (Timed.planOf c) moves = some (s, history))
    (k : Nat)
    (hbegins : s.calls[k]? = some (.draining [s.buffer.backup, s.buffer.active] 0)) :
    ∃ t tagged,
      exec (Timed.planOf c).ticketed (withTickets moves) = some (t, tagged) ∧
      t.map Prod.fst = s ∧ tagged.map (Event.map Prod.fst) = history ∧ Ticketed moves tagged ∧
      (∀ slot, (t.buffer.contents slot).Sublist (pushedIn tagged)) ∧
      (s.flusher ≠ .failed → t.buffer.contents t.buffer.backup = []) ∧
      ((t.buffer.contents t.buffer.backup ++ t.buffer.contents t.buffer.active).Sublist
          (pushedIn tagged) ↔
        t.buffer.contents t.buffer.backup = [] ∨
          ∀ e ∈ t.buffer.contents t.buffer.active,
            e ∈ pushedUnder tagged t.buffer.generation) := by
  obtain ⟨t, tagged, hexec, rfl, rfl⟩ := exec_withTickets run
  have inv := ticketed_of_exec hexec
  have htagged := run_iff_exec.mpr ⟨_, hexec⟩
  obtain ⟨held, hlayered⟩ := htagged.layered
  refine ⟨t, tagged, hexec, rfl, rfl, inv, hlayered.slot_sublist, ?_, ?_⟩
  · intro hlives
    exact htagged.backup_drained hbegins hlives
  · exact hlayered.drain_sublist_iff (List.Nodup.of_map _ (inv.pushed_nodup htagged.balanced))

/-- The failing run up to the moment at which the shutdown call begins to drain. -/
def failingRunToDrain (a b c : ε) : List (Move ε) :=
  (failingRun a b c).take 37

/-- In the failing run the two batches are not in the order of the pushes, as the active slot still
has the entry that was being written. -/
theorem failing_run_out_of_order : ∃ t tagged,
    exec (Timed.planOf narrowConfig).ticketed
        (withTickets (failingRunToDrain default default default)) = some (t, tagged) ∧
    t.calls = [.draining [t.buffer.backup, t.buffer.active] 0] ∧
    ¬(t.buffer.contents t.buffer.backup ++ t.buffer.contents t.buffer.active).Sublist
      (pushedIn tagged) := by
  have hrun : ∃ s history,
      exec (Timed.planOf narrowConfig) (failingRunToDrain default default default) =
        some (s, history) ∧
      s.calls[0]? = some (.draining [s.buffer.backup, s.buffer.active] 0) :=
    ⟨_, _, rfl, rfl⟩
  have htickets : ∃ t tagged,
      exec (Timed.planOf narrowConfig).ticketed
        (withTickets (failingRunToDrain default default default)) = some (t, tagged) ∧
      t.calls = [.draining [t.buffer.backup, t.buffer.active] 0] ∧
      (t.buffer.contents t.buffer.backup).length = 1 ∧
      (t.buffer.contents t.buffer.active).map Prod.snd = [0, 20] ∧
      (pushedUnder tagged t.buffer.generation).map Prod.snd = [20] :=
    ⟨_, _, rfl, rfl, rfl, rfl, rfl⟩
  obtain ⟨s, history, hexec, hbegins⟩ := hrun
  obtain ⟨t, tagged, htagged, hcalls, hbackup, hactive, hcurrent⟩ := htickets
  obtain ⟨t', tagged', htagged', -, -, -, -, -, horder⟩ :=
    drain_order narrowConfig _ s history hexec 0 hbegins
  rw [htagged] at htagged'
  cases htagged'
  refine ⟨t, tagged, htagged, hcalls, ?_⟩
  rw [horder]
  rintro (hempty | hall)
  · rw [hempty] at hbackup
    cases hbackup
  · have hold : 0 ∈ (t.buffer.contents t.buffer.active).map Prod.snd := by simp [hactive]
    obtain ⟨e, he, hticket⟩ := List.mem_map.mp hold
    have hmem := List.mem_map_of_mem (f := Prod.snd) (hall e he)
    rw [hticket, hcurrent] at hmem
    simp at hmem

/-- The backup slot may hold newer entries than the active one: in the failing run `2` was pushed
between `1` and `3`. -/
theorem backup_may_be_newer : ∃ s history,
    exec narrowPlan (failingRunToDrain 1 2 3) = some (s, history) ∧
      s.calls = [.draining [s.buffer.backup, s.buffer.active] 0] ∧
      pushedIn history = [1, 2, 3] ∧ s.buffer.contents s.buffer.backup = [2] ∧
      s.buffer.contents s.buffer.active = [1, 3] ∧
      ¬∀ b ∈ s.buffer.contents s.buffer.backup, ∀ a ∈ s.buffer.contents s.buffer.active,
        [b, a].Sublist (pushedIn history) := by
  refine ⟨_, _, rfl, rfl, rfl, rfl, rfl, ?_⟩
  intro hall
  exact absurd (hall 2 (by decide) 1 (by decide)) (by decide)

end AuditTrail.Pipeline
