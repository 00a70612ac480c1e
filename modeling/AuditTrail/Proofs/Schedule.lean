import AuditTrail.Pipeline.Timed
import Mathlib.Data.List.Induction
import Mathlib.Tactic.Common

/-!
# Runs as lists of moves

A run is determined by the moves that it takes. `exec` takes a list of moves one after the other,
so the moments of a run are the initial segments of its moves.
-/

namespace AuditTrail.Pipeline

variable {ε : Type}

/-- Takes moves one after the other, or gives `none` if one of them is not possible. -/
def execFrom (plan : Plan ε) (s : State ε) : List (Move ε) → Option (Next ε)
  | [] => some (s, [])
  | m :: moves =>
    match step plan s m with
    | none => none
    | some (s, events) =>
      match execFrom plan s moves with
      | none => none
      | some (s, later) => some (s, events ++ later)

/-- Takes moves from the start of a pipeline. -/
def exec (plan : Plan ε) (moves : List (Move ε)) : Option (Next ε) :=
  execFrom plan (.start plan) moves

section Moments

variable {plan : Plan ε} {s s' : State ε} {history events : List (Event ε)}

lemma execFrom_cons {m : Move ε} {moves : List (Move ε)}
    (h : execFrom plan s (m :: moves) = some (s', history)) :
    ∃ t events later, step plan s m = some (t, events) ∧
      execFrom plan t moves = some (s', later) ∧ history = events ++ later := by
  simp only [execFrom] at h
  split at h
  · cases h
  · next t events hstep =>
    split at h
    · cases h
    · next t' later hrest =>
      cases h
      exact ⟨t, events, later, hstep, hrest, rfl⟩

lemma execFrom_append {first second : List (Move ε)} {t : State ε}
    (hfirst : execFrom plan s first = some (t, history))
    (hsecond : execFrom plan t second = some (s', events)) :
    execFrom plan s (first ++ second) = some (s', history ++ events) := by
  induction first generalizing s history with
  | nil =>
    cases hfirst
    exact hsecond
  | cons m first ih =>
    obtain ⟨u, now, later, hstep, hrest, rfl⟩ := execFrom_cons hfirst
    simp only [List.cons_append, execFrom, hstep, ih hrest, List.append_assoc]

/-- Every initial segment of the moves leads to a moment of the run. -/
lemma execFrom_split {first second : List (Move ε)}
    (h : execFrom plan s (first ++ second) = some (s', history)) :
    ∃ t before after, execFrom plan s first = some (t, before) ∧
      execFrom plan t second = some (s', after) ∧ history = before ++ after := by
  induction first generalizing s history with
  | nil => exact ⟨s, [], history, rfl, h, rfl⟩
  | cons m first ih =>
    obtain ⟨u, events, later, hstep, hrest, rfl⟩ := execFrom_cons h
    obtain ⟨t, before, after, hfirst, hsecond, rfl⟩ := ih hrest
    refine ⟨t, events ++ before, after, ?_, hsecond, (List.append_assoc ..).symm⟩
    simp only [execFrom, hstep, hfirst]

lemma exec_concat {moves : List (Move ε)} {m : Move ε}
    (h : exec plan moves = some (s, history)) (hstep : step plan s m = some (s', events)) :
    exec plan (moves ++ [m]) = some (s', history ++ events) := by
  apply execFrom_append h
  simp only [execFrom, hstep, List.append_nil]

/-- The moves of a run, seen from its end. -/
lemma exec_concat_inv {moves : List (Move ε)} {m : Move ε}
    (h : exec plan (moves ++ [m]) = some (s', history)) :
    ∃ s before events, exec plan moves = some (s, before) ∧
      step plan s m = some (s', events) ∧ history = before ++ events := by
  obtain ⟨s, before, after, hfirst, hlast, rfl⟩ := execFrom_split h
  obtain ⟨t, events, later, hstep, hnil, rfl⟩ := execFrom_cons hlast
  cases hnil
  exact ⟨s, before, events, hfirst, hstep, by rw [List.append_nil]⟩

/-- The runs are what lists of moves lead to. -/
theorem run_iff_exec : Run plan s history ↔ ∃ moves, exec plan moves = some (s, history) := by
  constructor
  · intro run
    induction run with
    | start => exact ⟨[], rfl⟩
    | step m _ hstep ih =>
      obtain ⟨moves, hmoves⟩ := ih
      exact ⟨moves ++ [m], exec_concat hmoves hstep⟩
  · rintro ⟨moves, h⟩
    induction moves using List.reverseRecOn generalizing s history with
    | nil =>
      cases h
      exact .start
    | append_singleton moves m ih =>
      obtain ⟨t, before, events, hmoves, hstep, rfl⟩ := exec_concat_inv h
      exact .step m (ih hmoves) hstep

/-- A run goes on with what can happen in the state that it has reached. -/
lemma Run.extend {moves : List (Move ε)} (run : Run plan s history)
    (h : execFrom plan s moves = some (s', events)) :
    Run plan s' (history ++ events) := by
  obtain ⟨first, hfirst⟩ := run_iff_exec.mp run
  exact run_iff_exec.mpr ⟨first ++ moves, execFrom_append hfirst h⟩

end Moments

/-- A pipeline with one worker and room for one entry in the queue and in a slot. -/
def narrowPlan : Plan Nat := ⟨1, 1, 0, ⟨.ofMillis 0, 0⟩, id⟩

/-- The settings of such a pipeline. -/
def narrowConfig : Config := ⟨1, 1, 1, .ofSeconds 1, .ofMillis 0, 0⟩

/-- A run of such a pipeline: `a` is accepted, `b` is rejected, and `c` makes the worker hand the
slot with `a` over to the flusher. Then a shutdown call writes `c`. -/
def shortRun (a b c : ε) : List (Move ε) :=
  let worker (n : Nat) : List (Move ε) := List.replicate n (.worker 0)
  let call (n : Nat) : List (Move ε) := List.replicate n (.shutdown 0)
  List.flatten [
    [.send a, .send b], worker 6, [.send c], worker 7,
    [.flusher, .flusher, .reply .flusher .stored], worker 2,
    [.callShutdown], call 2, worker 2, call 1, [.stopFlusher], call 4,
    [.reply (.shutdown 0) .stored], call 1]

end AuditTrail.Pipeline
