import AuditTrail.Sink.File
import Mathlib.Tactic.Common

/-!
# Lines

A text that has lines with their ends in front is split into these lines and the lines of what comes
after them. What is read from a line depends on nothing but the line, so what is found in several
lines, and the numbers of the lines passed over, are found piece by piece.
-/

namespace AuditTrail.Sink.File

open Utf8

/-- How a line may end. A carriage return before the line feed belongs to the end, so a line whose
text ends with a return needs another one. -/
inductive Ended (l : List Char) : List Char → Prop where
  | feed (h : l.getLast? ≠ some '\r') : Ended l ['\n']
  | returnFeed : Ended l ['\r', '\n']

/-- A text that consists of the given lines, each with its end. -/
inductive Terminated : List Char → List (List Char) → Prop where
  | nil : Terminated [] []
  | line {l ending cs : List Char} {ls : List (List Char)} (hl : '\n' ∉ l) (hend : Ended l ending)
      (h : Terminated cs ls) : Terminated (l ++ (ending ++ cs)) (l :: ls)

section Splitting

variable {c : Char} {cs l ending : List Char} {ls : List (List Char)}

/-- A character that begins no line end is the first one of the first line. -/
lemma lines_cons (hfeed : c ≠ '\n') (hreturn : c = '\r' → cs.head? ≠ some '\n') :
    lines (c :: cs) = (c :: (lines cs).headD []) :: (lines cs).tail := by
  rw [lines]
  · cases lines cs <;> rfl
  · exact hfeed
  · rintro ds rfl rfl
    exact hreturn rfl rfl

lemma Ended.of_cons (h : Ended (c :: l) ending) : Ended l ending := by
  cases h with
  | feed h =>
    refine .feed fun hlast => h ?_
    cases l with
    | nil => cases hlast
    | cons d l => rwa [List.getLast?_cons_cons]
  | returnFeed => exact .returnFeed

lemma lines_ended (hl : '\n' ∉ l) (hend : Ended l ending) (cs : List Char) :
    lines (l ++ (ending ++ cs)) = l :: lines cs := by
  induction l with
  | nil => cases hend <;> rfl
  | cons c l ih =>
    obtain ⟨hc, hrest⟩ := List.ne_and_not_mem_of_not_mem_cons hl
    have hreturn : c = '\r' → (l ++ (ending ++ cs)).head? ≠ some '\n' := by
      rintro rfl
      cases l with
      | nil =>
        cases hend with
        | feed h => exact (h rfl).elim
        | returnFeed => simp
      | cons d l =>
        intro hhead
        exact hrest (List.mem_of_mem_head? (l := d :: l) hhead)
    rw [List.cons_append, lines_cons hc.symm hreturn, ih hrest hend.of_cons]
    rfl

/-- A last line without an end. -/
lemma lines_last (hl : '\n' ∉ l) (hne : l ≠ []) : lines l = [l] := by
  induction l with
  | nil => exact (hne rfl).elim
  | cons c l ih =>
    obtain ⟨hc, hl⟩ := List.ne_and_not_mem_of_not_mem_cons hl
    have hreturn : l.head? ≠ some '\n' := fun hhead => hl (List.mem_of_mem_head? hhead)
    rw [lines_cons hc.symm fun _ => hreturn]
    cases l with
    | nil => rfl
    | cons d l =>
      rw [ih hl (List.cons_ne_nil d l)]
      rfl

lemma Terminated.lines_append (h : Terminated cs ls) (ds : List Char) :
    lines (cs ++ ds) = ls ++ lines ds := by
  induction h with
  | nil => rfl
  | line hl hend _ ih =>
    rw [List.append_assoc, List.append_assoc, lines_ended hl hend, ih, List.cons_append]

lemma Terminated.lines_eq (h : Terminated cs ls) : lines cs = ls := by
  have happend := h.lines_append []
  rwa [List.append_nil, lines, List.append_nil] at happend

/-- There are as many lines as line feeds. -/
lemma Terminated.length_eq (h : Terminated cs ls) : ls.length = cs.count '\n' := by
  induction h with
  | nil => rfl
  | line hl hend _ ih =>
    rw [List.count_append, List.count_append, List.count_eq_zero.mpr hl, List.length_cons, ih]
    cases hend with
    | feed => simp; omega
    | returnFeed => simp; omega

/-- A character before the first line belongs to it, or to its end. -/
lemma Terminated.cons (h : Terminated cs ls) (hne : cs ≠ []) (hfeed : c ≠ '\n') :
    ∃ ls, Terminated (c :: cs) ls := by
  cases h with
  | nil => exact (hne rfl).elim
  | @line l ending cs ls hl hend h =>
    have hl' : '\n' ∉ c :: l := List.not_mem_cons_of_ne_of_not_mem (Ne.symm hfeed) hl
    cases hend with
    | returnFeed => exact ⟨_, .line hl' .returnFeed h⟩
    | feed hlast =>
      cases l with
      | nil =>
        by_cases hreturn : c = '\r'
        · subst hreturn
          exact ⟨_, .line (l := []) List.not_mem_nil .returnFeed h⟩
        · exact ⟨_, .line hl' (.feed (by simpa using hreturn)) h⟩
      | cons d l =>
        rw [← List.getLast?_cons_cons (a := c)] at hlast
        exact ⟨_, .line hl' (.feed hlast) h⟩

/-- A text that is empty or ends with a line feed has nothing but lines with their ends. -/
lemma exists_terminated (h : ∀ c ∈ cs.getLast?, c = '\n') : ∃ ls, Terminated cs ls := by
  induction cs with
  | nil => exact ⟨[], .nil⟩
  | cons c cs ih =>
    have hlast : ∀ d ∈ cs.getLast?, d = '\n' := by
      cases cs with
      | nil => nofun
      | cons d cs => rwa [List.getLast?_cons_cons] at h
    obtain ⟨ls, hls⟩ := ih hlast
    by_cases hfeed : c = '\n'
    · subst hfeed
      exact ⟨_, .line (l := []) List.not_mem_nil (.feed nofun) hls⟩
    · refine hls.cons ?_ hfeed
      rintro rfl
      exact hfeed (h c rfl)

end Splitting

section Printable

variable {l : List Char} (h : ∀ c ∈ l, 0x20 ≤ c.toNat)

include h

lemma feed_not_mem : '\n' ∉ l :=
  fun hmem => absurd (h _ hmem) (by decide)

lemma ended_feed : Ended l ['\n'] :=
  .feed fun hlast => absurd (h _ (List.mem_of_getLast? hlast)) (by decide)

/-- A line that has no control characters is split off as it is. -/
lemma lines_line (cs : List Char) : lines (l ++ '\n' :: cs) = l :: lines cs :=
  lines_ended (feed_not_mem h) (ended_feed h) cs

end Printable

section Reading

variable (ls ls' : List (List Char))

lemma entriesOf_append : entriesOf (ls ++ ls') = entriesOf ls ++ entriesOf ls' :=
  List.filterMap_append

lemma malformedFrom_append (n : Nat) :
    malformedFrom n (ls ++ ls') = malformedFrom n ls ++ malformedFrom (n + ls.length) ls' := by
  induction ls generalizing n with
  | nil => rfl
  | cons l ls ih =>
    have hlength : n + 1 + ls.length = n + (l :: ls).length := by
      rw [List.length_cons]
      omega
    rw [List.cons_append, malformedFrom, malformedFrom, ih, hlength]
    cases readLine l <;> rfl

/-- The entries that are found are those of exactly the lines that are not blank and are entries. -/
lemma entriesOf_eq : entriesOf ls = ls.filterMap fun l =>
    if l.all Text.isBlank then none else Entry.parse? (encodeChars l) := by
  refine congrArg (List.filterMap · ls) (funext fun l => ?_)
  rw [readLine]
  cases l.all Text.isBlank <;> cases Entry.parse? (encodeChars l) <;> rfl

/-- Lines further down have numbers that are greater by as much. -/
lemma malformedFrom_add (n k : Nat) :
    malformedFrom (n + k) ls = (malformedFrom n ls).map (· + k) := by
  induction ls generalizing n with
  | nil => rfl
  | cons l ls ih =>
    rw [malformedFrom, malformedFrom, Nat.add_right_comm, ih]
    cases readLine l <;> rfl

/-- Whether a line is neither blank nor an entry. -/
def isMalformed (l : List Char) : Bool :=
  !l.all Text.isBlank && (Entry.parse? (encodeChars l)).isNone

lemma malformedFrom_cons (n : Nat) (l : List Char) :
    malformedFrom n (l :: ls) =
      (if isMalformed l then [n] else []) ++ malformedFrom (n + 1) ls := by
  rw [malformedFrom, readLine, isMalformed]
  cases l.all Text.isBlank <;> cases Entry.parse? (encodeChars l) <;> rfl

/-- The numbers of the lines passed over are those of exactly the malformed lines. -/
lemma malformedFrom_eq (n : Nat) :
    malformedFrom n ls = ((ls.zipIdx n).filter fun p => isMalformed p.1).map Prod.snd := by
  induction ls generalizing n with
  | nil => rfl
  | cons l ls ih =>
    rw [malformedFrom_cons, ih, List.zipIdx_cons, List.filter_cons]
    cases isMalformed l <;> rfl

end Reading
end AuditTrail.Sink.File
