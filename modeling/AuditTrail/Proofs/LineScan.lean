import AuditTrail.Proofs.TornWrites

/-!
# A query reads line by line

A file whose front part ends at the end of a line is read as this part and, after it, the rest. So
what stands between two lines of entries, blank or no entry at all, changes neither the entries that
are found nor their order, only the numbers of the lines after it.
-/

namespace AuditTrail.Sink.File

open Utf8

section Cut

variable {c₁ c₂ : Bytes} {cs₁ cs₂ : List Char}

lemma decode_feed_cons (s : Bytes) :
    decodeChars? (0x0A :: s) = (decodeChars? s).map ('\n' :: ·) :=
  decodeChars_append ['\n'] s

lemma breaks_feed (s : Bytes) : Breaks (0x0A :: s) := by
  rintro _ ⟨⟩
  decide

/-- A text is not cut inside a character where a line feed comes before the cut. -/
lemma decode_cut (hend : c₁ = [] ∨ c₁.getLast? = some 0x0A)
    (hvalid : (decodeChars? (c₁ ++ c₂)).isSome = true) :
    ∃ cs₁ cs₂ ls, decodeChars? c₁ = some cs₁ ∧ decodeChars? c₂ = some cs₂ ∧
      Terminated cs₁ ls := by
  rcases hend with rfl | hlast
  · obtain ⟨cs₂, hcs₂⟩ := Option.isSome_iff_exists.mp hvalid
    exact ⟨[], cs₂, [], rfl, hcs₂, .nil⟩
  · obtain ⟨front, rfl⟩ := List.getLast?_eq_some_iff.mp hlast
    obtain ⟨cs, hcs⟩ := Option.isSome_iff_exists.mp hvalid
    have hsplit : front ++ 0x0A :: c₂ = encodeChars cs := by
      rw [encodeChars_of_decodeChars hcs, List.append_assoc]
      rfl
    rw [List.append_assoc] at hcs
    rcases cut_encodeChars hsplit with ⟨xs, ys, -, rfl, hback⟩ | hbroken
    · have hys := decodeChars_encodeChars ys
      rw [← hback, decode_feed_cons] at hys
      obtain ⟨cs₂, hcs₂, -⟩ := Option.map_eq_some_iff.mp hys
      have hxs := decodeChars_encodeChars (xs ++ ['\n'])
      rw [encodeChars_append] at hxs
      have hfeed : ∀ c ∈ (xs ++ ['\n']).getLast?, c = '\n' := by simp
      obtain ⟨ls, hls⟩ := exists_terminated hfeed
      exact ⟨xs ++ ['\n'], cs₂, ls, hxs, hcs₂, hls⟩
    · have hnone := hbroken _ (breaks_feed c₂)
      exact absurd (hcs.symm.trans hnone) (by simp)

lemma decode_append (h₁ : decodeChars? c₁ = some cs₁) (h₂ : decodeChars? c₂ = some cs₂) :
    decodeChars? (c₁ ++ c₂) = some (cs₁ ++ cs₂) := by
  rw [← encodeChars_of_decodeChars h₁, decodeChars_append, h₂, Option.map_some]

end Cut

/-- The entries in a text that the filter accepts, in the order of their lines. A blank line is
passed over before it is read. -/
def acceptedIn (f : Filter) (cs : List Char) : List Entry :=
  ((lines cs).filterMap fun l =>
    if l.all Text.isBlank then none else Entry.parse? (encodeChars l)).filter f.accepts

/-- The numbers, from 1, of the lines of a text that are neither blank nor entries. -/
def malformedIn (cs : List Char) : List Nat :=
  (((lines cs).zipIdx 1).filter fun p => isMalformed p.1).map Prod.snd

lemma query_content {c : Bytes} {cs : List Char} (h : decodeChars? c = some cs) (f : Filter) :
    (content c).query f = .ok (Page.ofAccepted f (acceptedIn f cs), malformedIn cs) := by
  have htext : (content c).text = .ok cs := by simp only [text, h]
  rw [query_text htext, entriesOf_eq, malformedFrom_eq]
  rfl

section Found

variable {cs₁ l ending : List Char} {ls : List (List Char)}

lemma acceptedIn_append (h : Terminated cs₁ ls) (f : Filter) (cs₂ : List Char) :
    acceptedIn f (cs₁ ++ cs₂) = acceptedIn f cs₁ ++ acceptedIn f cs₂ := by
  rw [acceptedIn, h.lines_append, List.filterMap_append, List.filter_append, acceptedIn, acceptedIn,
    h.lines_eq]

lemma malformedIn_append (h : Terminated cs₁ ls) (cs₂ : List Char) :
    malformedIn (cs₁ ++ cs₂) =
      malformedIn cs₁ ++ (malformedIn cs₂).map (· + cs₁.count '\n') := by
  simp only [malformedIn, ← malformedFrom_eq]
  rw [h.lines_append, malformedFrom_append, malformedFrom_add, h.lines_eq, h.length_eq]

lemma terminated_line (hl : '\n' ∉ l) (hend : Ended l ending) : Terminated (l ++ ending) [l] := by
  have hline := Terminated.line hl hend .nil
  rwa [List.append_nil] at hline

lemma count_line (hl : '\n' ∉ l) (hend : Ended l ending) : (l ++ ending).count '\n' = 1 :=
  (terminated_line hl hend).length_eq.symm

/-- A line that is blank or no entry adds no entry. -/
lemma acceptedIn_line (hl : '\n' ∉ l) (hend : Ended l ending)
    (hnone : l.all Text.isBlank = true ∨ Entry.parse? (encodeChars l) = none) (f : Filter) :
    acceptedIn f (l ++ ending) = [] := by
  rw [acceptedIn, (terminated_line hl hend).lines_eq, List.filterMap_cons_none, List.filterMap_nil,
    List.filter_nil]
  rcases hnone with hblank | hnone
  · rw [if_pos hblank]
  · rw [hnone, ite_self]

lemma malformedIn_line (hl : '\n' ∉ l) (hend : Ended l ending) :
    malformedIn (l ++ ending) = if isMalformed l then [1] else [] := by
  rw [malformedIn, (terminated_line hl hend).lines_eq, ← malformedFrom_eq, malformedFrom_cons]
  exact List.append_nil _

/-- Such a line between others leaves the accepted entries as they were. -/
lemma acceptedIn_inserted (h : Terminated cs₁ ls) (hl : '\n' ∉ l) (hend : Ended l ending)
    (hnone : l.all Text.isBlank = true ∨ Entry.parse? (encodeChars l) = none) (f : Filter)
    (cs₂ : List Char) :
    acceptedIn f (cs₁ ++ (l ++ ending) ++ cs₂) = acceptedIn f (cs₁ ++ cs₂) := by
  rw [List.append_assoc, acceptedIn_append h, acceptedIn_append (terminated_line hl hend),
    acceptedIn_line hl hend hnone, List.nil_append, acceptedIn_append h]

/-- The lines after it have numbers that are greater by one. -/
lemma malformedIn_inserted (h : Terminated cs₁ ls) (hl : '\n' ∉ l) (hend : Ended l ending)
    (cs₂ : List Char) :
    malformedIn (cs₁ ++ (l ++ ending) ++ cs₂) =
      malformedIn cs₁ ++ (if isMalformed l then [cs₁.count '\n' + 1] else []) ++
        (malformedIn cs₂).map (· + (cs₁.count '\n' + 1)) := by
  have hline : (if isMalformed l then [1] else []).map (· + cs₁.count '\n') =
      if isMalformed l then [cs₁.count '\n' + 1] else [] := by
    rw [apply_ite (List.map _), List.map_singleton, List.map_nil, Nat.add_comm 1]
  have hafter : (· + cs₁.count '\n') ∘ (· + 1) = (· + (cs₁.count '\n' + 1)) := by
    funext n
    exact Nat.add_right_comm n 1 _
  rw [List.append_assoc, malformedIn_append h, malformedIn_append (terminated_line hl hend),
    malformedIn_line hl hend, count_line hl hend, List.map_append, List.map_map, hline, hafter,
    ← List.append_assoc]

end Found

/-- Where a content is cut after a line end, its parts are texts, and the entries accepted in it are
those accepted in the first part and then those in the second, so that the totals add up. The
numbers that are reported are those of exactly the lines that are neither blank nor entries. Another
line between the parts, blank or no entry, leaves the page as it was. -/
theorem scan_compositional {c₁ c₂ : Bytes} (hend : c₁ = [] ∨ c₁.getLast? = some 0x0A)
    (hvalid : (decodeChars? (c₁ ++ c₂)).isSome = true) (f : Filter) :
    ∃ cs₁ cs₂, decodeChars? c₁ = some cs₁ ∧ decodeChars? c₂ = some cs₂ ∧
      let page₁ := Page.ofAccepted f (acceptedIn f cs₁)
      let page₂ := Page.ofAccepted f (acceptedIn f cs₂)
      let page := Page.ofAccepted f (acceptedIn f (cs₁ ++ cs₂))
      (content c₁).query f = .ok (page₁, malformedIn cs₁) ∧
      (content c₂).query f = .ok (page₂, malformedIn cs₂) ∧
      (content (c₁ ++ c₂)).query f = .ok (page, malformedIn (cs₁ ++ cs₂)) ∧
      acceptedIn f (cs₁ ++ cs₂) = acceptedIn f cs₁ ++ acceptedIn f cs₂ ∧
      page.total = page₁.total + page₂.total ∧
      malformedIn (cs₁ ++ cs₂) = malformedIn cs₁ ++ (malformedIn cs₂).map (· + cs₁.count '\n') ∧
      ∀ l ending, '\n' ∉ l → Ended l ending →
        (l.all Text.isBlank = true ∨ Entry.parse? (encodeChars l) = none) →
        (content (c₁ ++ encodeChars (l ++ ending) ++ c₂)).query f =
            .ok (page, malformedIn (cs₁ ++ (l ++ ending) ++ cs₂)) ∧
          malformedIn (cs₁ ++ (l ++ ending) ++ cs₂) =
            malformedIn cs₁ ++ (if isMalformed l then [cs₁.count '\n' + 1] else []) ++
              (malformedIn cs₂).map (· + (cs₁.count '\n' + 1)) := by
  obtain ⟨cs₁, cs₂, ls, hcs₁, hcs₂, hls⟩ := decode_cut hend hvalid
  have haccepted := acceptedIn_append hls f cs₂
  have htotal := congrArg List.length haccepted
  rw [List.length_append] at htotal
  refine ⟨cs₁, cs₂, hcs₁, hcs₂, query_content hcs₁ f, query_content hcs₂ f,
    query_content (decode_append hcs₁ hcs₂) f, haccepted, htotal, malformedIn_append hls cs₂, ?_⟩
  intro l ending hl hended hnone
  have hline := decodeChars_encodeChars (l ++ ending)
  have hquery := query_content (decode_append (decode_append hcs₁ hline) hcs₂) f
  rw [acceptedIn_inserted hls hl hended hnone] at hquery
  exact ⟨hquery, malformedIn_inserted hls hl hended cs₂⟩

/-- A line that is no entry, after one that is and before a blank one and an entry whose line has no
end. -/
theorem stray_line_passed_over :
    let c₁ := lineOf (bare "/a")
    let c₂ := encodeChars (['\u3000', '\r', '\n'] ++ (bare "/b").chars)
    ∃ page, (content (c₁ ++ c₂)).query ofEpoch = .ok (page, []) ∧ page.total = 2 ∧
      (content (c₁ ++ encodeChars ("oops".toList ++ ['\r', '\n']) ++ c₂)).query ofEpoch =
        .ok (page, [2]) := by
  intro c₁ c₂
  have hc₁ : decodeChars? c₁ = some ((bare "/a").chars ++ ['\n']) := decodeChars_encodeChars _
  have hc₂ : decodeChars? c₂ = some (['\u3000', '\r', '\n'] ++ (bare "/b").chars) :=
    decodeChars_encodeChars _
  have hend : c₁ = [] ∨ c₁.getLast? = some 0x0A := .inr (by decide +kernel)
  have hvalid : (decodeChars? (c₁ ++ c₂)).isSome = true := by decide +kernel
  obtain ⟨cs₁, cs₂, hcs₁, hcs₂, -, -, hquery, -, -, -, hinserted⟩ :=
    scan_compositional hend hvalid ofEpoch
  obtain rfl := Option.some.inj (hc₁.symm.trans hcs₁)
  obtain rfl := Option.some.inj (hc₂.symm.trans hcs₂)
  have hstray := (hinserted "oops".toList _ (by decide) .returnFeed (.inr rfl)).1
  have hnone : malformedIn (((bare "/a").chars ++ ['\n']) ++
      (['\u3000', '\r', '\n'] ++ (bare "/b").chars)) = [] := by decide +kernel
  have hsecond : malformedIn (((bare "/a").chars ++ ['\n']) ++ ("oops".toList ++ ['\r', '\n']) ++
      (['\u3000', '\r', '\n'] ++ (bare "/b").chars)) = [2] := by decide +kernel
  rw [hnone] at hquery
  rw [hsecond] at hstray
  refine ⟨_, hquery, ?_, hstray⟩
  decide +kernel

end AuditTrail.Sink.File
