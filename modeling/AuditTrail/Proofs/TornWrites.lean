import AuditTrail.Proofs.CutTexts
import AuditTrail.Proofs.FileSink

/-!
# Writes that stopped midway

A line whose writing stopped midway has no end, so the next batch goes on with it. Cut between two
characters it takes the first entry of that batch with it, and everything else is found; cut inside
a character it makes the whole file unreadable.
-/

namespace AuditTrail.Sink.File

open Utf8

/-- The entries that are found in the lines of the given ones. -/
def found (es : List Entry) : List Entry :=
  es.filterMap (Entry.reread 126)

/-- The numbers of the lines in which none is found; the first line has the number `n`. -/
def lost (n : Nat) (es : List Entry) : List Nat :=
  ((es.zipIdx n).filter fun p => (p.1.reread 126).isNone).map Prod.snd

lemma found_append (es es' : List Entry) : found (es ++ es') = found es ++ found es' :=
  List.filterMap_append

lemma query_text {file : File} {cs : List Char} (h : file.text = .ok cs) (f : Filter) :
    file.query f = .ok (Page.select f (entriesOf (lines cs)), malformedFrom 1 (lines cs)) := by
  rw [query, h]
  rfl

section Lines

variable {es bs : List Entry} {l : List Char}

/-- A malformed line between others is all that is passed over. -/
lemma entriesOf_malformed (hes : ∀ e ∈ es, e.Recordable) (hbs : ∀ e ∈ bs, e.Recordable)
    (hl : readLine l = .malformed) :
    entriesOf (es.map Entry.chars ++ l :: bs.map Entry.chars) = found (es ++ bs) := by
  have hline : entriesOf [l] = [] := by
    rw [entriesOf, List.filterMap_cons_none (by rw [hl]), List.filterMap_nil]
  have hsplit : l :: bs.map Entry.chars = [l] ++ bs.map Entry.chars := rfl
  rw [hsplit, entriesOf_append, entriesOf_append, hline, List.nil_append, entriesOf_chars hes,
    entriesOf_chars hbs, found_append, found, found]

lemma malformedFrom_malformed (hes : ∀ e ∈ es, e.Recordable) (hbs : ∀ e ∈ bs, e.Recordable)
    (hl : readLine l = .malformed) :
    malformedFrom 1 (es.map Entry.chars ++ l :: bs.map Entry.chars) =
      lost 1 es ++ (es.length + 1) :: lost (es.length + 2) bs := by
  rw [malformedFrom_append, malformedFrom_chars hes, malformedFrom, hl, malformedFrom_chars hbs,
    List.length_map, Nat.add_comm 1 es.length]
  rfl

end Lines

/-- An entry without bodies, of the instant from which seconds are counted. -/
def bare (url : String) : Entry where
  method := "POST"
  url := url
  status := 200
  userId := 7
  userIp := "127.0.0.1"
  userRole := .user
  receivedAt := ⟨0, 0⟩
  requestBody := []
  responseBody := []

lemma recordable_bare (url : String) : (bare url).Recordable where
  status := (by decide : 200 < Word.limit16)
  userId := (by decide : 7 < Word.limit64)
  receivedAt := (by decide : Time.Instant.isValid ⟨0, 0⟩ = true)

lemma recordable_bares (urls : List String) : ∀ x ∈ urls.map bare, x.Recordable :=
  List.forall_mem_map.mpr fun url _ => recordable_bare url

lemma accepts_bare (url : String) : ofEpoch.accepts (bare url) = true := rfl

/-- The line of an entry up to some octet, and from there on. -/
lemma take_lineOf (n : Nat) (e : Entry) :
    (lineOf e).take n ++ (lineOf e).drop n = lineOf e :=
  List.take_append_drop n (lineOf e)

section Cut

variable {e : Entry} {cut more : List Char}

lemma printable_cut (h : cut ++ more = e.chars) : ∀ c ∈ cut, 0x20 ≤ c.toNat := by
  intro c hc
  refine e.printable_entry c ?_
  rw [← h]
  exact List.mem_append_left more hc

/-- What begins as the text of an entry is no blank line. -/
lemma readLine_unparsed {cs : List Char} (h : cut ++ more = e.chars) (hcut : cut ≠ [])
    (hnone : Entry.parse? (encodeChars (cut ++ cs)) = none) :
    readLine (cut ++ cs) = .malformed := by
  obtain ⟨c, cut, rfl⟩ := List.exists_cons_of_ne_nil hcut
  have hc : c = '\x7b' := by
    rw [Entry.chars_eq, List.cons_append, List.cons_append] at h
    exact (List.cons.inj h).1
  have hblank : ((c :: cut) ++ cs).all Text.isBlank = false := by
    rw [hc]
    rfl
  simp only [readLine, hblank, hnone, Bool.false_eq_true, if_false]

lemma readLine_cut (h : cut ++ more = e.chars) (hcut : cut ≠ []) (hmore : more ≠ []) :
    readLine cut = .malformed := by
  have hnone : Entry.parse? (encodeChars (cut ++ [])) = none := by
    rw [List.append_nil, Entry.parse_cut h hcut hmore]
  have hline := readLine_unparsed h hcut hnone
  rwa [List.append_nil] at hline

lemma readLine_glued (h : cut ++ more = e.chars) (hcut : cut ≠ []) (e' : Entry) :
    readLine (cut ++ e'.chars) = .malformed :=
  readLine_unparsed h hcut (Entry.parse_glued h hcut e')

end Cut

/-- A file with the lines of the given entries after which a write stopped. -/
def interrupted (es : List Entry) (cut : Bytes) : File :=
  content (es.flatMap lineOf ++ cut)

section Interrupted

variable {es batch bs : List Entry} {e b : Entry} {cut rest : Bytes} {xs ys : List Char}

lemma append_interrupted (es batch : List Entry) (cut : Bytes) :
    (interrupted es cut).append batch =
      (content (encodeChars (charsOf es) ++ (cut ++ encodeChars (charsOf batch))), .ok ()) := by
  rw [encode_charsOf, encode_charsOf, ← List.append_assoc]
  rfl

/-- Between two lines or two characters the file remains a text. -/
lemma text_interrupted (es batch : List Entry) (xs : List Char) :
    ((interrupted es (encodeChars xs)).append batch).1.text =
      .ok (charsOf es ++ (xs ++ charsOf batch)) := by
  have hdecode := decodeChars_encodeChars (charsOf es ++ (xs ++ charsOf batch))
  rw [encodeChars_append, encodeChars_append] at hdecode
  simp only [append_interrupted, text, hdecode]

lemma breaks_charsOf (es : List Entry) : Breaks (encodeChars (charsOf es)) := by
  cases es with
  | nil => exact fun _ h => nomatch h
  | cons e es =>
    rintro _ ⟨⟩
    decide

/-- Inside a character it does not. -/
lemma query_broken (hcut : ∀ s, Breaks s → decodeChars? (cut ++ s) = none) (f : Filter) :
    ((interrupted es cut).append batch).1.query f =
      .error (.io (.data "stream did not contain valid UTF-8")) := by
  have hdecode : decodeChars? (encodeChars (charsOf es) ++
      (cut ++ encodeChars (charsOf batch))) = none := by
    rw [decodeChars_append, hcut _ (breaks_charsOf batch), Option.map_none]
  rw [append_interrupted, query, text, hdecode]
  rfl

/-- Where nothing of the line was written the batch stands on its own. -/
lemma query_unwritten (hes : ∀ x ∈ es, x.Recordable) (hbatch : ∀ x ∈ batch, x.Recordable)
    (f : Filter) :
    ((interrupted es []).append batch).1.query f =
      .ok (Page.select f (found (es ++ batch)), lost 1 (es ++ batch)) := by
  have hholds : ((interrupted es []).append batch).1 = content ((es ++ batch).flatMap lineOf) := by
    rw [append_interrupted, List.nil_append, encode_charsOf, encode_charsOf, List.flatMap_append]
  have hall : ∀ x ∈ es ++ batch, x.Recordable := by simpa [or_imp, forall_and] using ⟨hes, hbatch⟩
  rw [hholds]
  exact query_holds (.content (es ++ batch)) hall f

/-- The line goes on with the first entry of the batch, and only these two are not found. -/
lemma query_glued (hes : ∀ x ∈ es, x.Recordable) (hbs : ∀ x ∈ bs, x.Recordable)
    (hcut : xs ++ ys = e.chars) (hne : xs ≠ []) (f : Filter) :
    ((interrupted es (encodeChars xs)).append (b :: bs)).1.query f =
      .ok (Page.select f (found (es ++ bs)),
        lost 1 es ++ (es.length + 1) :: lost (es.length + 2) bs) := by
  have hprintable : ∀ c ∈ xs ++ b.chars, 0x20 ≤ c.toNat := by
    intro c hc
    rcases List.mem_append.mp hc with hc | hc
    · exact printable_cut hcut c hc
    · exact b.printable_entry c hc
  have hlines : lines (charsOf es ++ (xs ++ charsOf (b :: bs))) =
      es.map Entry.chars ++ (xs ++ b.chars) :: bs.map Entry.chars := by
    have hsplit : xs ++ charsOf (b :: bs) = (xs ++ b.chars) ++ '\n' :: charsOf bs := by
      simp [charsOf]
    rw [(terminated_charsOf es).lines_append, hsplit, lines_line hprintable,
      (terminated_charsOf bs).lines_eq]
  have hline := readLine_glued hcut hne b
  rw [query_text (text_interrupted es (b :: bs) xs), hlines, entriesOf_malformed hes hbs hline,
    malformedFrom_malformed hes hbs hline]

/-- Without another entry the cut line stands alone. -/
lemma query_cut (hes : ∀ x ∈ es, x.Recordable) (hcut : xs ++ ys = e.chars) (hne : xs ≠ [])
    (hmore : ys ≠ []) (f : Filter) :
    ((interrupted es (encodeChars xs)).append []).1.query f =
      .ok (Page.select f (found es), lost 1 es ++ [es.length + 1]) := by
  have hlines : lines (charsOf es ++ (xs ++ charsOf [])) =
      es.map Entry.chars ++ xs :: [].map Entry.chars := by
    have hnil : xs ++ charsOf [] = xs := List.append_nil xs
    rw [(terminated_charsOf es).lines_append, hnil,
      lines_last (feed_not_mem (printable_cut hcut)) hne]
    rfl
  have hline := readLine_cut hcut hne hmore
  rw [query_text (text_interrupted es [] xs), hlines,
    entriesOf_malformed hes (by simp) hline, malformedFrom_malformed hes (by simp) hline,
    List.append_nil]
  rfl

/-- A line that lacks nothing but its end counts. -/
lemma query_unended (hes : ∀ x ∈ es, x.Recordable) (he : e.Recordable) (f : Filter) :
    ((interrupted es (encodeChars e.chars)).append []).1.query f =
      .ok (Page.select f (found (es ++ [e])), lost 1 (es ++ [e])) := by
  have hne : e.chars ≠ [] := by simp [Entry.chars_eq]
  have hlines : lines (charsOf es ++ (e.chars ++ charsOf [])) = (es ++ [e]).map Entry.chars := by
    have hnil : e.chars ++ charsOf [] = e.chars := List.append_nil _
    rw [(terminated_charsOf es).lines_append, hnil, lines_last (feed_not_mem e.printable_entry) hne,
      List.map_append]
    rfl
  have hall : ∀ x ∈ es ++ [e], x.Recordable := by simpa [or_imp, forall_and] using ⟨hes, he⟩
  rw [query_text (text_interrupted es [] e.chars), hlines, entriesOf_chars hall,
    malformedFrom_chars hall]
  rfl

/-- A cut that leaves out something leaves out the line end, so what it leaves is the beginning of
the entry's text, unless it goes through a character. -/
lemma cut_cases (hcut : cut ++ rest = lineOf e) (hrest : rest ≠ []) :
    (∃ xs ys, xs ++ ys = e.chars ∧ cut = encodeChars xs ∧ rest = encodeChars (ys ++ ['\n'])) ∨
      ∀ s, Breaks s → decodeChars? (cut ++ s) = none := by
  rcases cut_encodeChars hcut with ⟨xs, ys, hsplit, hxs, hys⟩ | hbroken
  · have hne : ys ≠ [] := by
      rintro rfl
      exact hrest hys
    have hlast : ys.getLast hne = '\n' := by
      have hend : (xs ++ ys).getLast? = some '\n' := by simp [hsplit]
      rw [List.getLast?_append_of_ne_nil xs hne, List.getLast?_eq_some_getLast hne] at hend
      exact Option.some.inj hend
    have hys' : ys.dropLast ++ ['\n'] = ys := by rw [← hlast, List.dropLast_append_getLast hne]
    refine .inl ⟨xs, ys.dropLast, ?_, hxs, by rw [hys', hys]⟩
    rw [← hys', ← List.append_assoc] at hsplit
    exact List.append_cancel_right hsplit
  · exact .inr hbroken

lemma eq_nil_of_line_end (h : encodeChars (ys ++ ['\n']) = [0x0A]) : ys = [] := by
  have hchars := congrArg decodeChars? h
  rw [decodeChars_encodeChars] at hchars
  have hnil : ys ++ ['\n'] = [] ++ ['\n'] := Option.some.inj hchars
  exact List.append_cancel_right hnil

/-- After a write that stopped midway a batch is taken. If nothing of the line was written, all
entries are found. If the cut goes through a character, every query fails. If it is anywhere else,
the line goes on with the first entry of the batch and these two are not found, but all others are;
an empty batch leaves the line alone, which then counts just if nothing but its end is missing. -/
theorem interrupted_write_costs_one_entry (hes : ∀ x ∈ es, x.Recordable) (he : e.Recordable)
    (hbatch : ∀ x ∈ batch, x.Recordable) (hcut : cut ++ rest = lineOf e) (hrest : rest ≠ [])
    (f : Filter) :
    ((interrupted es cut).append batch).2 = .ok () ∧
      let answer := ((interrupted es cut).append batch).1.query f
      (cut = [] → answer = .ok (Page.select f (found (es ++ batch)), lost 1 (es ++ batch))) ∧
      (decodeChars? cut = none →
        answer = .error (.io (.data "stream did not contain valid UTF-8"))) ∧
      (cut ≠ [] → (decodeChars? cut).isSome = true →
        (∀ b bs, batch = b :: bs → answer = .ok (Page.select f (found (es ++ bs)),
          lost 1 es ++ (es.length + 1) :: lost (es.length + 2) bs)) ∧
        (batch = [] → rest ≠ [0x0A] →
          answer = .ok (Page.select f (found es), lost 1 es ++ [es.length + 1])) ∧
        (batch = [] → rest = [0x0A] →
          answer = .ok (Page.select f (found (es ++ [e])), lost 1 (es ++ [e])))) := by
  refine ⟨rfl, ?_⟩
  dsimp only
  rcases cut_cases hcut hrest with ⟨xs, ys, hsplit, rfl, rfl⟩ | hbroken
  · have hdecode := decodeChars_encodeChars xs
    refine ⟨fun hnil => ?_, fun hnone => ?_, fun hne _ => ?_⟩
    · rw [hnil]
      exact query_unwritten hes hbatch f
    · rw [hdecode] at hnone
      cases hnone
    · have hxs : xs ≠ [] := by rintro rfl; exact hne rfl
      refine ⟨?_, ?_, ?_⟩
      · rintro b bs rfl
        exact query_glued hes (fun x hx => hbatch x (List.mem_cons_of_mem _ hx)) hsplit hxs f
      · rintro rfl hmore
        have hys : ys ≠ [] := by rintro rfl; exact hmore rfl
        exact query_cut hes hsplit hxs hys f
      · rintro rfl hend
        rw [eq_nil_of_line_end hend, List.append_nil] at hsplit
        rw [hsplit]
        exact query_unended hes he f
  · have hnone : decodeChars? cut = none := by
      have := hbroken [] (by simp [Breaks])
      rwa [List.append_nil] at this
    refine ⟨?_, fun _ => query_broken hbroken f, fun _ hsome => ?_⟩
    · rintro rfl
      cases hnone
    · rw [hnone] at hsome
      cases hsome

end Interrupted

/-- A line that stops in the name of its second member takes the next entry with it. -/
theorem interrupted_line_found :
    let cut := (lineOf (bare "/größe")).take 20
    cut ++ (lineOf (bare "/größe")).drop 20 = lineOf (bare "/größe") ∧
      ((interrupted [bare "/a"] cut).append [bare "/b", bare "/c"]).2 = .ok () ∧
      ((interrupted [bare "/a"] cut).append [bare "/b", bare "/c"]).1.query ofEpoch =
        .ok (Page.select ofEpoch (found [bare "/a", bare "/c"]), [2]) := by
  have hmain := interrupted_write_costs_one_entry (recordable_bares ["/a"])
    (recordable_bare "/größe") (recordable_bares ["/b", "/c"])
    (take_lineOf 20 (bare "/größe")) (by decide +kernel) ofEpoch
  exact ⟨take_lineOf 20 _, hmain.1,
    (hmain.2.2.2 (by decide +kernel) (by decide +kernel)).1 _ _ rfl⟩

/-- It hides an entry that has been taken and is asked for. A line that stops inside a character
hides them all. -/
theorem interrupted_line_hides_entries :
    let line := lineOf (bare "/größe")
    let batch := [bare "/b", bare "/c"]
    (∀ x ∈ bare "/a" :: batch, ofEpoch.accepts x = true) ∧
      (line.take 20 ++ line.drop 20 = line ∧ line.drop 20 ≠ [] ∧
        ((interrupted [bare "/a"] (line.take 20)).append batch).2 = .ok () ∧
        ∃ page, ((interrupted [bare "/a"] (line.take 20)).append batch).1.query ofEpoch =
          .ok (page, [2]) ∧ page.total = 2) ∧
      line.take 28 ++ line.drop 28 = line ∧ line.drop 28 ≠ [] ∧
        ((interrupted [bare "/a"] (line.take 28)).append batch).2 = .ok () ∧
        ∀ f, ((interrupted [bare "/a"] (line.take 28)).append batch).1.query f =
          .error (.io (.data "stream did not contain valid UTF-8")) := by
  have hbetween : (lineOf (bare "/größe")).take 20 =
      encodeChars ((bare "/größe").chars.take 20) := by decide +kernel
  have hglued := query_glued (b := bare "/b") (recordable_bares ["/a"]) (recordable_bares ["/c"])
    (List.take_append_drop 20 (bare "/größe").chars) (by decide +kernel) ofEpoch
  have hinside : decodeChars? ((lineOf (bare "/größe")).take 28) = none := by decide +kernel
  refine ⟨by simp [accepts_bare], ⟨take_lineOf 20 _, by decide +kernel, rfl, ?_⟩,
    take_lineOf 28 _, by decide +kernel, rfl, ?_⟩
  · rw [hbetween]
    exact ⟨_, hglued, rfl⟩
  · rcases cut_cases (take_lineOf 28 (bare "/größe")) (by decide +kernel) with
      ⟨xs, ys, -, hxs, -⟩ | hbroken
    · rw [hxs, decodeChars_encodeChars] at hinside
      cases hinside
    · exact query_broken hbroken

end AuditTrail.Sink.File
