import AuditTrail.Proofs.Lines
import AuditTrail.Proofs.ReadValues
import AuditTrail.Proofs.Records
import AuditTrail.Sink.Store

/-!
# The sink in a file keeps what it is given

The text of an entry has no line ends, so the lines of a file that only the sink has written are the
texts of its entries, in order. Each is read as its entry if the bodies of the entry leave room for
one container more, and is passed over otherwise.
-/

namespace AuditTrail.Sink

open Json

namespace File

/-- The text of a file with the lines of the given entries. -/
def charsOf (es : List Entry) : List Char :=
  es.flatMap fun e => e.chars ++ ['\n']

lemma terminated_charsOf (es : List Entry) : Terminated (charsOf es) (es.map Entry.chars) := by
  induction es with
  | nil => exact .nil
  | cons e es ih =>
    have hsplit : charsOf (e :: es) = e.chars ++ (['\n'] ++ charsOf es) := by simp [charsOf]
    rw [hsplit, List.map_cons]
    exact .line (feed_not_mem e.printable_entry) (ended_feed e.printable_entry) ih

lemma encode_charsOf (es : List Entry) : Utf8.encodeChars (charsOf es) = es.flatMap lineOf := by
  rw [charsOf, Utf8.encodeChars, List.flatMap_assoc]
  rfl

/-- What is read from the line of an entry. -/
def rereadLine (e : Entry) : Line :=
  match e.reread 126 with
  | some e => .entry e
  | none => .malformed

lemma readLine_chars {e : Entry} (h : e.Recordable) : readLine e.chars = rereadLine e := by
  have hblank : e.chars.all Text.isBlank = false := rfl
  cases hreread : e.reread 126 <;>
    simp only [readLine, rereadLine, hblank, Bool.false_eq_true, if_false, Entry.parse_chars h,
      hreread]

lemma entriesOf_chars {es : List Entry} (h : ∀ e ∈ es, e.Recordable) :
    entriesOf (es.map Entry.chars) = es.filterMap (Entry.reread 126) := by
  rw [entriesOf, List.filterMap_map]
  refine List.filterMap_congr fun e he => ?_
  simp only [Function.comp_apply, readLine_chars (h e he), rereadLine]
  cases e.reread 126 <;> rfl

/-- The malformed lines are those of the entries that are not found. -/
lemma malformedFrom_chars {es : List Entry} (h : ∀ e ∈ es, e.Recordable) (n : Nat) :
    malformedFrom n (es.map Entry.chars) =
      ((es.zipIdx n).filter fun p => (p.1.reread 126).isNone).map Prod.snd := by
  induction es generalizing n with
  | nil => rfl
  | cons e es ih =>
    rw [List.map_cons, malformedFrom, readLine_chars (h e List.mem_cons_self), rereadLine,
      ih fun e he => h e (List.mem_cons_of_mem _ he), List.zipIdx_cons]
    cases hreread : e.reread 126 <;> simp [hreread]

/-- A file that holds the lines of the given entries and nothing else. -/
inductive Holds : List Entry → File → Prop where
  | missing : Holds [] missing
  | content (es : List Entry) : Holds es (content (es.flatMap lineOf))

section Holds

variable {file : File} {es : List Entry}

/-- A batch that is appended is added to what the file holds. -/
lemma append_holds (h : Holds es file) (batch : List Entry) :
    ∃ file', file.append batch = (file', .ok ()) ∧ Holds (es ++ batch) file' := by
  cases h with
  | missing => exact ⟨_, rfl, .content batch⟩
  | content =>
    refine ⟨_, rfl, ?_⟩
    rw [← List.flatMap_append]
    exact .content (es ++ batch)

lemma text_holds (h : Holds es file) : file.text = .ok (charsOf es) := by
  cases h with
  | missing => rfl
  | content =>
    have hdecode := Utf8.decodeChars_encodeChars (charsOf es)
    rw [encode_charsOf] at hdecode
    simp only [text, hdecode]

/-- A query answers with those of the entries that are found. -/
theorem query_holds (h : Holds es file) (hes : ∀ e ∈ es, e.Recordable) (f : Filter) :
    file.query f = .ok (Page.select f (es.filterMap (Entry.reread 126)),
      ((es.zipIdx 1).filter fun p => (p.1.reread 126).isNone).map Prod.snd) := by
  rw [← entriesOf_chars hes, ← malformedFrom_chars hes, ← (terminated_charsOf es).lines_eq,
    query, text_holds h]
  rfl

lemma holds_nothing (h : file = missing ∨ file = content []) : Holds [] file := by
  rcases h with rfl | rfl
  · exact .missing
  · exact .content []

end Holds
end File

/-! ### Recorded bodies -/

/-- An entry with recorded bodies is found, changed or not, just if these leave room. -/
lemma reread_isSome_of_recorded {e : Entry} {q r : Bytes}
    (hq : e.requestBody = Redaction.body (Body.recorded q))
    (hr : e.responseBody = Redaction.body (Body.recorded r)) :
    (e.reread 126).isSome = true ↔ e.LeavesRoom :=
  Entry.reread_isSome_iff_leavesRoom (hq ▸ (Body.redacted_spec q).2) (hr ▸ (Body.redacted_spec r).2)

lemma ends_of_blank {blanks : Bytes} (h : ∀ b ∈ blanks, isBlank b = true) :
    Numeral.Ends blanks := by
  intro b hb
  have hcases := (isBlank_iff b).mp (h b (List.mem_of_mem_head? hb))
  simp only [← Bool.not_eq_true, Numeral.isDigit_iff, ne_eq, ← UInt8.toNat_inj, UInt8.reduceToNat]
  omega

/-- The text of an object, with blanks after it and within the limits, is recorded as this
object. -/
lemma recorded_padded {o : Object} {blanks : Bytes} (hblanks : ∀ b ∈ blanks, isBlank b = true)
    (hfits : Body.fits (Json.encode (.object o) ++ blanks) = true)
    (hnests : Nests maxDepth (.object o)) (hregular : Regular Number.IsInteger (.object o)) :
    Body.recorded (Json.encode (.object o) ++ blanks) = o := by
  have hread := object_reads maxDepth o blanks (ends_of_blank hblanks)
  rw [Object.reread_self (fun n => Number.IsInteger.reread) hnests hregular] at hread
  have hend : (dropBlank blanks).isEmpty = true :=
    List.isEmpty_iff.mpr (List.dropWhile_eq_nil_iff.mpr hblanks)
  have hobject : Body.object? (Json.encode (.object o) ++ blanks) = some o := by
    rw [Body.object?, Body.capped, if_pos hfits, whole, encode, ← objectChars, hread]
    simp only [Option.map_some, hend, if_true]
  have hnonempty : (Json.encode (.object o) ++ blanks).isEmpty = false := rfl
  rw [Body.recorded, Body.read, hnonempty, hobject]
  rfl

/-- The text of an object within the limits is recorded as this object. -/
lemma recorded_encode {o : Object} (hfits : Body.fits (Json.encode (.object o)) = true)
    (hnests : Nests maxDepth (.object o)) (hregular : Regular Number.IsInteger (.object o)) :
    Body.recorded (Json.encode (.object o)) = o := by
  rw [← List.append_nil (Json.encode _)] at hfits ⊢
  exact recorded_padded (List.forall_mem_nil _) hfits hnests hregular

/-- Arrays in one another, `n` of them. -/
def brackets : Nat → Json
  | 0 => .null
  | n + 1 => .array [brackets n]

lemma nests_brackets {n depth : Nat} : Nests depth (brackets n) ↔ n ≤ depth := by
  induction n generalizing depth with
  | zero => exact ⟨fun _ => Nat.zero_le _, fun _ => .null⟩
  | succ n ih =>
    cases depth with
    | zero => exact ⟨(nomatch ·), (absurd · (by simp))⟩
    | succ depth =>
      constructor
      · intro h
        cases h with
        | array hitems => exact Nat.succ_le_succ (ih.mp (hitems _ (List.mem_singleton_self _)))
      · intro h
        refine .array fun v hv => ?_
        rw [List.mem_singleton.mp hv]
        exact ih.mpr (Nat.le_of_succ_le_succ h)

lemma regular_brackets (p : Number → Prop) (n : Nat) : Regular p (brackets n) := by
  induction n with
  | zero => exact .null
  | succ n ih => exact .array (by simpa using ih)

lemma length_brackets (n : Nat) : (Json.encode (brackets n)).length = 2 * n + 4 := by
  induction n with
  | zero => rfl
  | succ n ih =>
    have hchars : Json.encode (brackets (n + 1)) =
        0x5B :: (Json.encode (brackets n) ++ [0x5D]) := by
      change Utf8.encodeChars ('[' :: (chars (brackets n) ++ [']'])) = _
      rw [Utf8.encodeChars_cons, Utf8.encodeChars_append]
      rfl
    rw [hchars, List.length_cons, List.length_append, List.length_singleton, ih]
    omega

/-- A body with one member, `n` arrays in one another. -/
def nestedBody (n : Nat) : Bytes :=
  Json.encode (.object [("a", brackets n)])

lemma length_nestedBody (n : Nat) : (nestedBody n).length = 2 * n + 10 := by
  have hchars : nestedBody n =
      [0x7B, 0x22, 0x61, 0x22, 0x3A] ++ (Json.encode (brackets n) ++ [0x7D]) := by
    change Utf8.encodeChars (['\x7b', '"', 'a', '"', ':'] ++ (chars (brackets n) ++ ['\x7d'])) = _
    rw [Utf8.encodeChars_append, Utf8.encodeChars_append]
    rfl
  rw [hchars, List.length_append, List.length_append, length_brackets, List.length_singleton]
  change 5 + (2 * n + 4 + 1) = 2 * n + 10
  omega

/-- Arrays nest as deep as a body may if the object around them counts as one container. -/
lemma nestedBody_recorded {n : Nat} (h : n < maxDepth) :
    Redaction.body (Body.recorded (nestedBody n)) = [("a", brackets n)] := by
  have hfits : Body.fits (nestedBody n) = true := by
    have : maxDepth = 127 := rfl
    have : Body.maxSize = 10240 := rfl
    rw [Body.fits, length_nestedBody, decide_eq_true_eq]
    omega
  have hnests : Nests maxDepth (.object [("a", brackets n)]) :=
    .object (by simpa using nests_brackets.mpr (Nat.le_of_lt_succ h))
  have hregular : Regular Number.IsInteger (.object [("a", brackets n)]) :=
    .object (List.pairwise_singleton _ _) (by simpa using regular_brackets _ n)
  rw [nestedBody, recorded_encode hfits hnests hregular]
  rfl

/-- An entry of a request with a nested body, answered without one. -/
def nestedEntry (n : Nat) : Entry where
  method := "POST"
  url := "/api/v1/orders"
  status := 200
  userId := 7
  userIp := "127.0.0.1"
  userRole := .user
  receivedAt := ⟨0, 0⟩
  requestBody := Redaction.body (Body.recorded (nestedBody n))
  responseBody := Redaction.body (Body.recorded [])

/-- Asks for the entries of the instant from which seconds are counted. -/
def ofEpoch : Filter :=
  ⟨⟨0, 0⟩, ⟨0, 0⟩, 0, 20, 0⟩

lemma requestBody_nestedEntry (n : Nat) :
    (nestedEntry n).requestBody = Redaction.body (Body.recorded (nestedBody n)) := rfl

lemma responseBody_nestedEntry (n : Nat) :
    (nestedEntry n).responseBody = Redaction.body (Body.recorded []) := rfl

lemma accepts_nestedEntry (n : Nat) : ofEpoch.accepts (nestedEntry n) = true := rfl

lemma recordable_nestedEntry (n : Nat) : (nestedEntry n).Recordable where
  status := (by decide : 200 < Word.limit16)
  userId := (by decide : 7 < Word.limit64)
  receivedAt := (by decide : Time.Instant.isValid ⟨0, 0⟩ = true)

lemma leavesRoom_nestedEntry {n : Nat} (h : n < maxDepth) :
    (nestedEntry n).LeavesRoom ↔ n ≤ 125 := by
  have hresponse : Nests 126 (.object (nestedEntry n).responseBody) := .object (nofun)
  unfold Entry.LeavesRoom
  rw [nestedEntry, nestedBody_recorded h]
  constructor
  · rintro ⟨hrequest, -⟩
    cases hrequest with
    | object hmembers => exact nests_brackets.mp (hmembers _ (List.mem_singleton_self _))
  · exact fun hn => ⟨.object (by simpa using nests_brackets.mpr hn), hresponse⟩

namespace File

section Single

variable {file : File} {e : Entry} {f : Filter}

lemma query_found (h : Holds [e] file) (he : e.Recordable) (hf : f.accepts e = true)
    (hfound : (e.reread 126).isSome = true) :
    ∃ page, file.query f = .ok (page, []) ∧ page.total = 1 := by
  obtain ⟨e', hreread⟩ := Option.isSome_iff_exists.mp hfound
  refine ⟨Page.select f [e'], ?_, ?_⟩
  · rw [query_holds h (by simpa using he)]
    simp [hreread]
  · have haccepts : f.accepts e' = true := (Entry.accepts_reread hreread f).trans hf
    simp [Page.select, Page.ofAccepted, haccepts]

lemma query_lost (h : Holds [e] file) (he : e.Recordable)
    (hlost : ¬(e.reread 126).isSome = true) :
    ∃ page, file.query f = .ok (page, [1]) ∧ page.total = 0 := by
  have hnone : e.reread 126 = none := by simpa using hlost
  refine ⟨Page.select f [], ?_, rfl⟩
  rw [query_holds h (by simpa using he)]
  simp [hnone]

/-- A recorded entry is counted, and its line is not passed over, just if its redacted bodies leave
room for one container more. Bodies of the greatest depth that can be recorded do not. -/
theorem recorded_entry_found {q r : Bytes} (he : e.Recordable)
    (hq : e.requestBody = Redaction.body (Body.recorded q))
    (hr : e.responseBody = Redaction.body (Body.recorded r))
    (hfile : file = missing ∨ file = content []) (hf : f.accepts e = true) :
    (file.append [e]).2 = .ok () ∧
      (e.LeavesRoom →
        ∃ page, (file.append [e]).1.query f = .ok (page, []) ∧ page.total = 1) ∧
      (¬e.LeavesRoom →
        ∃ page, (file.append [e]).1.query f = .ok (page, [1]) ∧ page.total = 0) := by
  obtain ⟨file', happend, hholds⟩ := append_holds (holds_nothing hfile) [e]
  rw [happend, ← reread_isSome_of_recorded hq hr]
  exact ⟨rfl, query_found hholds he hf, query_lost hholds he⟩

end Single

/-- With 125 arrays in one another the entry is found. -/
theorem nested_entry_found :
    (missing.append [nestedEntry 125]).2 = .ok () ∧
      ∃ page, (missing.append [nestedEntry 125]).1.query ofEpoch = .ok (page, []) ∧
        page.total = 1 :=
  have h := recorded_entry_found (recordable_nestedEntry 125) (requestBody_nestedEntry 125)
    (responseBody_nestedEntry 125) (.inl rfl) (accepts_nestedEntry 125)
  ⟨h.1, h.2.1 ((leavesRoom_nestedEntry (by decide)).mpr le_rfl)⟩

/-- With 126 arrays in one another the body is recorded, but its entry is written and not found. -/
theorem deepest_entry_lost :
    (nestedEntry 126).requestBody = [("a", brackets 126)] ∧
      ofEpoch.accepts (nestedEntry 126) = true ∧
      (missing.append [nestedEntry 126]).2 = .ok () ∧
      ∃ page, (missing.append [nestedEntry 126]).1.query ofEpoch = .ok (page, [1]) ∧
        page.total = 0 := by
  have hbody : (nestedEntry 126).requestBody = [("a", brackets 126)] :=
    (requestBody_nestedEntry 126).trans (nestedBody_recorded (by decide))
  obtain ⟨file', happend, hholds⟩ := append_holds .missing [nestedEntry 126]
  have hlost : ¬((nestedEntry 126).reread 126).isSome = true := by
    rw [reread_isSome_of_recorded (requestBody_nestedEntry 126) (responseBody_nestedEntry 126),
      leavesRoom_nestedEntry (by decide)]
    decide
  rw [happend]
  exact ⟨hbody, accepts_nestedEntry 126, rfl, query_lost hholds (recordable_nestedEntry 126) hlost⟩

end File
end AuditTrail.Sink
