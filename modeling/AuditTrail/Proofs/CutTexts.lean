import AuditTrail.Proofs.Balance
import AuditTrail.Proofs.Records

/-!
# Entries whose text has been cut

The text of a value closes what it opens, so the text of an entry has something open wherever it is
cut. Neither the part before the cut nor this part gone on with by the text of another entry is read
as an entry.
-/

namespace AuditTrail

open Utf8

namespace Json

/-- A text that closes what it opens. -/
def Balanced (cs : List Char) : Prop :=
  ∀ rest, Numeral.Ends rest → Passed (encodeChars cs ++ rest) rest

section Written

variable {rest : Bytes}

lemma scan_quoted (s : String) (rest : Bytes) (d : Nat) :
    scan? ⟨d, .free⟩ (encodeChars (Literal.quoted s) ++ rest) = scan? ⟨d, .closed⟩ rest := by
  rw [encode_quoted]
  exact scan_literal (Literal.read_escape s rest) d

lemma balanced_quoted (s : String) : Balanced (Literal.quoted s) :=
  fun rest _ => ⟨.closed, .inr rfl, scan_quoted s rest⟩

lemma balanced_number (n : Number) : Balanced (numberChars n) := by
  intro rest hrest
  rw [← n.text_numeral]
  exact ⟨.free, .inl rfl, scan_numeral (Numeral.read_text n.wellFormed_numeral hrest)⟩

lemma balanced_member (k : String) {cs : List Char} (h : Balanced cs) :
    Balanced (Literal.quoted k ++ ':' :: cs) := by
  intro rest hrest
  refine .of_scan (fun d => ?_) (h rest hrest)
  rw [encodeChars_append, List.append_assoc, encode_ascii ':' (by decide), scan_quoted]
  exact scan_colon (.inr rfl) _

lemma balanced_comma {xs : List (List Char)} (h : ∀ x ∈ xs, Balanced x) :
    Balanced (commaSeparated xs) := by
  induction xs with
  | nil => exact fun rest _ => ⟨.free, .inl rfl, fun _ => rfl⟩
  | cons x xs ih =>
    have hx := h x List.mem_cons_self
    cases xs with
    | nil => exact hx
    | cons y ys =>
      have htail := ih fun z hz => h z (List.mem_cons_of_mem _ hz)
      intro rest hrest
      have hsplit : commaSeparated (x :: y :: ys) = x ++ ',' :: commaSeparated (y :: ys) := rfl
      rw [hsplit, encode_comma]
      let tail := encodeChars (commaSeparated (y :: ys)) ++ rest
      obtain ⟨m, hm, hscan⟩ := hx _ (Stops.comma.ends tail)
      exact .of_scan (fun d => (hscan d).trans (scan_comma hm _)) (htail rest hrest)

/-- The characters around the items of a container. -/
inductive Encloses : Char → Char → Prop where
  | brackets : Encloses '[' ']'
  | braces : Encloses '\x7b' '\x7d'

lemma encode_enclosed {first last : Char} (hfirst : first.toNat < 0x80) (hlast : last.toNat < 0x80)
    (cs : List Char) (rest : Bytes) :
    encodeChars (first :: cs ++ [last]) ++ rest =
      UInt8.ofNat first.toNat :: (encodeChars cs ++ UInt8.ofNat last.toNat :: rest) := by
  rw [List.cons_append, encode_ascii first hfirst, encodeChars_append, List.append_assoc,
    encode_ascii last hlast, encodeChars_nil, List.nil_append]

lemma scan_enclosed {first last : Char} (h : Encloses first last) {cs : List Char}
    (hcs : Balanced cs) (rest : Bytes) (d : Nat) :
    scan? ⟨d, .free⟩ (encodeChars (first :: cs ++ [last]) ++ rest) = scan? ⟨d, .closed⟩ rest := by
  cases h with
  | brackets =>
    obtain ⟨m, hm, hscan⟩ := hcs _ (Stops.bracket.ends rest)
    rw [encode_enclosed (by decide) (by decide)]
    exact (hscan (d + 1)).trans (scan_close .bracket hm rest)
  | braces =>
    obtain ⟨m, hm, hscan⟩ := hcs _ (Stops.brace.ends rest)
    rw [encode_enclosed (by decide) (by decide)]
    exact (hscan (d + 1)).trans (scan_close .brace hm rest)

lemma balanced_enclosed {first last : Char} (h : Encloses first last) {cs : List Char}
    (hcs : Balanced cs) : Balanced (first :: cs ++ [last]) :=
  fun rest _ => ⟨.closed, .inr rfl, scan_enclosed h hcs rest⟩

lemma balanced_word {word : List Char} (h : (encodeChars word).all isInert = true) :
    Balanced word :=
  fun rest _ => ⟨.free, .inl rfl, fun _ => scan_inert h rest⟩

/-- The text of a value is balanced. -/
theorem balanced_chars : ∀ v : Json, Balanced (chars v)
  | null => balanced_word (by rfl)
  | bool true => balanced_word (by rfl)
  | bool false => balanced_word (by rfl)
  | number n => balanced_number n
  | string s => balanced_quoted s
  | array items => by
    have hitems : ∀ v ∈ items, Balanced (chars v) := fun v _ => balanced_chars v
    rw [chars, itemChars_eq]
    exact balanced_enclosed .brackets (balanced_comma (List.forall_mem_map.mpr hitems))
  | object members => by
    have hmembers : ∀ m ∈ members, Balanced (chars m.2) := fun m hm => balanced_chars m.2
    rw [chars, memberChars_eq]
    refine balanced_enclosed .braces (balanced_comma (List.forall_mem_map.mpr fun m hm => ?_))
    exact balanced_member m.1 (hmembers m hm)
termination_by v => v
decreasing_by
  · have := List.sizeOf_lt_of_mem ‹v ∈ items›
    rw [array.sizeOf_spec]
    omega
  · have := List.sizeOf_lt_of_mem hm
    have : sizeOf m = 1 + sizeOf m.1 + sizeOf m.2 := rfl
    rw [object.sizeOf_spec]
    omega

end Written

end Json

namespace Entry

open Json

/-- The members of an entry with commas between them. -/
def innerChars (e : Entry) : List Char :=
  commaSeparated (Field.all.map e.memberChars)

lemma chars_eq (e : Entry) : e.chars = '\x7b' :: e.innerChars ++ ['\x7d'] := rfl

lemma balanced_value (e : Entry) (f : Field) : Balanced (e.valueChars f) := by
  cases f
  case status => exact balanced_chars (.ofNat e.status)
  case userId => exact balanced_chars (.ofNat e.userId)
  case requestBody => exact balanced_chars (.object e.requestBody)
  case responseBody => exact balanced_chars (.object e.responseBody)
  all_goals exact balanced_quoted _

lemma balanced_inner (e : Entry) : Balanced e.innerChars :=
  balanced_comma (List.forall_mem_map.mpr fun f _ => balanced_member f.name (e.balanced_value f))

lemma scan_entry (e : Entry) (d : Nat) :
    scan? ⟨d, .free⟩ (encodeChars e.chars) = some ⟨d, .closed⟩ := by
  rw [← List.append_nil (encodeChars e.chars)]
  exact scan_enclosed .braces e.balanced_inner [] d

/-- The text of an entry leaves something open wherever it is cut. -/
lemma scan_cut {e : Entry} {cut more : List Char} (h : cut ++ more = e.chars) (hcut : cut ≠ [])
    (hmore : more ≠ []) : ∃ c : Scan, scan? ⟨0, .free⟩ (encodeChars cut) = some c.deeper := by
  obtain ⟨first, cut, rfl⟩ := List.exists_cons_of_ne_nil hcut
  rw [chars_eq, List.cons_append, List.cons_append, List.cons.injEq] at h
  obtain ⟨rfl, h⟩ := h
  -- The closing brace is missing, so the cut is somewhere between the members.
  obtain ⟨inner, hinner⟩ : ∃ inner, e.innerChars = cut ++ inner := by
    rcases List.append_eq_append_iff.mp h with ⟨inner, hinner, -⟩ | ⟨last, hlast, hend⟩
    · exact ⟨inner, hinner⟩
    · rcases List.append_eq_singleton_iff.mp hend.symm with ⟨rfl, -⟩ | ⟨-, rfl⟩
      · exact ⟨[], by rw [List.append_nil, hlast, List.append_nil]⟩
      · exact (hmore rfl).elim
  obtain ⟨m, -, hscan⟩ := e.balanced_inner [] (by simp [Numeral.Ends])
  have hwhole : scan? ⟨0, .free⟩ (encodeChars cut ++ encodeChars inner) = some ⟨0, m⟩ := by
    rw [← encodeChars_append, ← hinner, ← List.append_nil (encodeChars _), hscan]
    rfl
  rw [scan_append] at hwhole
  obtain ⟨c, hpart, -⟩ := Option.bind_eq_some_iff.mp hwhole
  refine ⟨c, ?_⟩
  have hopen := encode_ascii '\x7b' (by decide) cut []
  rw [List.append_nil, List.append_nil] at hopen
  rw [hopen]
  exact scan_deeper hpart

/-- A text that has been cut is not read. -/
theorem parse_cut {e : Entry} {cut more : List Char} (h : cut ++ more = e.chars) (hcut : cut ≠ [])
    (hmore : more ≠ []) : parse? (encodeChars cut) = none := by
  obtain ⟨c, hscan⟩ := scan_cut h hcut hmore
  cases hparse : parse? (encodeChars cut) with
  | none => rfl
  | some e' =>
    obtain ⟨m, -, hclosed⟩ := scan_of_parse hparse
    rw [hscan] at hclosed
    cases hclosed

/-- An entry is refused right after a string or a container, and inside a string it closes the
string without going on as it must. -/
lemma scan_glued {d : Nat} {m : Mode} (hm : m ≠ .free) (e : Entry) :
    scan? ⟨d, m⟩ (encodeChars e.chars) = none := by
  obtain ⟨tail, htail⟩ : ∃ tail, encodeChars e.chars = 0x7B :: 0x22 :: 0x6D :: tail := ⟨_, rfl⟩
  rw [htail]
  cases m with
  | free => exact (hm rfl).elim
  | closed => rfl
  | quoted => rfl
  | escaped => rfl

/-- A text that goes on with an entry where another one has been cut, or has ended, is not read. -/
theorem parse_glued {e : Entry} {cut more : List Char} (h : cut ++ more = e.chars)
    (hcut : cut ≠ []) (e' : Entry) : parse? (encodeChars (cut ++ e'.chars)) = none := by
  obtain ⟨c, hscan, hc⟩ : ∃ c : Scan, scan? ⟨0, .free⟩ (encodeChars cut) = some c ∧
      (c.mode = .free → c.depth ≠ 0) := by
    by_cases hmore : more = []
    · rw [hmore, List.append_nil] at h
      exact ⟨⟨0, .closed⟩, by rw [h, scan_entry], by simp⟩
    · obtain ⟨c, hscan⟩ := scan_cut h hcut hmore
      exact ⟨_, hscan, fun _ => Nat.succ_ne_zero c.depth⟩
  cases hparse : parse? (encodeChars (cut ++ e'.chars)) with
  | none => rfl
  | some x =>
    obtain ⟨m, -, hclosed⟩ := scan_of_parse hparse
    rw [encodeChars_append, scan_append, hscan, Option.bind_some] at hclosed
    obtain ⟨depth, mode⟩ := c
    by_cases hmode : mode = .free
    · subst hmode
      rw [scan_entry] at hclosed
      cases hclosed
      exact (hc rfl rfl).elim
    · rw [scan_glued hmode] at hclosed
      cases hclosed

end Entry
end AuditTrail
