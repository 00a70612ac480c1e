import AuditTrail.Json.Reader
import AuditTrail.Proofs.Literals
import AuditTrail.Proofs.WrittenNumbers

/-!
# Values are read as they were written

Where a value has been written the reader finds the same value, up to its binary fractions, unless
its containers nest deeper than the reader goes. The text of a value has no control characters.
-/

namespace AuditTrail.Json

open Utf8

namespace Object

lemma insert_last {key : String} {v : Json} {o : Object} (h : Sorted (o ++ [(key, v)])) :
    insert key v o = o ++ [(key, v)] := by
  induction o with
  | nil => rfl
  | cons m o ih =>
    have hsplit := List.pairwise_cons.mp h
    have hlt : m.1 < key := hsplit.1 key (by simp)
    have hne : key ≠ m.1 := fun heq => String.lt_irrefl key (heq ▸ hlt)
    obtain ⟨k, w⟩ := m
    rw [insert, if_neg (String.lt_asymm hlt), if_neg hne, ih hsplit.2]
    rfl

/-- An object is made of its own members. -/
lemma ofMembers_of_sorted {o : Object} (h : Sorted o) : ofMembers o = o := by
  have hfold : ∀ front : Object, Sorted (front ++ o) →
      o.foldl (fun o m => insert m.1 m.2 o) front = front ++ o := by
    clear h
    induction o with
    | nil => intro front _; exact (List.append_nil front).symm
    | cons m o ih =>
      intro front hsorted
      have hassoc : front ++ m :: o = front ++ [m] ++ o := by simp
      rw [hassoc] at hsorted ⊢
      have hfront : Sorted (front ++ [m]) := by
        unfold Sorted at hsorted ⊢
        rw [List.map_append] at hsorted
        exact (List.pairwise_append.mp hsorted).1
      exact (congrArg (fun acc => List.foldl _ acc o) (insert_last hfront)).trans (ih _ hsorted)
  exact hfold [] h

end Object

lemma dropBlank_cons {b : UInt8} (h : isBlank b = false) (s : Bytes) :
    dropBlank (b :: s) = b :: s := by
  rw [dropBlank, List.dropWhile_cons_of_neg (by simp [h])]

/-- The octets that stand after an item of a container. -/
inductive Stops : UInt8 → Prop where
  | comma : Stops 0x2C
  | bracket : Stops 0x5D
  | brace : Stops 0x7D

lemma Stops.ends {b : UInt8} (h : Stops b) (s : Bytes) : Numeral.Ends (b :: s) := by
  cases h <;> rintro _ ⟨⟩ <;> decide

lemma Stops.dropBlank {b : UInt8} (h : Stops b) (s : Bytes) : dropBlank (b :: s) = b :: s := by
  cases h <;> rfl

section Brackets

variable {α β : Type} {close : UInt8} {item : Reader α} {write : β → List Char}
  {got : β → Option α} {xs : List β}

/-- What an item reader does where `write x` stands. -/
def ReadsAs (item : Reader α) (cs : List Char) (got : Option α) : Prop :=
  ∀ rest, Numeral.Ends rest → item (encodeChars cs ++ rest) = got.map (·, rest)

lemma encode_comma (cs ds : List Char) (s : Bytes) :
    encodeChars (cs ++ ',' :: ds) ++ s = encodeChars cs ++ 0x2C :: (encodeChars ds ++ s) := by
  rw [encodeChars_append, List.append_assoc]
  rfl

lemma separated_written (hclose : Stops close) (hcomma : close ≠ 0x2C) (hne : xs ≠ [])
    (hitem : ∀ x ∈ xs, ReadsAs item (write x) (got x)) {n : Nat} (hn : xs.length ≤ n)
    (rest : Bytes) :
    separated close item n (encodeChars (commaSeparated (xs.map write)) ++ close :: rest) =
      (xs.mapM got).map (·, rest) := by
  induction xs generalizing n with
  | nil => exact (hne rfl).elim
  | cons x xs ih =>
    obtain ⟨n, rfl⟩ := Nat.exists_eq_succ_of_ne_zero (show n ≠ 0 by rintro rfl; simp at hn)
    have hx := hitem x List.mem_cons_self
    cases xs with
    | nil =>
      have hread := hx (close :: rest) (hclose.ends rest)
      simp only [List.map_cons, List.map_nil, commaSeparated, separated, hread, List.mapM_cons,
        List.mapM_nil]
      cases got x with
      | none => rfl
      | some y => simp [hclose.dropBlank]
    | cons y ys =>
      have hread := hx _ (Stops.comma.ends
        (encodeChars (commaSeparated ((y :: ys).map write)) ++ close :: rest))
      have htail := ih (by simp) (fun z hz => hitem z (List.mem_cons_of_mem _ hz))
        (n := n) (by simpa using hn)
      have hsplit : commaSeparated ((x :: y :: ys).map write) =
          write x ++ ',' :: commaSeparated ((y :: ys).map write) := rfl
      rw [hsplit, encode_comma, separated, hread, List.mapM_cons]
      generalize (y :: ys).mapM got = tail at htail ⊢
      cases got x with
      | none => rfl
      | some w =>
        simp only [Option.map_some, Stops.comma.dropBlank, hcomma.symm, if_false, if_true, htail]
        cases tail <;> rfl

/-- Whether a text begins with something other than a blank and `close`. -/
def Begins (close : UInt8) (cs : List Char) : Prop :=
  ∃ b s, encodeChars cs = b :: s ∧ isBlank b = false ∧ b ≠ close

lemma length_commaSeparated (hbegins : ∀ x ∈ xs, Begins close (write x)) :
    xs.length ≤ (encodeChars (commaSeparated (xs.map write))).length := by
  induction xs with
  | nil => exact Nat.zero_le _
  | cons x xs ih =>
    obtain ⟨b, s, hb, -, -⟩ := hbegins x List.mem_cons_self
    cases xs with
    | nil =>
      simp only [List.map_cons, List.map_nil, commaSeparated, hb, List.length_cons, List.length_nil]
      omega
    | cons y ys =>
      have htail := ih fun z hz => hbegins z (List.mem_cons_of_mem _ hz)
      have hsplit : commaSeparated ((x :: y :: ys).map write) =
          write x ++ ',' :: commaSeparated ((y :: ys).map write) := rfl
      have hencode := encode_comma (write x) (commaSeparated ((y :: ys).map write)) []
      rw [List.append_nil, List.append_nil] at hencode
      rw [hsplit, hencode, hb]
      simp only [List.length_cons, List.length_append] at htail ⊢
      omega

lemma begins_commaSeparated (hne : xs ≠ []) (hbegins : ∀ x ∈ xs, Begins close (write x)) :
    Begins close (commaSeparated (xs.map write)) := by
  obtain ⟨x, xs, rfl⟩ := List.exists_cons_of_ne_nil hne
  obtain ⟨b, s, hb, hblank, hclose⟩ := hbegins x List.mem_cons_self
  cases xs with
  | nil => exact ⟨b, s, hb, hblank, hclose⟩
  | cons y ys =>
    refine ⟨b, s ++ encodeChars (',' :: commaSeparated ((y :: ys).map write)), ?_, hblank, hclose⟩
    rw [← List.cons_append, ← hb, ← encodeChars_append]
    rfl

/-- A container is read item by item. -/
lemma bracketed_written (hclose : Stops close) (hcomma : close ≠ 0x2C)
    (hbegins : ∀ x ∈ xs, Begins close (write x))
    (hitem : ∀ x ∈ xs, ReadsAs item (write x) (got x)) (rest : Bytes) :
    bracketed close item (encodeChars (commaSeparated (xs.map write)) ++ close :: rest) =
      (xs.mapM got).map (·, rest) := by
  by_cases hne : xs = []
  · subst hne
    change bracketed close item (close :: rest) = some ([], rest)
    simp only [bracketed, hclose.dropBlank, if_true]
  · obtain ⟨b, s, hb, hblank, hother⟩ := begins_commaSeparated hne hbegins
    have hlength := length_commaSeparated hbegins
    have hread := separated_written hclose hcomma hne hitem
      (n := (encodeChars (commaSeparated (xs.map write)) ++ close :: rest).length)
      (by rw [List.length_append]; omega) rest
    rw [hb] at hread ⊢
    rw [List.cons_append] at hread ⊢
    simp only [bracketed, dropBlank_cons hblank, if_neg hother, hread]

end Brackets

lemma encode_ascii (c : Char) (h : c.toNat < 0x80) (cs : List Char) (s : Bytes) :
    encodeChars (c :: cs) ++ s = UInt8.ofNat c.toNat :: (encodeChars cs ++ s) := by
  rcases encodeChar_cases c with ⟨-, heq⟩ | ⟨hlarge, -⟩
  · rw [encodeChars_cons, heq]
    rfl
  · omega

lemma encode_quoted (s : String) (rest : Bytes) :
    encodeChars (Literal.quoted s) ++ rest =
      0x22 :: (encodeChars (Literal.escape s.toList) ++ 0x22 :: rest) := by
  rw [Literal.quoted, List.cons_append, encode_ascii '"' (by decide), encodeChars_append,
    List.append_assoc]
  rfl

lemma key_quoted (k : String) (rest : Bytes) :
    key (encodeChars (Literal.quoted k) ++ rest) = some (k, rest) := by
  rw [encode_quoted, key, dropBlank_cons (by decide)]
  exact Literal.read_escape k rest

lemma begins_quoted {close : UInt8} (hclose : Stops close) (s : String) (cs : List Char) :
    Begins close (Literal.quoted s ++ cs) := by
  refine ⟨0x22, encodeChars (Literal.escape s.toList) ++ 0x22 :: encodeChars cs, ?_, rfl, ?_⟩
  · rw [encodeChars_append, encode_quoted]
  · cases hclose <;> decide

lemma member_written {α : Type} {item : Reader α} {cs : List Char} {got : Option α}
    (hitem : ReadsAs item cs got) (k : String) :
    ReadsAs (member item) (Literal.quoted k ++ ':' :: cs) (got.map (k, ·)) := by
  intro rest hrest
  rw [encodeChars_append, List.append_assoc, encode_ascii ':' (by decide), member, key_quoted]
  have hcolon : colon (UInt8.ofNat ':'.toNat :: (encodeChars cs ++ rest)) =
      some (encodeChars cs ++ rest) := rfl
  simp only [Option.bind_eq_bind, Option.bind_some, hcolon, hitem rest hrest]
  cases got <;> rfl

/-! ### Values -/

lemma itemChars_eq (items : List Json) : itemChars items = items.map chars := by
  induction items with
  | nil => rfl
  | cons v vs ih => rw [itemChars, ih, List.map_cons]

lemma memberChars_eq (members : List (String × Json)) :
    memberChars members = members.map fun m => Literal.quoted m.1 ++ ':' :: chars m.2 := by
  induction members with
  | nil => rfl
  | cons m ms ih => rw [memberChars, ih, List.map_cons]

/-- What is read where a value has been written, within a nesting of `depth`. -/
def reread : Nat → Json → Option Json
  | _, null => some null
  | _, bool b => some (bool b)
  | _, number n => n.reread.map number
  | _, string s => some (string s)
  | 0, array _ => none
  | 0, object _ => none
  | depth + 1, array items => (items.mapM (reread depth)).map array
  | depth + 1, object members =>
    (members.mapM fun m => (reread depth m.2).map (m.1, ·)).map fun ms =>
      object (Object.ofMembers ms)

lemma text_first {n : Numeral} (h : n.WellFormed) :
    ∃ b s, encodeChars n.text = b :: s ∧ (b = 0x2D ∨ Numeral.isDigit b = true) := by
  obtain ⟨negative, whole, fraction, exponent⟩ := n
  cases negative with
  | true => exact ⟨0x2D, _, rfl, .inl rfl⟩
  | false =>
    obtain ⟨d, ds, rfl⟩ := List.exists_cons_of_ne_nil h.whole.some
    have hd := h.whole.small d List.mem_cons_self
    refine ⟨Numeral.octet d, encodeChars (Numeral.digitChars ds ++
      (Numeral.fractionText fraction ++ Numeral.exponentText exponent)), ?_,
      .inr (Numeral.isDigit_octet hd)⟩
    change encodeChars (Nat.digitChar d :: _) = _
    rw [encodeChars_cons, Numeral.encode_digit hd]
    rfl

lemma numeral_octet {b : UInt8} (h : b = 0x2D ∨ Numeral.isDigit b = true) :
    b.toNat = 0x2D ∨ 0x30 ≤ b.toNat ∧ b.toNat ≤ 0x39 := by
  rcases h with rfl | h
  · exact .inl rfl
  · exact .inr ((Numeral.isDigit_iff b).mp h)

lemma isBlank_iff (b : UInt8) : isBlank b = true ↔
    b.toNat = 0x20 ∨ b.toNat = 0x0A ∨ b.toNat = 0x0D ∨ b.toNat = 0x09 := by
  simp [isBlank, ← UInt8.toNat_inj, or_assoc]

lemma numeral_not_blank {b : UInt8} (h : b = 0x2D ∨ Numeral.isDigit b = true) :
    isBlank b = false := by
  have hrange := numeral_octet h
  rw [← Bool.not_eq_true, isBlank_iff]
  omega

lemma value_numeral (depth : Nat) {b : UInt8} (s : Bytes)
    (h : b = 0x2D ∨ Numeral.isDigit b = true) :
    value depth (b :: s) =
      (Numeral.read (b :: s)).bind fun p => p.1.toNumber?.map fun n => (number n, p.2) := by
  have hrange := numeral_octet h
  have hchar : (Char.ofUInt8 b).toNat = b.toNat := UInt8.toNat_toUInt32 b
  have hother : ∀ c : Char, Char.ofUInt8 b = c → c.toNat ≠ 0x2D → c.toNat < 0x30 ∨ 0x39 < c.toNat →
      False := by
    rintro _ rfl hminus hdigit
    rw [hchar] at hminus hdigit
    omega
  conv_lhs => rw [value.eq_def]
  simp only [dropBlank_cons (numeral_not_blank h)]
  split
  · next heq => exact (hother _ heq (by decide) (by decide)).elim
  · next heq => exact (hother _ heq (by decide) (by decide)).elim
  · next heq => exact (hother _ heq (by decide) (by decide)).elim
  · next heq => exact (hother _ heq (by decide) (by decide)).elim
  · next heq => exact (hother _ heq (by decide) (by decide)).elim
  · next heq => exact (hother _ heq (by decide) (by decide)).elim
  · cases Numeral.read (b :: s) with
    | none => rfl
    | some p => cases hn : p.1.toNumber? <;> simp [hn]

lemma begins_chars (v : Json) : Begins 0x5D (chars v) := by
  cases v with
  | null => exact ⟨0x6E, _, rfl, rfl, by decide⟩
  | bool b => cases b <;> exact ⟨_, _, rfl, rfl, by decide⟩
  | number n =>
    obtain ⟨b, s, hb, hfirst⟩ := text_first n.wellFormed_numeral
    rw [n.text_numeral] at hb
    refine ⟨b, s, hb, numeral_not_blank hfirst, ?_⟩
    have hrange := numeral_octet hfirst
    rintro rfl
    simp only [UInt8.reduceToNat] at hrange
    omega
  | string s =>
    have hbegins := begins_quoted .bracket s []
    rwa [List.append_nil] at hbegins
  | array items => exact ⟨0x5B, _, rfl, rfl, by decide⟩
  | object members => exact ⟨0x7B, _, rfl, rfl, by decide⟩

/-- A written value is read up to its closing octet. -/
theorem value_chars (depth : Nat) (v : Json) :
    ReadsAs (value depth) (chars v) (reread depth v) := by
  -- On the depth, as the reader goes down with each container.
  induction depth using Nat.strongRecOn generalizing v with
  | ind depth ih =>
    intro rest hrest
    cases v with
    | null =>
      rw [value.eq_def]
      cases depth <;> rfl
    | bool b =>
      rw [value.eq_def]
      cases depth <;> cases b <;> rfl
    | number n =>
      obtain ⟨b, s, hb, hfirst⟩ := text_first n.wellFormed_numeral
      have hread := Numeral.read_text n.wellFormed_numeral hrest
      have hvalue := value_numeral depth (s ++ rest) hfirst
      rw [← List.cons_append, ← hb, hread] at hvalue
      have hreread : reread depth (number n) = n.numeral.toNumber?.map number := by
        cases depth <;> rfl
      rw [chars, ← n.text_numeral, hvalue, hreread, Option.bind_some, Option.map_map]
      rfl
    | string s =>
      have hreread : reread depth (string s) = some (string s) := by cases depth <;> rfl
      rw [chars, encode_quoted, value.eq_def, hreread]
      simp only [dropBlank_cons (show isBlank 0x22 = false by rfl)]
      change (Literal.read _).map _ = _
      rw [Literal.read_escape]
      rfl
    | array items =>
      have hchars : encodeChars (chars (array items)) ++ rest =
          0x5B :: (encodeChars (commaSeparated (items.map chars)) ++ 0x5D :: rest) := by
        rw [chars, itemChars_eq, List.cons_append, encode_ascii '[' (by decide), encodeChars_append,
          List.append_assoc]
        rfl
      rw [hchars, value.eq_def]
      cases depth with
      | zero => rfl
      | succ depth =>
        change (bracketed 0x5D (value depth) _).map _ = _
        rw [bracketed_written .bracket (by decide) (fun v _ => begins_chars v)
          (fun v _ => ih depth (Nat.lt_succ_self depth) v), reread, Option.map_map, Option.map_map]
        rfl
    | object members =>
      have hchars : encodeChars (chars (object members)) ++ rest =
          0x7B :: (encodeChars (commaSeparated (members.map fun m =>
            Literal.quoted m.1 ++ ':' :: chars m.2)) ++ 0x7D :: rest) := by
        rw [chars, memberChars_eq, List.cons_append, encode_ascii '\x7b' (by decide),
          encodeChars_append, List.append_assoc]
        rfl
      rw [hchars, value.eq_def]
      cases depth with
      | zero => rfl
      | succ depth =>
        change (bracketed 0x7D (member (value depth)) _).map _ = _
        rw [bracketed_written .brace (by decide) (fun m _ => begins_quoted .brace m.1 _)
          (fun m _ => member_written (ih depth (Nat.lt_succ_self depth) m.2) m.1), reread,
          Option.map_map, Option.map_map]
        rfl

/-! ### Nesting and regularity -/

/-- Values whose containers nest at most so deep. -/
inductive Nests : Nat → Json → Prop where
  | null {depth : Nat} : Nests depth null
  | bool {depth : Nat} (b : Bool) : Nests depth (bool b)
  | number {depth : Nat} (n : Number) : Nests depth (number n)
  | string {depth : Nat} (s : String) : Nests depth (string s)
  | array {depth : Nat} {items : List Json} :
      (∀ v ∈ items, Nests depth v) → Nests (depth + 1) (array items)
  | object {depth : Nat} {members : Object} :
      (∀ m ∈ members, Nests depth m.2) → Nests (depth + 1) (object members)

/-- Values in which all objects are in order and all numbers are such as `p` says. -/
inductive Regular (p : Number → Prop) : Json → Prop where
  | null : Regular p null
  | bool (b : Bool) : Regular p (bool b)
  | number {n : Number} : p n → Regular p (number n)
  | string (s : String) : Regular p (string s)
  | array {items : List Json} : (∀ v ∈ items, Regular p v) → Regular p (array items)
  | object {members : Object} :
      members.Sorted → (∀ m ∈ members, Regular p m.2) → Regular p (object members)

section Reread

variable {p : Number → Prop} {depth : Nat} {v : Json}

lemma mapM_self {α : Type} {f : α → Option α} {xs : List α} (h : ∀ x ∈ xs, f x = some x) :
    xs.mapM f = some xs := by
  induction xs with
  | nil => rfl
  | cons x xs ih =>
    rw [List.mapM_cons, h x List.mem_cons_self, ih fun y hy => h y (List.mem_cons_of_mem _ hy)]
    rfl

/-- A value is found unchanged if its numbers are and the reader goes deep enough. -/
theorem reread_self (hp : ∀ n, p n → n.reread = some n) (hnests : Nests depth v)
    (hregular : Regular p v) : reread depth v = some v := by
  induction hnests with
  | null => cases ‹Nat› <;> rfl
  | bool b => cases ‹Nat› <;> rfl
  | @number depth n =>
    cases hregular with
    | number hn => cases depth <;> simp [reread, hp n hn]
  | string s => cases ‹Nat› <;> rfl
  | array _ ih =>
    cases hregular with
    | array hitems => rw [reread, mapM_self fun v hv => ih v hv (hitems v hv), Option.map_some]
  | object _ ih =>
    cases hregular with
    | object hsorted hmembers =>
      rw [reread, mapM_self fun m hm => by rw [ih m hm (hmembers m hm)]; rfl, Option.map_some,
        Object.ofMembers_of_sorted hsorted]

lemma mapM_isSome {α β : Type} {f : α → Option β} {xs : List α} :
    (xs.mapM f).isSome = true ↔ ∀ x ∈ xs, (f x).isSome = true := by
  induction xs with
  | nil => simp
  | cons x xs ih =>
    rw [List.mapM_cons, List.forall_mem_cons, ← ih]
    cases f x <;> cases xs.mapM f <;> simp

/-- A value is found, changed or not, just if the reader goes deep enough. -/
theorem reread_isSome_iff (hregular : Regular Number.IsWord v) :
    (reread depth v).isSome = true ↔ Nests depth v := by
  induction hregular generalizing depth with
  | null => exact ⟨fun _ => .null, fun _ => by cases depth <;> rfl⟩
  | bool b => exact ⟨fun _ => .bool b, fun _ => by cases depth <;> rfl⟩
  | @number n hn =>
    obtain ⟨m, hm⟩ := Number.reread_isSome hn
    exact ⟨fun _ => .number n, fun _ => by cases depth <;> simp [reread, hm]⟩
  | string s => exact ⟨fun _ => .string s, fun _ => by cases depth <;> rfl⟩
  | array _ ih =>
    cases depth with
    | zero => exact ⟨(nomatch ·), (nomatch ·)⟩
    | succ depth =>
      rw [reread, Option.isSome_map, mapM_isSome]
      constructor
      · exact fun h => .array fun v hv => (ih v hv).mp (h v hv)
      · intro h v hv
        cases h with
        | array h => exact (ih v hv).mpr (h v hv)
  | object _ _ ih =>
    cases depth with
    | zero => exact ⟨(nomatch ·), (nomatch ·)⟩
    | succ depth =>
      rw [reread, Option.isSome_map, mapM_isSome]
      simp only [Option.isSome_map]
      constructor
      · exact fun h => .object fun m hm => (ih m hm).mp (h m hm)
      · intro h m hm
        cases h with
        | object h => exact (ih m hm).mpr (h m hm)

end Reread

lemma printable_comma {xs : List (List Char)} (h : ∀ x ∈ xs, ∀ c ∈ x, 0x20 ≤ c.toNat) :
    ∀ c ∈ commaSeparated xs, 0x20 ≤ c.toNat := by
  induction xs with
  | nil => simp [commaSeparated]
  | cons x xs ih =>
    have hx := h x List.mem_cons_self
    cases xs with
    | nil => exact hx
    | cons y ys =>
      have hrest := ih fun z hz => h z (List.mem_cons_of_mem _ hz)
      have hcomma : 0x20 ≤ ','.toNat := by decide
      intro c hc
      rcases List.mem_append.mp hc with hc | hc
      · exact hx c hc
      · rcases List.mem_cons.mp hc with rfl | hc
        · exact hcomma
        · exact hrest c hc

lemma printable_quoted (s : String) : ∀ c ∈ Literal.quoted s, 0x20 ≤ c.toNat := by
  intro c hc
  simp only [Literal.quoted, List.cons_append, List.mem_cons, List.mem_append, List.not_mem_nil,
    or_false] at hc
  rcases hc with rfl | hc | rfl
  · decide
  · exact Literal.printable_escape hc
  · decide

lemma printable_digits {ds : List Nat} (h : ∀ d ∈ ds, d < 10) :
    ∀ c ∈ Numeral.digitChars ds, 0x20 ≤ c.toNat := by
  intro c hc
  obtain ⟨d, hd, rfl⟩ := List.mem_map.mp hc
  rw [Nat.toNat_digitChar_of_lt_ten (h d hd)]
  omega

lemma printable_numeral {n : Numeral} (h : n.WellFormed) : ∀ c ∈ n.text, 0x20 ≤ c.toNat := by
  obtain ⟨negative, whole, fraction, exponent⟩ := n
  have hfraction : ∀ c ∈ Numeral.fractionText fraction, 0x20 ≤ c.toNat := by
    cases fraction with
    | none => simp [Numeral.fractionText]
    | some ds =>
      intro c hc
      rcases List.mem_cons.mp hc with rfl | hc
      · decide
      · exact printable_digits (h.fraction ds rfl).small c hc
  have hexponent : ∀ c ∈ Numeral.exponentText exponent, 0x20 ≤ c.toNat := by
    cases exponent with
    | none => simp [Numeral.exponentText]
    | some e =>
      intro c hc
      simp only [Numeral.exponentText, List.mem_cons] at hc
      rcases hc with rfl | rfl | hc
      · decide
      · split <;> decide
      · exact printable_digits (h.exponent e rfl).small c hc
  intro c hc
  simp only [Numeral.text, List.mem_append] at hc
  rcases hc with hc | hc | hc | hc
  · split at hc
    · rw [List.mem_singleton.mp hc]
      decide
    · cases hc
  · exact printable_digits h.whole.small c hc
  · exact hfraction c hc
  · exact hexponent c hc

lemma printable_enclosed {first last : Char} {xs : List (List Char)} (hfirst : 0x20 ≤ first.toNat)
    (hlast : 0x20 ≤ last.toNat) (h : ∀ x ∈ xs, ∀ c ∈ x, 0x20 ≤ c.toNat) :
    ∀ c ∈ first :: commaSeparated xs ++ [last], 0x20 ≤ c.toNat := by
  intro c hc
  simp only [List.cons_append, List.mem_cons, List.mem_append, List.not_mem_nil, or_false] at hc
  rcases hc with rfl | hc | rfl
  · exact hfirst
  · exact printable_comma h c hc
  · exact hlast

/-- The text of a value has no control characters. -/
theorem printable_chars : ∀ v : Json, ∀ c ∈ chars v, 0x20 ≤ c.toNat
  | null => by simp [chars]
  | bool true => by simp [chars]
  | bool false => by simp [chars]
  | number n => by
    rw [chars, ← n.text_numeral]
    exact printable_numeral n.wellFormed_numeral
  | string s => printable_quoted s
  | array items => by
    have hitems : ∀ v ∈ items, ∀ c ∈ chars v, 0x20 ≤ c.toNat := fun v _ => printable_chars v
    rw [chars, itemChars_eq]
    refine printable_enclosed (by decide) (by decide) fun x hx => ?_
    obtain ⟨v, hv, rfl⟩ := List.mem_map.mp hx
    exact hitems v hv
  | object members => by
    have hmembers : ∀ m ∈ members, ∀ c ∈ chars m.2, 0x20 ≤ c.toNat := fun m hm =>
      printable_chars m.2
    rw [chars, memberChars_eq]
    refine printable_enclosed (by decide) (by decide) fun x hx => ?_
    obtain ⟨m, hm, rfl⟩ := List.mem_map.mp hx
    intro c hc
    rcases List.mem_append.mp hc with hc | hc
    · exact printable_quoted m.1 c hc
    · rcases List.mem_cons.mp hc with rfl | hc
      · decide
      · exact hmembers m hm c hc
termination_by v => v
decreasing_by
  · have := List.sizeOf_lt_of_mem ‹v ∈ items›
    rw [array.sizeOf_spec]
    omega
  · have := List.sizeOf_lt_of_mem hm
    have : sizeOf m = 1 + sizeOf m.1 + sizeOf m.2 := rfl
    rw [object.sizeOf_spec]
    omega

end AuditTrail.Json
