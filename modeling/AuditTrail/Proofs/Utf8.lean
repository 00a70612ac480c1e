import AuditTrail.Text.Utf8
import Mathlib.Tactic.Common
import Mathlib.Tactic.SplitIfs

/-!
# Texts survive their encoding

The octets of a text spell this text, and no others do: `decodeChars?` undoes `encodeChars` and is
undone by it. The octets of a character outside ASCII are all outside ASCII, so what looks for ASCII
octets finds none of them inside. A text that is cut inside a character is no text any more,
whatever ASCII text comes after the cut.
-/

namespace AuditTrail.Utf8

section Octets

variable (a b : UInt8)

lemma isTail_iff : isTail b = true ↔ 0x80 ≤ b.toNat ∧ b.toNat ≤ 0xBF := by
  simp [isTail, UInt8.le_iff_toNat_le]

lemma follows_iff : follows a b = true ↔
    0xC2 ≤ a.toNat ∧ a.toNat ≤ 0xF4 ∧ 0x80 ≤ b.toNat ∧ b.toNat ≤ 0xBF ∧
      (a.toNat = 0xE0 → 0xA0 ≤ b.toNat) ∧ (a.toNat = 0xED → b.toNat ≤ 0x9F) ∧
      (a.toNat = 0xF0 → 0x90 ≤ b.toNat) ∧ (a.toNat = 0xF4 → b.toNat ≤ 0x8F) := by
  simp only [follows, isTail, UInt8.lt_iff_toNat_lt, UInt8.le_iff_toNat_le, ← UInt8.toNat_inj,
    UInt8.reduceToNat]
  split_ifs <;> simp <;> omega

end Octets

section Characters

variable (c : Char) (s : Bytes)

/-- The code points of characters leave out the surrogates. -/
lemma toNat_valid : c.toNat < 0xD800 ∨ 0xDFFF < c.toNat ∧ c.toNat < 0x110000 := by
  simpa [UInt32.isValidChar, Nat.isValidChar] using c.valid

lemma toNat_ofNat {n : Nat} (h : n < 256) : (UInt8.ofNat n).toNat = n := by
  simp [Nat.mod_eq_of_lt h]

lemma char_eq {c : Char} {n : Nat} (h : n = c.toNat) : Char.ofNat n = c := by
  rw [h, Char.ofNat_toNat]

lemma encodeChar_eq : String.utf8EncodeChar c =
    if c.toNat ≤ 127 then [UInt8.ofNat c.toNat]
    else if c.toNat ≤ 2047 then
      [UInt8.ofNat (c.toNat / 64 % 32 + 192), UInt8.ofNat (c.toNat % 64 + 128)]
    else if c.toNat ≤ 65535 then
      [UInt8.ofNat (c.toNat / 4096 % 16 + 224), UInt8.ofNat (c.toNat / 64 % 64 + 128),
        UInt8.ofNat (c.toNat % 64 + 128)]
    else
      [UInt8.ofNat (c.toNat / 262144 % 8 + 240), UInt8.ofNat (c.toNat / 4096 % 64 + 128),
        UInt8.ofNat (c.toNat / 64 % 64 + 128), UInt8.ofNat (c.toNat % 64 + 128)] :=
  rfl

lemma ofUInt8_ofNat (h : c.toNat < 0x80) : Char.ofUInt8 (UInt8.ofNat c.toNat) = c := by
  apply Char.toNat_inj.mp
  change (UInt8.ofNat c.toNat).toUInt32.toNat = c.toNat
  rw [UInt8.toNat_toUInt32, toNat_ofNat (by omega)]

lemma decodeChars_one (h : c.toNat < 0x80) :
    decodeChars? (UInt8.ofNat c.toNat :: s) = (decodeChars? s).map (c :: ·) := by
  have ha := toNat_ofNat (n := c.toNat) (by omega)
  have hlow : UInt8.ofNat c.toNat < 0x80 := by rwa [UInt8.lt_iff_toNat_lt, ha]
  conv_lhs => rw [decodeChars?.eq_def]
  simp only [hlow, if_true, ofUInt8_ofNat c h]

lemma decodeChars_two (h : 0x80 ≤ c.toNat) (h' : c.toNat < 0x800) :
    decodeChars? (UInt8.ofNat (c.toNat / 64 % 32 + 192) :: UInt8.ofNat (c.toNat % 64 + 128) :: s) =
      (decodeChars? s).map (c :: ·) := by
  have ha := toNat_ofNat (n := c.toNat / 64 % 32 + 192) (by omega)
  have hb := toNat_ofNat (n := c.toNat % 64 + 128) (by omega)
  generalize UInt8.ofNat (c.toNat / 64 % 32 + 192) = a at *
  generalize UInt8.ofNat (c.toNat % 64 + 128) = b at *
  have hlow : ¬a < 0x80 := by simp only [UInt8.lt_iff_toNat_lt, ha, UInt8.reduceToNat]; omega
  have hlead : a < 0xE0 := by simp only [UInt8.lt_iff_toNat_lt, ha, UInt8.reduceToNat]; omega
  have hfollows : follows a b = true := (follows_iff a b).mpr (by omega)
  have hchar : char2 a b = c := char_eq (by omega)
  conv_lhs => rw [decodeChars?.eq_def]
  simp only [hlow, hlead, hfollows, hchar, Bool.not_true, Bool.false_eq_true, if_false, if_true]

lemma decodeChars_three (h : 0x800 ≤ c.toNat) (h' : c.toNat < 0x10000) :
    decodeChars? (UInt8.ofNat (c.toNat / 4096 % 16 + 224) ::
        UInt8.ofNat (c.toNat / 64 % 64 + 128) :: UInt8.ofNat (c.toNat % 64 + 128) :: s) =
      (decodeChars? s).map (c :: ·) := by
  have hvalid := toNat_valid c
  have ha := toNat_ofNat (n := c.toNat / 4096 % 16 + 224) (by omega)
  have hb := toNat_ofNat (n := c.toNat / 64 % 64 + 128) (by omega)
  have hd := toNat_ofNat (n := c.toNat % 64 + 128) (by omega)
  generalize UInt8.ofNat (c.toNat / 4096 % 16 + 224) = a at *
  generalize UInt8.ofNat (c.toNat / 64 % 64 + 128) = b at *
  generalize UInt8.ofNat (c.toNat % 64 + 128) = d at *
  have hlow : ¬a < 0x80 := by simp only [UInt8.lt_iff_toNat_lt, ha, UInt8.reduceToNat]; omega
  have hlead : ¬a < 0xE0 := by simp only [UInt8.lt_iff_toNat_lt, ha, UInt8.reduceToNat]; omega
  have hlead' : a < 0xF0 := by simp only [UInt8.lt_iff_toNat_lt, ha, UInt8.reduceToNat]; omega
  have hfollows : follows a b = true := (follows_iff a b).mpr (by omega)
  have htail : isTail d = true := (isTail_iff d).mpr (by omega)
  have hchar : char3 a b d = c := char_eq (by omega)
  conv_lhs => rw [decodeChars?.eq_def]
  simp only [hlow, hlead, hlead', hfollows, htail, hchar, Bool.not_true, Bool.false_eq_true,
    if_false, if_true]

lemma decodeChars_four (h : 0x10000 ≤ c.toNat) :
    decodeChars? (UInt8.ofNat (c.toNat / 262144 % 8 + 240) ::
        UInt8.ofNat (c.toNat / 4096 % 64 + 128) :: UInt8.ofNat (c.toNat / 64 % 64 + 128) ::
        UInt8.ofNat (c.toNat % 64 + 128) :: s) =
      (decodeChars? s).map (c :: ·) := by
  have hvalid := toNat_valid c
  have ha := toNat_ofNat (n := c.toNat / 262144 % 8 + 240) (by omega)
  have hb := toNat_ofNat (n := c.toNat / 4096 % 64 + 128) (by omega)
  have hd := toNat_ofNat (n := c.toNat / 64 % 64 + 128) (by omega)
  have he := toNat_ofNat (n := c.toNat % 64 + 128) (by omega)
  generalize UInt8.ofNat (c.toNat / 262144 % 8 + 240) = a at *
  generalize UInt8.ofNat (c.toNat / 4096 % 64 + 128) = b at *
  generalize UInt8.ofNat (c.toNat / 64 % 64 + 128) = d at *
  generalize UInt8.ofNat (c.toNat % 64 + 128) = e at *
  have hlow : ¬a < 0x80 := by simp only [UInt8.lt_iff_toNat_lt, ha, UInt8.reduceToNat]; omega
  have hlead : ¬a < 0xE0 := by simp only [UInt8.lt_iff_toNat_lt, ha, UInt8.reduceToNat]; omega
  have hlead' : ¬a < 0xF0 := by simp only [UInt8.lt_iff_toNat_lt, ha, UInt8.reduceToNat]; omega
  have hfollows : follows a b = true := (follows_iff a b).mpr (by omega)
  have hd : isTail d = true := (isTail_iff d).mpr (by omega)
  have he : isTail e = true := (isTail_iff e).mpr (by omega)
  have hchar : char4 a b d e = c := char_eq (by omega)
  conv_lhs => rw [decodeChars?.eq_def]
  simp only [hlow, hlead, hlead', hfollows, hd, he, hchar, Bool.not_true, Bool.false_eq_true,
    if_false, if_true]

lemma decodeChars_char :
    decodeChars? (String.utf8EncodeChar c ++ s) = (decodeChars? s).map (c :: ·) := by
  rw [encodeChar_eq]
  split_ifs with h1 h2 h3
  · exact decodeChars_one c s (by omega)
  · exact decodeChars_two c s (by omega) (by omega)
  · exact decodeChars_three c s (by omega) (by omega)
  · exact decodeChars_four c s (by omega)

end Characters

@[simp] lemma encodeChars_nil : encodeChars [] = [] := rfl

@[simp] lemma encodeChars_cons (c : Char) (cs : List Char) :
    encodeChars (c :: cs) = String.utf8EncodeChar c ++ encodeChars cs := rfl

@[simp] lemma encodeChars_append (cs ds : List Char) :
    encodeChars (cs ++ ds) = encodeChars cs ++ encodeChars ds :=
  List.flatMap_append

/-- Decoding undoes encoding. -/
theorem decodeChars_encodeChars (cs : List Char) : decodeChars? (encodeChars cs) = some cs := by
  induction cs with
  | nil => rfl
  | cons c cs ih => rw [encodeChars_cons, decodeChars_char, ih, Option.map_some]

lemma decodeChars_append (cs : List Char) (s : Bytes) :
    decodeChars? (encodeChars cs ++ s) = (decodeChars? s).map (cs ++ ·) := by
  induction cs with
  | nil => simp
  | cons c cs ih =>
    rw [encodeChars_cons, List.append_assoc, decodeChars_char, ih, Option.map_map]
    rfl

/-- An ASCII character is its own octet; all octets of other characters are outside ASCII. -/
lemma encodeChar_cases (c : Char) :
    c.toNat < 0x80 ∧ String.utf8EncodeChar c = [UInt8.ofNat c.toNat] ∨
      0x80 ≤ c.toNat ∧ ∀ b ∈ String.utf8EncodeChar c, 0x80 ≤ b.toNat := by
  rw [encodeChar_eq]
  split_ifs with h1 h2 h3
  · exact .inl ⟨by omega, rfl⟩
  · refine .inr ⟨by omega, ?_⟩
    simp only [List.mem_cons, List.not_mem_nil, or_false, forall_eq_or_imp, forall_eq]
    rw [toNat_ofNat (by omega), toNat_ofNat (by omega)]
    omega
  · refine .inr ⟨by omega, ?_⟩
    simp only [List.mem_cons, List.not_mem_nil, or_false, forall_eq_or_imp, forall_eq]
    rw [toNat_ofNat (by omega), toNat_ofNat (by omega), toNat_ofNat (by omega)]
    omega
  · refine .inr ⟨by omega, ?_⟩
    simp only [List.mem_cons, List.not_mem_nil, or_false, forall_eq_or_imp, forall_eq]
    rw [toNat_ofNat (by omega), toNat_ofNat (by omega), toNat_ofNat (by omega),
      toNat_ofNat (by omega)]
    omega

/-! ### Decoded texts -/

section Decoded

variable {a b c d : UInt8}

lemma toNat_char {n : Nat} (h : n < 0xD800 ∨ 0xDFFF < n ∧ n < 0x110000) :
    (Char.ofNat n).toNat = n := by
  have hvalid : n.isValidChar := h
  rw [Char.ofNat, dif_pos hvalid]
  rfl

lemma octet_eq {n : Nat} (h : n = a.toNat) : UInt8.ofNat n = a := by
  rw [h, UInt8.ofNat_toNat]

lemma encode_one (ha : a < 0x80) : String.utf8EncodeChar (Char.ofUInt8 a) = [a] := by
  have hn : (Char.ofUInt8 a).toNat = a.toNat := UInt8.toNat_toUInt32 a
  simp only [UInt8.lt_iff_toNat_lt, UInt8.reduceToNat] at ha
  rw [encodeChar_eq, if_pos (by omega), octet_eq hn]

lemma encode_two (hb : follows a b = true) (ha : a < 0xE0) :
    String.utf8EncodeChar (char2 a b) = [a, b] := by
  rw [follows_iff] at hb
  simp only [UInt8.lt_iff_toNat_lt, UInt8.reduceToNat] at ha
  have hn : (char2 a b).toNat = a.toNat % 32 * 64 + b.toNat % 64 := toNat_char (by omega)
  rw [encodeChar_eq, hn, if_neg (by omega), if_pos (by omega), octet_eq (a := a) (by omega),
    octet_eq (a := b) (by omega)]

lemma encode_three (hb : follows a b = true) (hlead : ¬a < 0xE0) (ha : a < 0xF0)
    (hc : isTail c = true) : String.utf8EncodeChar (char3 a b c) = [a, b, c] := by
  rw [follows_iff] at hb
  rw [isTail_iff] at hc
  simp only [UInt8.lt_iff_toNat_lt, UInt8.reduceToNat] at hlead ha
  have hn : (char3 a b c).toNat = (a.toNat % 16 * 64 + b.toNat % 64) * 64 + c.toNat % 64 :=
    toNat_char (by omega)
  rw [encodeChar_eq, hn, if_neg (by omega), if_neg (by omega), if_pos (by omega),
    octet_eq (a := a) (by omega), octet_eq (a := b) (by omega), octet_eq (a := c) (by omega)]

lemma encode_four (hb : follows a b = true) (hlead : ¬a < 0xF0) (hc : isTail c = true)
    (hd : isTail d = true) : String.utf8EncodeChar (char4 a b c d) = [a, b, c, d] := by
  rw [follows_iff] at hb
  rw [isTail_iff] at hc hd
  simp only [UInt8.lt_iff_toNat_lt, UInt8.reduceToNat] at hlead
  have hn : (char4 a b c d).toNat =
      ((a.toNat % 8 * 64 + b.toNat % 64) * 64 + c.toNat % 64) * 64 + d.toNat % 64 :=
    toNat_char (by omega)
  rw [encodeChar_eq, hn, if_neg (by omega), if_neg (by omega), if_neg (by omega),
    octet_eq (a := a) (by omega), octet_eq (a := b) (by omega), octet_eq (a := c) (by omega),
    octet_eq (a := d) (by omega)]

/-- Encoding undoes decoding: an octet string that spells a text is the one the text is written
as. -/
theorem encodeChars_of_decodeChars {s : Bytes} {cs : List Char} (h : decodeChars? s = some cs) :
    encodeChars cs = s := by
  fun_induction decodeChars? s generalizing cs
  case case1 =>
    cases h
    rfl
  case case2 a s ha ih =>
    obtain ⟨cs, hcs, rfl⟩ := Option.map_eq_some_iff.mp h
    rw [encodeChars_cons, encode_one ha, ih hcs]
    rfl
  case case5 a _ b s hb ha ih =>
    obtain ⟨cs, hcs, rfl⟩ := Option.map_eq_some_iff.mp h
    rw [encodeChars_cons, encode_two (by simpa using hb) ha, ih hcs]
    rfl
  case case8 a _ b hb hlead c s hc ha ih =>
    obtain ⟨cs, hcs, rfl⟩ := Option.map_eq_some_iff.mp h
    rw [encodeChars_cons, encode_three (by simpa using hb) hlead ha (by simpa using hc), ih hcs]
    rfl
  case case10 a _ b hb _ c hc hlead d s hd ih =>
    obtain ⟨cs, hcs, rfl⟩ := Option.map_eq_some_iff.mp h
    rw [encodeChars_cons, encode_four (by simpa using hb) hlead (by simpa using hc) hd, ih hcs]
    rfl
  -- the other ways end without a character
  all_goals cases h

end Decoded

/-- Whether nothing comes next that could go on with a character. -/
def Breaks (s : Bytes) : Prop :=
  ∀ b ∈ s.head?, b < 0x80

lemma Breaks.not_follows {a b : UInt8} {s : Bytes} (h : Breaks (b :: s)) : follows a b = false := by
  have hb := UInt8.lt_iff_toNat_lt.mp (h b rfl)
  rw [← Bool.not_eq_true, follows_iff]
  simp only [UInt8.reduceToNat] at hb
  omega

lemma Breaks.not_tail {b : UInt8} {s : Bytes} (h : Breaks (b :: s)) : isTail b = false := by
  have hb := UInt8.lt_iff_toNat_lt.mp (h b rfl)
  rw [← Bool.not_eq_true, isTail_iff]
  simp only [UInt8.reduceToNat] at hb
  omega

section Broken

variable {a : UInt8} {s : Bytes}

/-- After the first octet of a longer sequence another one must come. -/
lemma decode_after_one (ha : 0x80 ≤ a.toNat) (hs : Breaks s) : decodeChars? (a :: s) = none := by
  have hlow : ¬a < 0x80 := by simp only [UInt8.lt_iff_toNat_lt, UInt8.reduceToNat]; omega
  rw [decodeChars?.eq_def]
  cases s with
  | nil => simp only [hlow, if_false]
  | cons b s => simp only [hlow, if_false, hs.not_follows, Bool.not_false, if_true]

lemma decode_after_two (ha : 0xE0 ≤ a.toNat) (b : UInt8) (hs : Breaks s) :
    decodeChars? (a :: b :: s) = none := by
  have hlow : ¬a < 0x80 := by simp only [UInt8.lt_iff_toNat_lt, UInt8.reduceToNat]; omega
  have hlead : ¬a < 0xE0 := by simp only [UInt8.lt_iff_toNat_lt, UInt8.reduceToNat]; omega
  rw [decodeChars?.eq_def]
  simp only [hlow, hlead, if_false]
  split
  · rfl
  · cases s with
    | nil => rfl
    | cons c s => simp only [hs.not_tail, Bool.not_false, if_true]

lemma decode_after_three (ha : 0xF0 ≤ a.toNat) (b c : UInt8) (hs : Breaks s) :
    decodeChars? (a :: b :: c :: s) = none := by
  have hlow : ¬a < 0x80 := by simp only [UInt8.lt_iff_toNat_lt, UInt8.reduceToNat]; omega
  have hlead : ¬a < 0xE0 := by simp only [UInt8.lt_iff_toNat_lt, UInt8.reduceToNat]; omega
  have hlead' : ¬a < 0xF0 := by simp only [UInt8.lt_iff_toNat_lt, UInt8.reduceToNat]; omega
  rw [decodeChars?.eq_def]
  simp only [hlow, hlead, hlead', if_false]
  split
  · rfl
  · split
    · rfl
    · cases s with
      | nil => rfl
      | cons d s => simp only [hs.not_tail, Bool.false_eq_true, if_false]

/-- A part of the octets of a character spells nothing. -/
lemma decode_part {c : Char} {front back : Bytes} (h : front ++ back = String.utf8EncodeChar c)
    (hfront : front ≠ []) (hback : back ≠ []) (hs : Breaks s) :
    decodeChars? (front ++ s) = none := by
  obtain ⟨a, front, rfl⟩ := List.exists_cons_of_ne_nil hfront
  rw [encodeChar_eq, List.cons_append] at h
  split_ifs at h with h1 h2 h3
  · exact (hback (List.append_eq_nil_iff.mp (List.cons.inj h).2).2).elim
  · obtain ⟨ha, h⟩ := List.cons.inj h
    have hlead : a.toNat = c.toNat / 64 % 32 + 192 := by rw [ha, toNat_ofNat (by omega)]
    rcases front with _ | ⟨b, front⟩
    · exact decode_after_one (by omega) hs
    · exact (hback (List.append_eq_nil_iff.mp (List.cons.inj h).2).2).elim
  · obtain ⟨ha, h⟩ := List.cons.inj h
    have hlead : a.toNat = c.toNat / 4096 % 16 + 224 := by rw [ha, toNat_ofNat (by omega)]
    rcases front with _ | ⟨b, _ | ⟨d, front⟩⟩
    · exact decode_after_one (by omega) hs
    · exact decode_after_two (by omega) b hs
    · exact (hback (List.append_eq_nil_iff.mp (List.cons.inj (List.cons.inj h).2).2).2).elim
  · obtain ⟨ha, h⟩ := List.cons.inj h
    have hlead : a.toNat = c.toNat / 262144 % 8 + 240 := by rw [ha, toNat_ofNat (by omega)]
    rcases front with _ | ⟨b, _ | ⟨d, _ | ⟨e, front⟩⟩⟩
    · exact decode_after_one (by omega) hs
    · exact decode_after_two (by omega) b hs
    · exact decode_after_three (by omega) b d hs
    · have hend := (List.cons.inj (List.cons.inj (List.cons.inj h).2).2).2
      exact (hback (List.append_eq_nil_iff.mp hend).2).elim

/-- The octets of a text are cut either between two characters or inside one; in the second case
what is before the cut spells no text. -/
theorem cut_encodeChars {cs : List Char} {front back : Bytes} (h : front ++ back = encodeChars cs) :
    (∃ xs ys, xs ++ ys = cs ∧ front = encodeChars xs ∧ back = encodeChars ys) ∨
      ∀ s, Breaks s → decodeChars? (front ++ s) = none := by
  induction cs generalizing front with
  | nil =>
    obtain ⟨rfl, rfl⟩ := List.append_eq_nil_iff.mp h
    exact .inl ⟨[], [], rfl, rfl, rfl⟩
  | cons c cs ih =>
    rw [encodeChars_cons] at h
    rcases List.append_eq_append_iff.mp h with ⟨part, hpart, hback⟩ | ⟨front', hfront, hrest⟩
    · by_cases hnone : front = []
      · exact .inl ⟨[], c :: cs, rfl, hnone, by simpa [hnone] using h⟩
      · by_cases hwhole : part = []
        · subst hwhole
          refine .inl ⟨[c], cs, rfl, ?_, hback⟩
          simpa using hpart.symm
        · exact .inr fun s hs => decode_part hpart.symm hnone hwhole hs
    · rcases ih hrest.symm with ⟨xs, ys, hsplit, hxs, hys⟩ | hbroken
      · exact .inl ⟨c :: xs, ys, by rw [List.cons_append, hsplit], by rw [hfront, hxs]; rfl, hys⟩
      · refine .inr fun s hs => ?_
        rw [hfront, List.append_assoc, decodeChars_char, hbroken s hs]
        rfl

end Broken
end AuditTrail.Utf8
