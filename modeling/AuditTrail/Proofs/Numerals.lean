import AuditTrail.Json.Numeral
import AuditTrail.Json.Writer
import AuditTrail.Proofs.Utf8
import Mathlib.Data.Nat.Digits.Defs
import Mathlib.Tactic.IntervalCases

/-!
# Numerals are read as they were written

The decimal digits of a natural number denote the number. A numeral is the text of its parts, and
the reader takes it apart into the same parts, as long as nothing follows that could go on with it.
So the text of a 64-bit integer denotes this integer again.
-/

namespace AuditTrail

namespace Text

/-- The number that digits denote. -/
def decimal (ds : List Char) : Nat :=
  Nat.ofDigitChars 10 ds 0

lemma ofDigits_eq (ds : List Char) : ofDigits ds = decimal ds := rfl

lemma ofDigits_toDigits (n : Nat) : ofDigits (Nat.toDigits 10 n) = n :=
  Nat.ofDigitChars_ten_toDigits

lemma isDigit_toDigits {n : Nat} {c : Char} (h : c ∈ Nat.toDigits 10 n) : c.isDigit = true :=
  Nat.isDigit_of_mem_toDigits (by decide) (by decide) h

lemma ofDigits_zeros_append (zeros : Nat) (cs : List Char) :
    ofDigits (List.replicate zeros '0' ++ cs) = ofDigits cs := by
  induction zeros with
  | zero => rfl
  | succ zeros ih => exact ih

lemma ofDigits_padded (width n : Nat) : ofDigits (padded width n) = n := by
  rw [padded, ofDigits_zeros_append, ofDigits_toDigits]

lemma isDigit_padded {width n : Nat} {c : Char} (h : c ∈ padded width n) : c.isDigit = true := by
  rcases List.mem_append.mp h with h | h
  · rw [List.eq_of_mem_replicate h]
    rfl
  · exact isDigit_toDigits h

lemma length_padded {width n : Nat} (hwidth : 0 < width) (h : n < 10 ^ width) :
    (padded width n).length = width := by
  have hle := (Nat.length_toDigits_le_iff (by decide) hwidth).mpr h
  simp only [padded, List.length_append, List.length_replicate]
  omega

lemma isDigit_iff (c : Char) : c.isDigit = true ↔ 48 ≤ c.toNat ∧ c.toNat ≤ 57 := by
  simp [Char.isDigit, UInt32.le_iff_toNat_le]

lemma digitValue_lt {c : Char} (h : c.isDigit = true) : digitValue c < 10 := by
  obtain ⟨-, hle⟩ := (isDigit_iff c).mp h
  have hzero : '0'.toNat = 48 := rfl
  simp only [digitValue, hzero]
  omega

lemma digitChar_digitValue {c : Char} (h : c.isDigit = true) :
    Nat.digitChar (digitValue c) = c := by
  have hlt := digitValue_lt h
  obtain ⟨hge, -⟩ := (isDigit_iff c).mp h
  have hzero : '0'.toNat = 48 := rfl
  apply Char.toNat_inj.mp
  rw [Nat.toNat_digitChar_of_lt_ten hlt, digitValue, hzero]
  omega

lemma ofDigits_lt {cs : List Char} (h : ∀ c ∈ cs, c.isDigit = true) :
    ofDigits cs < 10 ^ cs.length := by
  have hfold : ∀ start, cs.foldl (fun n c => 10 * n + digitValue c) start <
      (start + 1) * 10 ^ cs.length := by
    induction cs with
    | nil => simp
    | cons c cs ih =>
      intro start
      have hc := digitValue_lt (h c List.mem_cons_self)
      refine (ih (fun c hc => h c (List.mem_cons_of_mem _ hc)) _).trans_le ?_
      rw [List.length_cons, Nat.pow_succ', ← Nat.mul_assoc]
      refine Nat.mul_le_mul_right _ ?_
      change 10 * start + digitValue c + 1 ≤ (start + 1) * 10
      omega
  have := hfold 0
  rwa [Nat.zero_add, Nat.one_mul] at this

end Text

namespace Json

open Utf8

/-! ### Numerals in octets -/

namespace Numeral

/-- The octet of a digit. -/
def octet (d : Nat) : UInt8 :=
  UInt8.ofNat (0x30 + d)

/-- The text of digits. -/
def digitChars (ds : List Nat) : List Char :=
  ds.map Nat.digitChar

/-- Whether these are digits, at least one of them. -/
structure Digits (ds : List Nat) : Prop where
  some : ds ≠ []
  small : ∀ d ∈ ds, d < 10

lemma toNat_octet {d : Nat} (h : d < 10) : (octet d).toNat = 0x30 + d :=
  toNat_ofNat (by omega)

lemma isDigit_iff (b : UInt8) : isDigit b = true ↔ 0x30 ≤ b.toNat ∧ b.toNat ≤ 0x39 := by
  simp [isDigit, UInt8.le_iff_toNat_le]

lemma isDigit_octet {d : Nat} (h : d < 10) : isDigit (octet d) = true := by
  rw [isDigit_iff, toNat_octet h]
  omega

lemma encode_digit {d : Nat} (h : d < 10) :
    String.utf8EncodeChar (Nat.digitChar d) = [octet d] := by
  interval_cases d <;> rfl

lemma encode_digits {ds : List Nat} (h : ∀ d ∈ ds, d < 10) :
    encodeChars (digitChars ds) = ds.map octet := by
  induction ds with
  | nil => rfl
  | cons d ds ih =>
    have hrest := ih fun d hd => h d (List.mem_cons_of_mem _ hd)
    simp only [digitChars, List.map_cons, encodeChars_cons, encode_digit (h d List.mem_cons_self)]
    exact congrArg (octet d :: ·) hrest

/-- Whether no digit comes next. -/
def StopsDigits (s : Bytes) : Prop :=
  ∀ b ∈ s.head?, isDigit b = false

lemma spanDigits_octets {ds : List Nat} {s : Bytes} (h : ∀ d ∈ ds, d < 10) (hs : StopsDigits s) :
    spanDigits (ds.map octet ++ s) = (ds, s) := by
  have hall : ∀ b ∈ ds.map octet, isDigit b = true := by
    intro b hb
    obtain ⟨d, hd, rfl⟩ := List.mem_map.mp hb
    exact isDigit_octet (h d hd)
  have htake : s.takeWhile isDigit = [] := by
    cases s with
    | nil => rfl
    | cons b s => simp [hs b rfl]
  have hdrop : s.dropWhile isDigit = s := by
    cases s with
    | nil => rfl
    | cons b s => simp [hs b rfl]
  rw [spanDigits, List.takeWhile_append_of_pos hall, List.dropWhile_append_of_pos hall, htake,
    hdrop, List.append_nil, List.map_map]
  have hvalues : ds.map ((fun b : UInt8 => b.toNat - 0x30) ∘ octet) = ds := by
    conv_rhs => rw [← List.map_id ds]
    apply List.map_congr_left
    intro d hd
    simp [toNat_octet (h d hd)]
  rw [hvalues]

lemma someDigits_octets {ds : List Nat} {s : Bytes} (h : Digits ds) (hs : StopsDigits s) :
    someDigits? (ds.map octet ++ s) = some (ds, s) := by
  have hne : ds.isEmpty = false := by simpa using h.some
  simp only [someDigits?, spanDigits_octets h.small hs, hne, Bool.false_eq_true, if_false]

/-- Whether the parts are those of a numeral: digits everywhere, and no leading zero. -/
structure WellFormed (n : Numeral) : Prop where
  whole : Digits n.whole
  leading : n.whole = [0] ∨ n.whole.head? ≠ some 0
  fraction : ∀ ds ∈ n.fraction, Digits ds
  exponent : ∀ e ∈ n.exponent, Digits e.digits

def fractionText : Option (List Nat) → List Char
  | none => []
  | some ds => '.' :: digitChars ds

def exponentText : Option Exponent → List Char
  | none => []
  | some e => 'e' :: (if e.negative then '-' else '+') :: digitChars e.digits

/-- The text of a numeral, with a sign before every exponent. -/
def text (n : Numeral) : List Char :=
  (if n.negative then ['-'] else []) ++
    (digitChars n.whole ++ (fractionText n.fraction ++ exponentText n.exponent))

/-- Whether nothing comes next that could belong to a numeral. -/
def Ends (s : Bytes) : Prop :=
  ∀ b ∈ s.head?, isDigit b = false ∧ b ≠ 0x2E ∧ b ≠ 0x65 ∧ b ≠ 0x45

section Parts

variable {s : Bytes}

lemma Ends.stops (h : Ends s) : StopsDigits s := fun b hb => (h b hb).1

lemma stops_exponent (e : Option Exponent) (hs : Ends s) :
    StopsDigits (encodeChars (exponentText e) ++ s) := by
  cases e with
  | none => exact hs.stops
  | some e =>
    rintro b ⟨⟩
    rfl

lemma stops_fraction (f : Option (List Nat)) (e : Option Exponent) (hs : Ends s) :
    StopsDigits (encodeChars (fractionText f) ++ (encodeChars (exponentText e) ++ s)) := by
  cases f with
  | none => exact stops_exponent e hs
  | some ds =>
    rintro b ⟨⟩
    rfl

lemma readExponent_text {e : Option Exponent} (he : ∀ x ∈ e, Digits x.digits) (hs : Ends s) :
    readExponent (encodeChars (exponentText e) ++ s) = some (e, s) := by
  cases e with
  | none =>
    cases s with
    | nil => rfl
    | cons b s =>
      obtain ⟨-, -, hlower, hupper⟩ := hs b rfl
      change readExponent (b :: s) = _
      simp only [readExponent, hlower, hupper, or_self, if_false]
  | some x =>
    have hdigits := he x rfl
    have hread := someDigits_octets hdigits hs.stops
    obtain ⟨negative, digits⟩ := x
    cases negative with
    | false =>
      have hsplit : encodeChars (exponentText (some ⟨false, digits⟩)) ++ s =
          0x65 :: 0x2B :: (digits.map octet ++ s) := by
        rw [← encode_digits hdigits.small]
        rfl
      rw [hsplit]
      simp only [readExponent, true_or, if_true, hread]
      rfl
    | true =>
      have hsplit : encodeChars (exponentText (some ⟨true, digits⟩)) ++ s =
          0x65 :: 0x2D :: (digits.map octet ++ s) := by
        rw [← encode_digits hdigits.small]
        rfl
      rw [hsplit]
      simp only [readExponent, true_or, if_true, hread]
      rfl

lemma readFraction_text {f : Option (List Nat)} {e : Option Exponent} (hf : ∀ ds ∈ f, Digits ds)
    (hs : Ends s) :
    readFraction (encodeChars (fractionText f) ++ (encodeChars (exponentText e) ++ s)) =
      some (f, encodeChars (exponentText e) ++ s) := by
  cases f with
  | none =>
    change readFraction (encodeChars (exponentText e) ++ s) = _
    unfold readFraction
    split
    · next rest heq =>
      -- A point comes neither after the exponent nor in its place.
      cases e with
      | none => exact ((hs 0x2E (by rw [show s = 0x2E :: rest from heq]; rfl)).2.1 rfl).elim
      | some x => cases heq
    · rfl
  | some ds =>
    have hsplit : encodeChars (fractionText (some ds)) ++ (encodeChars (exponentText e) ++ s) =
        0x2E :: (ds.map octet ++ (encodeChars (exponentText e) ++ s)) := by
      rw [← encode_digits (hf ds rfl).small]
      rfl
    rw [hsplit, readFraction, someDigits_octets (hf ds rfl) (stops_exponent e hs)]
    rfl

lemma readWhole_octets {ds : List Nat} (h : Digits ds) (hlead : ds = [0] ∨ ds.head? ≠ some 0)
    (hs : StopsDigits s) : readWhole (ds.map octet ++ s) = some (ds, s) := by
  unfold readWhole
  rw [someDigits_octets h hs]
  split
  · next heq =>
    cases heq
    rcases hlead with hlead | hlead
    · cases hlead
    · exact (hlead rfl).elim
  · rfl

end Parts

/-- A numeral is read as the parts of which it is the text. -/
theorem read_text {n : Numeral} (h : n.WellFormed) {s : Bytes} (hs : Ends s) :
    read (encodeChars n.text ++ s) = some (n, s) := by
  obtain ⟨negative, whole, fraction, exponent⟩ := n
  have hwhole := readWhole_octets h.whole h.leading (stops_fraction fraction exponent hs)
  have hfraction := readFraction_text (e := exponent) h.fraction hs
  have hexponent := readExponent_text h.exponent hs
  have hdigits := encode_digits h.whole.small
  cases negative with
  | true =>
    have hsplit : encodeChars (text ⟨true, whole, fraction, exponent⟩) ++ s =
        0x2D :: (whole.map octet ++
          (encodeChars (fractionText fraction) ++ (encodeChars (exponentText exponent) ++ s))) := by
      simp only [text, if_true, encodeChars_append, hdigits, List.append_assoc]
      rfl
    rw [hsplit]
    simp only [read, hwhole, hfraction, hexponent, Option.bind_eq_bind, Option.bind_some]
  | false =>
    have hsplit : encodeChars (text ⟨false, whole, fraction, exponent⟩) ++ s =
        whole.map octet ++
          (encodeChars (fractionText fraction) ++ (encodeChars (exponentText exponent) ++ s)) := by
      simp only [text, Bool.false_eq_true, if_false, encodeChars_append, hdigits, List.append_assoc,
        List.nil_append]
    rw [hsplit]
    obtain ⟨d, ds, rfl⟩ := List.exists_cons_of_ne_nil h.whole.some
    have hminus : octet d ≠ 0x2D := by
      have hd := h.whole.small d List.mem_cons_self
      simp only [ne_eq, ← UInt8.toNat_inj, toNat_octet hd, UInt8.reduceToNat]
      omega
    simp only [List.map_cons, List.cons_append] at hwhole ⊢
    unfold read
    split
    next sign r heq =>
      split at heq
      · next h => exact (hminus (List.cons.inj h).1).elim
      · cases heq
        simp only [hwhole, hfraction, hexponent, Option.bind_eq_bind, Option.bind_some]

/-- The values of digit characters. -/
def values (cs : List Char) : List Nat :=
  cs.map Text.digitValue

lemma digitChars_values {cs : List Char} (h : ∀ c ∈ cs, c.isDigit = true) :
    digitChars (values cs) = cs := by
  rw [digitChars, values, List.map_map]
  conv_rhs => rw [← List.map_id cs]
  exact List.map_congr_left fun c hc => Text.digitChar_digitValue (h c hc)

lemma digits_values {cs : List Char} (hne : cs ≠ []) (h : ∀ c ∈ cs, c.isDigit = true) :
    Digits (values cs) where
  some := by simpa [values] using hne
  small := by
    intro d hd
    obtain ⟨c, hc, rfl⟩ := List.mem_map.mp hd
    exact Text.digitValue_lt (h c hc)

lemma valueOf_values (cs : List Char) : valueOf (values cs) = Text.ofDigits cs := by
  simp only [valueOf, values, Text.ofDigits, List.foldl_map, Nat.mul_comm]

/-- The numeral of an integer. -/
def ofInteger (i : Int) : Numeral :=
  ⟨decide (i < 0), values (Nat.toDigits 10 i.natAbs), none, none⟩

lemma text_ofInteger (i : Int) : (ofInteger i).text = integerChars i := by
  have hdigits := digitChars_values fun c => Text.isDigit_toDigits (n := i.natAbs) (c := c)
  by_cases hneg : i < 0 <;>
    simp [text, ofInteger, integerChars, hdigits, hneg, fractionText, exponentText]

lemma head_toDigits {n : Nat} (h : 0 < n) : (Nat.toDigits 10 n).head? ≠ some '0' := by
  induction n using Nat.strongRecOn with
  | ind n ih =>
    rcases Nat.lt_or_ge n 10 with hsmall | hlarge
    · rw [Nat.toDigits_of_lt_base hsmall]
      interval_cases n <;> decide
    · have hhead := ih (n / 10) (by omega) (by omega)
      have hne := Nat.toDigits_ne_nil (n := n / 10) (b := 10)
      obtain ⟨c, cs, hcs⟩ := List.exists_cons_of_ne_nil hne
      rw [hcs] at hhead
      rw [Nat.toDigits_of_base_le (by decide) hlarge, hcs]
      exact hhead

lemma leading_of_head {cs : List Char} (hdigits : ∀ c ∈ cs, c.isDigit = true)
    (h : cs.head? ≠ some '0') : (values cs).head? ≠ some 0 := by
  intro hzero
  rw [values, List.head?_map, Option.map_eq_some_iff] at hzero
  obtain ⟨c, hc, hvalue⟩ := hzero
  have hchar := Text.digitChar_digitValue (hdigits c (List.mem_of_head? hc))
  rw [hvalue] at hchar
  exact h (by rw [hc, ← hchar]; rfl)

lemma leading_toDigits (n : Nat) :
    values (Nat.toDigits 10 n) = [0] ∨ (values (Nat.toDigits 10 n)).head? ≠ some 0 := by
  rcases Nat.eq_zero_or_pos n with rfl | hpos
  · exact .inl rfl
  · exact .inr (leading_of_head (fun _ hc => Text.isDigit_toDigits hc) (head_toDigits hpos))

lemma wellFormed_ofInteger (i : Int) : (ofInteger i).WellFormed where
  whole := digits_values Nat.toDigits_ne_nil fun _ hc => Text.isDigit_toDigits hc
  leading := leading_toDigits i.natAbs
  fraction := by rintro _ ⟨⟩
  exponent := by rintro _ ⟨⟩

/-- A 64-bit integer, signed or unsigned, is denoted by its own numeral. -/
lemma toNumber_ofInteger {i : Int} (hlow : -(Word.limit63 : Int) ≤ i) (hhigh : i < Word.limit64) :
    (ofInteger i).toNumber? = some (.integer i) := by
  have hvalue : valueOf (values (Nat.toDigits 10 i.natAbs)) = i.natAbs := by
    rw [valueOf_values, Text.ofDigits_toDigits]
  have hinteger : (ofInteger i).toInteger? = some i := by
    simp only [toInteger?, ofInteger, Option.isSome_none, Bool.false_eq_true, or_self, if_false,
      hvalue, decide_eq_true_eq]
    split_ifs with hneg hrange hrange
    · congr 1
      omega
    · omega
    · congr 1
      omega
    · omega
  rw [toNumber?, hinteger]

end Numeral
end Json
end AuditTrail
