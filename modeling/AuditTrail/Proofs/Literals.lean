import AuditTrail.Json.Literal
import AuditTrail.Proofs.Utf8
import Mathlib.Tactic.IntervalCases

/-!
# String literals are read as they were written

A character is written in one of three ways: as itself, after a backslash as a letter, or after a
backslash as its number. Each way is undone where it stands, and none of them has an octet that
could be taken for the closing quotation mark or for a control character.
-/

namespace AuditTrail.Json.Literal

open Utf8

/-- The ways to write a character. -/
inductive Written (c : Char) : List Char → Prop where
  | short (x : Char) : short? x = some c → x.toNat < 0x80 → Written c ['\\', x]
  | number : c.toNat < 0x20 →
      Written c ['\\', 'u', '0', '0', hexDigit (c.toNat / 16), hexDigit (c.toNat % 16)]
  | itself : c ≠ '"' → c ≠ '\\' → 0x20 ≤ c.toNat → Written c [c]

lemma escapeChar_written (c : Char) : Written c (escapeChar c) := by
  unfold escapeChar
  split
  · exact .short '"' rfl (by decide)
  · exact .short '\\' rfl (by decide)
  · exact .short 'b' rfl (by decide)
  · exact .short 'f' rfl (by decide)
  · exact .short 'n' rfl (by decide)
  · exact .short 'r' rfl (by decide)
  · exact .short 't' rfl (by decide)
  · next hquote hback _ _ _ _ _ =>
    split
    · next hcontrol => exact .number hcontrol
    · next hcontrol => exact .itself hquote hback (Nat.le_of_not_lt hcontrol)

lemma unescape_short {x c : Char} (h : short? x = some c) (cs : List Char) :
    unescape? ('\\' :: x :: cs) = (unescape? cs).map (c :: ·) := by
  unfold short? at h
  split at h <;> first | (cases h; simp [unescape?, short?]) | cases h

lemma hexValue_hexDigit {n : Nat} (h : n < 16) : Text.hexValue? (hexDigit n) = some n := by
  interval_cases n <;> rfl

lemma unit_hexDigits {n : Nat} (h : n < 0x20) :
    unit? '0' '0' (hexDigit (n / 16)) (hexDigit (n % 16)) = some n := by
  have hzero : Text.hexValue? '0' = some 0 := rfl
  simp only [unit?, hzero, hexValue_hexDigit (n := n / 16) (by omega),
    hexValue_hexDigit (n := n % 16) (by omega), Option.bind_eq_bind, Option.bind_some]
  congr 1
  omega

lemma unescape_number {n : Nat} (h : n < 0x20) (cs : List Char) :
    unescape? ('\\' :: 'u' :: '0' :: '0' :: hexDigit (n / 16) :: hexDigit (n % 16) :: cs) =
      (unescape? cs).map (Char.ofNat n :: ·) := by
  have hhigh : isHighSurrogate n = false := by
    simp only [isHighSurrogate, Bool.and_eq_false_iff, decide_eq_false_iff_not]
    omega
  have hlow : isLowSurrogate n = false := by
    simp only [isLowSurrogate, Bool.and_eq_false_iff, decide_eq_false_iff_not]
    omega
  conv_lhs => rw [unescape?.eq_def]
  simp only [unit_hexDigits h, hhigh, hlow, Bool.false_eq_true, if_false]

lemma unescape_itself {c : Char} (h : c ≠ '\\') (cs : List Char) :
    unescape? (c :: cs) = (unescape? cs).map (c :: ·) := by
  conv_lhs => rw [unescape?.eq_def]
  split
  · next heq => cases heq
  · next heq => exact (h (List.cons.inj heq).1).elim
  · next heq => exact (h (List.cons.inj heq).1).elim
  · next heq =>
    cases heq
    rw [if_neg h]

lemma unescape_written {c : Char} {written : List Char} (h : Written c written)
    (cs : List Char) : unescape? (written ++ cs) = (unescape? cs).map (c :: ·) := by
  cases h with
  | short x hx _ => exact unescape_short hx cs
  | number hcontrol =>
    have hread := unescape_number hcontrol cs
    rwa [Char.ofNat_toNat] at hread
  | itself _ hback _ => exact unescape_itself hback cs

theorem unescape_escape (cs : List Char) : unescape? (escape cs) = some cs := by
  induction cs with
  | nil => rfl
  | cons c cs ih =>
    have hsplit : escape (c :: cs) = escapeChar c ++ escape cs := rfl
    rw [hsplit, unescape_written (escapeChar_written c), ih, Option.map_some]

/-- Whether an octet stands for itself inside a literal. -/
def isPlain (b : UInt8) : Bool :=
  b ≠ 0x22 && b ≠ 0x5C && 0x20 ≤ b

lemma isPlain_iff (b : UInt8) :
    isPlain b = true ↔ b.toNat ≠ 0x22 ∧ b.toNat ≠ 0x5C ∧ 0x20 ≤ b.toNat := by
  simp [isPlain, ← UInt8.toNat_inj, UInt8.le_iff_toNat_le, and_assoc]

/-- The octets of a literal together with some that have been found already. -/
def withFront (front : Bytes) (p : Bytes × Bytes) : Bytes × Bytes :=
  (front ++ p.1, p.2)

lemma split_plain {front : Bytes} (h : ∀ b ∈ front, isPlain b = true) (s : Bytes) :
    split (front ++ s) = (split s).map (withFront front) := by
  induction front with
  | nil =>
    have hid : withFront [] = id := rfl
    rw [List.nil_append, hid, Option.map_id]
    rfl
  | cons b front ih =>
    have hb := h b List.mem_cons_self
    simp only [isPlain, ne_eq, decide_not, Bool.and_eq_true, Bool.not_eq_eq_eq_not, Bool.not_true,
      decide_eq_false_iff_not, decide_eq_true_eq] at hb
    obtain ⟨⟨hquote, hback⟩, hcontrol⟩ := hb
    rw [List.cons_append, split.eq_def]
    simp only [hquote, hback, if_false, UInt8.not_lt.mpr hcontrol]
    rw [ih fun b hb => h b (List.mem_cons_of_mem _ hb), Option.map_map]
    rfl

lemma split_escaped (x : UInt8) (s : Bytes) :
    split (0x5C :: x :: s) = (split s).map (withFront [0x5C, x]) := by
  rw [split.eq_def]
  rfl

lemma isPlain_ascii {c : Char} (h : 0x20 ≤ c.toNat) (h' : c.toNat < 0x80) (hquote : c ≠ '"')
    (hback : c ≠ '\\') : isPlain (UInt8.ofNat c.toNat) = true := by
  rw [isPlain_iff, toNat_ofNat (by omega)]
  refine ⟨?_, ?_, h⟩
  · exact fun heq => hquote (Char.toNat_inj.mp heq)
  · exact fun heq => hback (Char.toNat_inj.mp heq)

lemma isPlain_of_itself {c : Char} (hquote : c ≠ '"') (hback : c ≠ '\\') (h : 0x20 ≤ c.toNat) :
    ∀ b ∈ String.utf8EncodeChar c, isPlain b = true := by
  rcases encodeChar_cases c with ⟨hascii, heq⟩ | ⟨-, htails⟩
  · rw [heq]
    simpa using isPlain_ascii h hascii hquote hback
  · intro b hb
    have := htails b hb
    rw [isPlain_iff]
    omega

lemma hexDigit_plain {n : Nat} (h : n < 16) :
    ∀ b ∈ String.utf8EncodeChar (hexDigit n), isPlain b = true := by
  interval_cases n <;> exact isPlain_of_itself (by decide) (by decide) (by decide)

lemma split_written {c : Char} {written : List Char} (h : Written c written) (s : Bytes) :
    split (encodeChars written ++ s) = (split s).map (withFront (encodeChars written)) := by
  cases h with
  | short x hx hascii =>
    have hencode : encodeChars ['\\', x] = [0x5C, UInt8.ofNat x.toNat] := by
      rcases encodeChar_cases x with ⟨-, heq⟩ | ⟨hlarge, -⟩
      · rw [encodeChars_cons, encodeChars_cons, heq]
        rfl
      · omega
    rw [hencode]
    exact split_escaped _ s
  | number hcontrol =>
    have hfront : ∀ b ∈ encodeChars ['0', '0', hexDigit (c.toNat / 16), hexDigit (c.toNat % 16)],
        isPlain b = true := by
      intro b hb
      simp only [encodeChars_cons, encodeChars_nil, List.append_nil, List.mem_append] at hb
      rcases hb with hb | hb | hb | hb
      · exact hexDigit_plain (n := 0) (by omega) b hb
      · exact hexDigit_plain (n := 0) (by omega) b hb
      · exact hexDigit_plain (by omega) b hb
      · exact hexDigit_plain (by omega) b hb
    have hread := split_escaped 0x75
      (encodeChars ['0', '0', hexDigit (c.toNat / 16), hexDigit (c.toNat % 16)] ++ s)
    rw [split_plain hfront, Option.map_map] at hread
    exact hread
  | itself hquote hback hprintable =>
    rw [encodeChars_cons, encodeChars_nil, List.append_nil]
    exact split_plain (isPlain_of_itself hquote hback hprintable) s

lemma split_escape (cs : List Char) (rest : Bytes) :
    split (encodeChars (escape cs) ++ 0x22 :: rest) = some (encodeChars (escape cs), rest) := by
  induction cs with
  | nil =>
    rw [split.eq_def]
    rfl
  | cons c cs ih =>
    have hsplit : escape (c :: cs) = escapeChar c ++ escape cs := rfl
    rw [hsplit, encodeChars_append, List.append_assoc, split_written (escapeChar_written c), ih]
    rfl

/-- A text is read back from between its quotation marks. -/
theorem read_escape (s : String) (rest : Bytes) :
    read (encodeChars (escape s.toList) ++ 0x22 :: rest) = some (s, rest) := by
  simp only [read, split_escape, Option.bind_eq_bind, Option.bind_some, decode?,
    decodeChars_encodeChars, unescape_escape]
  simp

/-- What is written of a text has no control characters. -/
lemma printable_escape {cs : List Char} {c : Char} (h : c ∈ escape cs) : 0x20 ≤ c.toNat := by
  obtain ⟨x, -, hx⟩ := List.mem_flatMap.mp h
  have hhex : ∀ n, n < 16 → 0x20 ≤ (hexDigit n).toNat := by
    intro n hn
    interval_cases n <;> decide
  generalize hw : escapeChar x = written at hx
  have hwritten : Written x written := hw ▸ escapeChar_written x
  cases hwritten with
  | short y hy _ =>
    have hy : 0x20 ≤ y.toNat := by
      unfold short? at hy
      split at hy <;> first | decide | cases hy
    simp only [List.mem_cons, List.not_mem_nil, or_false] at hx
    rcases hx with rfl | rfl
    · decide
    · exact hy
  | number hcontrol =>
    simp only [List.mem_cons, List.not_mem_nil, or_false] at hx
    rcases hx with rfl | rfl | rfl | rfl | rfl | rfl
    · decide
    · decide
    · decide
    · decide
    · exact hhex _ (by omega)
    · exact hhex _ (by omega)
  | itself _ _ hprintable =>
    rw [List.mem_singleton.mp hx]
    exact hprintable

end AuditTrail.Json.Literal
