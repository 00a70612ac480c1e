import AuditTrail.Proofs.Calendar
import AuditTrail.Proofs.Numerals
import AuditTrail.Time.Reader

/-!
# Instants are read as they were written

Every field of a written instant is cut off where its digits end. The fields denote the instant
again, with the second 60 for a leap second.
-/

namespace AuditTrail.Time

open Text

namespace Scanner

/-- Whether no digit comes next. -/
def StopsDigits (cs : List Char) : Prop :=
  ∀ c ∈ cs.head?, c.isDigit = false

variable {ds cs : List Char} {most : Nat}

lemma takeWhile_digits (hds : ∀ c ∈ ds, c.isDigit = true) (hcs : StopsDigits cs) :
    (ds ++ cs).takeWhile Char.isDigit = ds := by
  rw [List.takeWhile_append_of_pos hds]
  cases cs with
  | nil => simp
  | cons c cs => simp [hcs c rfl]

lemma digits_append (hne : ds ≠ []) (hds : ∀ c ∈ ds, c.isDigit = true) (hmost : ds.length ≤ most)
    (hstop : ds.length = most ∨ StopsDigits cs) : digits most (ds ++ cs) = some (ds, cs) := by
  have htake : ((ds ++ cs).take most).takeWhile Char.isDigit = ds := by
    rw [List.take_append, List.take_of_length_le hmost]
    refine takeWhile_digits hds ?_
    rcases hstop with hfull | hstop
    · rw [hfull, Nat.sub_self, List.take_zero]
      rintro _ ⟨⟩
    · intro c hc
      cases cs with
      | nil => simp at hc
      | cons d cs =>
        cases hrest : most - ds.length with
        | zero => simp [hrest] at hc
        | succ n =>
          rw [hrest, List.take_succ_cons] at hc
          exact hstop c hc
  have hempty : ds.isEmpty = false := by simpa using hne
  simp only [digits, htake, hempty, Bool.false_eq_true, if_false, List.drop_left]

lemma short_append (hne : ds ≠ []) (hds : ∀ c ∈ ds, c.isDigit = true) (hmost : ds.length ≤ most)
    (hstop : ds.length = most ∨ StopsDigits cs) :
    short most (ds ++ cs) = some (ofDigits ds, cs) := by
  rw [short, digits_append hne hds hmost hstop]
  rfl

lemma dropBlank_cons {c : Char} (h : Text.isBlank c = false) (cs : List Char) :
    Text.dropBlank (c :: cs) = c :: cs := by
  rw [Text.dropBlank, List.dropWhile_cons_of_neg (by simp [h])]

lemma digit_not_blank {c : Char} (h : c.isDigit = true) : Text.isBlank c = false := by
  rw [Text.isDigit_iff] at h
  have hranges : ∀ n, 48 ≤ n → n ≤ 57 →
      (blankRanges.any fun range => range.1 ≤ n && n ≤ range.2) = false := by
    intro n hlow hhigh
    interval_cases n <;> rfl
  exact hranges c.toNat h.1 h.2

lemma dropBlank_digits (hne : ds ≠ []) (hds : ∀ c ∈ ds, c.isDigit = true) :
    Text.dropBlank (ds ++ cs) = ds ++ cs := by
  obtain ⟨c, ds, rfl⟩ := List.exists_cons_of_ne_nil hne
  exact dropBlank_cons (digit_not_blank (hds c List.mem_cons_self)) (ds ++ cs)

lemma padded_ne_nil {width n : Nat} : padded width n ≠ [] := by
  intro h
  have := (List.append_eq_nil_iff.mp h).2
  exact Nat.toDigits_ne_nil this

/-- A field of two digits. -/
lemma relaxedField_padded {n : Nat} (h : n < 100) (cs : List Char) :
    relaxedField (padded 2 n ++ cs) = some (n, cs) := by
  have hlength : (padded 2 n).length = 2 := length_padded (by decide) h
  rw [relaxedField, dropBlank_digits padded_ne_nil fun _ => isDigit_padded,
    short_append padded_ne_nil (fun _ => isDigit_padded) hlength.le (.inl hlength), ofDigits_padded]

lemma relaxedChar_cons {c : Char} (h : Text.isBlank c = false) (cs : List Char) :
    relaxedChar c (c :: cs) = some cs := by
  rw [relaxedChar, dropBlank_cons h]
  simp [char]

lemma dateEnd_mark (cs : List Char) : dateEnd ('T' :: cs) = some cs := rfl

end Scanner

open Scanner

namespace Instant

lemma relaxedYear_unsigned {ds cs : List Char} (hne : ds ≠ [])
    (hds : ∀ c ∈ ds, c.isDigit = true) :
    relaxedYear (ds ++ cs) = (short 4 (ds ++ cs)).map fun (n, rest) => ((n : Int), rest) := by
  obtain ⟨c, ds, rfl⟩ := List.exists_cons_of_ne_nil hne
  have hc := hds c List.mem_cons_self
  rw [List.cons_append]
  unfold relaxedYear
  split
  · next heq =>
    cases heq
    cases hc
  · next heq =>
    cases heq
    cases hc
  · rfl

lemma relaxedYear_chars (year : Int) (cs : List Char) :
    relaxedYear (Text.dropBlank (yearChars year ++ '-' :: cs)) = some (year, '-' :: cs) := by
  have hstops : StopsDigits ('-' :: cs) := by
    rintro _ ⟨⟩
    rfl
  unfold yearChars
  split
  · next hshort =>
    have hlength : (padded 4 year.toNat).length = 4 := length_padded (by decide) (by omega)
    rw [dropBlank_digits padded_ne_nil fun _ => isDigit_padded,
      relaxedYear_unsigned padded_ne_nil fun _ => isDigit_padded,
      short_append padded_ne_nil (fun _ => isDigit_padded) hlength.le (.inl hlength),
      ofDigits_padded, Option.map_some]
    dsimp only
    rw [Int.toNat_of_nonneg hshort.1]
  -- A signed year has as many digits as it needs: the reader goes on to the end of the text.
  · have hread : short (padded 4 year.natAbs ++ '-' :: cs).length
        (padded 4 year.natAbs ++ '-' :: cs) = some (ofDigits (padded 4 year.natAbs), '-' :: cs) :=
      short_append padded_ne_nil (fun _ => isDigit_padded) (by simp) (.inr hstops)
    rw [ofDigits_padded] at hread
    split
    · next hnegative =>
      rw [List.cons_append, dropBlank_cons (by decide)]
      simp only [relaxedYear, hread, Option.map_some]
      congr 2
      omega
    · next hpositive =>
      rw [List.cons_append, dropBlank_cons (by decide)]
      simp only [relaxedYear, hread, Option.map_some]
      congr 2
      omega

lemma fraction_digits {width n : Nat} (hwidth : 0 < width) (hmost : width ≤ 9)
    (h : n < 10 ^ width) :
    fraction ('.' :: padded width n ++ ['Z']) = some (n * 10 ^ (9 - width), ['Z']) := by
  have hlength := length_padded hwidth h
  have hread : digits 9 (padded width n ++ ['Z']) = some (padded width n, ['Z']) :=
    digits_append padded_ne_nil (fun _ => isDigit_padded) (by omega) (.inr (by rintro _ ⟨⟩; rfl))
  simp only [fraction, List.cons_append, hread, Option.map_some, ofDigits_padded, hlength]
  rfl

lemma fraction_chars {nanos : Nat} (h : nanos < nanosPerSecond) :
    fraction (fractionChars nanos ++ ['Z']) = some (nanos, ['Z']) := by
  have hlimit : nanosPerSecond = 1000000000 := rfl
  unfold fractionChars
  split_ifs with hzero hmilli hmicro
  · subst hzero
    rfl
  · rw [fraction_digits (by decide) (by decide) (by omega)]
    congr 2
    omega
  · rw [fraction_digits (by decide) (by decide) (by omega)]
    congr 2
    omega
  · rw [fraction_digits (by decide) (by decide) (by omega)]
    congr 2
    omega

/-- The fields with which an instant is written. -/
def fields (t : Instant) : Fields :=
  let date := Date.ofNumber t.day
  let s := t.secondOfDay.toNat
  let leap := if t.isLeap then 1 else 0
  ⟨date.year, date.month, date.day, s / 3600, s / 60 % 60, s % 60 + leap,
    t.nanos - leap * nanosPerSecond, 0⟩

/-- What makes an instant a valid one, in terms of its parts. -/
lemma isValid_iff (t : Instant) : t.isValid = true ↔
    t.inRange = true ∧ t.nanos < 2000000000 ∧ (1000000000 ≤ t.nanos → t.second % 60 = 59) := by
  have hlimit : nanosPerSecond = 1000000000 := rfl
  simp only [isValid, isLeap, hlimit, Bool.and_eq_true, Bool.or_eq_true, Bool.not_eq_true',
    decide_eq_true_eq, decide_eq_false_iff_not, beq_iff_eq, and_assoc, Nat.reduceMul]
  refine and_congr_right fun _ => and_congr_right fun _ => ?_
  rw [← imp_iff_not_or]

lemma isValid_date {t : Instant} (h : t.inRange = true) :
    (Date.ofNumber t.day).isValid = true := by
  obtain ⟨hmonth, hmonth'⟩ := Date.month_ofNumber t.day
  obtain ⟨hday, hday'⟩ := Date.day_ofNumber t.day
  simp only [inRange, Bool.and_eq_true, decide_eq_true_eq] at h
  simp only [Date.isValid, Bool.and_eq_true, decide_eq_true_eq]
  exact ⟨⟨⟨⟨h, hmonth⟩, hmonth'⟩, hday⟩, hday'⟩

lemma eq_of_parts {t u : Instant} (hsecond : t.second = u.second) (hnanos : t.nanos = u.nanos) :
    t = u := by
  cases t
  cases u
  cases hsecond
  cases hnanos
  rfl

lemma instant_fields {t : Instant} (h : t.isValid = true) : t.fields.instant? = some t := by
  obtain ⟨hrange, hnanos, hleap⟩ := (isValid_iff t).mp h
  have hdate := isValid_date hrange
  have hnumber := Date.number_ofNumber t.day
  obtain ⟨s, hs⟩ : ∃ s : Nat,
      t.second = t.day * 86400 + s ∧ s < 86400 ∧ t.secondOfDay.toNat = s := by
    refine ⟨(t.second % 86400).toNat, ?_, ?_, rfl⟩
    · simp only [day, secondsPerDay]
      omega
    · omega
  obtain ⟨hsecond, hlt, hday⟩ := hs
  have hlimit : nanosPerSecond = 1000000000 := rfl
  have hseconds : secondsPerDay = 86400 := rfl
  have hmark : (if t.isLeap = true then 1 else 0) = if 1000000000 ≤ t.nanos then 1 else 0 := by
    simp [isLeap, hlimit]
  simp only [Fields.instant?, fields, hday, hmark, hlimit, hseconds, hdate, hnumber]
  rw [if_pos (by
    simp only [Bool.true_and, Bool.and_eq_true, decide_eq_true_eq]
    split_ifs <;> omega)]
  have hread : ∀ u : Instant, u = t → (if u.inRange = true then some u else none) = some t := by
    rintro _ rfl
    exact if_pos hrange
  refine hread _ (eq_of_parts ?_ ?_)
  · dsimp only
    split_ifs <;> omega
  · dsimp only
    split_ifs <;> omega

lemma chars_eq (t : Instant) : t.chars =
    yearChars t.fields.year ++ '-' :: (padded 2 t.fields.month ++ '-' :: (padded 2 t.fields.day ++
      'T' :: (padded 2 t.fields.hour ++ ':' :: (padded 2 t.fields.minute ++
        ':' :: (padded 2 t.fields.second ++ (fractionChars t.fields.nanos ++ ['Z'])))))) := by
  simp only [chars, fields, List.append_assoc, List.cons_append]

/-- What the readers of the fields ask for. -/
lemma fields_small {t : Instant} (h : t.isValid = true) :
    t.fields.month < 100 ∧ t.fields.day < 100 ∧ t.fields.hour < 100 ∧ t.fields.minute < 100 ∧
      t.fields.second < 100 ∧ t.fields.nanos < nanosPerSecond := by
  obtain ⟨hrange, hnanos, -⟩ := (isValid_iff t).mp h
  have hlimit : nanosPerSecond = 1000000000 := rfl
  have hmonth := (Date.month_ofNumber t.day).2
  have hday := (Date.day_ofNumber t.day).2
  have hlength := Date.daysInMonth_le (Date.ofNumber t.day).year (Date.ofNumber t.day).month
  have hsecond : t.secondOfDay.toNat < 86400 := by
    simp only [secondOfDay, secondsPerDay]
    omega
  simp only [fields, isLeap, hlimit, decide_eq_true_eq]
  split_ifs <;> omega

lemma bind_of_some {α β : Type} {x : Option α} {a : α} (h : x = some a) (next : α → Option β) :
    (x >>= next) = next a := by
  rw [h]
  rfl

/-- Reading goes field by field, each from where the one before it has ended. -/
lemma relaxed_of_steps {text : String} {f : Fields}
    {cs₁ cs₂ cs₃ cs₄ cs₅ cs₆ cs₇ cs₈ cs₉ cs₁₀ cs₁₁ cs₁₂ cs₁₃ : List Char}
    (hyear : relaxedYear (Text.dropBlank text.toList) = some (f.year, cs₁))
    (hminus₁ : relaxedChar '-' cs₁ = some cs₂) (hmonth : relaxedField cs₂ = some (f.month, cs₃))
    (hminus₂ : relaxedChar '-' cs₃ = some cs₄) (hday : relaxedField cs₄ = some (f.day, cs₅))
    (hmark : dateEnd cs₅ = some cs₆) (hhour : relaxedField cs₆ = some (f.hour, cs₇))
    (hcolon₁ : relaxedChar ':' cs₇ = some cs₈)
    (hminute : relaxedField cs₈ = some (f.minute, cs₉))
    (hcolon₂ : relaxedChar ':' cs₉ = some cs₁₀)
    (hsecond : relaxedField cs₁₀ = some (f.second, cs₁₁))
    (hnanos : fraction cs₁₁ = some (f.nanos, cs₁₂))
    (hoffset : relaxedOffset cs₁₂ = some (f.offset, cs₁₃))
    (hend : (Text.dropBlank cs₁₃).isEmpty = true) : relaxed? text = f.instant? := by
  unfold relaxed?
  refine (bind_of_some hyear _).trans ((bind_of_some hminus₁ _).trans ?_)
  refine (bind_of_some hmonth _).trans ((bind_of_some hminus₂ _).trans ?_)
  refine (bind_of_some hday _).trans ((bind_of_some hmark _).trans ?_)
  refine (bind_of_some hhour _).trans ((bind_of_some hcolon₁ _).trans ?_)
  refine (bind_of_some hminute _).trans ((bind_of_some hcolon₂ _).trans ?_)
  refine (bind_of_some hsecond _).trans ((bind_of_some hnanos _).trans ?_)
  exact (bind_of_some hoffset _).trans (if_pos hend)

/-- A valid instant is read from its text. -/
theorem relaxed_render {t : Instant} (h : t.isValid = true) : relaxed? t.render = some t := by
  obtain ⟨hmonth, hday, hhour, hminute, hsecond, hnanos⟩ := fields_small h
  have hminus : Text.isBlank '-' = false := by decide
  have hcolon : Text.isBlank ':' = false := by decide
  have hoffset : relaxedOffset ['Z'] = some (0, []) := by decide
  rw [← instant_fields h]
  refine relaxed_of_steps ?_ (relaxedChar_cons hminus _) (relaxedField_padded hmonth _)
    (relaxedChar_cons hminus _) (relaxedField_padded hday _) (dateEnd_mark _)
    (relaxedField_padded hhour _)
    (relaxedChar_cons hcolon _) (relaxedField_padded hminute _) (relaxedChar_cons hcolon _)
    (relaxedField_padded hsecond _) (fraction_chars hnanos) hoffset rfl
  rw [render, String.toList_ofList, chars_eq]
  exact relaxedYear_chars _ _

end Instant
end AuditTrail.Time
