import AuditTrail.Proofs.Instants
import Mathlib.Data.List.TakeWhile
import Mathlib.Tactic.Positivity

/-!
# The texts of strict times

A strict time is a text of fields in their full width. The grammar of these texts stands here on its
own, with what each of them denotes, and the reader accepts exactly the texts of the grammar whose
fields are within their ranges.
-/

namespace AuditTrail.Time

open Text

/-- The texts of exactly `width` digits. -/
structure IsDigits (width : Nat) (ds : List Char) : Prop where
  length : ds.length = width
  digits : ∀ c ∈ ds, c.isDigit = true

/-- The texts of a fraction of a second with the whole nanoseconds in it. There may be no fraction,
but none without a digit. -/
inductive IsFraction : List Char → Nat → Prop where
  | absent : IsFraction [] 0
  | digits {ds : List Char} : ds ≠ [] → (∀ c ∈ ds, c.isDigit = true) →
      IsFraction ('.' :: ds) (decimal ds * 10 ^ 9 / 10 ^ ds.length)

/-- The texts of an offset from universal time with its seconds. West of it, the sign may be a
hyphen or U+2212. -/
inductive IsOffset : List Char → Int → Prop where
  | zero {c : Char} : c = 'Z' ∨ c = 'z' → IsOffset [c] 0
  | east {hours minutes : List Char} : IsDigits 2 hours → IsDigits 2 minutes →
      decimal minutes < 60 →
      IsOffset ('+' :: (hours ++ ':' :: minutes)) (decimal hours * 3600 + decimal minutes * 60)
  | west {c : Char} {hours minutes : List Char} : c = '-' ∨ c = '\u2212' → IsDigits 2 hours →
      IsDigits 2 minutes → decimal minutes < 60 →
      IsOffset (c :: (hours ++ ':' :: minutes)) (-(decimal hours * 3600 + decimal minutes * 60))

/-- The texts of a date and a time of day with the fields in them. -/
inductive IsStrict : List Char → Fields → Prop where
  | fields {year month day hour minute second fraction zone : List Char} {mark : Char}
      {nanos : Nat} {offset : Int} :
      IsDigits 4 year → IsDigits 2 month → IsDigits 2 day → mark ∈ ['T', 't', ' '] →
      IsDigits 2 hour → IsDigits 2 minute → IsDigits 2 second → IsFraction fraction nanos →
      IsOffset zone offset →
      IsStrict
        (year ++ '-' :: (month ++ '-' :: (day ++ mark :: (hour ++ ':' :: (minute ++
          ':' :: (second ++ (fraction ++ zone)))))))
        ⟨decimal year, decimal month, decimal day, decimal hour, decimal minute,
          decimal second, nanos, offset⟩

namespace Fields

/-- The ranges of the fields. The second 60 is a leap second. -/
structure Within (f : Fields) : Prop where
  month : 1 ≤ f.month ∧ f.month ≤ 12
  day : 1 ≤ f.day ∧ f.day ≤ Date.monthDays f.year f.month
  hour : f.hour < 24
  minute : f.minute < 60
  second : f.second ≤ 60
  offset : -86400 < f.offset ∧ f.offset < 86400

/-- What the fields denote in universal time. A leap second is the tail of the second 59. -/
def denoted (f : Fields) : Instant :=
  let day := Date.daysSinceEpoch ⟨f.year, f.month, f.day⟩
  ⟨day * 86400 + f.hour * 3600 + f.minute * 60 + min f.second 59 - f.offset,
    f.nanos + if f.second = 60 then 1000000000 else 0⟩

end Fields

/-- The strict time in a text. -/
def IsStrictTime (s : String) (t : Instant) : Prop :=
  ∃ f : Fields, IsStrict s.toList f ∧ f.Within ∧ t = f.denoted

/-! ### The scanners -/

namespace Scanner

variable {width most n : Nat} {c : Char} {cs ds rest : List Char}

lemma digits_eq_some (h : digits most cs = some (ds, rest)) :
    ds ≠ [] ∧ (∀ c ∈ ds, c.isDigit = true) ∧ ds.length ≤ most ∧ cs = ds ++ rest ∧
      (ds.length = most ∨ StopsDigits rest) := by
  simp only [digits, Option.ite_none_left_eq_some, Option.some.injEq, Prod.mk.injEq,
    List.isEmpty_iff] at h
  obtain ⟨hne, hds, hrest⟩ := h
  rw [hds] at hne hrest
  have hall : ∀ c ∈ ds, c.isDigit = true := by
    rw [← hds]
    exact fun c => List.mem_takeWhile_imp
  have htaken : ds <+: cs.take most := hds ▸ List.takeWhile_prefix _
  have hcs : cs = ds ++ rest := by
    rw [← hrest]
    exact (List.prefix_iff_eq_append.mp (htaken.trans (List.take_prefix _ _))).symm
  have hmost : ds.length ≤ most :=
    htaken.length_le.trans (List.length_take_le most cs)
  refine ⟨hne, hall, hmost, hcs, or_iff_not_imp_left.mpr fun hfew c hc => ?_⟩
  -- With room for one more digit, the character after the digits was looked at.
  obtain ⟨room, hroom⟩ : ∃ room, most - ds.length = room + 1 := ⟨most - ds.length - 1, by omega⟩
  cases rest with
  | nil => cases hc
  | cons d rest =>
    cases hc
    rw [hcs, List.take_append, List.take_of_length_le hmost, hroom, List.take_succ_cons,
      List.takeWhile_append_of_pos hall, List.append_right_eq_self] at hds
    by_contra hdigit
    rw [List.takeWhile_cons_of_pos (by simpa using hdigit)] at hds
    cases hds

lemma fixed_append (hwidth : 0 < width) (h : IsDigits width ds) (rest : List Char) :
    fixed width (ds ++ rest) = some (decimal ds, rest) := by
  have hne : ds ≠ [] := by
    rintro rfl
    rw [← h.length] at hwidth
    cases hwidth
  rw [fixed, digits_append hne h.digits h.length.le (.inl h.length)]
  exact if_pos h.length

lemma fixed_eq_some (h : fixed width cs = some (n, rest)) :
    ∃ ds, IsDigits width ds ∧ decimal ds = n ∧ cs = ds ++ rest := by
  unfold fixed at h
  split at h
  · next ds rest' hdigits =>
    obtain ⟨-, hall, -, hcs, -⟩ := digits_eq_some hdigits
    simp only [Option.ite_none_right_eq_some, Option.some.injEq, Prod.mk.injEq] at h
    obtain ⟨hlength, rfl, rfl⟩ := h
    exact ⟨ds, ⟨hlength, hall⟩, rfl, hcs⟩
  · cases h

lemma of_fixed {β : Type} {next : Nat × List Char → Option β} {b : β}
    (h : (fixed width cs >>= next) = some b) :
    ∃ ds rest, IsDigits width ds ∧ cs = ds ++ rest ∧ next (decimal ds, rest) = some b := by
  obtain ⟨⟨n, rest⟩, hread, hnext⟩ := Option.bind_eq_some_iff.mp h
  obtain ⟨ds, hds, rfl, hcs⟩ := fixed_eq_some hread
  exact ⟨ds, rest, hds, hcs, hnext⟩

lemma char_eq_some (h : char c cs = some rest) : cs = c :: rest := by
  cases cs with
  | nil => cases h
  | cons d cs =>
    simp only [char, Option.ite_none_right_eq_some, Option.some.injEq] at h
    rw [h.1, h.2]

lemma of_char {β : Type} {next : List Char → Option β} {b : β}
    (h : (char c cs >>= next) = some b) : ∃ rest, cs = c :: rest ∧ next rest = some b := by
  obtain ⟨rest, hread, hnext⟩ := Option.bind_eq_some_iff.mp h
  exact ⟨rest, char_eq_some hread, hnext⟩

lemma char_cons (c : Char) (rest : List Char) : char c (c :: rest) = some rest :=
  if_pos rfl

lemma dateEnd_eq_some (h : dateEnd cs = some rest) :
    ∃ mark ∈ ['T', 't', ' '], cs = mark :: rest := by
  cases cs with
  | nil => cases h
  | cons mark cs =>
    simp only [dateEnd, Option.ite_none_right_eq_some, Option.some.injEq] at h
    obtain ⟨hmark, rfl⟩ := h
    exact ⟨mark, by simpa [or_assoc] using hmark, rfl⟩

lemma dateEnd_cons (h : c ∈ ['T', 't', ' ']) (rest : List Char) :
    dateEnd (c :: rest) = some rest := by
  rw [dateEnd]
  exact if_pos (by simpa [or_assoc] using h)

lemma decimal_append (ds more : List Char) :
    decimal (ds ++ more) = decimal ds * 10 ^ more.length + decimal more := by
  have hstart : Nat.ofDigitChars 10 more (decimal ds) =
      10 ^ more.length * decimal ds + decimal more := Nat.ofDigitChars_eq_ofDigitChars_zero
  rw [Nat.mul_comm] at hstart
  exact (Nat.ofDigitChars_append (b := 10) (l := ds) (m := more) 0).trans hstart

/-- Digits after the ninth are less than a nanosecond. -/
lemma nanos_of_digits (hds : ∀ c ∈ ds, c.isDigit = true) :
    decimal ds * 10 ^ 9 / 10 ^ ds.length =
      decimal (ds.take 9) * 10 ^ (9 - (ds.take 9).length) := by
  rcases Nat.le_total ds.length 9 with hfew | hmany
  · rw [List.take_of_length_le hfew]
    have hpower : 10 ^ 9 = 10 ^ (9 - ds.length) * 10 ^ ds.length := by
      rw [← Nat.pow_add, Nat.sub_add_cancel hfew]
    rw [hpower, ← Nat.mul_assoc, Nat.mul_div_cancel _ (by positivity)]
  · have hlength : ds.length = (ds.drop 9).length + 9 := by
      rw [List.length_drop, Nat.sub_add_cancel hmany]
    have hlt : decimal (ds.drop 9) < 10 ^ (ds.drop 9).length :=
      ofDigits_lt fun c hc => hds c (List.mem_of_mem_drop hc)
    rw [List.length_take_of_le hmany, Nat.sub_self, Nat.pow_zero, Nat.mul_one, hlength, Nat.pow_add,
      Nat.mul_div_mul_right _ _ (by positivity)]
    conv_lhs => rw [← List.take_append_drop 9 ds, decimal_append]
    rw [List.take_append_drop, Nat.mul_comm, Nat.mul_add_div (by positivity), Nat.div_eq_of_lt hlt,
      Nat.add_zero]

lemma fraction_append {fs : List Char} (h : IsFraction fs n) (hdot : rest.head? ≠ some '.')
    (hdigit : StopsDigits rest) : fraction (fs ++ rest) = some (n, rest) := by
  cases h with
  | absent =>
    rw [List.nil_append]
    unfold fraction
    split
    · exact (hdot rfl).elim
    · rfl
  | @digits ds hne hds =>
    have hsplit : ds ++ rest = ds.take 9 ++ (ds.drop 9 ++ rest) := by
      rw [← List.append_assoc, List.take_append_drop]
    have hread : Scanner.digits 9 (ds ++ rest) = some (ds.take 9, ds.drop 9 ++ rest) := by
      rw [hsplit]
      refine digits_append (by simpa using hne) (fun c hc => hds c (List.mem_of_mem_take hc))
        (List.length_take_le 9 ds) ?_
      rcases Nat.lt_or_ge ds.length 9 with hfew | hmany
      · right
        rwa [List.drop_of_length_le hfew.le, List.nil_append]
      · exact .inl (List.length_take_of_le hmany)
    have hrest : (ds.drop 9 ++ rest).dropWhile Char.isDigit = rest := by
      rw [List.dropWhile_append_of_pos fun c hc => hds c (List.mem_of_mem_drop hc)]
      cases rest with
      | nil => rfl
      | cons c rest => exact List.dropWhile_cons_of_neg (by simp [hdigit c rfl])
    simp only [fraction, List.cons_append, hread, Option.map_some, hrest, nanos_of_digits hds]
    rfl

lemma fraction_eq_some (h : fraction cs = some (n, rest)) :
    ∃ fs, IsFraction fs n ∧ cs = fs ++ rest := by
  unfold fraction at h
  split at h
  · next cs =>
    obtain ⟨⟨ds, more⟩, hread, heq⟩ := Option.map_eq_some_iff.mp h
    obtain ⟨hne, hds, hmost, rfl, hstop⟩ := digits_eq_some hread
    simp only [Prod.mk.injEq] at heq
    obtain ⟨rfl, rfl⟩ := heq
    have hwhole : ∀ c ∈ ds ++ more.takeWhile Char.isDigit, c.isDigit = true := by
      intro c hc
      rcases List.mem_append.mp hc with hc | hc
      · exact hds c hc
      · exact List.mem_takeWhile_imp hc
    have htake : (ds ++ more.takeWhile Char.isDigit).take 9 = ds := by
      rcases hstop with hfull | hstop
      · rw [List.take_append_of_le_length hfull.ge, List.take_of_length_le hfull.le]
      · have hnone : more.takeWhile Char.isDigit = [] :=
          takeWhile_digits (List.forall_mem_nil _) hstop
        rw [hnone, List.append_nil, List.take_of_length_le hmost]
    have hfraction := IsFraction.digits (List.append_ne_nil_of_left_ne_nil hne _) hwhole
    rw [nanos_of_digits hwhole, htake] at hfraction
    refine ⟨_, hfraction, ?_⟩
    rw [List.cons_append, List.append_assoc, List.takeWhile_append_dropWhile]
  · cases h
    exact ⟨[], .absent, rfl⟩

lemma offset_signed {hours minutes : List Char} (hzero : ¬(c = 'Z' ∨ c = 'z'))
    (hsign : c = '+' ∨ c = '-' ∨ c = minusSign) (hhours : IsDigits 2 hours)
    (hminutes : IsDigits 2 minutes) (hhour : decimal minutes < 60) (rest : List Char) :
    offset (char ':') (c :: (hours ++ ':' :: (minutes ++ rest))) =
      some (if c = '+' then (decimal hours * 3600 + decimal minutes * 60 : Int)
        else -(decimal hours * 3600 + decimal minutes * 60), rest) := by
  have hzero' : ¬(c = 'Z' || c = 'z') = true := by simpa using hzero
  have hsign' : (c = '+' || c = '-' || c = minusSign) = true := by simpa [or_assoc] using hsign
  simp only [offset, if_neg hzero', if_pos hsign', fixed_append Nat.two_pos hhours, char_cons,
    fixed_append Nat.two_pos hminutes, Option.bind_eq_bind, Option.bind_some, if_pos hhour]

lemma offset_append {zone : List Char} {seconds : Int} (h : IsOffset zone seconds)
    (rest : List Char) : offset (char ':') (zone ++ rest) = some (seconds, rest) := by
  cases h with
  | zero hc =>
    simp only [List.cons_append, List.nil_append, offset]
    exact if_pos (by simpa using hc)
  | east hhours hminutes hhour =>
    rw [List.cons_append, List.append_assoc, List.cons_append,
      offset_signed (by decide) (.inl rfl) hhours hminutes hhour]
    rfl
  | @west c _ _ hc hhours hminutes hhour =>
    have hsign : ¬(c = 'Z' ∨ c = 'z') ∧ (c = '-' ∨ c = minusSign) ∧ c ≠ '+' := by
      rcases hc with rfl | rfl <;> decide
    rw [List.cons_append, List.append_assoc, List.cons_append,
      offset_signed hsign.1 (.inr hsign.2.1) hhours hminutes hhour, if_neg hsign.2.2]

lemma offset_eq_some {seconds : Int} (h : offset (char ':') cs = some (seconds, rest)) :
    ∃ zone, IsOffset zone seconds ∧ cs = zone ++ rest := by
  cases cs with
  | nil => cases h
  | cons c cs =>
    simp only [offset] at h
    split at h
    · next hzero =>
      cases h
      exact ⟨[c], .zero (by simpa using hzero), rfl⟩
    · split at h
      · next hsign =>
        obtain ⟨hours, _, hhours, rfl, h₁⟩ := of_fixed h
        obtain ⟨_, rfl, h₂⟩ := of_char h₁
        obtain ⟨minutes, _, hminutes, rfl, h₃⟩ := of_fixed h₂
        obtain ⟨hhour, heq⟩ := Option.ite_none_right_eq_some.mp h₃
        cases heq
        by_cases heast : c = '+'
        · subst heast
          exact ⟨_, .east hhours hminutes hhour, by simp⟩
        · have hwest : c = '-' ∨ c = minusSign := by simpa [or_assoc, heast] using hsign
          rw [if_neg heast]
          exact ⟨_, .west hwest hhours hminutes hhour, by simp⟩
      · cases h

/-- An offset does not go on with a fraction. -/
lemma offset_head {zone : List Char} {seconds : Int} (h : IsOffset zone seconds) :
    zone.head? ≠ some '.' ∧ StopsDigits zone := by
  have hhead : ∃ c tail, zone = c :: tail ∧ c ≠ '.' ∧ c.isDigit = false := by
    cases h with
    | zero hc => exact ⟨_, _, rfl, by rcases hc with rfl | rfl <;> decide⟩
    | east _ _ _ => exact ⟨_, _, rfl, by decide⟩
    | west hc _ _ _ => exact ⟨_, _, rfl, by rcases hc with rfl | rfl <;> decide⟩
  obtain ⟨c, tail, rfl, hdot, hdigit⟩ := hhead
  refine ⟨fun heq => hdot (Option.some.inj heq), ?_⟩
  rintro _ ⟨⟩
  exact hdigit

end Scanner

namespace Fields

variable {f : Fields}

/-- Years of four digits are far from the ends of the calendar, whatever the offset. -/
lemma inRange_denoted (h : f.Within) (hyear : 0 ≤ f.year ∧ f.year ≤ 9999) :
    f.denoted.inRange = true := by
  have hday : f.day ≤ 31 := by
    have hlast := h.day.2
    rw [← Date.daysInMonth_eq f.year h.month] at hlast
    exact hlast.trans (Date.daysInMonth_le _ _)
  obtain ⟨hlow, hhigh⟩ := Date.number_bounds (d := ⟨f.year, f.month, f.day⟩) hyear h.month
    ⟨h.day.1, hday⟩
  rw [Date.number_eq h.month] at hlow hhigh
  have hhour := h.hour
  have hminute := h.minute
  have hoffset := h.offset
  obtain ⟨hmin, hmax⟩ := Date.year_ofNumber_bounds (n := f.denoted.day)
    (by simp only [Instant.day, Instant.secondsPerDay, denoted]; omega)
    (by simp only [Instant.day, Instant.secondsPerDay, denoted]; omega)
  simp [Instant.inRange, hmin, hmax]

lemma within_iff (hyear : 0 ≤ f.year ∧ f.year ≤ 9999) : f.Within ↔
    ((⟨f.year, f.month, f.day⟩ : Date).isValid && f.hour < 24 && f.minute < 60 && f.second ≤ 60 &&
      f.offset.natAbs < 86400) = true := by
  have hyears : Date.minYear ≤ f.year ∧ f.year ≤ Date.maxYear := by
    simp only [Date.minYear, Date.maxYear]
    omega
  simp only [Date.isValid, Bool.and_eq_true, decide_eq_true_eq, hyears, true_and]
  constructor
  · rintro ⟨hmonth, hday, hhour, hminute, hsecond, hoffset⟩
    rw [← Date.daysInMonth_eq f.year hmonth] at hday
    exact ⟨⟨⟨⟨⟨⟨hmonth, hday.1⟩, hday.2⟩, hhour⟩, hminute⟩, hsecond⟩, by omega⟩
  · rintro ⟨⟨⟨⟨⟨⟨hmonth, hday⟩, hday'⟩, hhour⟩, hminute⟩, hsecond⟩, hoffset⟩
    rw [Date.daysInMonth_eq f.year hmonth] at hday'
    exact ⟨hmonth, ⟨hday, hday'⟩, hhour, hminute, hsecond, by omega⟩

lemma instant_of_within (h : f.Within) (hyear : 0 ≤ f.year ∧ f.year ≤ 9999) :
    f.instant? = some f.denoted := by
  have hsecond := h.second
  have hnumber := Date.number_eq (d := ⟨f.year, f.month, f.day⟩) h.month
  have hread : ∀ u : Instant, u = f.denoted →
      (if u.inRange = true then some u else none) = some f.denoted := by
    rintro _ rfl
    exact if_pos (inRange_denoted h hyear)
  unfold instant?
  rw [if_pos ((within_iff hyear).mp h)]
  refine hread _ (Instant.eq_of_parts ?_ ?_)
  · simp only [denoted, Instant.secondsPerDay, hnumber]
    split_ifs <;> omega
  · simp only [denoted, Instant.nanosPerSecond]
    split_ifs <;> rfl

/-- The fields denote an instant just if they are within their ranges. -/
lemma instant_eq_some {t : Instant} (hyear : 0 ≤ f.year ∧ f.year ≤ 9999) :
    f.instant? = some t ↔ f.Within ∧ t = f.denoted := by
  by_cases h : f.Within
  · rw [instant_of_within h hyear, Option.some.injEq, eq_comm]
    exact (and_iff_right h).symm
  · refine iff_of_false (fun hread => ?_) fun hwithin => h hwithin.1
    unfold instant? at hread
    rw [if_neg fun hranges => h ((within_iff hyear).mpr hranges)] at hread
    cases hread

end Fields

lemma IsStrict.year_bounds {cs : List Char} {f : Fields} (h : IsStrict cs f) :
    0 ≤ f.year ∧ f.year ≤ 9999 := by
  cases h with
  | @fields year _ _ _ _ _ _ _ _ _ _ hyear =>
    have hlt : decimal year < 10 ^ year.length := ofDigits_lt hyear.digits
    rw [hyear.length] at hlt
    dsimp only
    omega

lemma IsStrictTime.inRange {s : String} {t : Instant} (h : IsStrictTime s t) :
    t.inRange = true := by
  obtain ⟨f, hf, hwithin, rfl⟩ := h
  exact Fields.inRange_denoted hwithin hf.year_bounds

namespace Instant

open Scanner

variable {s : String} {f : Fields} {t : Instant}

/-- The fields are cut off one after the other. -/
lemma strict_of_isStrict (h : IsStrict s.toList f) : strict? s = f.instant? := by
  generalize hcs : s.toList = cs at h
  cases h with
  | fields hyear hmonth hday hmark hhour hminute hsecond hfraction hzone =>
    obtain ⟨hdot, hdigit⟩ := offset_head hzone
    have hoffset := offset_append hzone []
    rw [List.append_nil] at hoffset
    unfold strict?
    rw [hcs]
    refine (bind_of_some (fixed_append (by decide) hyear _) _).trans ?_
    refine (bind_of_some (char_cons _ _) _).trans ?_
    refine (bind_of_some (fixed_append (by decide) hmonth _) _).trans ?_
    refine (bind_of_some (char_cons _ _) _).trans ?_
    refine (bind_of_some (fixed_append (by decide) hday _) _).trans ?_
    refine (bind_of_some (dateEnd_cons hmark _) _).trans ?_
    refine (bind_of_some (fixed_append (by decide) hhour _) _).trans ?_
    refine (bind_of_some (char_cons _ _) _).trans ?_
    refine (bind_of_some (fixed_append (by decide) hminute _) _).trans ?_
    refine (bind_of_some (char_cons _ _) _).trans ?_
    refine (bind_of_some (fixed_append (by decide) hsecond _) _).trans ?_
    refine (bind_of_some (fraction_append hfraction hdot hdigit) _).trans ?_
    exact (bind_of_some hoffset _).trans (if_pos rfl)

lemma isStrict_of_strict (h : strict? s = some t) :
    ∃ f, IsStrict s.toList f ∧ f.instant? = some t := by
  obtain ⟨year, _, hyear, htext, h₁⟩ := of_fixed h
  obtain ⟨_, rfl, h₂⟩ := of_char h₁
  obtain ⟨month, _, hmonth, rfl, h₃⟩ := of_fixed h₂
  obtain ⟨_, rfl, h₄⟩ := of_char h₃
  obtain ⟨day, _, hday, rfl, h₅⟩ := of_fixed h₄
  obtain ⟨_, hend, h₆⟩ := Option.bind_eq_some_iff.mp h₅
  obtain ⟨mark, hmark, rfl⟩ := dateEnd_eq_some hend
  obtain ⟨hour, _, hhour, rfl, h₇⟩ := of_fixed h₆
  obtain ⟨_, rfl, h₈⟩ := of_char h₇
  obtain ⟨minute, _, hminute, rfl, h₉⟩ := of_fixed h₈
  obtain ⟨_, rfl, h₁₀⟩ := of_char h₉
  obtain ⟨second, _, hsecond, rfl, h₁₁⟩ := of_fixed h₁₀
  obtain ⟨⟨nanos, _⟩, hnanos, h₁₂⟩ := Option.bind_eq_some_iff.mp h₁₁
  obtain ⟨fraction, hfraction, rfl⟩ := fraction_eq_some hnanos
  obtain ⟨⟨offset, rest⟩, hoffset, h₁₃⟩ := Option.bind_eq_some_iff.mp h₁₂
  obtain ⟨zone, hzone, rfl⟩ := offset_eq_some hoffset
  obtain ⟨hrest, hinstant⟩ := Option.ite_none_right_eq_some.mp h₁₃
  refine ⟨_, ?_, hinstant⟩
  rw [htext, List.isEmpty_iff.mp hrest, List.append_nil]
  exact .fields hyear hmonth hday hmark hhour hminute hsecond hfraction hzone

/-- The reader accepts the strict times and no other texts. -/
theorem strict_eq_some : strict? s = some t ↔ IsStrictTime s t := by
  constructor
  · intro h
    obtain ⟨f, hf, hinstant⟩ := isStrict_of_strict h
    exact ⟨f, hf, (Fields.instant_eq_some hf.year_bounds).mp hinstant⟩
  · rintro ⟨f, hf, hdenoted⟩
    rw [strict_of_isStrict hf]
    exact (Fields.instant_eq_some hf.year_bounds).mpr hdenoted

end Instant

end AuditTrail.Time
