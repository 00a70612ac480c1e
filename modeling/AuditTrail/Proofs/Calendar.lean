import AuditTrail.Time.Calendar
import Mathlib.Tactic.IntervalCases
import Mathlib.Tactic.SplitIfs

/-!
# Days and their numbers

An era of 400 years is four centuries, a century is twenty-five times four years, and only the last
of four years may have a day 365. A day is found from its number by these parts, and back.
-/

namespace AuditTrail.Time.Date

/-- The parts of a day in an era: the century, the group of four years in it, the year of the group
and the day of the year, which begins in March. -/
structure Parts where
  century : Int
  group : Int
  year : Int
  day : Int

namespace Parts

variable (p : Parts)

def dayOfEra : Int :=
  36524 * p.century + 1461 * p.group + 365 * p.year + p.day

def yearOfEra : Int :=
  100 * p.century + 4 * p.group + p.year

structure Valid : Prop where
  century : 0 ≤ p.century ∧ p.century ≤ 3
  group : 0 ≤ p.group ∧ p.group ≤ 24
  year : 0 ≤ p.year ∧ p.year ≤ 3
  day : 0 ≤ p.day ∧ p.day ≤ 365
  leap : p.day = 365 → p.year = 3 ∧ (p.group < 24 ∨ p.century = 3)

/-- The parts of a day. The last day of the era and the last one of four years belong to the part
before them. -/
def ofDay (day : Int) : Parts :=
  let century := if day = 146096 then 3 else day / 36524
  let inCentury := day - 36524 * century
  let inGroup := inCentury % 1461
  let year := if inGroup = 1460 then 3 else inGroup / 365
  ⟨century, inCentury / 1461, year, inGroup - 365 * year⟩

variable {p}

lemma dayOfEra_ofDay (day : Int) : (ofDay day).dayOfEra = day := by
  simp only [dayOfEra, ofDay]
  omega

lemma valid_ofDay (day : Int) (hlow : 0 ≤ day) (hhigh : day < 146097) : (ofDay day).Valid := by
  unfold ofDay
  constructor <;> dsimp only <;> split_ifs <;> omega

lemma yearOfEra_eq (h : p.Valid) : (p.dayOfEra - p.dayOfEra / 1460 + p.dayOfEra / 36524 -
    p.dayOfEra / 146096) / 365 = p.yearOfEra := by
  obtain ⟨hcentury, hgroup, hyear, hday, hleap⟩ := h
  obtain ⟨century, group, year, day⟩ := p
  simp only [dayOfEra, yearOfEra] at *
  have hgroups : (36524 * century + 1461 * group + 365 * year + day) / 1460 =
      25 * century + group + (24 * century + group + 365 * year + day) / 1460 := by omega
  have hcenturies : (36524 * century + 1461 * group + 365 * year + day) / 36524 -
      (36524 * century + 1461 * group + 365 * year + day) / 146096 = century := by
    have hlast : 1461 * group + 365 * year + day ≤ 36523 ∨
        century = 3 ∧ 1461 * group + 365 * year + day = 36524 := by
      by_cases hfull : day = 365
      · obtain ⟨rfl, hlate⟩ := hleap hfull
        omega
      · omega
    clear hgroups
    obtain ⟨hcentury, hcentury'⟩ := hcentury
    interval_cases century <;> omega
  omega

lemma day_eq (h : p.Valid) : p.dayOfEra -
    (365 * p.yearOfEra + p.yearOfEra / 4 - p.yearOfEra / 100) = p.day := by
  obtain ⟨hcentury, hgroup, hyear, hday, hleap⟩ := h
  obtain ⟨century, group, year, day⟩ := p
  simp only [dayOfEra, yearOfEra] at *
  omega

end Parts

/-- The day with the number `day` in a year from March to February. -/
def ofYearDay (year day : Int) : Date :=
  let marchMonth := (5 * day + 2) / 153
  ⟨if marchMonth < 10 then year else year + 1,
    (if marchMonth < 10 then marchMonth + 3 else marchMonth - 9).toNat,
    (day - (153 * marchMonth + 2) / 5 + 1).toNat⟩

/-- The day with a number lies in some year of an era. -/
lemma ofNumber_eq (n : Int) : ∃ (era : Int) (p : Parts), p.Valid ∧
    n = era * 146097 + p.dayOfEra - epochShift ∧
    ofNumber n = ofYearDay (p.yearOfEra + era * 400) p.day := by
  have hvalid := Parts.valid_ofDay ((n + epochShift) % 146097) (by omega) (by omega)
  have hday := Parts.dayOfEra_ofDay ((n + epochShift) % 146097)
  refine ⟨(n + epochShift) / 146097, Parts.ofDay ((n + epochShift) % 146097), hvalid, ?_, ?_⟩
  · rw [hday]
    omega
  · have hyear := Parts.yearOfEra_eq hvalid
    have hnumber := Parts.day_eq hvalid
    rw [hday] at hyear hnumber
    have hmonth := hvalid.day
    simp only [ofNumber, ofYearDay, hyear, hnumber]
    split_ifs <;> first | rfl | omega

lemma month_ofYearDay {year day : Int} (h : 0 ≤ day ∧ day ≤ 365) :
    1 ≤ (ofYearDay year day).month ∧ (ofYearDay year day).month ≤ 12 := by
  simp only [ofYearDay]
  omega

lemma month_ofNumber (n : Int) : 1 ≤ (ofNumber n).month ∧ (ofNumber n).month ≤ 12 := by
  obtain ⟨era, p, hvalid, -, hdate⟩ := ofNumber_eq n
  rw [hdate]
  exact month_ofYearDay hvalid.day

lemma isLeapYear_iff (year : Int) : isLeapYear year = true ↔
    year % 4 = 0 ∧ (year % 100 ≠ 0 ∨ year % 400 = 0) := by
  simp [isLeapYear]

lemma isLeapYear_of_last {p : Parts} (h : p.Valid) (hlast : p.day = 365) (era : Int) :
    isLeapYear (p.yearOfEra + era * 400 + 1) = true := by
  obtain ⟨hyear, hlate⟩ := h.leap hlast
  have hgroup := h.group
  have hcentury := h.century
  rw [isLeapYear_iff, Parts.yearOfEra, hyear]
  omega

-- The months from March to January are as long as the fractions of 153 days in five months say.
lemma daysInMonth_march (year : Int) {m : Int} (hlow : 0 ≤ m) (hhigh : m ≤ 10) :
    (daysInMonth year (if m < 10 then m + 3 else m - 9).toNat : Int) =
      (153 * (m + 1) + 2) / 5 - (153 * m + 2) / 5 := by
  interval_cases m <;> rfl

lemma daysInMonth_le (year : Int) (month : Nat) : daysInMonth year month ≤ 31 := by
  unfold daysInMonth
  repeat' split
  all_goals decide

/-- The dates of numbers exist: none is a thirtieth of February. -/
theorem day_ofNumber (n : Int) : 1 ≤ (ofNumber n).day ∧
    (ofNumber n).day ≤ daysInMonth (ofNumber n).year (ofNumber n).month := by
  obtain ⟨era, p, hvalid, -, hdate⟩ := ofNumber_eq n
  have hday := hvalid.day
  have hleap := fun hlast => isLeapYear_of_last hvalid hlast era
  rw [hdate]
  simp only [ofYearDay]
  generalize hm : (5 * p.day + 2) / 153 = m
  refine ⟨by omega, ?_⟩
  by_cases hfebruary : m = 11
  · subst hfebruary
    change _ ≤ if isLeapYear (p.yearOfEra + era * 400 + 1) then 29 else 28
    split
    · omega
    · next hcommon =>
      have hnot : p.day ≠ 365 := fun hlast => hcommon (hleap hlast)
      omega
  · have hlength := daysInMonth_march (if m < 10 then p.yearOfEra + era * 400
      else p.yearOfEra + era * 400 + 1) (m := m) (by omega) (by omega)
    omega

/-- A date found from a number has this number. -/
theorem number_ofNumber (n : Int) : (ofNumber n).number = n := by
  obtain ⟨era, p, hvalid, hn, hdate⟩ := ofNumber_eq n
  have hday := hvalid.day
  have hcount := Parts.day_eq hvalid
  have hyear : 0 ≤ p.yearOfEra ∧ p.yearOfEra ≤ 399 := by
    obtain ⟨hcentury, hgroup, hyear, -, -⟩ := hvalid
    simp only [Parts.yearOfEra]
    omega
  rw [hdate]
  simp only [number, ofYearDay]
  generalize p.yearOfEra = y at *
  generalize p.day = d at *
  generalize p.dayOfEra = e at *
  split_ifs <;> omega

/-- The number of a date in a year of four digits. -/
lemma number_bounds {d : Date} (hyear : 0 ≤ d.year ∧ d.year ≤ 9999)
    (hmonth : 1 ≤ d.month ∧ d.month ≤ 12) (hday : 1 ≤ d.day ∧ d.day ≤ 31) :
    -1000000 ≤ d.number ∧ d.number ≤ 4000000 := by
  simp only [number, epochShift]
  split_ifs <;> omega

/-- The days of a month. -/
def monthDays (year : Int) (month : Nat) : Nat :=
  let february := if 400 ∣ year ∨ 4 ∣ year ∧ ¬100 ∣ year then 29 else 28
  [31, february, 31, 30, 31, 30, 31, 31, 30, 31, 30, 31].getD (month - 1) 0

/-- The leap years from the year one on, to the end of a year. -/
def leapYears (year : Int) : Int :=
  year / 4 - year / 100 + year / 400

/-- The days from 1970-01-01 to a date: those of the years, with one more for each leap year, those
of the months of its year, and those of its month. -/
def daysSinceEpoch (d : Date) : Int :=
  365 * (d.year - 1970) + (leapYears (d.year - 1) - leapYears 1969) +
    ((List.range' 1 (d.month - 1)).map (monthDays d.year)).sum + (d.day - 1)

lemma daysInMonth_eq (year : Int) {month : Nat} (h : 1 ≤ month ∧ month ≤ 12) :
    daysInMonth year month = monthDays year month := by
  obtain ⟨hlow, hhigh⟩ := h
  have hleap : isLeapYear year = true ↔ 400 ∣ year ∨ 4 ∣ year ∧ ¬100 ∣ year := by
    rw [isLeapYear_iff]
    omega
  unfold daysInMonth monthDays
  simp only [hleap]
  interval_cases month <;> rfl

/-- Counting in eras from the first of March gives the days since 1970. -/
theorem number_eq {d : Date} (h : 1 ≤ d.month ∧ d.month ≤ 12) : d.number = d.daysSinceEpoch := by
  obtain ⟨year, month, day⟩ := d
  obtain ⟨hlow, hhigh⟩ := h
  unfold daysSinceEpoch leapYears monthDays number epochShift
  dsimp only at hlow hhigh ⊢
  split_ifs with hleap
  all_goals
    interval_cases month <;> simp [List.range'] <;> omega

/-- Such dates are far from the ends of the calendar. -/
lemma year_ofNumber_bounds {n : Int} (hlow : -2000000 ≤ n) (hhigh : n ≤ 5000000) :
    minYear ≤ (ofNumber n).year ∧ (ofNumber n).year ≤ maxYear := by
  simp only [ofNumber, epochShift, minYear, maxYear]
  split_ifs <;> omega

end AuditTrail.Time.Date
