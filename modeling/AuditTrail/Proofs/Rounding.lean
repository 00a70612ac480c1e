import AuditTrail.Binary64
import Mathlib.Algebra.Order.Field.Power
import Mathlib.Data.Rat.Cast.Order
import Mathlib.Tactic.FieldSimp
import Mathlib.Tactic.Linarith
import Mathlib.Tactic.NormNum
import Mathlib.Tactic.Positivity
import Mathlib.Tactic.Ring

/-!
# Rounding to binary fractions

The nearest binary fraction of a quotient is off by a part of `2 ^ 53` at most, or by half the least
positive number where that is more. It exists below `2 ^ 1024 - 2 ^ 970`; from there on a quotient
is as near to `2 ^ 1024`, which the format does not hold.
-/

namespace AuditTrail.Binary64

/-- The number without its sign. -/
def magnitude (x : Binary64) : ℚ :=
  x.mantissa * 2 ^ x.exponent

/-- The least magnitude that rounds out of the format. -/
def overflowBound : ℚ := (2 ^ 54 - 1) * 2 ^ (970 : Int)

/-- Half the least positive number. -/
def halfLeast : ℚ := 2 ^ (-1075 : Int)

lemma magnitude_nonneg (x : Binary64) : 0 ≤ x.magnitude := by
  unfold magnitude
  positivity

lemma magnitude_zero (negative : Bool) : (zero negative).magnitude = 0 := by
  simp only [magnitude, zero, Nat.cast_zero, zero_mul]

lemma halfLeast_nonneg : 0 ≤ halfLeast := by
  unfold halfLeast
  positivity

lemma least_eq : (2 : ℚ) ^ (-1074 : Int) / 2 = halfLeast := by
  rw [halfLeast, show (-1075 : Int) = -1074 + -1 by rfl, zpow_add₀ (by norm_num), zpow_neg_one,
    div_eq_mul_inv]

section Quotients

variable (num den : Nat) (e : Int)

lemma den_pos_scaled (h : 0 < den) : 0 < (scaled num den e).2 := by
  unfold scaled
  split
  · exact Nat.mul_pos h (Nat.pow_pos (by decide))
  · exact h

lemma zpow_toNat (b : ℚ) : b ^ e.toNat / b ^ (-e).toNat = b ^ e := by
  rcases le_total 0 e with h | h
  · obtain ⟨n, rfl⟩ := Int.eq_ofNat_of_zero_le h
    simp
  · obtain ⟨n, hn⟩ := Int.eq_ofNat_of_zero_le (Int.neg_nonneg_of_nonpos h)
    obtain rfl : e = -(n : Int) := by omega
    simp

lemma scaled_eq : ((scaled num den e).1 : ℚ) / (scaled num den e).2 = num / den * 2 ^ (-e) := by
  rw [← zpow_toNat (-e) 2, neg_neg]
  unfold scaled
  split
  · next h =>
    have hzero : (-e).toNat = 0 := by omega
    simp only [hzero, Nat.cast_mul, Nat.pow_eq, Nat.cast_pow, Nat.cast_ofNat, pow_zero]
    field_simp
  · next h =>
    have hzero : e.toNat = 0 := by omega
    simp only [hzero, Nat.cast_mul, Nat.pow_eq, Nat.cast_pow, Nat.cast_ofNat, pow_zero]
    field_simp

lemma ratio_eq (x : Binary64) : (x.ratio.1 : ℚ) / x.ratio.2 = x.magnitude := by
  have h := scaled_eq x.mantissa 1 (-x.exponent)
  unfold magnitude
  rw [neg_neg, Nat.cast_one, div_one] at h
  rw [← h]
  unfold ratio scaled
  split
  · next hge =>
    rcases hge.eq_or_lt with heq | hlt
    · simp [← heq]
    · rw [if_neg (by omega), neg_neg]
  · next hlt => rw [if_pos (by omega), Nat.one_mul]

lemma den_pos_ratio (x : Binary64) : 0 < x.ratio.2 := by
  unfold ratio
  split
  · exact Nat.one_pos
  · exact Nat.pow_pos (by decide)

end Quotients

section Nearest

variable {num den : Nat}

lemma nearest_near (h : 0 < den) :
    2 * num ≤ (2 * nearest num den + 1) * den ∧ 2 * nearest num den * den ≤ 2 * num + den := by
  have hsplit := Nat.div_add_mod num den
  have hrem := Nat.mod_lt num h
  unfold nearest
  generalize num / den = q at *
  generalize num % den = r at *
  subst hsplit
  dsimp only
  split_ifs <;> constructor <;> nlinarith

lemma nearest_le_add (num : Nat) {den : Nat} (h : 0 < den) :
    (nearest num den : ℚ) ≤ num / den + 1 / 2 := by
  have hle : (2 * nearest num den * den : ℚ) ≤ 2 * num + den := mod_cast (nearest_near h).2
  have hden : (0 : ℚ) < den := mod_cast h
  rw [div_add_div _ _ hden.ne' (by norm_num), le_div_iff₀ (by positivity)]
  linarith

lemma sub_le_nearest (num : Nat) {den : Nat} (h : 0 < den) :
    (num / den - 1 / 2 : ℚ) ≤ nearest num den := by
  have hle : (2 * num : ℚ) ≤ (2 * nearest num den + 1) * den := mod_cast (nearest_near h).1
  have hden : (0 : ℚ) < den := mod_cast h
  rw [div_sub_div _ _ hden.ne' (by norm_num), div_le_iff₀ (by positivity)]
  linarith

lemma nearest_lt {m : Nat} (h : 0 < den) (hlt : (num / den + 1 / 2 : ℚ) < m) :
    nearest num den < m := by
  have hle := nearest_le_add num h
  exact_mod_cast hle.trans_lt hlt

lemma nearest_le {m : Nat} (h : 0 < den) (hle : (num / den : ℚ) ≤ m) : nearest num den ≤ m := by
  refine Nat.lt_succ_iff.mp (nearest_lt h ?_)
  push_cast
  linarith

lemma le_nearest {m : Nat} (h : 0 < den) (hle : (m : ℚ) ≤ num / den) : m ≤ nearest num den := by
  have hge := sub_le_nearest num h
  have hlt : (m : ℚ) < nearest num den + 1 := by linarith
  exact Nat.lt_succ_iff.mp (by exact_mod_cast hlt)

end Nearest

/-- What makes an exponent the right one for a quotient: the mantissa has 53 bits, or fewer at the
least exponent. -/
structure Fits (q : ℚ) (e : Int) : Prop where
  least : -1074 ≤ e
  below : q < 2 ^ (53 + e)
  normal : 2 ^ (52 + e) ≤ q ∨ e = -1074

lemma log2_bounds {n : Nat} (h : 0 < n) :
    (2 : ℚ) ^ (n.log2 : Int) ≤ n ∧ (n : ℚ) < 2 ^ ((n.log2 : Int) + 1) := by
  constructor
  · rw [zpow_natCast]
    exact_mod_cast Nat.log2_self_le h.ne'
  · exact_mod_cast Nat.lt_log2_self (n := n)

lemma fits_fittingExponent {num den : Nat} (hnum : 0 < num) (hden : 0 < den) :
    Fits (num / den) (fittingExponent num den) := by
  obtain ⟨hnumLow, hnumHigh⟩ := log2_bounds hnum
  obtain ⟨hdenLow, hdenHigh⟩ := log2_bounds hden
  have hdenPos : (0 : ℚ) < den := mod_cast hden
  set e : Int := (num.log2 : Int) - den.log2 - 52 with he
  have hlow : (2 : ℚ) ^ (51 + e) < num / den := by
    rw [lt_div_iff₀ hdenPos]
    calc (2 : ℚ) ^ (51 + e) * den < 2 ^ (51 + e) * 2 ^ ((den.log2 : Int) + 1) := by gcongr
      _ = 2 ^ (num.log2 : Int) := by rw [← zpow_add₀ (by norm_num), he]; congr 1; ring
      _ ≤ num := hnumLow
  have hhigh : (num / den : ℚ) < 2 ^ (53 + e) := by
    rw [div_lt_iff₀ hdenPos]
    calc (num : ℚ) < 2 ^ ((num.log2 : Int) + 1) := hnumHigh
      _ = 2 ^ (53 + e) * 2 ^ (den.log2 : Int) := by
        rw [← zpow_add₀ (by norm_num), he]
        congr 1
        ring
      _ ≤ 2 ^ (53 + e) * den := by gcongr
  have hcompare : (scaled num den e).1 < (scaled num den e).2 * leastNormal ↔
      (num / den : ℚ) < 2 ^ (52 + e) := by
    have hpos : (0 : ℚ) < (scaled num den e).2 := mod_cast den_pos_scaled num den e hden
    have hleast : ((leastNormal : Nat) : ℚ) = 2 ^ (52 : Int) := by norm_num [leastNormal]
    rw [← Nat.cast_lt (α := ℚ), Nat.cast_mul, mul_comm, ← div_lt_iff₀ hpos, scaled_eq, hleast,
      zpow_neg, ← div_eq_mul_inv, div_lt_iff₀ (by positivity), ← zpow_add₀ (by norm_num)]
  have hcases : fittingExponent num den =
      max (-1074) (if (num / den : ℚ) < 2 ^ (52 + e) then e - 1 else e) := by
    unfold fittingExponent
    simp only [← he, hcompare]
  rw [hcases]
  -- The exponent is one less where the quotient of the leading bits is below one.
  set f : Int := if (num / den : ℚ) < 2 ^ (52 + e) then e - 1 else e with hf
  have hfits : 2 ^ (52 + f) ≤ (num / den : ℚ) ∧ (num / den : ℚ) < 2 ^ (53 + f) := by
    by_cases hsmall : (num / den : ℚ) < 2 ^ (52 + e)
    · rw [if_pos hsmall] at hf
      rw [show 52 + f = 51 + e by omega, show 53 + f = 52 + e by omega]
      exact ⟨hlow.le, hsmall⟩
    · rw [if_neg hsmall] at hf
      rw [hf]
      exact ⟨not_lt.mp hsmall, hhigh⟩
  refine ⟨le_max_left _ _, ?_, ?_⟩
  · refine hfits.2.trans_le (zpow_le_zpow_right₀ (by norm_num) ?_)
    omega
  · rcases le_total (-1074) f with hge | hle
    · rw [max_eq_right hge]
      exact .inl hfits.1
    · exact .inr (max_eq_left hle)

/-- Only quotients beyond the bound have an exponent beyond the format. -/
lemma Fits.exponent_le {q : ℚ} {e : Int} (h : Fits q e) (hq : q < overflowBound) : e ≤ 971 := by
  by_contra hlarge
  have hnormal : (2 : ℚ) ^ (52 + e) ≤ q := h.normal.resolve_right (by omega)
  have hmono : (2 : ℚ) ^ (1024 : Int) ≤ 2 ^ (52 + e) :=
    zpow_le_zpow_right₀ (by norm_num) (by omega)
  have hsplit : (2 : ℚ) ^ (1024 : Int) = 2 ^ 54 * 2 ^ (970 : Int) := by
    rw [← zpow_natCast, ← zpow_add₀ (by norm_num)]
    rfl
  have hbound : overflowBound ≤ 2 ^ (1024 : Int) := by
    rw [hsplit, overflowBound]
    gcongr
    norm_num
  exact absurd (hbound.trans (hmono.trans hnormal)) (not_le.mpr hq)

/-- At the greatest exponent a quotient below the bound is more than half a unit below `2 ^ 53`. -/
lemma top_mantissa_lt {q : ℚ} (hq : q < overflowBound) :
    q * 2 ^ (-971 : Int) + 1 / 2 < 2 ^ 53 := by
  have hscale : overflowBound * 2 ^ (-971 : Int) = (2 ^ 54 - 1) * 2 ^ (-1 : Int) := by
    rw [overflowBound, mul_assoc, ← zpow_add₀ (by norm_num)]
    rfl
  have hlt : q * 2 ^ (-971 : Int) < overflowBound * 2 ^ (-971 : Int) := by
    gcongr
  rw [hscale] at hlt
  generalize q * 2 ^ (-971 : Int) = x at hlt ⊢
  norm_num at hlt ⊢
  linarith

/-! ### Rounding -/

/-- The bounds of what a quotient rounds to. -/
structure Near (q y : ℚ) : Prop where
  above : y ≤ q * (1 + 2 ^ (-53 : Int)) + halfLeast
  below : q * (1 - 2 ^ (-53 : Int)) - halfLeast ≤ y

lemma near_of_fits {q : ℚ} {e : Int} {m : Nat} (h : Fits q e) (hq : 0 ≤ q)
    (habove : (m : ℚ) ≤ q * 2 ^ (-e) + 1 / 2) (hbelow : q * 2 ^ (-e) - 1 / 2 ≤ m) :
    Near q (m * 2 ^ e) := by
  have hpow : (0 : ℚ) < 2 ^ e := by positivity
  have hcancel : q * 2 ^ (-e) * 2 ^ e = q := by
    rw [mul_assoc, ← zpow_add₀ (by norm_num), neg_add_cancel, zpow_zero, mul_one]
  have habove : (m * 2 ^ e : ℚ) ≤ q + 2 ^ e / 2 := by
    have := mul_le_mul_of_nonneg_right habove hpow.le
    linarith
  have hbelow : q - 2 ^ e / 2 ≤ (m * 2 ^ e : ℚ) := by
    have := mul_le_mul_of_nonneg_right hbelow hpow.le
    linarith
  have hunit : (2 ^ e / 2 : ℚ) ≤ q * 2 ^ (-53 : Int) + halfLeast := by
    rcases h.normal with hnormal | hleast
    · have := mul_le_mul_of_nonneg_right hnormal (show (0 : ℚ) ≤ 2 ^ (-53 : Int) by positivity)
      rw [← zpow_add₀ (by norm_num), show 52 + e + -53 = e + -1 by ring,
        zpow_add₀ (by norm_num)] at this
      rw [zpow_neg_one, ← div_eq_mul_inv] at this
      linarith [halfLeast_nonneg]
    · have hq' : 0 ≤ q * 2 ^ (-53 : Int) := by positivity
      rw [hleast, least_eq]
      linarith
  constructor
  · rw [mul_add, mul_one, add_assoc]
    exact habove.trans (add_le_add_right hunit q)
  · rw [mul_sub, mul_one, sub_sub]
    exact (sub_le_sub_left hunit q).trans hbelow

lemma magnitude_make (negative : Bool) {m : Nat} {e : Int} (hm : m < mantissaLimit)
    (hlow : -1074 ≤ e) (hhigh : e ≤ 971) (hnormal : leastNormal ≤ m ∨ e = -1074) :
    ∃ y, make? negative m e = some y ∧ y.magnitude = m * 2 ^ e := by
  have h : m < mantissaLimit ∧ -1074 ≤ e ∧ e ≤ 971 ∧ (leastNormal ≤ m ∨ e = -1074) :=
    ⟨hm, hlow, hhigh, hnormal⟩
  exact ⟨_, dif_pos h, rfl⟩

-- The exponent is a variable here, as its own equation multiplies by `leastNormal`.
lemma ofRatio_eq (negative : Bool) {num den n d : Nat} {e : Int} (hnum : num ≠ 0)
    (he : fittingExponent num den = e) (hscaled : scaled num den e = (n, d)) :
    ofRatio? negative num den =
      if nearest n d = mantissaLimit then make? negative leastNormal (e + 1)
      else make? negative (nearest n d) e := by
  rw [ofRatio?, if_neg hnum, he]
  simp only [hscaled]

/-- A quotient below the bound of the format rounds to a number near it. -/
theorem ofRatio_near (negative : Bool) (num : Nat) {den : Nat} (hden : 0 < den)
    (h : (num / den : ℚ) < overflowBound) :
    ∃ y, ofRatio? negative num den = some y ∧ Near (num / den) y.magnitude := by
  rcases Nat.eq_zero_or_pos num with rfl | hnum
  · refine ⟨zero negative, by simp [ofRatio?], ?_⟩
    rw [magnitude_zero, Nat.cast_zero, zero_div]
    constructor <;> linarith [halfLeast_nonneg]
  have hfits := fits_fittingExponent hnum hden
  have hscaled := scaled_eq num den (fittingExponent num den)
  have hpos := den_pos_scaled num den (fittingExponent num den) hden
  obtain ⟨⟨n, d⟩, hp⟩ : ∃ p, scaled num den (fittingExponent num den) = p := ⟨_, rfl⟩
  rw [ofRatio_eq negative hnum.ne' rfl hp]
  rw [hp] at hscaled hpos
  generalize fittingExponent num den = e at *
  have hq : (0 : ℚ) ≤ num / den := by positivity
  generalize (num / den : ℚ) = q at *
  have habove := nearest_le_add n hpos
  have hbelow := sub_le_nearest n hpos
  rw [hscaled] at habove hbelow
  have hnear := near_of_fits hfits hq habove hbelow
  have hlt : q * 2 ^ (-e) < 2 ^ 53 := by
    have := hfits.below
    rw [zpow_add₀ (by norm_num)] at this
    rw [zpow_neg, ← div_eq_mul_inv, div_lt_iff₀ (by positivity)]
    exact_mod_cast this
  have hle : nearest n d ≤ mantissaLimit := by
    refine nearest_le hpos ?_
    rw [hscaled]
    exact hlt.le.trans_eq (by norm_num [mantissaLimit])
  have hexponent := hfits.exponent_le h
  have hnormal : leastNormal ≤ nearest n d ∨ e = -1074 := by
    rcases hfits.normal with hnormal | hleast
    · refine .inl (le_nearest hpos ?_)
      rw [hscaled, zpow_neg, ← div_eq_mul_inv, le_div_iff₀ (by positivity)]
      rw [zpow_add₀ (by norm_num)] at hnormal
      norm_num [leastNormal] at hnormal ⊢
      exact hnormal
    · exact .inr hleast
  -- A mantissa that is rounded up to `2 ^ 53` is halved. This would leave the format only at the
  -- greatest exponent, where the bound keeps it from happening.
  split_ifs with hlimit
  · have hleast := hfits.least
    have hexponent' : e ≤ 970 := by
      by_contra htop
      obtain rfl : e = 971 := by omega
      refine absurd hlimit (nearest_lt hpos ?_).ne
      rw [hscaled]
      exact (top_mantissa_lt h).trans_eq (by norm_num [mantissaLimit])
    have hnormal : leastNormal < mantissaLimit := by decide
    obtain ⟨y, hy, hmagnitude⟩ := magnitude_make negative (e := e + 1) hnormal (by omega) (by omega)
      (.inl le_rfl)
    refine ⟨y, hy, ?_⟩
    have heq : (leastNormal * 2 ^ (e + 1) : ℚ) = mantissaLimit * 2 ^ e := by
      rw [zpow_add₀ (by norm_num)]
      norm_num [leastNormal, mantissaLimit]
      ring
    rw [hmagnitude, heq, ← hlimit]
    exact hnear
  · obtain ⟨y, hy, hmagnitude⟩ := magnitude_make negative
      (lt_of_le_of_ne hle hlimit) hfits.least hexponent hnormal
    exact ⟨y, hy, hmagnitude ▸ hnear⟩

/-- What rounding may add to a number of at least one, as a factor. -/
def slack : ℚ := 1 + 2 ^ (-52 : Int)

lemma one_le_slack : 1 ≤ slack := by
  unfold slack
  linarith [show (0 : ℚ) ≤ 2 ^ (-52 : Int) by positivity]

lemma Near.le_slack {q y : ℚ} (h : Near q y) (hq : 1 ≤ q) : y ≤ q * slack := by
  have hhalf : halfLeast ≤ q * 2 ^ (-53 : Int) := by
    calc halfLeast ≤ 2 ^ (-53 : Int) := zpow_le_zpow_right₀ (by norm_num) (by norm_num)
      _ = 1 * 2 ^ (-53 : Int) := (one_mul _).symm
      _ ≤ q * 2 ^ (-53 : Int) := by gcongr
  have habove := h.above
  have hsplit : slack = 1 + 2 ^ (-53 : Int) + 2 ^ (-53 : Int) := by norm_num [slack]
  rw [hsplit, mul_add]
  linarith

lemma Near.le_twice {q y : ℚ} (h : Near q y) (hq : 0 ≤ q) : y ≤ 2 * q + 1 := by
  have hhalf : halfLeast ≤ 2 ^ (0 : Int) := zpow_le_zpow_right₀ (by norm_num) (by norm_num)
  have habove := h.above
  norm_num at habove hhalf ⊢
  linarith

lemma Near.half_le {q y : ℚ} (h : Near q y) (hq : 1 ≤ q) : q / 2 ≤ y := by
  have hhalf : halfLeast ≤ 2 ^ (-2 : Int) := zpow_le_zpow_right₀ (by norm_num) (by norm_num)
  have hbelow := h.below
  norm_num at hbelow hhalf ⊢
  linarith

section Operations

variable {x y : Binary64}

lemma mul_near (h : x.magnitude * y.magnitude < overflowBound) :
    ∃ z, x.mul? y = some z ∧ Near (x.magnitude * y.magnitude) z.magnitude := by
  have hvalue : ((x.ratio.1 * y.ratio.1 : Nat) : ℚ) / (x.ratio.2 * y.ratio.2 : Nat) =
      x.magnitude * y.magnitude := by
    rw [← ratio_eq, ← ratio_eq, Nat.cast_mul, Nat.cast_mul, mul_div_mul_comm]
  have hround := ofRatio_near (x.negative != y.negative) (x.ratio.1 * y.ratio.1)
    (Nat.mul_pos (den_pos_ratio x) (den_pos_ratio y)) (hvalue ▸ h)
  rwa [hvalue] at hround

lemma div_near (hy : 0 < y.magnitude) (h : x.magnitude / y.magnitude < overflowBound) :
    ∃ z, x.div? y = some z ∧ Near (x.magnitude / y.magnitude) z.magnitude := by
  have hpos : 0 < y.ratio.1 := by
    rw [← ratio_eq] at hy
    refine Nat.pos_of_ne_zero fun hzero => ?_
    rw [hzero, Nat.cast_zero, zero_div] at hy
    exact lt_irrefl 0 hy
  have hvalue : ((x.ratio.1 * y.ratio.2 : Nat) : ℚ) / (x.ratio.2 * y.ratio.1 : Nat) =
      x.magnitude / y.magnitude := by
    rw [← ratio_eq, ← ratio_eq, Nat.cast_mul, Nat.cast_mul, div_div_div_eq]
  have hround := ofRatio_near (x.negative != y.negative) (x.ratio.1 * y.ratio.2)
    (Nat.mul_pos (den_pos_ratio x) hpos) (hvalue ▸ h)
  rwa [hvalue] at hround

lemma overflowBound_eq : overflowBound = (((2 ^ 54 - 1) * 2 ^ 970 : Nat) : ℚ) := by
  rw [overflowBound, Nat.cast_mul, Nat.cast_sub Nat.one_le_two_pow, zpow_ofNat]
  simp only [Nat.cast_pow, Nat.cast_ofNat, Nat.cast_one]

lemma tenPow_lt_overflowBound {e : Nat} (h : e ≤ 308) : (10 : ℚ) ^ e < overflowBound := by
  have hgreatest : 10 ^ 308 < (2 ^ 54 - 1) * 2 ^ 970 := by decide +kernel
  have hle : (10 : ℚ) ^ e ≤ 10 ^ 308 := pow_le_pow_right₀ (by norm_num) h
  rw [overflowBound_eq]
  exact hle.trans_lt (by exact_mod_cast hgreatest)

lemma le_of_tenPow_lt {e : Nat} (h : (10 : ℚ) ^ e < overflowBound) : e ≤ 308 := by
  by_contra hlarge
  have hbound : (2 ^ 54 - 1) * 2 ^ 970 ≤ 10 ^ 309 := by decide +kernel
  have hle : (10 : ℚ) ^ 309 ≤ 10 ^ e := pow_le_pow_right₀ (by norm_num) (by omega)
  rw [overflowBound_eq] at h
  exact absurd (hle.trans_lt h) (not_lt.mpr (by exact_mod_cast hbound))

lemma tenPow_near {e : Nat} (h : e ≤ 308) :
    ∃ p, tenPow? e = some p ∧ Near (10 ^ e) p.magnitude := by
  have hvalue : ((Nat.pow 10 e : Nat) : ℚ) / (1 : Nat) = 10 ^ e := by
    rw [Nat.cast_one, div_one, Nat.pow_eq, Nat.cast_pow]
    rfl
  have hround := ofRatio_near false (Nat.pow 10 e) Nat.one_pos
    (hvalue ▸ tenPow_lt_overflowBound h)
  rwa [hvalue] at hround

end Operations

/-! ### Scaling -/

lemma room {q : ℚ} (h : q ≤ 2 ^ 80) : q < overflowBound := by
  have hlt := tenPow_lt_overflowBound (e := 30) (by decide)
  refine h.trans_lt (lt_trans ?_ hlt)
  norm_num

lemma le_tenPow {p : Binary64} {e : Nat} (h : Near (10 ^ e) p.magnitude) :
    (10 : ℚ) ^ e / 2 ≤ p.magnitude :=
  h.half_le (one_le_pow₀ (by norm_num))

lemma scaleOnce_down {x : Binary64} {e : Int} (hx : x.magnitude ≤ 2 ^ 70) (he : e ≤ 0)
    (hsmall : e.natAbs ≤ 308) :
    ∃ y, ((tenPow? e.natAbs).bind fun p => if 0 ≤ e then x.mul? p else x.div? p) = some y := by
  obtain ⟨p, hp, hnear⟩ := tenPow_near hsmall
  have hpos : (1 / 2 : ℚ) ≤ p.magnitude := by
    have hone : (1 : ℚ) ≤ 10 ^ e.natAbs := one_le_pow₀ (by norm_num)
    linarith [le_tenPow hnear]
  rw [hp, Option.bind_some]
  split_ifs with hge
  · obtain rfl : e = 0 := by omega
    have hp3 : p.magnitude ≤ 3 := by
      have := hnear.le_twice (by positivity)
      norm_num at this
      exact this
    have hproduct : x.magnitude * p.magnitude ≤ 2 ^ 70 * 3 := by
      gcongr
    obtain ⟨z, hz, -⟩ := mul_near (room (hproduct.trans (by norm_num)))
    exact ⟨z, hz⟩
  · have hquotient : x.magnitude / p.magnitude ≤ 2 ^ 71 := by
      rw [div_le_iff₀ (by linarith)]
      linarith
    obtain ⟨z, hz, -⟩ := div_near (by linarith) (room (hquotient.trans (by norm_num)))
    exact ⟨z, hz⟩

lemma scaleByTen_far {x : Binary64} {e : Int} (steps : Nat) (hzero : ¬x.isZero = true)
    (hfar : e < -308) :
    scaleByTen? x e (steps + 1) =
      (tenPow? 308).bind fun p => (x.div? p).bind fun y => scaleByTen? y (e + 308) steps := by
  rw [scaleByTen?.eq_def, if_neg (by omega), if_neg hzero, if_neg (by omega)]

lemma div_tenPow {x : Binary64} (hx : x.magnitude ≤ 2 ^ 70) :
    ∃ p y, tenPow? 308 = some p ∧ x.div? p = some y ∧ y.magnitude ≤ 2 ^ 70 := by
  obtain ⟨p, hp, hnear⟩ := tenPow_near (e := 308) le_rfl
  have hlarge : (4 : ℚ) ≤ p.magnitude := by
    have hpow : (10 : ℚ) ^ 1 ≤ 10 ^ 308 := pow_le_pow_right₀ (by norm_num) (by norm_num)
    refine le_trans ?_ (le_tenPow hnear)
    rw [le_div_iff₀ (by norm_num)]
    exact le_trans (by norm_num) hpow
  have hquotient : x.magnitude / p.magnitude ≤ 2 ^ 68 := by
    rw [div_le_iff₀ (by linarith)]
    linarith
  obtain ⟨y, hy, hround⟩ := div_near (x := x) (y := p) (by linarith)
    (room (hquotient.trans (by norm_num)))
  have hsize := hround.le_twice (div_nonneg x.magnitude_nonneg p.magnitude_nonneg)
  exact ⟨p, y, hp, hy, by linarith⟩

/-- A number of a moderate size can be scaled down by any power of ten. -/
theorem scaleByTen_down (x : Binary64) (e : Int) (steps : Nat) (hx : x.magnitude ≤ 2 ^ 70)
    (he : e ≤ 0) : ∃ y, scaleByTen? x e steps = some y := by
  induction steps generalizing x e with
  | zero =>
    by_cases hsmall : e.natAbs ≤ 308
    · rw [scaleByTen?.eq_def, if_pos hsmall]
      exact scaleOnce_down hx he hsmall
    · refine ⟨x, ?_⟩
      rw [scaleByTen?.eq_def, if_neg hsmall, if_neg (by omega : ¬0 ≤ e), ite_self]
  | succ steps ih =>
    by_cases hsmall : e.natAbs ≤ 308
    · rw [scaleByTen?.eq_def, if_pos hsmall]
      exact scaleOnce_down hx he hsmall
    by_cases hzero : x.isZero
    · rw [scaleByTen?.eq_def, if_neg hsmall, if_pos hzero]
      exact ⟨x, rfl⟩
    · obtain ⟨p, y, hp, hy, hsize⟩ := div_tenPow hx
      obtain ⟨z, hz⟩ := ih y (e + 308) hsize (by omega)
      refine ⟨z, ?_⟩
      rw [scaleByTen_far steps hzero (by omega), hp, Option.bind_some, hy, Option.bind_some, hz]

/-- A product with a power of ten is computed if there is room for what rounding adds. -/
theorem scaleByTen_up {x : Binary64} {e : Nat} (steps : Nat) (he : e ≤ 308)
    (h : x.magnitude * (10 ^ e * slack) < overflowBound) : ∃ y, scaleByTen? x e steps = some y := by
  obtain ⟨p, hp, hnear⟩ := tenPow_near he
  have hle := hnear.le_slack (one_le_pow₀ (by norm_num))
  obtain ⟨z, hz, -⟩ := mul_near (x := x) (y := p)
    ((mul_le_mul_of_nonneg_left hle x.magnitude_nonneg).trans_lt h)
  refine ⟨z, ?_⟩
  rw [scaleByTen?.eq_def, if_pos (by rwa [Int.natAbs_natCast]), Int.natAbs_natCast, hp,
    Option.bind_some, if_pos (Int.natCast_nonneg e), hz]

end AuditTrail.Binary64
