import AuditTrail.Binary64.Shortest
import AuditTrail.Proofs.Numerals
import AuditTrail.Proofs.Rounding
import Mathlib.Data.List.DropRight

/-!
# The decimals of binary fractions

Among the grids of powers of ten, those finer than half the last binary place of a number have a
point that reads back as this number, and such a grid is reached in time. So there are always
decimal digits to write, no more than a 64-bit word holds, and the decimal is at most half a binary
place above the number.
-/

namespace AuditTrail.Binary64

variable (x : Binary64)

/-- The distance of the points of a grid, multiplied as in `gridPoint`. -/
def gridUnit (k : Int) : Nat :=
  Nat.pow 10 k.toNat * Nat.pow 2 (-(x.exponent - 2)).toNat

/-- A quarter of the last binary place, multiplied as in `gridPoint`. -/
def gridQuarter (k : Int) : Nat :=
  Nat.pow 2 (x.exponent - 2).toNat * Nat.pow 10 (-k).toNat

lemma gridPoint_eq (k : Int) (d quarters : Nat) :
    x.gridPoint k d quarters = (d * x.gridUnit k, quarters * x.gridQuarter k) := by
  simp only [gridPoint, gridUnit, gridQuarter, Nat.mul_assoc]

lemma gridUnit_pos (k : Int) : 0 < x.gridUnit k :=
  Nat.mul_pos (Nat.pow_pos (by decide)) (Nat.pow_pos (by decide))

lemma gridQuarter_pos (k : Int) : 0 < x.gridQuarter k :=
  Nat.mul_pos (Nat.pow_pos (by decide)) (Nat.pow_pos (by decide))

lemma gridUnit_div (k : Int) :
    (x.gridUnit k : ℚ) / x.gridQuarter k = 10 ^ k / 2 ^ (x.exponent - 2) := by
  simp only [gridUnit, gridQuarter, Nat.pow_eq, Nat.cast_mul, Nat.cast_pow, Nat.cast_ofNat]
  rw [← zpow_toNat k 10, ← zpow_toNat (x.exponent - 2) 2]
  field_simp

/-- The decimal `d * 10 ^ k` lies between the bounds of what rounds to `x`. -/
structure Between (k : Int) (d : Nat) : Prop where
  low : x.quarterBounds.1 * x.gridQuarter k ≤ d * x.gridUnit k
  high : d * x.gridUnit k ≤ x.quarterBounds.2 * x.gridQuarter k

variable {x} {k : Int} {d : Nat}

lemma Between.of_readsBack (h : x.readsBack k d = true) : Between x k d := by
  simp only [readsBack, gridPoint_eq] at h
  split at h
  · rw [Bool.and_eq_true, decide_eq_true_eq, decide_eq_true_eq] at h
    exact ⟨h.1, h.2⟩
  · rw [Bool.and_eq_true, decide_eq_true_eq, decide_eq_true_eq] at h
    exact ⟨h.1.le, h.2.le⟩

lemma readsBack_of_lt (hlow : x.quarterBounds.1 * x.gridQuarter k < d * x.gridUnit k)
    (hhigh : d * x.gridUnit k < x.quarterBounds.2 * x.gridQuarter k) :
    x.readsBack k d = true := by
  simp only [readsBack, gridPoint_eq]
  split
  · rw [Bool.and_eq_true, decide_eq_true_eq, decide_eq_true_eq]
    exact ⟨hlow.le, hhigh.le⟩
  · rw [Bool.and_eq_true, decide_eq_true_eq, decide_eq_true_eq]
    exact ⟨hlow, hhigh⟩

lemma between_of_candidate (h : x.candidate? k = some d) : Between x k d := by
  apply Between.of_readsBack
  unfold candidate? at h
  dsimp only at h
  split at h
  · next hbelow habove =>
    split at h <;> cases h
    · exact hbelow
    · exact habove
  · next hbelow _ =>
    cases h
    exact hbelow
  · next _ habove =>
    cases h
    exact habove
  · cases h

lemma quarterBounds_lt (hx : 0 < x.mantissa) : x.quarterBounds.1 < 4 * x.mantissa := by
  unfold quarterBounds
  dsimp only
  split <;> omega

/-- On a fine grid the next point above a number reads back. -/
lemma candidate_of_fine (hx : 0 < x.mantissa) (hfine : x.gridUnit k < 2 * x.gridQuarter k) :
    ∃ d, x.candidate? k = some d := by
  have hunit := x.gridUnit_pos k
  have hquarter := x.gridQuarter_pos k
  have hread : x.readsBack k (4 * x.mantissa * x.gridQuarter k / x.gridUnit k + 1) = true := by
    have hdiv := Nat.div_add_mod (4 * x.mantissa * x.gridQuarter k) (x.gridUnit k)
    have hmod := Nat.mod_lt (4 * x.mantissa * x.gridQuarter k) hunit
    have hlow := Nat.mul_lt_mul_of_pos_right (quarterBounds_lt hx) hquarter
    have hhigh : x.quarterBounds.2 * x.gridQuarter k =
        4 * x.mantissa * x.gridQuarter k + 2 * x.gridQuarter k := by
      rw [← Nat.add_mul]
      rfl
    generalize 4 * x.mantissa * x.gridQuarter k / x.gridUnit k = q at *
    have hnext : (q + 1) * x.gridUnit k = x.gridUnit k * q + x.gridUnit k := by ring
    apply readsBack_of_lt <;> omega
  unfold candidate?
  rw [gridPoint_eq, Nat.one_mul]
  dsimp only
  rw [hread]
  cases x.readsBack k (4 * x.mantissa * x.gridQuarter k / x.gridUnit k)
  · exact ⟨_, rfl⟩
  · exact ⟨_, rfl⟩

/-- A fine grid among the first ones is not passed over. -/
lemma firstGrid_between (hx : 0 < x.mantissa) {steps grids : Nat} (hsteps : steps < grids)
    (hfine : x.gridUnit (k - steps) < 2 * x.gridQuarter (k - steps)) :
    Between x (x.firstGrid k grids).2 (x.firstGrid k grids).1 ∧
      k - steps ≤ (x.firstGrid k grids).2 := by
  induction grids generalizing k steps with
  | zero => omega
  | succ grids ih =>
    unfold firstGrid
    split
    · next d hd => exact ⟨between_of_candidate hd, by dsimp only; omega⟩
    · next hnone =>
      cases steps with
      | zero =>
        obtain ⟨d, hd⟩ := candidate_of_fine hx hfine
        rw [Nat.cast_zero, sub_zero, hnone] at hd
        cases hd
      | succ steps =>
        have hshift : k - (steps + 1 : Nat) = k - 1 - steps := by omega
        rw [hshift] at hfine ⊢
        exact ih (by omega) hfine

lemma digits_bounds {n : Nat} (h : 0 < n) :
    10 ^ ((Nat.toDigits 10 n).length - 1) ≤ n ∧ n < 10 ^ (Nat.toDigits 10 n).length := by
  have hpos := Nat.length_toDigits_pos (b := 10) (n := n)
  refine ⟨?_, (Nat.length_toDigits_le_iff (by decide) hpos).mp le_rfl⟩
  rcases Nat.eq_zero_or_pos ((Nat.toDigits 10 n).length - 1) with hzero | hmore
  · rw [hzero]
    exact h
  · refine Nat.le_of_not_lt fun hlt => ?_
    have := (Nat.length_toDigits_le_iff (by decide) hmore).mpr hlt
    omega

lemma leadingExponent_bounds (hx : 0 < x.mantissa) :
    10 ^ x.leadingExponent ≤ x.magnitude ∧ x.magnitude ≤ 10 ^ (x.leadingExponent + 1) := by
  have hnum : 0 < x.ratio.1 := by
    unfold ratio
    split
    · exact Nat.mul_pos hx (Nat.pow_pos (by decide))
    · exact hx
  have hden := x.den_pos_ratio
  rw [← ratio_eq]
  obtain ⟨⟨num, den⟩, hratio⟩ : ∃ p, x.ratio = p := ⟨_, rfl⟩
  simp only [leadingExponent, hratio] at hnum hden ⊢
  have hdenRat : (0 : ℚ) < den := mod_cast hden
  -- The digits of the whole part are counted, or those of the whole part of the reciprocal.
  split
  · next hle =>
    obtain ⟨hlow, hhigh⟩ := digits_bounds (Nat.div_pos hle hden)
    have hlen := Nat.length_toDigits_pos (b := 10) (n := num / den)
    generalize (Nat.toDigits 10 (num / den)).length = len at *
    obtain ⟨len, rfl⟩ := Nat.exists_eq_add_of_lt hlen
    have hcast : ((0 + len + 1 : Nat) : Int) - 1 = len := by omega
    rw [hcast, zpow_natCast, ← Nat.cast_succ, zpow_natCast, le_div_iff₀ hdenRat,
      div_le_iff₀ hdenRat]
    rw [Nat.add_sub_cancel, Nat.zero_add] at hlow
    rw [Nat.zero_add, Nat.div_lt_iff_lt_mul hden] at hhigh
    rw [Nat.le_div_iff_mul_le hden] at hlow
    exact ⟨mod_cast hlow, mod_cast hhigh.le⟩
  · next hlt =>
    obtain ⟨hlow, hhigh⟩ := digits_bounds (Nat.div_pos (Nat.le_of_not_le hlt) hnum)
    have hlen := Nat.length_toDigits_pos (b := 10) (n := den / num)
    generalize (Nat.toDigits 10 (den / num)).length = len at *
    obtain ⟨len, rfl⟩ := Nat.exists_eq_add_of_lt hlen
    have hcast : -((0 + len + 1 : Nat) : Int) + 1 = -len := by omega
    rw [hcast, zpow_neg, zpow_neg, zpow_natCast, zpow_natCast, le_div_iff₀ hdenRat,
      div_le_iff₀ hdenRat, inv_mul_le_iff₀ (by positivity), ← div_eq_inv_mul,
      le_div_iff₀ (by positivity), mul_comm _ (num : ℚ)]
    rw [Nat.add_sub_cancel, Nat.zero_add, Nat.le_div_iff_mul_le hnum, Nat.mul_comm] at hlow
    rw [Nat.zero_add, Nat.div_lt_iff_lt_mul hnum, Nat.mul_comm] at hhigh
    rw [Nat.zero_add]
    exact ⟨mod_cast hhigh.le, mod_cast hlow⟩

lemma magnitude_lt : x.magnitude < 2 ^ (53 : Int) * 2 ^ x.exponent := by
  have hm : (x.mantissa : ℚ) < (mantissaLimit : Nat) := mod_cast x.mantissa_lt
  have hlimit : ((mantissaLimit : Nat) : ℚ) = 2 ^ (53 : Int) := by norm_num [mantissaLimit]
  rw [magnitude, ← hlimit]
  gcongr

/-- Seventeen places behind the first digit the grid is fine. -/
lemma fine_of_leadingExponent (hx : 0 < x.mantissa) :
    x.gridUnit (x.leadingExponent - 17) < 2 * x.gridQuarter (x.leadingExponent - 17) := by
  have hquarter : (0 : ℚ) < x.gridQuarter (x.leadingExponent - 17) := mod_cast x.gridQuarter_pos _
  have hlead := (leadingExponent_bounds hx).1.trans_lt magnitude_lt
  have hpow : (0 : ℚ) < 2 ^ x.exponent := by positivity
  have hdiv := x.gridUnit_div (x.leadingExponent - 17)
  rw [zpow_sub₀ (by norm_num), zpow_sub₀ (by norm_num), div_eq_iff hquarter.ne'] at hdiv
  have hlt : (10 ^ x.leadingExponent / 10 ^ (17 : Int) /
      (2 ^ x.exponent / 2 ^ (2 : Int)) : ℚ) < 2 := by
    rw [div_lt_iff₀ (by positivity), div_lt_iff₀ (by positivity)]
    norm_num at hlead ⊢
    linarith
  have := mul_lt_mul_of_pos_right hlt hquarter
  rw [← hdiv] at this
  exact_mod_cast this

/-- What a decimal has to be in order to be written for `x` and read as a number again. -/
structure Decimal.Stands (s : Decimal) (x : Binary64) : Prop where
  digits : ∀ c ∈ s.digits, c.isDigit = true
  nonempty : s.digits ≠ []
  leading : s.digits.head? ≠ some '0' ∨ s.digits = ['0'] ∧ s.exponent = 0
  short : s.digits.length ≤ 20
  word : Text.ofDigits s.digits < Word.limit64
  value : (Text.ofDigits s.digits : ℚ) * 10 ^ (s.exponent - (s.digits.length - 1)) ≤
    (x.mantissa + 1 / 2) * 2 ^ x.exponent

lemma dropZeros_append (cs : List Char) :
    ∃ zeros, cs = dropZeros cs ++ List.replicate zeros '0' := by
  refine ⟨(cs.rtakeWhile (· == '0')).length, ?_⟩
  have hzeros : ∀ c ∈ cs.rtakeWhile (· == '0'), c = '0' := fun c hc => by
    simpa using List.mem_rtakeWhile_imp hc
  rw [← List.eq_replicate_of_mem hzeros]
  exact List.rdropWhile_append_rtakeWhile.symm

lemma ofDigits_zeros (cs : List Char) (zeros : Nat) :
    Text.ofDigits (cs ++ List.replicate zeros '0') = Text.ofDigits cs * 10 ^ zeros := by
  induction zeros with
  | zero => simp
  | succ zeros ih =>
    have hlast : ∀ ds, Text.ofDigits (ds ++ ['0']) = 10 * Text.ofDigits ds := by
      intro ds
      rw [Text.ofDigits, List.foldl_append]
      rfl
    rw [List.replicate_succ', ← List.append_assoc, hlast, ih, pow_succ]
    ring

lemma Between.value (h : Between x k d) :
    (d : ℚ) * 10 ^ k ≤ (x.mantissa + 1 / 2) * 2 ^ x.exponent := by
  have hquarter : (0 : ℚ) < x.gridQuarter k := mod_cast x.gridQuarter_pos k
  have hhigh : (d * x.gridUnit k : ℚ) ≤ (4 * x.mantissa + 2) * x.gridQuarter k := mod_cast h.high
  have hdiv := x.gridUnit_div k
  rw [div_eq_iff hquarter.ne'] at hdiv
  rw [hdiv, ← mul_assoc] at hhigh
  have hle := le_of_mul_le_mul_right hhigh hquarter
  rw [zpow_sub₀ (by norm_num), mul_div_assoc', div_le_iff₀ (by positivity)] at hle
  norm_num at hle ⊢
  linarith

lemma Between.pos (hx : 0 < x.mantissa) (h : Between x k d) : 0 < d := by
  refine Nat.pos_of_ne_zero fun hzero => ?_
  have hlow := h.low
  have hbound : 0 < x.quarterBounds.1 := by
    unfold quarterBounds
    dsimp only
    split <;> omega
  have := Nat.mul_pos hbound (x.gridQuarter_pos k)
  rw [hzero, Nat.zero_mul] at hlow
  omega

lemma Between.word (hx : 0 < x.mantissa) (h : Between x k d) (hk : x.leadingExponent - 17 ≤ k) :
    d < Word.limit64 := by
  have hvalue := h.value
  have hmantissa : (1 : ℚ) ≤ x.mantissa := mod_cast hx
  have hpow : (0 : ℚ) < 2 ^ x.exponent := by positivity
  have htwice : (d : ℚ) * 10 ^ k ≤ 3 / 2 * x.magnitude := by
    refine hvalue.trans ?_
    rw [magnitude, ← mul_assoc]
    gcongr
    linarith
  have hlead := (leadingExponent_bounds hx).2
  have hgrid : (10 : ℚ) ^ (x.leadingExponent + 1) ≤ 10 ^ (18 : Int) * 10 ^ k := by
    rw [← zpow_add₀ (by norm_num)]
    exact zpow_le_zpow_right₀ (by norm_num) (by omega)
  have hle : (d : ℚ) * 10 ^ k ≤ 3 / 2 * 10 ^ (18 : Int) * 10 ^ k := by linarith
  have hd := le_of_mul_le_mul_right hle (by positivity)
  have hlt : (d : ℚ) < (Word.limit64 : Nat) := by
    refine hd.trans_lt ?_
    norm_num [Word.limit64]
  exact_mod_cast hlt

lemma stands_digits (hpos : 0 < d) (hword : d < Word.limit64)
    (hvalue : (d : ℚ) * 10 ^ k ≤ (x.mantissa + 1 / 2) * 2 ^ x.exponent) :
    (Decimal.mk (dropZeros (Nat.toDigits 10 d)) (k + (Nat.toDigits 10 d).length - 1)).Stands x := by
  obtain ⟨zeros, hsplit⟩ := dropZeros_append (Nat.toDigits 10 d)
  have hmem : ∀ c ∈ dropZeros (Nat.toDigits 10 d), c.isDigit = true := by
    intro c hc
    have hc := List.mem_append_left (List.replicate zeros '0') hc
    rw [← hsplit] at hc
    exact Text.isDigit_toDigits hc
  have hdigits := Text.ofDigits_toDigits d
  have hhead := Json.Numeral.head_toDigits hpos
  have hlength := congrArg List.length hsplit
  rw [List.length_append, List.length_replicate] at hlength
  have hshort : (Nat.toDigits 10 d).length ≤ 20 :=
    (Nat.length_toDigits_le_iff (by decide) (by decide)).mpr (hword.trans (by decide))
  rw [hlength] at hshort ⊢
  rw [hsplit, ofDigits_zeros] at hdigits
  rw [hsplit] at hhead
  -- From here on only the digits that stay and the number of zeros dropped matter.
  generalize dropZeros (Nat.toDigits 10 d) = ds at *
  have hne : ds ≠ [] := by
    rintro rfl
    have hnone : Text.ofDigits [] = 0 := rfl
    rw [hnone, Nat.zero_mul] at hdigits
    omega
  refine ⟨hmem, hne, .inl ?_, ?_, ?_, ?_⟩
  · obtain ⟨c, cs, rfl⟩ := List.exists_cons_of_ne_nil hne
    exact hhead
  · dsimp only
    omega
  · have hpow : 0 < 10 ^ zeros := Nat.pow_pos (by decide)
    have hle := Nat.le_mul_of_pos_right (Text.ofDigits ds) hpow
    dsimp only
    omega
  · have hscale : k + ((ds.length + zeros : Nat) : Int) - 1 - (ds.length - 1) = zeros + k := by
      omega
    dsimp only
    rw [hscale, zpow_add₀ (by norm_num), zpow_natCast, ← mul_assoc]
    have hcast : (Text.ofDigits ds : ℚ) * 10 ^ zeros = d := mod_cast hdigits
    rw [hcast]
    exact hvalue

/-- Every finite number has a decimal to be written with. -/
theorem stands_shortest (x : Binary64) : x.shortest.Stands x := by
  unfold shortest
  by_cases hzero : x.isZero
  · rw [if_pos hzero]
    refine ⟨by simp, by decide, .inr ⟨rfl, rfl⟩, by decide, by decide, ?_⟩
    have hvalue : Text.ofDigits ['0'] = 0 := rfl
    rw [hvalue, Nat.cast_zero, zero_mul]
    positivity
  · rw [if_neg hzero]
    have hx : 0 < x.mantissa := Nat.pos_of_ne_zero fun h => hzero (by simp [isZero, h])
    have hshift : x.leadingExponent + 1 - (18 : Nat) = x.leadingExponent - 17 := by omega
    have hsteps : 18 < 20 := by decide
    obtain ⟨hbetween, hk⟩ := firstGrid_between (k := x.leadingExponent + 1) hx hsteps
      (hshift ▸ fine_of_leadingExponent hx)
    obtain ⟨⟨d, k⟩, hgrid⟩ : ∃ p, x.firstGrid (x.leadingExponent + 1) 20 = p := ⟨_, rfl⟩
    simp only [hgrid] at hbetween hk ⊢
    exact stands_digits (hbetween.pos hx) (hbetween.word hx (by omega)) hbetween.value

end AuditTrail.Binary64
