import AuditTrail.Json.Writer
import AuditTrail.Proofs.Decimals

/-!
# Written numbers are numerals

The text of every number is the text of a numeral, and this numeral denotes a number: an integer
itself where 64 bits hold it, and a binary fraction otherwise. The latter need not be the number
that was written, but rounding never takes it out of the format.
-/

namespace AuditTrail
namespace Json

open Utf8 Binary64

namespace Numeral

/-- The numeral of a decimal as `floatChars` lays it out. -/
def ofDecimal (negative : Bool) (s : Decimal) : Numeral :=
  if 0 ≤ s.exponent ∧ s.exponent ≤ 15 then
    let before := s.exponent.toNat + 1
    if s.digits.length ≤ before then
      ⟨negative, values (s.digits ++ List.replicate (before - s.digits.length) '0'), some [0], none⟩
    else ⟨negative, values (s.digits.take before), some (values (s.digits.drop before)), none⟩
  else if -5 ≤ s.exponent ∧ s.exponent < 0 then
    ⟨negative, [0],
      some (values (List.replicate (-s.exponent - 1).toNat '0' ++ s.digits)), none⟩
  else
    ⟨negative, values (s.digits.take 1),
      if s.digits.length ≤ 1 then none else some (values (s.digits.drop 1)),
      some ⟨decide (s.exponent < 0), values (Nat.toDigits 10 s.exponent.natAbs)⟩⟩

def ofFloat (x : Binary64) : Numeral :=
  ofDecimal x.negative x.shortest

lemma isDigit_replicate {n : Nat} {c : Char} (h : c ∈ List.replicate n '0') :
    c.isDigit = true := by
  rw [List.eq_of_mem_replicate h]
  rfl

lemma text_eq (n : Numeral) : n.text =
    let body := digitChars n.whole ++ (fractionText n.fraction ++ exponentText n.exponent)
    if n.negative then '-' :: body else body := by
  obtain ⟨negative, whole, fraction, exponent⟩ := n
  cases negative <;> rfl

lemma negative_ofDecimal (negative : Bool) (s : Decimal) :
    (ofDecimal negative s).negative = negative := by
  unfold ofDecimal
  dsimp only
  split_ifs <;> rfl

lemma text_exponent (e : Int) :
    exponentText (some ⟨decide (e < 0), values (Nat.toDigits 10 e.natAbs)⟩) =
      'e' :: (if e < 0 then '-' else '+') :: Nat.toDigits 10 e.natAbs := by
  simp only [exponentText, decide_eq_true_eq, digitChars_values fun c => Text.isDigit_toDigits]

lemma text_mantissa (cs : List Char) : (∀ c ∈ cs, c.isDigit = true) →
    digitChars (values (cs.take 1)) ++
      fractionText (if cs.length ≤ 1 then none else some (values (cs.drop 1))) =
        match cs with
        | [c] => [c]
        | c :: cs => c :: '.' :: cs
        | [] => [] := by
  intro h
  rw [digitChars_values fun c hc => h c (List.mem_of_mem_take hc)]
  match cs with
  | [] => rfl
  | [c] => rfl
  | c :: d :: cs =>
    have hfraction : fractionText (some (values (d :: cs))) = '.' :: d :: cs := by
      rw [fractionText, digitChars_values fun c hc => h c (List.mem_cons_of_mem _ hc)]
    rw [if_neg (by simp), List.drop_one, List.tail_cons, hfraction]
    rfl

lemma text_ofFloat (x : Binary64) : (ofFloat x).text = floatChars x := by
  have hdigits := (stands_shortest x).digits
  rw [text_eq, ofFloat, negative_ofDecimal]
  unfold floatChars
  generalize x.shortest = s at *
  refine congrArg (fun body : List Char => if x.negative = true then '-' :: body else body) ?_
  unfold ofDecimal
  dsimp only
  split
  · split
    · rw [digitChars_values fun c hc => (List.mem_append.mp hc).elim (hdigits c) isDigit_replicate]
      rfl
    · rw [digitChars_values fun c hc => hdigits c (List.mem_of_mem_take hc), fractionText,
        digitChars_values fun c hc => hdigits c (List.mem_of_mem_drop hc), exponentText,
        List.append_nil]
  · split
    · rw [fractionText, digitChars_values fun c hc => (List.mem_append.mp hc).elim
        isDigit_replicate (hdigits c), exponentText, List.append_nil]
      rfl
    · rw [text_exponent, ← List.append_assoc]
      exact congrArg (· ++ _) (text_mantissa _ hdigits)

lemma digits_zero : Digits [0] := ⟨by decide, by decide⟩

lemma wellFormed_ofFloat (x : Binary64) : (ofFloat x).WellFormed := by
  have hstands := stands_shortest x
  unfold ofFloat ofDecimal
  generalize x.shortest = s at *
  have hdigits := hstands.digits
  have hne := hstands.nonempty
  dsimp only
  -- The layouts in the order of `floatChars`: no digit behind the point, digits on both sides of
  -- it, none before it, and an exponent.
  split
  · split
    · next hpoint hshort =>
      refine ⟨digits_values (by simp [hne]) fun c hc =>
        (List.mem_append.mp hc).elim (hdigits c) isDigit_replicate, ?_, ?_, by rintro _ ⟨⟩⟩
      · rcases hstands.leading with hhead | ⟨hzero, hexponent⟩
        · refine .inr (leading_of_head (fun c hc => (List.mem_append.mp hc).elim (hdigits c)
            isDigit_replicate) ?_)
          rwa [List.head?_append_of_ne_nil _ hne]
        · rw [hzero, hexponent]
          exact .inl rfl
      · rintro _ ⟨⟩
        exact digits_zero
    · next hpoint hlong =>
      refine ⟨digits_values (by simp [hne]) fun c hc => hdigits c (List.mem_of_mem_take hc),
        .inr (leading_of_head (fun c hc => hdigits c (List.mem_of_mem_take hc)) ?_), ?_,
        by rintro _ ⟨⟩⟩
      · rcases hstands.leading with hhead | ⟨hzero, -⟩
        · rwa [List.head?_take, if_neg (Nat.succ_ne_zero _)]
        · rw [hzero, List.length_singleton] at hlong
          omega
      · rintro _ ⟨⟩
        exact digits_values (mt List.drop_eq_nil_iff.mp hlong) fun c hc =>
          hdigits c (List.mem_of_mem_drop hc)
  · split
    · refine ⟨digits_zero, .inl rfl, ?_, by rintro _ ⟨⟩⟩
      rintro _ ⟨⟩
      exact digits_values (by simp [hne]) fun c hc =>
        (List.mem_append.mp hc).elim isDigit_replicate (hdigits c)
    · next hpoint hbehind =>
      refine ⟨digits_values (by simp [hne]) fun c hc => hdigits c (List.mem_of_mem_take hc),
        .inr (leading_of_head (fun c hc => hdigits c (List.mem_of_mem_take hc)) ?_), ?_, ?_⟩
      · rcases hstands.leading with hhead | ⟨-, hexponent⟩
        · rwa [List.head?_take, if_neg Nat.one_ne_zero]
        · rw [hexponent] at hpoint
          omega
      · intro ds hds
        dsimp only at hds
        split at hds
        · cases hds
        · next hmore =>
          cases hds
          exact digits_values (mt List.drop_eq_nil_iff.mp hmore) fun c hc =>
            hdigits c (List.mem_of_mem_drop hc)
      · rintro _ ⟨⟩
        exact digits_values Nat.toDigits_ne_nil fun _ hc => Text.isDigit_toDigits hc

lemma le_valueFrom (ds : List Nat) (start : Nat) :
    start ≤ ds.foldl (fun n d => n * 10 + d) start := by
  induction ds generalizing start with
  | nil => exact le_rfl
  | cons d ds ih => exact le_trans (by omega) (ih (start * 10 + d))

lemma takeBelow_all {bound : Nat} (ds : List Nat) (start : Nat)
    (h : ds.foldl (fun n d => n * 10 + d) start < bound) :
    takeBelow bound start ds = (ds.foldl (fun n d => n * 10 + d) start, ds.length) := by
  induction ds generalizing start with
  | nil => rfl
  | cons d ds ih =>
    have hfirst := (le_valueFrom ds (start * 10 + d)).trans_lt h
    rw [takeBelow, if_pos hfirst, ih (start * 10 + d) h]
    rfl

/-- A numeral whose digits fit a word is read with all of them. -/
lemma significand_eq {n : Numeral} {fraction : List Nat} (hfraction : n.fraction.getD [] = fraction)
    (h : valueOf (n.whole ++ fraction) < Word.limit64) :
    n.significand = (valueOf (n.whole ++ fraction), -(fraction.length : Int)) := by
  rw [valueOf, List.foldl_append] at h ⊢
  have hwhole := takeBelow_all n.whole 0 ((le_valueFrom fraction _).trans_lt h)
  simp only [significand, hfraction, hwhole, takeBelow_all fraction _ h, Nat.sub_self,
    Nat.cast_zero, zero_sub]

lemma word_lt {v : Nat} (h : v < Word.limit64) : (v : ℚ) < 2 ^ 64 := by
  have hlimit : Word.limit64 = 2 ^ 64 := by decide
  rw [hlimit] at h
  exact_mod_cast h

lemma ofRatio_word {v : Nat} (h : v < Word.limit64) :
    ∃ y, ofRatio? false v 1 = some y ∧ Near v y.magnitude := by
  have hcast : (v : ℚ) / (1 : Nat) = v := by rw [Nat.cast_one, div_one]
  have hlt : (v : ℚ) / (1 : Nat) < overflowBound := by
    rw [hcast]
    exact room ((word_lt h).le.trans (by norm_num))
  have hround := ofRatio_near false _ Nat.one_pos hlt
  rwa [hcast] at hround

/-- A word is scaled down by any power of ten. -/
lemma scaled_down {v : Nat} {e : Int} (h : v < Word.limit64) (he : e ≤ 0) :
    ∃ y z, ofRatio? false v 1 = some y ∧ y.scaleByTen? e 8 = some z := by
  obtain ⟨y, hy, hnear⟩ := ofRatio_word h
  have htwice := hnear.le_twice (Nat.cast_nonneg v)
  have hlt := word_lt h
  obtain ⟨z, hz⟩ := scaleByTen_down y e 8 (by linarith) he
  exact ⟨y, z, hy, hz⟩

lemma le_of_room {v : Nat} {e : Int} (hv : 0 < v)
    (hroom : v * 10 ^ e * (slack * slack) < overflowBound) : e ≤ 308 := by
  by_contra hlarge
  obtain ⟨e, rfl⟩ := Int.eq_ofNat_of_zero_le (a := e) (by omega)
  have hone : (1 : ℚ) ≤ v := mod_cast hv
  have hslack := one_le_slack
  have hle := le_of_tenPow_lt (e := e) (by
    refine lt_of_le_of_lt ?_ hroom
    rw [zpow_natCast]
    calc (10 : ℚ) ^ e = 1 * 10 ^ e * (1 * 1) := by ring
      _ ≤ v * 10 ^ e * (slack * slack) := by gcongr)
  omega

/-- A word is scaled up as far as there is room for rounding twice. -/
lemma scaled_up {v : Nat} {e : Int} (h : v < Word.limit64) (hv : 0 < v) (he : 0 ≤ e)
    (hroom : v * 10 ^ e * (slack * slack) < overflowBound) :
    ∃ y z, ofRatio? false v 1 = some y ∧ y.scaleByTen? e 8 = some z := by
  have hexponent := le_of_room hv hroom
  obtain ⟨e, rfl⟩ := Int.eq_ofNat_of_zero_le he
  rw [zpow_natCast] at hroom
  obtain ⟨y, hy, hnear⟩ := ofRatio_word h
  have hproduct : y.magnitude * (10 ^ e * slack) < overflowBound := by
    have hslack := one_le_slack
    refine lt_of_le_of_lt ?_ hroom
    calc y.magnitude * (10 ^ e * slack) ≤ v * slack * (10 ^ e * slack) := by
          gcongr
          exact hnear.le_slack (mod_cast hv)
      _ = v * 10 ^ e * (slack * slack) := by ring
  obtain ⟨z, hz⟩ := scaleByTen_up 8 (by omega) hproduct
  exact ⟨y, z, hy, hz⟩

lemma toFloat_plain {n : Numeral} {fraction : List Nat} (hexponent : n.exponent = none)
    (hfraction : n.fraction.getD [] = fraction)
    (hword : valueOf (n.whole ++ fraction) < Word.limit64) : ∃ y, n.toFloat? = some y := by
  obtain ⟨y, z, hy, hz⟩ := scaled_down (e := -(fraction.length : Int)) hword (by omega)
  simp only [toFloat?, hexponent, significand_eq hfraction hword, hy, hz, Option.bind_eq_bind,
    Option.bind_some]
  exact ⟨_, rfl⟩

lemma toFloat_exponent {n : Numeral} (fraction : List Nat) {e : Int}
    (hexponent : n.exponent = some ⟨decide (e < 0), values (Nat.toDigits 10 e.natAbs)⟩)
    (hfraction : n.fraction.getD [] = fraction)
    (hword : valueOf (n.whole ++ fraction) < Word.limit64) (hrange : e < Word.limit31)
    (hscaled : ∃ y z, ofRatio? false (valueOf (n.whole ++ fraction)) 1 = some y ∧
      y.scaleByTen? (e - fraction.length) 8 = some z) : ∃ y, n.toFloat? = some y := by
  obtain ⟨y, z, hy, hz⟩ := hscaled
  have hwritten : valueOf (values (Nat.toDigits 10 e.natAbs)) = e.natAbs := by
    rw [valueOf_values, Text.ofDigits_toDigits]
  have hpower : (if e < 0 then -(fraction.length : Int) - e.natAbs
      else -(fraction.length : Int) + e.natAbs) = e - fraction.length := by
    split <;> omega
  simp only [toFloat?, hexponent, significand_eq hfraction hword, hwritten, hy, decide_eq_true_eq,
    Bool.not_eq_eq_eq_not, Bool.not_true, decide_eq_false_iff_not, hpower,
    Option.bind_eq_bind, Option.bind_some]
  by_cases hsmall : e.natAbs < Word.limit31
  · rw [if_pos hsmall, hz]
    exact ⟨_, rfl⟩
  · have hnegative : e < 0 := by omega
    simp only [if_neg hsmall, hnegative, not_true_eq_false, and_false, if_false]
    exact ⟨_, rfl⟩

lemma room_of_mantissa {m p u : ℚ} (hp : 0 < p) (hu : 0 < u)
    (h : m ≤ 2 ^ 53 ∧ p ≤ u ∨ m ≤ 2 ^ 53 - 9 ∧ p ≤ 2 * u) :
    (m + 1 / 2) * p * (slack * slack) < (2 ^ 54 - 1) * u := by
  have hslack : slack * slack * (2 ^ 54 - 17) < 2 ^ 54 - 1 := by norm_num [slack]
  have hone := one_le_slack
  have hle : (m + 1 / 2) * p ≤ (2 ^ 54 - 17) * u := by
    rcases h with ⟨hmantissa, hpower⟩ | ⟨hmantissa, hpower⟩
    · calc (m + 1 / 2) * p ≤ (2 ^ 53 + 1 / 2) * u := by gcongr
        _ ≤ (2 ^ 54 - 17) * u := by gcongr; norm_num
    · calc (m + 1 / 2) * p ≤ (2 ^ 53 - 9 + 1 / 2) * (2 * u) := by gcongr
        _ = (2 ^ 54 - 17) * u := by ring
  calc (m + 1 / 2) * p * (slack * slack) ≤ (2 ^ 54 - 17) * u * (slack * slack) := by gcongr
    _ = slack * slack * (2 ^ 54 - 17) * u := by ring
    _ < (2 ^ 54 - 1) * u := by gcongr

/-- Below the eight greatest mantissas there is room for rounding twice. -/
lemma room_below_top {x : Binary64} (h : x.exponent ≤ 970 ∨ x.mantissa < mantissaLimit - 8) :
    ((x.mantissa + 1 / 2) * 2 ^ x.exponent * (slack * slack) : ℚ) < overflowBound := by
  have hlimit : mantissaLimit = 2 ^ 53 := by decide
  refine room_of_mantissa (by positivity) (by positivity) ?_
  rcases h with hexponent | hmantissa
  · refine .inl ⟨?_, zpow_le_zpow_right₀ (by norm_num) hexponent⟩
    have := x.mantissa_lt.le
    rw [hlimit] at this
    exact_mod_cast this
  · refine .inr ⟨?_, ?_⟩
    · rw [hlimit] at hmantissa
      have : ((x.mantissa + 9 : Nat) : ℚ) ≤ (2 ^ 53 : Nat) := Nat.cast_le.mpr (by omega)
      push_cast at this
      linarith
    · rw [← zpow_one_add₀ (by norm_num)]
      exact zpow_le_zpow_right₀ (by norm_num) x.exponent_le

-- The estimate leaves out the eight greatest magnitudes. They are read by computation.
lemma toFloat_top : ∀ (negative : Bool) (i : Fin 8),
    ((make? negative (9007199254740991 - i) 971).all fun x => (ofFloat x).toFloat?.isSome) =
      true := by
  decide +kernel

lemma make_self (x : Binary64) : make? x.negative x.mantissa x.exponent = some x :=
  dif_pos ⟨x.mantissa_lt, x.exponent_ge, x.exponent_le, x.normal⟩

lemma eq_top {x : Binary64} (hexponent : 970 < x.exponent)
    (hmantissa : mantissaLimit - 8 ≤ x.mantissa) :
    ∃ i : Fin 8, make? x.negative (9007199254740991 - i) 971 = some x := by
  have hlt := x.mantissa_lt
  have hlimit : mantissaLimit = 9007199254740992 := rfl
  have hgreatest : x.exponent = 971 := le_antisymm x.exponent_le hexponent
  refine ⟨⟨9007199254740991 - x.mantissa, by omega⟩, ?_⟩
  have hdistance : 9007199254740991 - (9007199254740991 - x.mantissa) = x.mantissa := by omega
  rw [hdistance, ← hgreatest, make_self]

/-! ### Every number -/

lemma ofDigits_pos {cs : List Char} (hne : cs ≠ []) (hdigits : ∀ c ∈ cs, c.isDigit = true)
    (hhead : cs.head? ≠ some '0') : 0 < Text.ofDigits cs := by
  obtain ⟨c, cs, rfl⟩ := List.exists_cons_of_ne_nil hne
  have hc := hdigits c List.mem_cons_self
  have hfirst : 0 < Text.digitValue c := by
    refine Nat.pos_of_ne_zero fun hzero => hhead ?_
    rw [← Text.digitChar_digitValue hc, hzero]
    rfl
  have hle := le_valueFrom (values cs) (Text.digitValue c)
  rw [← valueOf_values]
  simp only [valueOf, values, List.map_cons, List.foldl_cons, Nat.zero_mul, Nat.zero_add] at hle ⊢
  omega

lemma values_append (cs ds : List Char) : values (cs ++ ds) = values cs ++ values ds :=
  List.map_append

/-- Every finite number is read again as some number. -/
theorem toFloat_ofFloat (x : Binary64) : ∃ y, (ofFloat x).toFloat? = some y := by
  by_cases htop : 970 < x.exponent ∧ mantissaLimit - 8 ≤ x.mantissa
  · obtain ⟨i, hi⟩ := eq_top htop.1 htop.2
    have hread := toFloat_top x.negative i
    rw [hi, Option.all_some] at hread
    exact Option.isSome_iff_exists.mp hread
  have hroom := room_below_top (x := x) (by omega)
  have hstands := stands_shortest x
  unfold ofFloat ofDecimal
  generalize x.shortest = s at *
  have hdigits := hstands.digits
  have hzero : [0] = values ['0'] := rfl
  dsimp only
  split
  · split
    · next hpoint hshort =>
      refine toFloat_plain rfl rfl ?_
      rw [Option.getD_some, hzero, ← values_append, valueOf_values, List.append_assoc,
        ← List.replicate_succ']
      refine (Text.ofDigits_lt fun c hc => (List.mem_append.mp hc).elim (hdigits c)
        isDigit_replicate).trans_le ?_
      rw [List.length_append, List.length_replicate]
      exact (Nat.pow_le_pow_right (by decide) (by omega : _ ≤ 17)).trans (by decide)
    · refine toFloat_plain rfl rfl ?_
      rw [Option.getD_some, ← values_append, List.take_append_drop, valueOf_values]
      exact hstands.word
  · split
    · refine toFloat_plain rfl rfl ?_
      rw [Option.getD_some, hzero, ← values_append, valueOf_values, ← List.append_assoc]
      change Text.ofDigits (List.replicate _ '0' ++ s.digits) < _
      rw [Text.ofDigits_zeros_append]
      exact hstands.word
    · next hpoint hbehind =>
      have hlength : ((values (s.digits.drop 1)).length : Int) = s.digits.length - 1 := by
        have hpos := List.length_pos_iff.mpr hstands.nonempty
        simp only [values, List.length_map, List.length_drop]
        omega
      have hvalue : valueOf (values (s.digits.take 1) ++ values (s.digits.drop 1)) =
          Text.ofDigits s.digits := by
        rw [← values_append, List.take_append_drop, valueOf_values]
      have hpos : 0 < Text.ofDigits s.digits := by
        refine ofDigits_pos hstands.nonempty hdigits (hstands.leading.resolve_right ?_)
        rintro ⟨-, hexponent⟩
        omega
      have hroom := (mul_le_mul_of_nonneg_right hstands.value
        (mul_self_nonneg slack)).trans_lt hroom
      have hle := le_of_room hpos hroom
      have hshort := hstands.short
      have hrange : s.exponent < Word.limit31 := by
        have : Word.limit31 = 2147483648 := rfl
        omega
      refine toFloat_exponent (values (s.digits.drop 1)) rfl ?_ ?_ hrange ?_
      · split
        · next hsingle => rw [List.drop_eq_nil_iff.mpr hsingle]; rfl
        · rfl
      · rw [hvalue]
        exact hstands.word
      · rw [hvalue, hlength]
        rcases le_total (s.exponent - (s.digits.length - 1)) 0 with hdown | hup
        · exact scaled_down hstands.word hdown
        · exact scaled_up hstands.word hpos hup hroom

end Numeral
end Json

namespace Number

open Json

/-- The numeral with which a number is written. -/
def numeral : Number → Numeral
  | .integer i => .ofInteger i
  | .float x => .ofFloat x

/-- The number that is read where this one has been written. -/
def reread (n : Number) : Option Number :=
  n.numeral.toNumber?

/-- Whether a number is a fraction, or an integer that 64 bits hold. -/
def IsWord : Number → Prop
  | .integer i => -(Word.limit63 : Int) ≤ i ∧ i < Word.limit64
  | .float _ => True

/-- Whether a number is an integer that 64 bits hold. -/
def IsInteger : Number → Prop
  | .integer i => -(Word.limit63 : Int) ≤ i ∧ i < Word.limit64
  | .float _ => False

lemma text_numeral (n : Number) : n.numeral.text = numberChars n := by
  cases n with
  | integer i => exact Numeral.text_ofInteger i
  | float x => exact Numeral.text_ofFloat x

lemma wellFormed_numeral (n : Number) : n.numeral.WellFormed := by
  cases n with
  | integer i => exact Numeral.wellFormed_ofInteger i
  | float x => exact Numeral.wellFormed_ofFloat x

lemma reread_integer {i : Int} (hlow : -(Word.limit63 : Int) ≤ i) (hhigh : i < Word.limit64) :
    reread (.integer i) = some (.integer i) :=
  Numeral.toNumber_ofInteger hlow hhigh

lemma IsInteger.reread {n : Number} (h : n.IsInteger) : n.reread = some n := by
  cases n with
  | integer i => exact reread_integer h.1 h.2
  | float x => exact h.elim

/-- Every number that a text can hold is read again as some number. -/
theorem reread_isSome {n : Number} (h : n.IsWord) : ∃ m, n.reread = some m := by
  cases n with
  | integer i => exact ⟨_, reread_integer h.1 h.2⟩
  | float x =>
    obtain ⟨y, hy⟩ := Numeral.toFloat_ofFloat x
    rw [reread, numeral, Numeral.toNumber?]
    split
    · exact ⟨_, rfl⟩
    · exact ⟨_, by rw [hy]; rfl⟩

end Number
end AuditTrail
