import Mathlib.Algebra.Order.Field.Power
import Mathlib.Data.Int.Log
import Mathlib.Data.Rat.Floor
import Mathlib.Tactic.NormNum
import Mathlib.Tactic.Positivity
import Mathlib.Tactic.Ring
import ReversePolish.Number.Binary64

/-!
# Rounding to double precision

The pattern nearest to a quotient is found by scaling numerator and denominator and dividing them
with a remainder. This module says what that gives in terms of the quotient as a rational number.

- `floorLog2_eq`: the power of two that a quotient reaches;
- `nearest_congr`: the nearest pattern depends on the quotient alone;
- `nearest_value`: a quotient that is the value of a pattern is rounded to that pattern;
- `ofDecimal_eq_nearest`: where powers of ten are too large or too small to be written out, the
  answer is what rounding would give;
- `ofDecimal_congr`, `ofDecimal_eq_of_value`: the same for decimals.
-/

namespace ReversePolish.Binary64

/-! ## Scaled quotients -/

/-- Scaling the parts of a quotient by opposite powers scales the quotient. -/
theorem scaled_div_scaled {base : Nat} (positive : 0 < base) (num den : Nat) (e : Int) :
    (scaled base num e : ℚ) / scaled base den (-e) = num / den * (base : ℚ) ^ e := by
  have notZero : (base : ℚ) ≠ 0 := by positivity
  unfold scaled
  change ((num * base ^ e.toNat : Nat) : ℚ) / (den * base ^ (-e).toNat : Nat) = _
  push_cast
  -- One of the two powers is one.
  rcases Int.le_total 0 e with h | h
  · obtain ⟨n, rfl⟩ := Int.eq_ofNat_of_zero_le h
    simp [mul_div_right_comm]
  · obtain ⟨n, hn⟩ := Int.eq_ofNat_of_zero_le (show 0 ≤ -e by omega)
    obtain rfl : e = -(n : Int) := by omega
    simp [zpow_neg, div_eq_mul_inv, mul_comm, mul_left_comm]

theorem scaled_le_scaled_iff {num den : Nat} (hden : 0 < den) (e : Int) :
    scaled 2 den e ≤ scaled 2 num (-e) ↔ (2 : ℚ) ^ e ≤ num / den := by
  have quotient := scaled_div_scaled (by decide : 0 < 2) num den (-e)
  have pos : (0 : ℚ) < scaled 2 den (- -e) := by
    exact_mod_cast scaled_pos (by decide) hden _
  rw [neg_neg] at quotient pos
  rw [← Nat.cast_le (α := ℚ), ← one_le_div pos, quotient, zpow_neg, ← div_eq_mul_inv,
    Nat.cast_ofNat, one_le_div (zpow_pos (by norm_num) e)]

/-- The scaled quotient that is rounded to the significand. -/
theorem scaled_quotient (num den : Nat) (e : Int) :
    (scaled 2 num (-e) : ℚ) / scaled 2 den e = num / den / (2 : ℚ) ^ e := by
  have quotient := scaled_div_scaled (by decide : 0 < 2) num den (-e)
  rw [neg_neg] at quotient
  rw [quotient, zpow_neg, ← div_eq_mul_inv, Nat.cast_ofNat]

/-! ## The power of two that a quotient reaches -/

/-- A quotient of positive numbers lies within a factor of two of the quotient of the powers of two
that they reach. -/
theorem log2_quotient_bounds {num den : Nat} (hnum : 0 < num) (hden : 0 < den) :
    (2 : ℚ) ^ ((Nat.log2 num : Int) - Nat.log2 den - 1) ≤ num / den ∧
      (num / den : ℚ) < 2 ^ ((Nat.log2 num : Int) - Nat.log2 den + 1) := by
  have positive : (0 : ℚ) < den := by exact_mod_cast hden
  have two : (2 : ℚ) ≠ 0 := by norm_num
  have numLow : (2 : ℚ) ^ Nat.log2 num ≤ num := by
    exact_mod_cast Nat.log2_self_le hnum.ne'
  have numHigh : (num : ℚ) < 2 ^ (Nat.log2 num + 1) := by
    exact_mod_cast Nat.lt_log2_self
  have denLow : (2 : ℚ) ^ Nat.log2 den ≤ den := by
    exact_mod_cast Nat.log2_self_le hden.ne'
  have denHigh : (den : ℚ) < 2 ^ (Nat.log2 den + 1) := by
    exact_mod_cast Nat.lt_log2_self
  constructor
  · rw [le_div_iff₀ positive]
    calc (2 : ℚ) ^ ((Nat.log2 num : Int) - Nat.log2 den - 1) * den
        ≤ 2 ^ ((Nat.log2 num : Int) - Nat.log2 den - 1) * 2 ^ (Nat.log2 den + 1) := by gcongr
      _ = 2 ^ Nat.log2 num := by
        rw [← zpow_natCast, ← zpow_add₀ two, ← zpow_natCast]
        congr 1
        push_cast
        ring
      _ ≤ num := numLow
  · rw [div_lt_iff₀ positive]
    calc (num : ℚ) < 2 ^ (Nat.log2 num + 1) := numHigh
      _ = 2 ^ ((Nat.log2 num : Int) - Nat.log2 den + 1) * 2 ^ Nat.log2 den := by
        rw [← zpow_natCast, ← zpow_natCast, ← zpow_add₀ two]
        congr 1
        push_cast
        ring
      _ ≤ 2 ^ ((Nat.log2 num : Int) - Nat.log2 den + 1) * den := by gcongr

/-- The powers of two that a quotient reaches. -/
theorem le_log_iff {q : ℚ} (positive : 0 < q) {e : Int} : e ≤ Int.log 2 q ↔ (2 : ℚ) ^ e ≤ q := by
  rw [← Int.zpow_le_iff_le_log one_lt_two positive, Nat.cast_ofNat]

/-- The powers of two that a quotient stays below. -/
theorem log_lt_iff {q : ℚ} (positive : 0 < q) {e : Int} : Int.log 2 q < e ↔ q < (2 : ℚ) ^ e := by
  rw [← Int.lt_zpow_iff_log_lt one_lt_two positive, Nat.cast_ofNat]

/-- The power of two that is found is the logarithm of the quotient. -/
theorem floorLog2_eq {num den : Nat} (hnum : 0 < num) (hden : 0 < den) :
    floorLog2 num den = Int.log 2 (num / den : ℚ) := by
  have positive : (0 : ℚ) < num / den := by positivity
  obtain ⟨low, high⟩ := log2_quotient_bounds hnum hden
  rw [← le_log_iff positive] at low
  rw [← log_lt_iff positive] at high
  rw [floorLog2]
  -- The estimate is the logarithm or one more, and which of the two is what the comparison tells.
  by_cases reached : (2 : ℚ) ^ ((Nat.log2 num : Int) - Nat.log2 den) ≤ num / den
  · rw [if_pos ((scaled_le_scaled_iff hden _).2 reached)]
    rw [← le_log_iff positive] at reached
    omega
  · rw [if_neg (mt (scaled_le_scaled_iff hden _).1 reached)]
    rw [← le_log_iff positive] at reached
    omega

/-- The significand of a quotient is counted in the last of 53 bits, or in the least power. -/
theorem scale_eq {num den : Nat} (hnum : 0 < num) (hden : 0 < den) :
    scale num den = max (Int.log 2 (num / den : ℚ) - 52) (-1074) := by
  rw [scale, floorLog2_eq hnum hden]

/-- The quotients below the least normal double all have the least scale. -/
theorem scale_of_small {num den : Nat} (hnum : 0 < num) (hden : 0 < den)
    (small : (num / den : ℚ) < 2 ^ (-1022 : Int)) : scale num den = -1074 := by
  have positive : (0 : ℚ) < num / den := by positivity
  rw [← log_lt_iff positive] at small
  rw [scale_eq hnum hden]
  omega

/-! ## Rounding a quotient -/

/-- Numerator and denominator may have a common factor. -/
theorem roundHalfEven_mul {c : Nat} (hc : 0 < c) (num den : Nat) :
    roundHalfEven (c * num) (c * den) = roundHalfEven num den := by
  have double : 2 * (c * (num % den)) = c * (2 * (num % den)) := by ring
  simp only [roundHalfEven, Nat.mul_mod_mul_left, Nat.mul_div_mul_left _ _ hc, double,
    Nat.mul_lt_mul_left hc]

/-- Rounding depends on the quotient alone. -/
theorem roundHalfEven_congr {num den num' den' : Nat} (hden : 0 < den) (hden' : 0 < den')
    (same : (num / den : ℚ) = num' / den') : roundHalfEven num den = roundHalfEven num' den' := by
  have cross : num * den' = num' * den := by
    have rational := (div_eq_div_iff (by positivity) (by positivity)).1 same
    exact_mod_cast rational
  calc roundHalfEven num den = roundHalfEven (den' * num) (den' * den) :=
        (roundHalfEven_mul hden' num den).symm
    _ = roundHalfEven (den * num') (den * den') := by
        rw [mul_comm den' num, cross, mul_comm num' den, mul_comm den' den]
    _ = roundHalfEven num' den' := roundHalfEven_mul hden num' den'

/-- A natural number is rounded to itself. -/
theorem roundHalfEven_eq_of_quotient {num den n : Nat} (hden : 0 < den)
    (exact : (num / den : ℚ) = n) : roundHalfEven num den = n := by
  have same : (num / den : ℚ) = n / (1 : Nat) := by
    rw [exact, Nat.cast_one, div_one]
  rw [roundHalfEven_congr hden one_pos same]
  simp [roundHalfEven, Nat.mod_one]

/-- Rounding never goes below the natural numbers that a quotient reaches. -/
theorem le_roundHalfEven {num den n : Nat} (hden : 0 < den) (reached : (n : ℚ) ≤ num / den) :
    n ≤ roundHalfEven num den := by
  have below : n ≤ num / den := by
    rw [Nat.le_div_iff_mul_le hden]
    rw [le_div_iff₀ (by positivity)] at reached
    exact_mod_cast reached
  rw [roundHalfEven]
  split
  · exact below
  · split <;> omega

/-- Rounding gives one of the two neighbours. -/
theorem roundHalfEven_eq_or (num den : Nat) :
    roundHalfEven num den = num / den ∨ roundHalfEven num den = num / den + 1 := by
  rw [roundHalfEven]
  split
  · exact .inl rfl
  · split
    · exact .inr rfl
    · omega

/-- Less than a half is rounded to zero. -/
theorem roundHalfEven_eq_zero {num den : Nat} (hden : 0 < den) (small : (num / den : ℚ) < 1 / 2) :
    roundHalfEven num den = 0 := by
  rw [div_lt_div_iff₀ (by positivity) two_pos, one_mul] at small
  have double : num * 2 < den := by exact_mod_cast small
  rw [roundHalfEven, Nat.mod_eq_of_lt (by omega), if_pos (by omega), Nat.div_eq_of_lt (by omega)]

/-! ## The nearest pattern -/

/-- The nearest pattern depends on the quotient alone. -/
theorem nearest_congr {num den num' den' : Nat} (hden : 0 < den) (hden' : 0 < den')
    (same : (num / den : ℚ) = num' / den') : nearest num den = nearest num' den' := by
  have cross : num * den' = num' * den := by
    have rational := (div_eq_div_iff (by positivity) (by positivity)).1 same
    exact_mod_cast rational
  -- A quotient is zero in all of its forms.
  have zero : num = 0 ↔ num' = 0 := by
    constructor <;> rintro rfl
    · have product : num' * den = 0 := by rw [← cross, zero_mul]
      exact (Nat.mul_eq_zero.1 product).resolve_right hden.ne'
    · have product : num * den' = 0 := by rw [cross, zero_mul]
      exact (Nat.mul_eq_zero.1 product).resolve_right hden'.ne'
  by_cases none : num = 0
  · rw [nearest, nearest, if_pos none, if_pos (zero.1 none)]
  · -- Scale and rounded significand both come from the quotient.
    have scales : scale num den = scale num' den' := by
      rw [scale_eq (Nat.pos_of_ne_zero none) hden, same,
        scale_eq (Nat.pos_of_ne_zero (mt zero.2 none)) hden']
    have rounded : roundHalfEven (scaled 2 num (-scale num den)) (scaled 2 den (scale num den)) =
        roundHalfEven (scaled 2 num' (-scale num den)) (scaled 2 den' (scale num den)) := by
      refine roundHalfEven_congr (scaled_pos (by decide) hden _) (scaled_pos (by decide) hden' _) ?_
      rw [scaled_quotient, scaled_quotient, same]
    rw [nearest, nearest, if_neg none, if_neg (mt zero.2 none), ← scales]
    simp only [rounded]

/-- The nearest pattern, where the scale and the rounded quotient are known. -/
theorem nearest_eq {num den m : Nat} {e : Int} (hnum : 0 < num) (hscale : scale num den = e)
    (rounded : roundHalfEven (scaled 2 num (-e)) (scaled 2 den e) = m) :
    nearest num den = min ((e + 1074).toNat * leadingBit + m) infinity := by
  rw [nearest, if_neg hnum.ne']
  simp only [hscale, rounded]

/-! ## The values of patterns -/

/-- The value of a pattern as a rational number. -/
theorem value_eq (k : Nat) :
    (numerator k / denominator k : ℚ) = significand k * (2 : ℚ) ^ exponent k := by
  rw [numerator, denominator, scaled_div_scaled (by decide)]
  simp

theorem significand_pos {k : Nat} (hk : 0 < k) : 0 < significand k := by
  rw [significand]
  split
  · exact hk
  · exact Nat.add_pos_left (by decide) _

theorem numerator_pos {k : Nat} (hk : 0 < k) : 0 < numerator k :=
  scaled_pos (by decide) (significand_pos hk) _

/-- A pattern is its significand, and a leading bit for each step of its exponent above the least.
Above the least exponent the significand has its leading bit. -/
theorem exists_fields (k : Nat) : ∃ steps : Nat, exponent k = (steps : Int) - 1074 ∧
    k = steps * leadingBit + significand k ∧ significand k < 2 * leadingBit ∧
      (steps = 0 ∨ leadingBit ≤ significand k) := by
  rw [exponent, significand]
  by_cases subnormal : k < leadingBit
  · refine ⟨0, by rw [if_pos subnormal]; rfl, ?_⟩
    rw [if_pos subnormal]
    omega
  · refine ⟨k / leadingBit - 1, ?_⟩
    rw [if_neg subnormal, if_neg subnormal]
    simp only [leadingBit] at *
    omega

/-- The significand of a pattern is counted in the power of two that its value is written with. -/
theorem scale_value {k : Nat} (hk : 0 < k) : scale (numerator k) (denominator k) = exponent k := by
  obtain ⟨steps, power, -, bound, leading⟩ := exists_fields k
  have positive : (0 : ℚ) < numerator k / denominator k :=
    div_pos (by exact_mod_cast numerator_pos hk) (by exact_mod_cast denominator_pos k)
  have high : Int.log 2 (numerator k / denominator k : ℚ) < 53 + exponent k := by
    have bound' : (significand k : ℚ) < 2 ^ (53 : Int) := by exact_mod_cast bound
    rw [log_lt_iff positive, value_eq, zpow_add₀ two_ne_zero]
    gcongr
  rw [scale_eq (numerator_pos hk) (denominator_pos k)]
  rcases leading with least | leading
  · -- The significand has at most 53 bits, so that the least scale applies.
    omega
  · -- The significand has exactly 53 bits.
    have low : 52 + exponent k ≤ Int.log 2 (numerator k / denominator k : ℚ) := by
      have leading' : (2 : ℚ) ^ (52 : Int) ≤ significand k := by exact_mod_cast leading
      rw [le_log_iff positive, value_eq, zpow_add₀ two_ne_zero]
      gcongr
    omega

/-- The value of a pattern is rounded to the pattern. -/
theorem nearest_value {k : Nat} (finite : k < infinity) :
    nearest (numerator k) (denominator k) = k := by
  rcases Nat.eq_zero_or_pos k with rfl | hk
  · decide
  · -- In its own scale the value is its significand, and nothing is rounded away.
    have exact : roundHalfEven (scaled 2 (numerator k) (-exponent k))
        (scaled 2 (denominator k) (exponent k)) = significand k := by
      refine roundHalfEven_eq_of_quotient (scaled_pos (by decide) (denominator_pos k) _) ?_
      rw [scaled_quotient, value_eq, mul_div_cancel_right₀ _ (zpow_ne_zero _ two_ne_zero)]
    have pattern : (exponent k + 1074).toNat * leadingBit + significand k = k := by
      obtain ⟨steps, power, pattern, -⟩ := exists_fields k
      have count : (exponent k + 1074).toNat = steps := by omega
      rw [count, ← pattern]
    rw [nearest_eq (numerator_pos hk) (scale_value hk) exact, pattern, Nat.min_eq_left finite.le]

/-! ## Decimals -/

/-- From `2 ^ 1024` on the nearest pattern is infinity. -/
theorem nearest_of_large {num den : Nat} (hnum : 0 < num) (hden : 0 < den)
    (large : (2 : ℚ) ^ (1024 : Int) ≤ num / den) : nearest num den = infinity := by
  have positive : (0 : ℚ) < num / den := by positivity
  have reached := (le_log_iff positive).2 large
  have scales := scale_eq hnum hden
  -- The significand has its leading bit, and the scale is beyond the greatest.
  have leading : leadingBit ≤
      roundHalfEven (scaled 2 num (-scale num den)) (scaled 2 den (scale num den)) := by
    refine le_roundHalfEven (scaled_pos (by decide) hden _) ?_
    rw [scaled_quotient, le_div_iff₀ (by positivity)]
    have power : (leadingBit : ℚ) * 2 ^ scale num den = 2 ^ (scale num den + 52) := by
      rw [zpow_add₀ two_ne_zero, mul_comm]
      norm_num [leadingBit]
    rw [power, ← le_log_iff positive]
    omega
  have beyond : 2046 * leadingBit ≤ (scale num den + 1074).toNat * leadingBit :=
    Nat.mul_le_mul_right _ (by omega)
  rw [nearest_eq hnum rfl rfl, Nat.min_eq_right]
  rw [infinity]
  omega

/-- Below half of the least double the nearest pattern is zero. -/
theorem nearest_of_small {num den : Nat} (hden : 0 < den)
    (small : (num / den : ℚ) < 2 ^ (-1075 : Int)) : nearest num den = 0 := by
  rcases Nat.eq_zero_or_pos num with rfl | hnum
  · rfl
  · have least : scale num den = -1074 := by
      refine scale_of_small hnum hden (small.trans ?_)
      exact zpow_lt_zpow_right₀ one_lt_two (by decide)
    have rounded : roundHalfEven (scaled 2 num (-(-1074))) (scaled 2 den (-1074)) = 0 := by
      refine roundHalfEven_eq_zero (scaled_pos (by decide) hden _) ?_
      rw [scaled_quotient, div_lt_iff₀ (by positivity)]
      exact small.trans_eq (by rw [one_div, ← zpow_neg_one, ← zpow_add₀ two_ne_zero]; rfl)
    rw [nearest_eq hnum least rounded]
    rfl

/-- The quotient that a decimal is read as. -/
theorem decimal_quotient (digits : Nat) (e : Int) :
    (scaled 10 digits e / scaled 10 1 (-e) : ℚ) = digits * (10 : ℚ) ^ e := by
  rw [scaled_div_scaled (by decide)]
  simp

private theorem two_pow_le_ten_pow : 2 ^ 1024 ≤ 10 ^ 310 := by
  decide +kernel

private theorem two_pow_lt_ten_pow : 2 ^ 1075 < 10 ^ 330 := by
  decide +kernel

/-- Reading a decimal is rounding it, also where the powers of ten are not written out. -/
theorem ofDecimal_eq_nearest (digits : Nat) (e : Int) :
    ofDecimal digits e = nearest (scaled 10 digits e) (scaled 10 1 (-e)) := by
  have denPos : 0 < scaled 10 1 (-e) := scaled_pos (by decide) one_pos _
  rw [ofDecimal]
  split
  · next none => simp [nearest, scaled, none]
  · next some =>
    have digitsPos : 0 < digits := Nat.pos_of_ne_zero some
    split
    · next large =>
      refine (nearest_of_large (scaled_pos (by decide) digitsPos _) denPos ?_).symm
      rw [decimal_quotient]
      calc (2 : ℚ) ^ (1024 : Int) ≤ 1 * 10 ^ (310 : Int) := by
            rw [one_mul]
            exact_mod_cast two_pow_le_ten_pow
        _ ≤ digits * 10 ^ e := by
          gcongr
          · exact_mod_cast digitsPos
          · norm_num
    · split
      · next small =>
        -- A number is less than ten to the number of its bits.
        refine (nearest_of_small denPos ?_).symm
        have powers : (digits : ℚ) < 10 ^ (Nat.log2 digits + 1) := by
          have high : digits < 2 ^ (Nat.log2 digits + 1) := Nat.lt_log2_self
          exact_mod_cast high.trans_le (Nat.pow_le_pow_left (by decide) _)
        rw [decimal_quotient]
        calc (digits : ℚ) * 10 ^ e < 10 ^ (Nat.log2 digits + 1) * 10 ^ e := by gcongr
          _ = 10 ^ (e + Nat.log2 digits + 1) := by
            rw [← zpow_natCast, ← zpow_add₀ (by norm_num)]
            congr 1
            push_cast
            ring
          _ ≤ 10 ^ (-330 : Int) := zpow_le_zpow_right₀ (by norm_num) small
          _ < 2 ^ (-1075 : Int) := by
            rw [zpow_neg, zpow_neg]
            exact inv_strictAnti₀ (by positivity) (by exact_mod_cast two_pow_lt_ten_pow)
      · rfl

/-- Decimals of one value are read as one pattern. -/
theorem ofDecimal_congr {digits digits' : Nat} {e e' : Int}
    (same : (digits * 10 ^ e : ℚ) = digits' * 10 ^ e') :
    ofDecimal digits e = ofDecimal digits' e' := by
  rw [ofDecimal_eq_nearest, ofDecimal_eq_nearest]
  refine nearest_congr (scaled_pos (by decide) one_pos _) (scaled_pos (by decide) one_pos _) ?_
  rw [decimal_quotient, decimal_quotient, same]

/-- A decimal that is the value of a pattern is read as the pattern. -/
theorem ofDecimal_eq_of_value {digits k : Nat} {e : Int} (finite : k < infinity)
    (value : (digits * 10 ^ e : ℚ) = numerator k / denominator k) : ofDecimal digits e = k := by
  have same : (scaled 10 digits e / scaled 10 1 (-e) : ℚ) = numerator k / denominator k := by
    rw [decimal_quotient, value]
  rw [ofDecimal_eq_nearest,
    nearest_congr (scaled_pos (by decide) one_pos _) (denominator_pos k) same,
    nearest_value finite]

end ReversePolish.Binary64
