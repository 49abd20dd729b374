import ReversePolish.Proofs.ExactValue

/-!
# The positional form of doubles

The shortest decimal of a double lies near its value, so that its first digit counts a power of ten
that the value tells. From this follows where the layout needs no power of ten: a double with a
fractional part is less than `2 ^ 52`, and from `0.0001` on it is written with its digits alone, in
the form in which numbers stand in expressions.

- `Shortest.leading_bounds`: the power of ten of the first digit of a value;
- `Shortest.decimal_bounds`: the shortest decimal lies between this power and twice the value;
- `Number.value_lt_of_not_isWhole`: doubles with a fractional part are small;
- `Number.exists_fullMagnitude_eq`: they have digits on both sides of a point, and nothing else.
-/

namespace ReversePolish

open Binary64

namespace Shortest

/-! ## Digits and powers of ten -/

theorem pow_digitCount_le {n : ℕ} (some : 0 < n) : 10 ^ (digitCount n - 1) ≤ n := by
  rcases Nat.eq_zero_or_pos (digitCount n - 1) with single | more
  · rw [single]
    exact some
  · rw [← Nat.not_lt, ← Nat.length_toDigits_le_iff (by decide) more]
    change ¬ digitCount n ≤ _
    omega

theorem lt_pow_digitCount (n : ℕ) : n < 10 ^ digitCount n :=
  (Nat.length_toDigits_le_iff (by decide) Nat.length_toDigits_pos).1 le_rfl

theorem digitCount_pos (n : ℕ) : 0 < digitCount n :=
  Nat.length_toDigits_pos

/-- The first digit of a quotient counts the greatest power of ten that the quotient reaches. -/
theorem leading_bounds {num den : ℕ} (hnum : 0 < num) (hden : 0 < den) :
    (10 : ℚ) ^ leading num den ≤ num / den ∧ (num / den : ℚ) < 10 ^ (leading num den + 1) := by
  have positive : (0 : ℚ) < den := by exact_mod_cast hden
  rw [leading]
  split
  · next reached =>
    -- The power is that of the natural number below the quotient.
    have some : 0 < num / den := Nat.div_pos reached hden
    have count : (digitCount (num / den) : ℤ) - 1 = (digitCount (num / den) - 1 : ℕ) :=
      (Nat.cast_pred (digitCount_pos _)).symm
    constructor
    · have low : 10 ^ (digitCount (num / den) - 1) * den ≤ num :=
        (Nat.le_div_iff_mul_le hden).1 (pow_digitCount_le some)
      rw [count, zpow_natCast, le_div_iff₀ positive]
      exact_mod_cast low
    · have high : num < 10 ^ digitCount (num / den) * den :=
        (Nat.div_lt_iff_lt_mul hden).1 (lt_pow_digitCount _)
      rw [sub_add_cancel, zpow_natCast, div_lt_iff₀ positive]
      exact_mod_cast high
  · next below =>
    -- The power is the reciprocal of the least one that brings the quotient up to one.
    have some : 0 < (den - 1) / num := Nat.div_pos (by omega) hnum
    have count : -(digitCount ((den - 1) / num) : ℤ) + 1 =
        -(digitCount ((den - 1) / num) - 1 : ℕ) := by
      have positive := digitCount_pos ((den - 1) / num)
      omega
    constructor
    · have low : den - 1 < 10 ^ digitCount ((den - 1) / num) * num :=
        (Nat.div_lt_iff_lt_mul hnum).1 (lt_pow_digitCount _)
      have low' : den ≤ num * 10 ^ digitCount ((den - 1) / num) := by
        rw [mul_comm]
        omega
      rw [zpow_neg, zpow_natCast, inv_le_iff_one_le_mul₀' (by positivity), ← mul_div_assoc,
        one_le_div positive, mul_comm]
      exact_mod_cast low'
    · have high : 10 ^ (digitCount ((den - 1) / num) - 1) * num ≤ den - 1 :=
        (Nat.le_div_iff_mul_le hnum).1 (pow_digitCount_le some)
      have high' : num * 10 ^ (digitCount ((den - 1) / num) - 1) < den := by
        rw [mul_comm]
        omega
      rw [count, zpow_neg, zpow_natCast, div_lt_iff₀ positive, ← div_eq_inv_mul,
        lt_div_iff₀ (by positivity)]
      exact_mod_cast high'

/-- The first digit of a number is counted in the power of ten that the number reaches. -/
theorem first_bounds {digits : ℕ} (some : 0 < digits) (e : ℤ) :
    (10 : ℚ) ^ (e + digitCount digits - 1) ≤ digits * 10 ^ e ∧
      (digits * 10 ^ e : ℚ) < 10 ^ (e + digitCount digits - 1 + 1) := by
  have count : e + digitCount digits - 1 = (digitCount digits - 1 : ℕ) + e := by
    have positive := digitCount_pos digits
    omega
  have all : e + digitCount digits - 1 + 1 = (digitCount digits : ℕ) + e := by omega
  rw [all, count, zpow_add₀ (by norm_num), zpow_add₀ (by norm_num), zpow_natCast, zpow_natCast]
  have low : (10 ^ (digitCount digits - 1) : ℚ) ≤ digits := by
    exact_mod_cast pow_digitCount_le some
  have high : (digits : ℚ) < 10 ^ digitCount digits := by
    exact_mod_cast lt_pow_digitCount digits
  constructor <;> gcongr

/-! ## Bounds of the shortest decimal -/

/-- The value of a pattern, counted in a power of ten. -/
theorem grid_quotient (k : ℕ) (unit : ℤ) :
    (scaled 10 (numerator k) (-unit) / scaled 10 (denominator k) unit : ℚ) =
      value k / (10 : ℚ) ^ unit := by
  have quotient := scaled_div_scaled (by decide : 0 < 10) (numerator k) (denominator k) (-unit)
  rw [neg_neg] at quotient
  rw [quotient, value, zpow_neg, ← div_eq_mul_inv, Nat.cast_ofNat]

/-- What is found on a grid is not below the points of the grid that the value reaches, and at most
one unit above the value. -/
theorem bounds_of_onGrid? {k digits : ℕ} {unit : ℤ} (found : onGrid? k unit = some digits) :
    (∀ n : ℕ, (n * 10 ^ unit : ℚ) ≤ value k → n ≤ digits) ∧
      (digits * 10 ^ unit : ℚ) ≤ value k + 10 ^ unit := by
  have unitPos : (0 : ℚ) < 10 ^ unit := by positivity
  have denPos : 0 < scaled 10 (denominator k) unit := scaled_pos (by decide) (denominator_pos k) _
  have quotient := grid_quotient k unit
  have neighbour := (onGrid?_spec found).1
  constructor
  · intro n reached
    rw [← le_div_iff₀ unitPos, ← quotient, le_div_iff₀ (by exact_mod_cast denPos)] at reached
    have below : n ≤ scaled 10 (numerator k) (-unit) / scaled 10 (denominator k) unit :=
      (Nat.le_div_iff_mul_le denPos).2 (by exact_mod_cast reached)
    omega
  · have floor := @Nat.cast_div_le ℚ _ _ _ (scaled 10 (numerator k) (-unit))
      (scaled 10 (denominator k) unit)
    rw [quotient] at floor
    have above : (digits : ℚ) ≤
        (scaled 10 (numerator k) (-unit) / scaled 10 (denominator k) unit : ℕ) + 1 := by
      exact_mod_cast (show _ ≤ _ by omega)
    calc (digits * 10 ^ unit : ℚ) ≤ (value k / 10 ^ unit + 1) * 10 ^ unit := by
          gcongr
          exact above.trans (by gcongr)
      _ = value k + 10 ^ unit := by
          rw [add_mul, one_mul, div_mul_cancel₀ _ unitPos.ne']

/-- The shortest decimal reaches the power of ten of its value, and is at most twice the value. -/
theorem decimal_bounds {k : ℕ} (some : 0 < k) :
    (10 : ℚ) ^ leading (numerator k) (denominator k) ≤ (decimal k).1 * 10 ^ (decimal k).2 ∧
      ((decimal k).1 * 10 ^ (decimal k).2 : ℚ) ≤ 2 * value k := by
  have reached := (leading_bounds (numerator_pos some) (denominator_pos k)).1
  change _ ≤ value k at reached
  rcases decimal_eq_or k with all | ⟨more, digits, grid, found⟩
  · have value : ((decimal k).1 * 10 ^ (decimal k).2 : ℚ) = value k := all ▸ exact_value k
    rw [value]
    exact ⟨reached, by linarith [value_pos some]⟩
  · rw [found]
    generalize leading (numerator k) (denominator k) = first at reached grid
    obtain ⟨below, above⟩ := bounds_of_onGrid? grid
    have split : (10 : ℚ) ^ first = (10 ^ more : ℕ) * 10 ^ (first - more) := by
      rw [Nat.cast_pow, Nat.cast_ofNat, ← zpow_natCast, ← zpow_add₀ (by norm_num),
        add_sub_cancel]
    constructor
    · have some : 10 ^ more ≤ digits := below _ (split ▸ reached)
      calc (10 : ℚ) ^ first = (10 ^ more : ℕ) * 10 ^ (first - more) := split
        _ ≤ digits * 10 ^ (first - more) := by gcongr
    · have unit : (10 : ℚ) ^ (first - more) ≤ 10 ^ first :=
        zpow_le_zpow_right₀ (by norm_num) (by omega)
      calc (digits * 10 ^ (first - more) : ℚ) ≤ value k + 10 ^ (first - more) := above
        _ ≤ value k + value k := by linarith
        _ = 2 * value k := (two_mul _).symm

end Shortest

namespace Number

open Lexeme

/-! ## The positional layout -/

/-- A double with a fractional part is counted in a negative power of two. -/
theorem exponent_neg_of_not_isWhole {k : ℕ} (fractional : isWhole k = false) : exponent k < 0 := by
  by_contra whole
  have one : denominator k = 1 := by
    rw [denominator, scaled, Int.toNat_of_nonpos (by omega)]
  rw [isWhole, one, Nat.mod_one] at fractional
  cases fractional

/-- A double with a fractional part is small. -/
theorem value_lt_of_not_isWhole {k : ℕ} (fractional : isWhole k = false) : value k < 2 ^ 52 := by
  have power := exponent_neg_of_not_isWhole fractional
  obtain ⟨-, -, -, bound, -⟩ := exists_fields k
  have bound' : (significand k : ℚ) < 2 ^ (53 : ℤ) := by
    exact_mod_cast bound
  rw [value, value_eq]
  calc (significand k * 2 ^ exponent k : ℚ) < 2 ^ (53 : ℤ) * 2 ^ exponent k := by gcongr
    _ ≤ 2 ^ (53 : ℤ) * 2 ^ (-1 : ℤ) := by
      gcongr
      · norm_num
      · omega
    _ = 2 ^ 52 := by norm_num

/-- A decimal from `0.0001` up to below `10 ^ 16` has digits on both sides of a point. -/
theorem exists_written_eq {digits : ℕ} {e : ℤ} (some : 0 < digits)
    (low : (10 : ℚ) ^ (-4 : ℤ) ≤ digits * 10 ^ e) (high : (digits * 10 ^ e : ℚ) < 10 ^ (16 : ℤ)) :
    ∃ whole fraction, IsDigits whole ∧ IsDigits fraction ∧
      written layout digits e = whole ++ '.' :: fraction := by
  obtain ⟨reached, below⟩ := Shortest.first_bounds some e
  obtain ⟨kept, z, front, isDigits, -, -⟩ := exists_kept some.ne'
  have ten : (1 : ℚ) < 10 := by norm_num
  have least := (zpow_lt_zpow_iff_right₀ ten).1 (low.trans_lt below)
  have bound := (zpow_lt_zpow_iff_right₀ ten).1 (reached.trans_lt high)
  change (-4 : ℤ) < e + (Nat.toDigits 10 digits).length - 1 + 1 at least
  change e + (Nat.toDigits 10 digits).length - 1 < (16 : ℤ) at bound
  obtain ⟨whole, fraction, -, left, right, chars, -, -⟩ :=
    exists_positional_eq isDigits (e + (Nat.toDigits 10 digits).length - 1)
  have inside : (decide (layout.least ≤ e + (Nat.toDigits 10 digits).length - 1) &&
      decide (e + (Nat.toDigits 10 digits).length - 1 < layout.bound)) = true := by
    rw [Bool.and_eq_true, decide_eq_true_iff, decide_eq_true_iff]
    exact ⟨Int.le_of_lt_add_one least, bound⟩
  refine ⟨whole, fraction, left, right, ?_⟩
  simp only [written, front]
  rw [if_pos inside, chars]

/-- The full form of a double with a fractional part has digits on both sides of a point, from
`0.0001` on. -/
theorem exists_fullMagnitude_eq {k : ℕ} (finite : k < infinity) (fractional : isWhole k = false)
    (least : 1 / 10000 ≤ value k) : ∃ whole fraction, IsDigits whole ∧ IsDigits fraction ∧
      fullMagnitude k = whole ++ '.' :: fraction := by
  have some : 0 < k := by
    rw [Nat.pos_iff_ne_zero]
    rintro rfl
    rw [value_zero] at least
    norm_num at least
  obtain ⟨reached, below⟩ := Shortest.decimal_bounds some
  obtain ⟨-, next⟩ := Shortest.leading_bounds (numerator_pos some) (denominator_pos k)
  change value k < _ at next
  have ten : (1 : ℚ) < 10 := by norm_num
  -- The value reaches `0.0001`, and so does the power of ten of its first digit.
  have first : (-4 : ℤ) ≤ Shortest.leading (numerator k) (denominator k) := by
    have power : (10 : ℚ) ^ (-4 : ℤ) < 10 ^ (Shortest.leading (numerator k) (denominator k) + 1) :=
      lt_of_le_of_lt (by norm_num at least ⊢; exact least) next
    exact Int.le_of_lt_add_one ((zpow_lt_zpow_iff_right₀ ten).1 power)
  have low : (10 : ℚ) ^ (-4 : ℤ) ≤ (Shortest.decimal k).1 * 10 ^ (Shortest.decimal k).2 :=
    (zpow_le_zpow_right₀ ten.le first).trans reached
  have high : ((Shortest.decimal k).1 * 10 ^ (Shortest.decimal k).2 : ℚ) < 10 ^ (16 : ℤ) := by
    calc ((Shortest.decimal k).1 * 10 ^ (Shortest.decimal k).2 : ℚ) ≤ 2 * value k := below
      _ < 2 * 2 ^ 52 := by gcongr; exact value_lt_of_not_isWhole fractional
      _ < 10 ^ (16 : ℤ) := by norm_num
  rw [fullMagnitude, if_neg some.ne']
  exact exists_written_eq (Nat.pos_of_ne_zero (Shortest.decimal_ne_zero some finite)) low high

end Number

end ReversePolish
