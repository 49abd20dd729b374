import ReversePolish.Calculation
import ReversePolish.Proofs.LexemeRule
import ReversePolish.Proofs.PositionalForm

/-!
# Plain forms as expressions

A result is shown in plain form, and what is shown may be given back as an expression. A double that
is not negative is then one number, if it is a whole number or not below `0.0001`; a smaller one
would need a power of ten, which numbers of expressions do not have. The calculation gives the
double again, but for the sign of a zero.

- `Number.isNumber_plainMagnitude`: the plain form of a magnitude is a number of expressions;
- `Number.plain_eq_iff`: when two doubles are shown alike;
- `calculate_of_isNumber`: what a number is calculated to;
- `plain_fed_back`: all of this for one double.
-/

namespace ReversePolish

open Binary64

namespace Number

open Lexeme

/-! ## Plain forms of magnitudes -/

theorem plainChars_signed (negative : Bool) {k : ℕ} (finite : k < infinity) :
    plainChars (signed negative k) = withSign (negative && k != 0) (plainMagnitude k) :=
  plainChars_of_finite (ofFloat_signed finite)

/-- The plain form of a magnitude is a number of expressions. It has a point exactly if there is a
fractional part. -/
theorem isNumber_plainMagnitude {k : ℕ} (finite : k < infinity)
    (range : isWhole k = true ∨ 1 / 10000 ≤ value k) :
    isNumber (plainMagnitude k) = true ∧ ('.' ∈ plainMagnitude k ↔ isWhole k = false) := by
  rw [plainMagnitude, isNumber_iff]
  cases whole : isWhole k with
  | true =>
    have digits := isDigits_toDigits (wholePart k)
    rw [if_pos rfl]
    have noPoint : '.' ∉ Nat.toDigits 10 (wholePart k) := fun point =>
      ne_point_of_isDigit (digits.2 '.' point) rfl
    exact ⟨.inl digits, iff_of_false noPoint (by decide)⟩
  | false =>
    have least : 1 / 10000 ≤ value k := range.resolve_left (Bool.eq_false_iff.1 whole)
    obtain ⟨front, fraction, left, right, chars⟩ := exists_fullMagnitude_eq finite whole least
    rw [if_neg Bool.false_ne_true, chars]
    exact ⟨.inr ⟨front, fraction, left, right, rfl⟩, iff_of_true (by simp) rfl⟩

/-- The double nearest to `0.0001` is not below it. -/
theorem toRat_least : 1 / 10000 ≤ toRat 0.0001 := by
  have pattern : (0.0001 : Float) = signed false 4547007122018943789 := by decide +kernel
  have cross : denominator 4547007122018943789 ≤ numerator 4547007122018943789 * 10000 := by
    decide +kernel
  rw [pattern, toRat_signed false (by decide)]
  change 1 / 10000 ≤ value 4547007122018943789
  rw [value, div_le_div_iff₀ (by norm_num) (by exact_mod_cast denominator_pos _), one_mul]
  exact_mod_cast cross

theorem toRat_zero : toRat 0 = 0 := by
  have pattern : (0 : Float) = signed false 0 := by decide +kernel
  rw [pattern, toRat_signed false (by decide), signedValue_zero]

/-- A double that is not negative is shown as its magnitude. -/
theorem plainChars_of_nonneg {negative : Bool} {k : ℕ} (pattern : k < infinity)
    (nonneg : 0 ≤ signed negative k) : plainChars (signed negative k) = plainMagnitude k := by
  rw [le_iff_toRat_le (by decide +kernel) (isFinite_signed pattern), toRat_zero,
    toRat_signed negative pattern] at nonneg
  have noMinus : (negative && k != 0) = false := by
    cases negative with
    | false => rfl
    | true =>
      rcases Nat.eq_zero_or_pos k with rfl | some
      · rfl
      · exact absurd nonneg (signedValue_true_neg some).not_ge
  rw [plainChars_signed negative pattern, noMinus]
  rfl

/-- The plain form of a double is a number of expressions, if the double is not negative, and is a
whole number or not below `0.0001`. -/
theorem isNumber_plain {x : Float} (finite : x.isFinite = true)
    (range : IsIntegral x ∨ 0.0001 ≤ x.abs) (nonneg : 0 ≤ x) :
    isNumber (plain x).toList = true ∧ ('.' ∈ (plain x).toList ↔ ¬ IsIntegral x) := by
  obtain ⟨negative, k, pattern, rfl⟩ := exists_signed_of_isFinite finite
  rw [toList_plain, plainChars_of_nonneg pattern nonneg]
  rw [isIntegral_signed pattern, abs_signed pattern,
    le_iff_toRat_le (by decide +kernel) (isFinite_signed pattern), toRat_signed false pattern]
    at range
  rw [isIntegral_signed pattern, Bool.not_eq_true]
  exact isNumber_plainMagnitude pattern (range.imp_right toRat_least.trans)

end Number

/-! ## Calculation -/

/-- An expression that is a number has the double that the number is read as for its value. -/
theorem calculate_of_isNumber {mode : Scan.Mode} {text : String} {x : Float}
    (number : Lexeme.isNumber text.toList = true) (reads : Numeral.read? text = some x) :
    ∃ result, calculate mode text = .ok result ∧ result.value = x := by
  have polish : toPolish mode text = .ok [Scan.numberToken 0 text.toList] := by
    rw [toPolish, Scan.tokens_of_isNumber number]
    rfl
  -- The token is a tree of one leaf.
  have value : (Tree.leaf (Scan.numberToken 0 text.toList)).value? = some x := by
    have isNumber : (Scan.numberToken 0 text.toList).isNumber = true := rfl
    rw [Tree.value?, if_pos isNumber, Scan.numberToken, String.ofList_toList, reads]
  have traced := Tree.trace_tokens value
  rw [Tree.tokens] at traced
  refine ⟨{ value := x, steps := [], polish := [Scan.numberToken 0 text.toList] }, ?_, rfl⟩
  rw [calculate, polish]
  simp only [Except.bind, traced, Except.map]
  rfl

/-! ## Plain forms -/

namespace Number

/-- What the plain form shows is equal to the double. -/
theorem shown_beq {x : Float} (finite : x.isFinite = true) : (shown x == x) = true := by
  rw [shown]
  split
  · next negativeZero =>
    rw [negativeZero]
    decide +kernel
  · rw [Float.beq_self_iff]
    rintro rfl
    exact absurd finite (by decide +kernel)

/-- Equal doubles are the same, but for the sign of a zero. -/
theorem shown_eq_of_beq {x y : Float} (equal : (x == y) = true) : shown x = shown y := by
  obtain ⟨-, -, same | ⟨rfl, rfl⟩ | ⟨rfl, rfl⟩⟩ := Float.beq_iff_ne_nan_and_eq.1 equal
  · rw [same]
  · decide +kernel
  · decide +kernel

theorem toRat_shown (x : Float) : toRat (shown x) = toRat x := by
  rw [shown]
  split
  · next negativeZero =>
    rw [negativeZero, toRat_signed _ (by decide), toRat_signed _ (by decide), signedValue_zero,
      signedValue_zero]
  · rfl

/-- Finite doubles have one plain form exactly if they are equal. -/
theorem plain_eq_iff {x y : Float} (finite : x.isFinite = true) (finite' : y.isFinite = true) :
    plain x = plain y ↔ (x == y) = true := by
  rw [← String.toList_inj, toList_plain, toList_plain, plainChars_eq_iff]
  refine ⟨fun same => ?_, shown_eq_of_beq⟩
  rw [beq_iff_toRat_eq finite finite', ← toRat_shown, same, toRat_shown]

/-- The sign of a negative double is a minus before the plain form of its opposite. -/
theorem plain_of_neg {x : Float} (finite : x.isFinite = true) (below : x < 0) :
    plain x = "-" ++ plain (-x) := by
  obtain ⟨negative, k, pattern, rfl⟩ := exists_signed_of_isFinite finite
  rw [lt_iff_toRat_lt finite (by decide +kernel), toRat_zero, toRat_signed negative pattern]
    at below
  have some : k ≠ 0 := by
    rintro rfl
    rw [signedValue_zero] at below
    exact lt_irrefl 0 below
  cases negative with
  | false => exact absurd below (value_pos (Nat.pos_of_ne_zero some)).not_gt
  | true =>
    rw [neg_signed pattern, ← String.toList_inj, String.toList_append, toList_plain, toList_plain,
      plainChars_signed _ pattern, plainChars_signed _ pattern]
    simp [withSign, some]

end Number

/-! ## Results as expressions -/

open Number

/-- What is shown of a result may be given back as an expression. Let `x` be finite, and a whole
number or not below `0.0001` in magnitude. Without a minus its plain form is scanned as one number,
which is an integer exactly if `x` has no fractional part, and calculated to a double that is equal
to `x`. The plain form of a negative double is a minus before that of its opposite, and negative
zero is shown as zero. So two finite doubles are shown alike exactly if they are equal. -/
theorem plain_fed_back {x : Float} (finite : x.isFinite = true)
    (range : IsIntegral x ∨ 0.0001 ≤ x.abs) :
    (0 ≤ x →
      (∃ spelling, (spelling = .integer ↔ IsIntegral x) ∧ ∀ mode, Scan.tokens mode (plain x) =
          .ok [{ kind := .number spelling, text := plain x, position := some 0 }]) ∧
        ∀ mode, ∃ result, calculate mode (plain x) = .ok result ∧ (result.value == x) = true) ∧
      (x < 0 → plain x = "-" ++ plain (-x)) ∧ plain (-0.0) = "0" ∧
      ∀ y : Float, y.isFinite = true → (plain x = plain y ↔ (x == y) = true) := by
  refine ⟨fun nonneg => ?_, plain_of_neg finite, by decide +kernel, fun y => plain_eq_iff finite⟩
  obtain ⟨isNumber, point⟩ := isNumber_plain finite range nonneg
  refine ⟨⟨if '.' ∈ (plain x).toList then .float else .integer, ?_, fun mode => ?_⟩,
    fun mode => ?_⟩
  · rw [← not_iff_not, ← point]
    simp
  · rw [Scan.tokens_of_isNumber isNumber, Scan.numberToken, String.ofList_toList]
    rfl
  · have reads : Numeral.read? (plain x) = some (shown x) := by
      rw [Numeral.read?, toList_plain, readChars?_plainChars]
    obtain ⟨result, calculated, value⟩ := calculate_of_isNumber isNumber reads
    exact ⟨result, calculated, value ▸ shown_beq finite⟩

/-- Below `0.0001` the plain form has a power of ten, and is no expression. -/
example : plain 0.00001 = "1e-05" ∧ ¬ (calculate {} (plain 0.00001)).isOk := by
  decide +kernel

/-- A tenth is calculated from its plain form, and its opposite is shown with a minus. -/
theorem plain_fed_back_tenth :
    (∀ mode, ∃ result, calculate mode (plain 0.1) = .ok result ∧ (result.value == 0.1) = true) ∧
      plain (-0.1) = "-" ++ plain 0.1 ∧ plain 0.1 ≠ plain (-0.1) := by
  have finite : (0.1 : Float).isFinite = true := by decide +kernel
  have finite' : (-0.1 : Float).isFinite = true := by decide +kernel
  have least : (0.0001 : Float) ≤ (0.1 : Float).abs := by decide +kernel
  have least' : (0.0001 : Float) ≤ (-0.1 : Float).abs := by decide +kernel
  have opposite : -(-0.1 : Float) = 0.1 := by decide +kernel
  obtain ⟨forth, -, -, alike⟩ := plain_fed_back finite (.inr least)
  obtain ⟨-, minus, -, -⟩ := plain_fed_back finite' (.inr least')
  rw [opposite] at minus
  refine ⟨(forth (by decide +kernel)).2, minus (by decide +kernel), fun same => ?_⟩
  exact absurd ((alike _ finite').1 same) (by decide +kernel)

end ReversePolish
