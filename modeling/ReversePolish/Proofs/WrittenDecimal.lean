import Mathlib.Data.Nat.Cast.Field
import Mathlib.Tactic.FieldSimp
import ReversePolish.Number.Display
import ReversePolish.Proofs.Rounding
import ReversePolish.Proofs.WrittenNumeral

/-!
# Written doubles

The digits that a double is shown with are a decimal numeral, and reading it gives the double. The
numeral may be laid out with a point among the digits, with zeros around them, or with a power of
ten behind them: in all these layouts it writes the same value.

- `Shortest.ofDecimal_decimal`: the shortest decimal of a double reads back;
- `Number.exists_writes_written`: the layout of a decimal writes its value;
- `Number.plainChars_of_finite`: the plain form is that of the magnitude, perhaps with a minus;
- `Number.exists_writes_plainChars`: the plain form of a finite double writes a decimal that is read
  as the magnitude of the double.
-/

namespace ReversePolish

/-! ## Shortest decimals -/

namespace Shortest

open Binary64

/-- What is found on a grid is one of the two neighbours of the value, and reads back. -/
theorem onGrid?_spec {k digits : Nat} {unit : Int} (found : onGrid? k unit = some digits) :
    (digits = scaled 10 (numerator k) (-unit) / scaled 10 (denominator k) unit ∨
        digits = scaled 10 (numerator k) (-unit) / scaled 10 (denominator k) unit + 1) ∧
      ofDecimal digits unit = k := by
  simp only [onGrid?] at found
  split at found
  · next below =>
    split at found
    · next above =>
      cases found
      -- Both neighbours read back, and rounding gives one of them.
      rcases roundHalfEven_eq_or (scaled 10 (numerator k) (-unit))
        (scaled 10 (denominator k) unit) with rounded | rounded
      · exact ⟨.inl rounded, by rw [rounded, below]⟩
      · exact ⟨.inr rounded, by rw [rounded, above]⟩
    · cases found
      exact ⟨.inl rfl, below⟩
  · split at found
    · next above =>
      cases found
      exact ⟨.inr rfl, above⟩
    · cases found

/-- The shortest decimal is found on a grid, or has all digits of the value. -/
theorem decimal_eq_or (k : Nat) :
    decimal k = exact k ∨ ∃ (more digits : Nat),
      onGrid? k (leading (numerator k) (denominator k) - more) = some digits ∧
        decimal k = (digits, leading (numerator k) (denominator k) - more) := by
  rw [decimal]
  cases found : (List.range 17).findSome? fun (more : Nat) =>
      (onGrid? k (leading (numerator k) (denominator k) - more)).map fun digits =>
        (digits, leading (numerator k) (denominator k) - more) with
  | none => exact .inl rfl
  | some result =>
    obtain ⟨more, -, step⟩ := List.exists_of_findSome?_eq_some found
    obtain ⟨digits, grid, rfl⟩ := Option.map_eq_some_iff.1 step
    exact .inr ⟨more, digits, grid, rfl⟩

/-- All digits of a value have that value. -/
theorem exact_value (k : Nat) :
    ((exact k).1 * 10 ^ (exact k).2 : ℚ) = numerator k / denominator k := by
  have ten : (10 : ℚ) ^ (-exponent k).toNat =
      2 ^ (-exponent k).toNat * 5 ^ (-exponent k).toNat := by
    rw [← mul_pow]
    norm_num
  change (scaled 5 (numerator k) (-exponent k) * 10 ^ (-((-exponent k).toNat : Int)) : ℚ) = _
  rw [denominator, scaled, scaled, zpow_neg, zpow_natCast, ten]
  change ((numerator k * 5 ^ (-exponent k).toNat : Nat) * _ : ℚ) =
    _ / (1 * 2 ^ (-exponent k).toNat : Nat)
  push_cast
  field_simp

/-- The shortest decimal of a double reads back as the double. -/
theorem ofDecimal_decimal {k : Nat} (finite : k < infinity) :
    ofDecimal (decimal k).1 (decimal k).2 = k := by
  rcases decimal_eq_or k with all | ⟨more, digits, grid, found⟩
  · rw [all]
    exact ofDecimal_eq_of_value finite (exact_value k)
  · rw [found]
    exact (onGrid?_spec grid).2

/-- The shortest decimal of a positive double has digits other than zero. -/
theorem decimal_ne_zero {k : Nat} (positive : 0 < k) (finite : k < infinity) :
    (decimal k).1 ≠ 0 := by
  intro none
  have zero := ofDecimal_decimal finite
  rw [none, ofDecimal, if_pos rfl] at zero
  exact positive.ne zero

end Shortest

/-! ## Digits -/

namespace Integer

open Lexeme

/-- The digits of a number write it. -/
theorem ofDigits_toDigits (n : Nat) : ofDigits (Nat.toDigits 10 n) = n :=
  Nat.ofDigitChars_ten_toDigits

/-- Zeros behind digits multiply their number. -/
theorem ofDigits_append_replicate (cs : List Char) (p : Nat) :
    ofDigits (cs ++ List.replicate p '0') = ofDigits cs * 10 ^ p := by
  change Nat.ofDigitChars 10 _ 0 = Nat.ofDigitChars 10 cs 0 * _
  rw [Nat.ofDigitChars_append, Nat.ofDigitChars_replicate_zero, Nat.mul_comm]

/-- Zeros before digits change nothing. -/
theorem ofDigits_replicate_append (p : Nat) (cs : List Char) :
    ofDigits (List.replicate p '0' ++ cs) = ofDigits cs := by
  change Nat.ofDigitChars 10 _ 0 = Nat.ofDigitChars 10 cs 0
  rw [Nat.ofDigitChars_append, Nat.ofDigitChars_replicate_zero, Nat.mul_zero]

end Integer

namespace Lexeme

theorem isDigits_toDigits (n : Nat) : IsDigits (Nat.toDigits 10 n) :=
  ⟨Nat.toDigits_ne_nil, fun _ hc => Nat.isDigit_of_mem_toDigits (by decide) (by decide) hc⟩

theorem isDigit_of_mem_replicate {c : Char} {p : Nat} (hc : c ∈ List.replicate p '0') :
    c.isDigit = true := by
  rw [List.eq_of_mem_replicate hc]
  rfl

end Lexeme

/-! ## Layouts -/

namespace Number

open Lexeme Numeral Integer

/-- Zeros at the end of digits may be counted in the power of ten. -/
theorem shift_value (digits p : Nat) (e : Int) :
    ((digits * 10 ^ p : Nat) * 10 ^ e : ℚ) = digits * 10 ^ (e + p) := by
  push_cast
  rw [zpow_add₀ (by norm_num), zpow_natCast]
  ring

/-- A power of ten is written with its sign. -/
theorem writesPower_signed (least : Nat) (power : Int) :
    WritesPower ('e' :: (if power < 0 then '-' else '+') ::
      (Nat.toDigits 10 power.natAbs).leftpad least '0') power := by
  have isDigits : IsDigits ((Nat.toDigits 10 power.natAbs).leftpad least '0') := by
    rw [List.leftpad]
    refine ⟨by simp [Nat.toDigits_ne_nil], fun c hc => ?_⟩
    rcases List.mem_append.1 hc with hc | hc
    · exact isDigit_of_mem_replicate hc
    · exact (isDigits_toDigits _).2 c hc
  have number : ofDigits ((Nat.toDigits 10 power.natAbs).leftpad least '0') = power.natAbs := by
    rw [List.leftpad, ofDigits_replicate_append, ofDigits_toDigits]
  have given := WritesPower.given (decide (power < 0)) isDigits
  simp only [decide_eq_true_eq, number] at given
  have same : (if power < 0 then -(power.natAbs : Int) else power.natAbs) = power := by
    split <;> omega
  rwa [same] at given

/-- The scientific layout writes its digits. -/
theorem writes_scientific (style : Layout) {kept : List Char} (isDigits : IsDigits kept)
    (power : Int) : Writes (scientific style kept power) (ofDigits kept)
      (power + 1 - kept.length) := by
  obtain ⟨d, ds, rfl⟩ := List.exists_cons_of_ne_nil isDigits.1
  have first : IsDigits [d] := ⟨by simp, by simpa using isDigits.2 d (by simp)⟩
  have more : ∀ c ∈ ds, c.isDigit = true := fun c hc => isDigits.2 c (by simp [hc])
  have writes := Writes.intro first more (writesPower_signed style.exponentDigits power)
  have behind : power - ds.length = power + 1 - (d :: ds).length := by
    rw [List.length_cons]
    omega
  rw [← List.append_assoc, behind] at writes
  exact writes

/-- The positional layout has digits on both sides of its point. They are the given ones, with
zeros before them, or with zeros behind them. -/
theorem exists_positional_eq {kept : List Char} (isDigits : IsDigits kept) (power : Int) :
    ∃ (whole fraction : List Char) (p : Nat), IsDigits whole ∧ IsDigits fraction ∧
      positional kept power = whole ++ '.' :: fraction ∧
      ofDigits (whole ++ fraction) = ofDigits kept * 10 ^ p ∧
      (fraction.length : Int) = kept.length + p - (power + 1) := by
  rw [positional]
  by_cases negative : power < 0
  · -- All digits stand behind the point.
    refine ⟨['0'], List.replicate (-power - 1).toNat '0' ++ kept, 0, ⟨by simp, by simp⟩,
      ⟨by simp [isDigits.1], fun c hc => ?_⟩, if_pos negative, ?_, ?_⟩
    · rcases List.mem_append.1 hc with hc | hc
      · exact isDigit_of_mem_replicate hc
      · exact isDigits.2 c hc
    · rw [← List.append_assoc, Nat.pow_zero, Nat.mul_one]
      exact ofDigits_replicate_append ((-power - 1).toNat + 1) kept
    · rw [List.length_append, List.length_replicate]
      omega
  · rw [if_neg negative]
    by_cases reach : kept.length ≤ power.toNat + 1
    · -- Zeros fill the gap between the digits and the point, and one more follows.
      refine ⟨kept ++ List.replicate (power.toNat + 1 - kept.length) '0', ['0'],
        power.toNat + 1 - kept.length + 1, ⟨by simp [isDigits.1], fun c hc => ?_⟩,
        ⟨by simp, by simp⟩, ?_, ?_, ?_⟩
      · rcases List.mem_append.1 hc with hc | hc
        · exact isDigits.2 c hc
        · exact isDigit_of_mem_replicate hc
      · simp [List.take_of_length_le reach, List.drop_of_length_le reach, List.rightpad]
      · rw [List.append_assoc, ← ofDigits_append_replicate, List.replicate_succ']
      · rw [List.length_singleton]
        omega
    · -- The point stands among the digits.
      have behind : kept.drop (power.toNat + 1) ≠ [] := by
        rw [Ne, List.drop_eq_nil_iff]
        exact reach
      refine ⟨kept.take (power.toNat + 1), kept.drop (power.toNat + 1), 0,
        ⟨by simp [isDigits.1], fun c hc => isDigits.2 c (List.mem_of_mem_take hc)⟩,
        ⟨behind, fun c hc => isDigits.2 c (List.mem_of_mem_drop hc)⟩, ?_, ?_, ?_⟩
      · have full : power.toNat + 1 - (kept.take (power.toNat + 1)).length = 0 := by
          rw [List.length_take]
          omega
        simp only [List.rightpad, full, List.replicate_zero, List.append_nil]
        rw [if_neg (by simpa using behind)]
      · rw [List.take_append_drop, Nat.pow_zero, Nat.mul_one]
      · rw [List.length_drop]
        omega

/-- The positional layout writes its digits, perhaps with zeros behind them. -/
theorem exists_writes_positional {kept : List Char} (isDigits : IsDigits kept) (power : Int) :
    ∃ p : Nat, Writes (positional kept power) (ofDigits kept * 10 ^ p)
      (power + 1 - kept.length - p) := by
  obtain ⟨whole, fraction, p, left, right, chars, number, length⟩ :=
    exists_positional_eq isDigits power
  have writes := Writes.intro left right.2 .absent
  have behind : (0 : Int) - fraction.length = power + 1 - kept.length - p := by omega
  rw [List.append_nil, pointed_of_isDigits right, number, behind] at writes
  exact ⟨p, chars ▸ writes⟩

/-- Zeros are cut off the end of digits. -/
theorem exists_append_replicate (cs : List Char) :
    ∃ z : Nat, cs = (cs.reverse.dropWhile (· = '0')).reverse ++ List.replicate z '0' := by
  have zeros : ∀ c ∈ cs.reverse.takeWhile (· = '0'), c = '0' := by
    intro c hc
    simpa using List.mem_takeWhile_imp hc
  refine ⟨(cs.reverse.takeWhile (· = '0')).length, ?_⟩
  rw [← List.reverse_replicate, ← List.eq_replicate_of_mem zeros, ← List.reverse_append,
    List.takeWhile_append_dropWhile, List.reverse_reverse]

/-- The digits that are kept of a number other than zero. -/
theorem exists_kept {digits : Nat} (some : digits ≠ 0) :
    ∃ kept z, ((Nat.toDigits 10 digits).reverse.dropWhile (· = '0')).reverse = kept ∧
      IsDigits kept ∧ digits = ofDigits kept * 10 ^ z ∧
        (Nat.toDigits 10 digits).length = kept.length + z := by
  obtain ⟨z, parts⟩ := exists_append_replicate (Nat.toDigits 10 digits)
  generalize ((Nat.toDigits 10 digits).reverse.dropWhile (· = '0')).reverse = kept at parts
  -- All digits are the ones that are kept and zeros, which are counted in the power of ten.
  have number : digits = ofDigits kept * 10 ^ z := by
    rw [← ofDigits_append_replicate, ← parts, ofDigits_toDigits]
  refine ⟨kept, z, rfl, ⟨?_, fun c hc => ?_⟩, number, ?_⟩
  · rintro rfl
    exact some (number.trans (Nat.zero_mul _))
  · exact (isDigits_toDigits digits).2 c (by simp [parts, hc])
  · rw [parts, List.length_append, List.length_replicate]

/-- The layout of a decimal writes its value. -/
theorem exists_writes_written (style : Layout) {digits : Nat} (some : digits ≠ 0) (e : Int) :
    ∃ digits' e', Writes (written style digits e) digits' e' ∧
      (digits' * 10 ^ e' : ℚ) = digits * 10 ^ e := by
  obtain ⟨kept, z, front, isDigits, number, length⟩ := exists_kept some
  have behind : e + (Nat.toDigits 10 digits).length - 1 + 1 - kept.length = e + z := by omega
  simp only [written, front]
  -- Both layouts write the digits that are kept, in the power of ten behind the last of them.
  split
  · obtain ⟨p, writes⟩ :=
      exists_writes_positional isDigits (e + (Nat.toDigits 10 digits).length - 1)
    refine ⟨_, _, writes, ?_⟩
    rw [shift_value, sub_add_cancel, behind, number, shift_value]
  · refine ⟨_, _, writes_scientific style isDigits _, ?_⟩
    rw [behind, number, shift_value]

/-! ## Doubles in characters -/

open Binary64

/-- The full form of a finite magnitude reads back. -/
theorem exists_writes_fullMagnitude {k : Nat} (finite : k < infinity) :
    ∃ digits e, Writes (fullMagnitude k) digits e ∧ ofDecimal digits e = k := by
  rcases Nat.eq_zero_or_pos k with rfl | positive
  · have writes : Writes ['0', '.', '0'] 0 (-1) :=
      @Writes.intro ['0'] ['0'] [] 0 ⟨by simp, by simp⟩ (by simp) .absent
    exact ⟨0, -1, writes, rfl⟩
  · obtain ⟨digits, e, writes, value⟩ :=
      exists_writes_written layout (Shortest.decimal_ne_zero positive finite) (Shortest.decimal k).2
    refine ⟨digits, e, ?_, ?_⟩
    · rwa [fullMagnitude, if_neg positive.ne']
    · rw [ofDecimal_congr value, Shortest.ofDecimal_decimal finite]

/-- A magnitude without a fractional part is its whole part. -/
theorem ofDecimal_wholePart {k : Nat} (finite : k < infinity) (whole : isWhole k = true) :
    ofDecimal (wholePart k) 0 = k := by
  have divides : denominator k ∣ numerator k := Nat.dvd_of_mod_eq_zero (of_decide_eq_true whole)
  have notZero : (denominator k : ℚ) ≠ 0 := by exact_mod_cast (denominator_pos k).ne'
  refine ofDecimal_eq_of_value finite ?_
  rw [wholePart, Nat.cast_div divides notZero, zpow_zero, mul_one]

/-- The pattern of a finite magnitude lies below infinity. -/
theorem lt_infinity_of_ofFloat {x : Float} {negative : Bool} {k : Nat}
    (magnitude : Magnitude.ofFloat x = .finite negative k) : k < infinity := by
  simp only [Magnitude.ofFloat] at magnitude
  split at magnitude
  · next below =>
    cases magnitude
    exact below
  · split at magnitude <;> cases magnitude

/-- The characters of the plain form of a magnitude. -/
def plainMagnitude (k : Nat) : List Char :=
  if isWhole k then Nat.toDigits 10 (wholePart k) else fullMagnitude k

/-- The plain form of a magnitude reads back. -/
theorem exists_writes_plainMagnitude {k : Nat} (finite : k < infinity) :
    ∃ digits e, Writes (plainMagnitude k) digits e ∧ ofDecimal digits e = k := by
  rw [plainMagnitude]
  split
  · next whole =>
    refine ⟨_, 0, writes_of_isDigits (isDigits_toDigits _), ?_⟩
    rw [ofDigits_toDigits, ofDecimal_wholePart finite whole]
  · exact exists_writes_fullMagnitude finite

/-- The plain form of a finite double is that of its magnitude, with a minus before it if the double
is negative and not zero. -/
theorem plainChars_of_finite {x : Float} {negative : Bool} {k : Nat}
    (magnitude : Magnitude.ofFloat x = .finite negative k) :
    plainChars x = withSign (negative && k != 0) (plainMagnitude k) := by
  rw [plainChars, magnitude, plainMagnitude]
  by_cases whole : isWhole k = true
  · rw [if_pos whole]
    exact if_pos whole
  · -- Zero is whole, so that nothing is left out here.
    have notZero : k ≠ 0 := by
      rintro rfl
      exact whole (by simp [isWhole, numerator, significand, scaled, leadingBit])
    have sign : (negative && k != 0) = negative := by simp [notZero]
    rw [if_neg whole, sign]
    exact if_neg whole

/-- The plain form of a finite double reads back, but for the sign of zero, which it leaves out. -/
theorem exists_writes_plainChars {x : Float} {negative : Bool} {k : Nat}
    (magnitude : Magnitude.ofFloat x = .finite negative k) :
    ∃ cs digits e, plainChars x = withSign (negative && k != 0) cs ∧ Writes cs digits e ∧
      ofDecimal digits e = k := by
  obtain ⟨digits, e, writes, reads⟩ :=
    exists_writes_plainMagnitude (lt_infinity_of_ofFloat magnitude)
  exact ⟨plainMagnitude k, digits, e, plainChars_of_finite magnitude, writes, reads⟩

/-- The plain form of a finite double has the characters of decimals. -/
theorem mem_plainChars_of_finite {x : Float} (finite : (Magnitude.ofFloat x).isFinite = true)
    {c : Char} (hc : c ∈ plainChars x) : c.isDigit = true ∨ c ∈ ['.', 'e', '+', '-'] := by
  cases magnitude : Magnitude.ofFloat x with
  | finite negative k =>
    obtain ⟨cs, digits, e, chars, writes, -⟩ := exists_writes_plainChars magnitude
    rw [chars, withSign] at hc
    split at hc
    · rcases List.mem_cons.1 hc with rfl | hc
      · exact .inr (by decide)
      · exact writes.mem hc
    · exact writes.mem hc
  | infinite negative => simp [magnitude, Magnitude.isFinite] at finite
  | undefined => simp [magnitude, Magnitude.isFinite] at finite

theorem plainChars_of_infinite {x : Float} {negative : Bool}
    (magnitude : Magnitude.ofFloat x = .infinite negative) :
    plainChars x = withSign negative ['i', 'n', 'f'] := by
  simp only [plainChars, fullChars, magnitude]

theorem plainChars_of_undefined {x : Float} (magnitude : Magnitude.ofFloat x = .undefined) :
    plainChars x = ['n', 'a', 'n'] := by
  simp only [plainChars, fullChars, magnitude]

end Number

end ReversePolish
