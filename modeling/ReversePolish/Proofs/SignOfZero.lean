import Mathlib
import ReversePolish.Evaluation
import ReversePolish.Proofs.WrittenDecimal

/-!
# The sign of zero

The plain form of a double leaves out one thing: the sign of a zero. What is read back from it is
the double without this sign, and arithmetic on what is read back has the same plain form as
arithmetic on the doubles themselves, but for divisions by negative zero.

- `Magnitude.eq_signed_of_finite`, `Magnitude.eq_signed_of_infinite`, `Magnitude.eq_of_undefined`: a
  double is given by what it stands for;
- `Number.shown`: the double that the plain form shows; `Number.readChars?_plainChars`: it is the
  one that is read back;
- `unsignZero_onParts`: the signs of zeros among the operands of an operation are at most the sign
  of a zero in its result;
- `DividesByNegativeZero`: the divisions in which the sign of a zero becomes that of an infinity;
- `plainChars_apply_shown_iff`: the plain form of a result tells of the sign of a zero in these
  alone.
-/

namespace ReversePolish

open Binary64
open Float.Model (UnpackedFloat Format)

/-! ## Doubles and their bits -/

namespace Magnitude

/-- A double has the bits of its pattern and of its sign. -/
theorem signed_bits (x : Float) :
    signed (decide (signBit ≤ x.toBits.toNat)) (x.toBits.toNat % signBit) = x := by
  have bound : x.toBits.toNat < 2 * signBit := x.toBits.toNat_lt
  -- What is left of the bits without the one of the sign is the pattern.
  have whole : x.toBits.toNat % signBit +
      (if decide (signBit ≤ x.toBits.toNat) = true then signBit else 0) = x.toBits.toNat := by
    rw [signBit] at *
    split <;> simp only [decide_eq_true_eq] at * <;> omega
  rw [signed, whole, UInt64.ofNat_toNat, Float.ofBits_toBits]

theorem eq_signed_of_finite {x : Float} {negative : Bool} {k : Nat}
    (magnitude : ofFloat x = .finite negative k) : x = signed negative k := by
  have bits := signed_bits x
  simp only [ofFloat] at magnitude
  split at magnitude
  · cases magnitude
    exact bits.symm
  · split at magnitude <;> cases magnitude

theorem eq_signed_of_infinite {x : Float} {negative : Bool}
    (magnitude : ofFloat x = .infinite negative) : x = signed negative infinity := by
  have bits := signed_bits x
  simp only [ofFloat] at magnitude
  split at magnitude
  · cases magnitude
  · split at magnitude
    · next pattern =>
      cases magnitude
      rw [← pattern, bits]
    · cases magnitude

theorem infinity_lt_of_undefined {x : Float} (magnitude : ofFloat x = .undefined) :
    infinity < x.toBits.toNat % signBit := by
  simp only [ofFloat] at magnitude
  split at magnitude
  · cases magnitude
  · split at magnitude
    · cases magnitude
    · omega

/-- Above the pattern of infinity all bits of the exponent are set, and some bits of the
significand. -/
theorem fields_of_infinity_lt {n : Nat} (above : infinity < n % signBit) :
    n / 2 ^ 52 % 2 ^ 11 = 2 ^ 11 - 1 ∧ n % 2 ^ 52 ≠ 0 := by
  simp only [infinity, leadingBit, signBit] at above
  omega

/-- Above the pattern of infinity there is only one double. -/
theorem eq_of_undefined {x : Float} (magnitude : ofFloat x = .undefined) : x = notANumber := by
  obtain ⟨field, fraction⟩ := fields_of_infinity_lt (infinity_lt_of_undefined magnitude)
  have ones : @UnpackedFloat.unpackExponent Format.binary64 x.toBits.toBitVec = -1 := by
    rw [UnpackedFloat.unpackExponent_def]
    apply BitVec.eq_of_toNat_eq
    rw [BitVec.extractLsb'_toNat, Nat.shiftRight_eq_div_pow]
    exact field
  have some : @UnpackedFloat.unpackMantissa Format.binary64 x.toBits.toBitVec ≠ 0 := by
    rw [UnpackedFloat.unpackMantissa_def]
    intro none
    have zero := congrArg BitVec.toNat none
    rw [BitVec.extractLsb'_toNat, Nat.shiftRight_zero] at zero
    exact fraction zero
  have bits : x.toBits = 0x7FF8000000000000 :=
    UInt64.toBitVec_inj.1 (x.toModel.valid.eq_packedNaN ones some)
  rw [← Float.ofBits_toBits x, bits, notANumber]

end Magnitude

/-! ## What the plain form shows -/

namespace Number

open Numeral

/-- The double that the plain form of `x` shows: `x` itself, but zero for negative zero. -/
def shown (x : Float) : Float :=
  if x = signed true 0 then signed false 0 else x

/-- The plain form does not tell negative zero from zero. -/
theorem plainChars_shown (x : Float) : plainChars (shown x) = plainChars x := by
  rw [shown]
  split
  · next negativeZero =>
    rw [negativeZero]
    decide +kernel
  · rfl

theorem ofFloat_zero (negative : Bool) :
    Magnitude.ofFloat (signed negative 0) = .finite negative 0 := by
  cases negative <;> decide +kernel

theorem shown_of_finite {x : Float} {negative : Bool} {k : Nat}
    (magnitude : Magnitude.ofFloat x = .finite negative k) :
    shown x = signed (negative && k != 0) k := by
  rw [shown]
  by_cases negativeZero : x = signed true 0
  · rw [negativeZero, ofFloat_zero] at magnitude
    cases magnitude
    exact if_pos negativeZero
  · rw [if_neg negativeZero]
    by_cases zero : negative = true ∧ k = 0
    · obtain ⟨rfl, rfl⟩ := zero
      exact absurd (Magnitude.eq_signed_of_finite magnitude) negativeZero
    · have sign : (negative && k != 0) = negative := by
        cases negative with
        | false => rfl
        | true => simpa using zero
      rw [sign]
      exact Magnitude.eq_signed_of_finite magnitude

/-- The plain form is read back as the double that it shows. -/
theorem readChars?_plainChars (x : Float) : readChars? (plainChars x) = some (shown x) := by
  cases magnitude : Magnitude.ofFloat x with
  | finite negative k =>
    obtain ⟨cs, digits, e, chars, writes, value⟩ := exists_writes_plainChars magnitude
    rw [chars, writes.readChars?_withSign, value, shown_of_finite magnitude]
  | infinite negative =>
    rw [plainChars_of_infinite magnitude, shown, Magnitude.eq_signed_of_infinite magnitude]
    cases negative <;> decide +kernel
  | undefined =>
    rw [plainChars_of_undefined magnitude, shown, Magnitude.eq_of_undefined magnitude]
    decide +kernel

/-- Doubles have one plain form if they show the same. -/
theorem plainChars_eq_iff {x y : Float} : plainChars x = plainChars y ↔ shown x = shown y := by
  constructor
  · intro same
    have read := congrArg readChars? same
    rw [readChars?_plainChars, readChars?_plainChars] at read
    exact Option.some.inj read
  · intro same
    rw [← plainChars_shown x, same, plainChars_shown]

end Number

/-! ## Parts of doubles -/

/-- The parts that an operation works on: sign, significand and exponent. -/
def parts (x : Float) : UnpackedFloat :=
  x.toModel.unpack

/-- The double of some parts. -/
def ofParts (p : UnpackedFloat) : Float :=
  .ofModel (.pack p)

/-- A double is that of its parts. -/
theorem ofParts_parts (x : Float) : ofParts (parts x) = x :=
  Float.ofBits_toBits x

theorem parts_zero (negative : Bool) :
    parts (signed negative 0) = .zero (if negative then .negative else .positive) := by
  cases negative <;> rfl

theorem parts_eq_zero_iff {x : Float} {negative : Bool} :
    parts x = .zero (if negative then .negative else .positive) ↔
      Magnitude.ofFloat x = .finite negative 0 := by
  constructor
  · intro zero
    rw [← ofParts_parts x, zero]
    cases negative <;> decide +kernel
  · intro zero
    rw [Magnitude.eq_signed_of_finite zero, parts_zero]

theorem parts_eq_notANumber_iff {x : Float} :
    parts x = .notANumber ↔ Magnitude.ofFloat x = .undefined := by
  constructor
  · intro undefined
    rw [← ofParts_parts x, undefined]
    decide +kernel
  · intro undefined
    rw [Magnitude.eq_of_undefined undefined]
    rfl

/-- The parts without the sign of a zero. -/
def unsignZero : UnpackedFloat → UnpackedFloat
  | .zero _ => .zero .positive
  | p => p

/-- What the plain form shows has the same parts, but for the sign of a zero. -/
theorem parts_shown (x : Float) : parts (Number.shown x) = unsignZero (parts x) := by
  rw [Number.shown]
  split
  · next negativeZero =>
    rw [negativeZero, parts_zero, parts_zero]
    rfl
  · next notNegativeZero =>
    cases kind : parts x with
    | zero s =>
      cases s with
      | positive => rfl
      | negative =>
        have zero : Magnitude.ofFloat x = .finite true 0 := parts_eq_zero_iff.1 kind
        exact absurd (Magnitude.eq_signed_of_finite zero) notNegativeZero
    | notANumber => rfl
    | infinity s => rfl
    | finite s m e hm => rfl

/-- The plain form does not show the sign of a zero among the parts. -/
theorem shown_ofParts_unsignZero (p : UnpackedFloat) :
    Number.shown (ofParts (unsignZero p)) = Number.shown (ofParts p) := by
  cases p with
  | zero s => cases s <;> decide +kernel
  | notANumber => rfl
  | infinity s => rfl
  | finite s m e hm => rfl

/-! ## Operations -/

/-- The operation on the parts of doubles. -/
def Operator.onParts : Operator → UnpackedFloat → UnpackedFloat → UnpackedFloat
  | .add => .add .binary64
  | .sub => .sub .binary64
  | .mul => .mul .binary64
  | .div => .div .binary64

theorem Operator.apply_eq (op : Operator) (x y : Float) :
    op.apply x y = ofParts (op.onParts (parts x) (parts y)) := by
  cases op <;> rfl

/-- The sign of a zero on the left is at most the sign of a zero in the result. -/
theorem unsignZero_onParts_zero_left (op : Operator) (s : UnpackedFloat.Sign) (q : UnpackedFloat) :
    unsignZero (op.onParts (.zero .positive) q) = unsignZero (op.onParts (.zero s) q) := by
  cases s with
  | positive => rfl
  | negative =>
    cases q with
    | zero t => cases op <;> cases t <;> rfl
    | notANumber => cases op <;> rfl
    | infinity t => cases op <;> rfl
    | finite t m e hm => cases op <;> rfl

/-- The operands that a division by zero takes to an infinity. -/
def IsDividend (p : UnpackedFloat) : Prop :=
  p ≠ .notANumber ∧ ∀ s, p ≠ .zero s

/-- So is the sign of a zero on the right, unless a division makes it the sign of an infinity. -/
theorem unsignZero_onParts_zero_right {op : Operator} {p : UnpackedFloat}
    (finite : ¬ (op = .div ∧ IsDividend p)) :
    unsignZero (op.onParts p (.zero .positive)) = unsignZero (op.onParts p (.zero .negative)) := by
  cases p with
  | zero s => cases op <;> cases s <;> rfl
  | notANumber => cases op <;> rfl
  | infinity s =>
    cases op with
    | add => rfl
    | sub => rfl
    | mul => rfl
    | div => exact absurd ⟨rfl, nofun, nofun⟩ finite
  | finite s m e hm =>
    cases op with
    | add => rfl
    | sub => rfl
    | mul => rfl
    | div => exact absurd ⟨rfl, nofun, nofun⟩ finite

theorem isDividend_unsignZero {p : UnpackedFloat} : IsDividend (unsignZero p) ↔ IsDividend p := by
  cases p <;> simp [unsignZero, IsDividend]

/-- The signs of zeros among the operands are at most the sign of a zero in the result, unless the
operation divides by negative zero. -/
theorem unsignZero_onParts {op : Operator} {p q : UnpackedFloat}
    (other : ¬ (op = .div ∧ q = .zero .negative ∧ IsDividend p)) :
    unsignZero (op.onParts (unsignZero p) (unsignZero q)) = unsignZero (op.onParts p q) := by
  -- First the left operand loses its sign, then the right one.
  have left : unsignZero (op.onParts (unsignZero p) q) = unsignZero (op.onParts p q) := by
    cases p with
    | zero s => exact unsignZero_onParts_zero_left op s q
    | notANumber => rfl
    | infinity s => rfl
    | finite s m e hm => rfl
  have right : unsignZero (op.onParts (unsignZero p) (unsignZero q)) =
      unsignZero (op.onParts (unsignZero p) q) := by
    cases q with
    | zero t =>
      cases t with
      | positive => rfl
      | negative =>
        refine unsignZero_onParts_zero_right ?_
        rw [isDividend_unsignZero]
        exact fun h => other ⟨h.1, rfl, h.2⟩
    | notANumber => rfl
    | infinity t => rfl
    | finite t m e hm => rfl
  rw [right, left]

/-- Division by the two zeros gives the two infinities. -/
theorem div_zero_of_isDividend {p : UnpackedFloat} (dividend : IsDividend p) :
    ∃ s, UnpackedFloat.div .binary64 p (.zero .negative) = .infinity s ∧
      UnpackedFloat.div .binary64 (unsignZero p) (.zero .positive) = .infinity (-s) := by
  cases p with
  | zero s => exact absurd rfl (dividend.2 s)
  | notANumber => exact absurd rfl dividend.1
  | infinity s => cases s <;> exact ⟨_, rfl, rfl⟩
  | finite s m e hm => cases s <;> exact ⟨_, rfl, rfl⟩

theorem shown_infinity_ne (s : UnpackedFloat.Sign) :
    Number.shown (ofParts (.infinity (-s))) ≠ Number.shown (ofParts (.infinity s)) := by
  cases s <;> decide +kernel

/-- The left number, which is not zero, is divided by negative zero. The quotient is infinite, and
the sign of the zero decides which infinity it is. -/
structure DividesByNegativeZero (left right : Float) : Prop where
  negativeZero : Magnitude.ofFloat right = .finite true 0
  isNumber : Magnitude.ofFloat left ≠ .undefined
  notZero : ∀ negative, Magnitude.ofFloat left ≠ .finite negative 0

theorem dividesByNegativeZero_iff {x y : Float} :
    DividesByNegativeZero x y ↔ parts y = .zero .negative ∧ IsDividend (parts x) := by
  have right : parts y = .zero .negative ↔ Magnitude.ofFloat y = .finite true 0 :=
    @parts_eq_zero_iff y true
  constructor
  · rintro ⟨negativeZero, isNumber, notZero⟩
    refine ⟨right.2 negativeZero, mt parts_eq_notANumber_iff.1 isNumber, fun s => ?_⟩
    cases s with
    | positive => exact mt (@parts_eq_zero_iff x false).1 (notZero false)
    | negative => exact mt (@parts_eq_zero_iff x true).1 (notZero true)
  · rintro ⟨negativeZero, isNumber, notZero⟩
    exact ⟨right.1 negativeZero, mt parts_eq_notANumber_iff.2 isNumber,
      fun negative => mt parts_eq_zero_iff.2 (notZero _)⟩

/-- An operation on what the plain forms of its operands show has the plain form of the operation on
the operands themselves, unless it divides by negative zero. -/
theorem plainChars_apply_shown_iff {op : Operator} {x y : Float} :
    Number.plainChars (op.apply (Number.shown x) (Number.shown y)) =
        Number.plainChars (op.apply x y) ↔
      ¬ (op = .div ∧ DividesByNegativeZero x y) := by
  rw [Number.plainChars_eq_iff, op.apply_eq, op.apply_eq, parts_shown, parts_shown,
    dividesByNegativeZero_iff]
  constructor
  · rintro same ⟨rfl, negativeZero, dividend⟩
    -- Without the sign of the zero the quotient is the other infinity.
    obtain ⟨s, below, above⟩ := div_zero_of_isDividend dividend
    rw [negativeZero] at same
    change Number.shown (ofParts (.div .binary64 _ (.zero .positive))) =
      Number.shown (ofParts (.div .binary64 _ _)) at same
    rw [below, above] at same
    exact shown_infinity_ne s same
  · intro other
    rw [← shown_ofParts_unsignZero, unsignZero_onParts other, shown_ofParts_unsignZero]

end ReversePolish
