import ReversePolish.Proofs.SignOfZero

/-!
# The numbers that doubles are

A finite double is a rational number: the value of its pattern, with its sign. The operations of the
standard library work on parts of doubles, and this module says what negation, magnitude and the
comparisons do with these numbers.

- `Binary64.value_succ`, `Binary64.strictMono_value`: the patterns are in the order of their values;
- `Binary64.parts_signed`: the parts of the double with a sign and a pattern;
- `Binary64.neg_signed`, `Binary64.abs_signed`: negation turns the sign and a magnitude drops it;
- `Number.toRat`: the number that a double is; `Number.IsIntegral`: the doubles that are integers;
- `Number.compare_parts`: finite doubles are compared as the numbers that they are.
-/

namespace ReversePolish

open Float.Model (UnpackedFloat Format)

/-! ## Values of patterns -/

namespace Binary64

/-- The value of a pattern as a rational number. -/
def value (k : ℕ) : ℚ :=
  numerator k / denominator k

@[simp]
theorem value_zero : value 0 = 0 := by
  rw [value, value_eq]
  simp [significand, leadingBit]

/-- The next pattern has the next significand in the same power of two. Where the significand is the
last one with its power, it goes on from the leading bit, in units twice as large. -/
theorem value_succ (k : ℕ) : value (k + 1) = value k + 2 ^ exponent k := by
  rw [value, value, value_eq, value_eq]
  obtain ⟨steps, power, pattern, bound, leading⟩ := exists_fields k
  obtain ⟨steps', power', pattern', bound', leading'⟩ := exists_fields (k + 1)
  by_cases same : steps' = steps
  · have next : significand (k + 1) = significand k + 1 := by
      rw [same] at pattern'
      omega
    rw [power', power, same, next]
    push_cast
    ring
  · have carry : steps' = steps + 1 ∧ 2 * significand (k + 1) = significand k + 1 := by
      simp only [leadingBit] at *
      omega
    have double : (2 : ℚ) * significand (k + 1) = significand k + 1 := by
      exact_mod_cast carry.2
    have step : exponent (k + 1) = exponent k + 1 := by omega
    rw [step, zpow_add_one₀ two_ne_zero]
    linear_combination (2 : ℚ) ^ exponent k * double

/-- Greater patterns have greater values. -/
theorem strictMono_value : StrictMono value := by
  refine strictMono_nat_of_lt_succ fun k => ?_
  rw [value_succ]
  exact lt_add_of_pos_right _ (by positivity)

theorem value_pos {k : ℕ} (some : 0 < k) : 0 < value k :=
  value_zero ▸ strictMono_value some

theorem compare_value (k k' : ℕ) : compare (value k) (value k') = compare k k' := by
  rw [← cmp_eq_compare, ← cmp_eq_compare, strictMono_value.cmp_map_eq]

/-- Patterns are in the order of their exponents, and those with one exponent in the order of their
significands. -/
theorem fields_of_lt {k k' : ℕ} (less : k < k') :
    exponent k < exponent k' ∨ exponent k = exponent k' ∧ significand k < significand k' := by
  obtain ⟨steps, power, pattern, bound, leading⟩ := exists_fields k
  obtain ⟨steps', power', pattern', bound', leading'⟩ := exists_fields k'
  simp only [leadingBit] at *
  omega

theorem compare_fields (k k' : ℕ) :
    (compare (exponent k) (exponent k')).then (compare (significand k) (significand k')) =
      compare k k' := by
  rcases Nat.lt_trichotomy k k' with less | rfl | greater
  · rw [compare_lt_iff_lt.2 less]
    rcases fields_of_lt less with exponents | ⟨exponents, significands⟩
    · rw [compare_lt_iff_lt.2 exponents]
      rfl
    · rw [compare_eq_iff_eq.2 exponents, compare_lt_iff_lt.2 significands]
      rfl
  · simp
  · rw [compare_gt_iff_gt.2 greater]
    rcases fields_of_lt greater with exponents | ⟨exponents, significands⟩
    · rw [compare_gt_iff_gt.2 exponents]
      rfl
    · rw [compare_eq_iff_eq.2 exponents.symm, compare_gt_iff_gt.2 significands]
      rfl

/-! ## Parts of a sign and a pattern -/

/-- The parts of the double with a sign and a pattern. -/
def partsOf (negative : Bool) (k : ℕ) : UnpackedFloat :=
  if some : 0 < k then
    .finite (if negative then .negative else .positive) (significand k) (exponent k)
      (significand_pos some)
  else .zero (if negative then .negative else .positive)

/-- The bits of a sign and a pattern, as a number. -/
def bitsOf (negative : Bool) (k : ℕ) : ℕ :=
  k + if negative then signBit else 0

/-- The bits of a sign and a pattern. -/
def word (negative : Bool) (k : ℕ) : BitVec Format.binary64.numBits :=
  BitVec.ofNat _ (bitsOf negative k)

section

variable {negative : Bool} {k : ℕ} (finite : k < infinity)

include finite

/-- In front stands the bit of the sign, and behind it the pattern: the bits of its exponent, and
then those of its significand. -/
theorem fields_of_bitsOf : bitsOf negative k < 2 ^ 64 ∧
    bitsOf negative k / 2 ^ 63 % 2 = (if negative then 1 else 0) ∧
      bitsOf negative k / 2 ^ 52 % 2 ^ 11 = k / leadingBit ∧
        bitsOf negative k % 2 ^ 52 = k % leadingBit := by
  simp only [bitsOf, infinity, leadingBit, signBit] at *
  split <;> omega

theorem toNat_word : (word negative k).toNat = bitsOf negative k :=
  (BitVec.toNat_ofNat _ _).trans (Nat.mod_eq_of_lt (fields_of_bitsOf finite).1)

theorem toNat_unpackMantissa_word :
    (UnpackedFloat.unpackMantissa (word negative k)).toNat = k % leadingBit := by
  rw [UnpackedFloat.unpackMantissa_def, BitVec.extractLsb'_toNat, toNat_word finite,
    Nat.shiftRight_zero]
  exact (fields_of_bitsOf finite).2.2.2

theorem toNat_unpackExponent_word :
    (UnpackedFloat.unpackExponent (word negative k)).toNat = k / leadingBit := by
  rw [UnpackedFloat.unpackExponent_def, BitVec.extractLsb'_toNat, toNat_word finite,
    Nat.shiftRight_eq_div_pow]
  exact (fields_of_bitsOf finite).2.2.1

theorem ofBitVec_unpackSign_word :
    UnpackedFloat.Sign.ofBitVec (UnpackedFloat.unpackSign (word negative k)) =
      if negative then .negative else .positive := by
  have bit : UnpackedFloat.unpackSign (word negative k) = if negative then 1#1 else 0#1 := by
    apply BitVec.eq_of_toNat_eq
    rw [UnpackedFloat.unpackSign_def, BitVec.extractLsb'_toNat, toNat_word finite,
      Nat.shiftRight_eq_div_pow]
    refine (fields_of_bitsOf finite).2.1.trans ?_
    cases negative <;> rfl
  rw [bit]
  cases negative <;> rfl

/-- Not all bits of the exponent of a finite double are set. -/
theorem unpackExponent_word_ne : UnpackedFloat.unpackExponent (word negative k) ≠ -1#_ := by
  intro ones
  have field := congrArg BitVec.toNat ones
  rw [toNat_unpackExponent_word finite] at field
  change k / leadingBit = 2047 at field
  simp only [infinity, leadingBit] at *
  omega

/-- Below the first normal double no bit of the exponent is set. -/
theorem unpack_word_of_subnormal (subnormal : k < leadingBit) :
    UnpackedFloat.unpack Format.binary64 (word negative k) = partsOf negative k := by
  have mantissa := @toNat_unpackMantissa_word negative k finite
  have field := @toNat_unpackExponent_word negative k finite
  rw [Nat.mod_eq_of_lt subnormal] at mantissa
  rw [Nat.div_eq_of_lt subnormal] at field
  rw [UnpackedFloat.unpack, if_neg (unpackExponent_word_ne finite),
    if_pos (BitVec.eq_of_toNat_eq field), ofBitVec_unpackSign_word finite, partsOf]
  by_cases some : 0 < k
  · have notZero : UnpackedFloat.unpackMantissa (word negative k) ≠ 0#_ := by
      intro zero
      rw [zero] at mantissa
      exact some.ne mantissa
    rw [dif_neg notZero, dif_pos some]
    refine (UnpackedFloat.finite.injEq ..).mpr ⟨rfl, ?_, ?_⟩
    · rw [mantissa, significand, if_pos subnormal]
    · rw [field, exponent, if_pos subnormal]
      rfl
  · obtain rfl : k = 0 := by omega
    rw [dif_pos (BitVec.eq_of_toNat_eq mantissa), dif_neg some]

/-- From the first normal double on the significand has its leading bit, which is not stored. -/
theorem unpack_word_of_normal (normal : leadingBit ≤ k) :
    UnpackedFloat.unpack Format.binary64 (word negative k) = partsOf negative k := by
  have mantissa := @toNat_unpackMantissa_word negative k finite
  have field := @toNat_unpackExponent_word negative k finite
  have reached : 0 < k / leadingBit := Nat.div_pos normal (by decide)
  have notLeast : UnpackedFloat.unpackExponent (word negative k) ≠ 0#_ := by
    intro zero
    rw [zero] at field
    exact reached.ne field
  have some : 0 < k := lt_of_lt_of_le (by decide) normal
  rw [UnpackedFloat.unpack, if_neg (unpackExponent_word_ne finite), if_neg notLeast,
    ofBitVec_unpackSign_word finite, partsOf, dif_pos some]
  refine (UnpackedFloat.finite.injEq ..).mpr ⟨rfl, ?_, ?_⟩
  · have below : k % leadingBit < 2 ^ 52 := Nat.mod_lt k (by decide)
    rw [BitVec.toNat_append, mantissa, significand, if_neg (Nat.not_lt.2 normal),
      ← Nat.shiftLeft_add_eq_or_of_lt below]
    rfl
  · rw [field, exponent, if_neg (Nat.not_lt.2 normal)]
    rfl

theorem unpack_word :
    UnpackedFloat.unpack Format.binary64 (word negative k) = partsOf negative k :=
  (Nat.lt_or_ge k leadingBit).elim (unpack_word_of_subnormal finite) (unpack_word_of_normal finite)

/-- The bits of a finite double are those that it was given. -/
theorem toBits_signed : (signed negative k).toBits.toBitVec = word negative k := by
  have valid : Format.binary64.Valid (word negative k) :=
    ⟨fun ones _ => absurd ones (unpackExponent_word_ne finite)⟩
  exact UnpackedFloat.pack_unpack_of_valid valid

theorem parts_signed : parts (signed negative k) = partsOf negative k :=
  (congrArg (UnpackedFloat.unpack Format.binary64) (toBits_signed finite)).trans
    (unpack_word finite)

theorem ofParts_partsOf : ofParts (partsOf negative k) = signed negative k := by
  rw [← parts_signed finite, ofParts_parts]

/-- A sign and a pattern below infinity are what their double stands for. -/
theorem ofFloat_signed : Magnitude.ofFloat (signed negative k) = .finite negative k := by
  have bits : (signed negative k).toBits.toNat = bitsOf negative k := by
    rw [← toNat_word finite, ← toBits_signed finite]
    rfl
  have pattern : bitsOf negative k % signBit = k := by
    simp only [bitsOf, infinity, leadingBit, signBit] at *
    split <;> omega
  have sign : decide (signBit ≤ bitsOf negative k) = negative := by
    have small : k < signBit := finite.trans (by decide)
    cases negative with
    | false => exact decide_eq_false (Nat.not_le.2 small)
    | true => exact decide_eq_true (Nat.le_add_left signBit k)
  simp only [Magnitude.ofFloat, bits, sign, pattern]
  rw [if_pos finite]

theorem isFinite_signed : (signed negative k).isFinite = true := by
  change (parts (signed negative k)).isFinite = true
  rw [parts_signed finite, partsOf]
  split <;> rfl

/-- Negation turns the sign. -/
theorem neg_signed : -signed negative k = signed (!negative) k := by
  rw [← @ofParts_partsOf (!negative) k finite]
  change ofParts (parts (signed negative k)).neg = _
  rw [parts_signed finite, partsOf, partsOf]
  split <;> cases negative <;> rfl

/-- A magnitude has no sign. -/
theorem abs_signed : (signed negative k).abs = signed false k := by
  rw [← @ofParts_partsOf false k finite]
  change ofParts (parts (signed negative k)).abs = _
  rw [parts_signed finite, partsOf, partsOf]
  split <;> rfl

end

end Binary64

/-! ## Finite doubles as numbers -/

namespace Binary64

/-- The value of a pattern with a sign. -/
def signedValue (negative : Bool) (k : ℕ) : ℚ :=
  if negative then -value k else value k

@[simp]
theorem signedValue_zero (negative : Bool) : signedValue negative 0 = 0 := by
  cases negative <;> simp [signedValue]

theorem signedValue_true_neg {k : ℕ} (some : 0 < k) : signedValue true k < 0 :=
  neg_lt_zero.2 (value_pos some)

theorem signedValue_false_pos {k : ℕ} (some : 0 < k) : 0 < signedValue false k :=
  value_pos some

/-- With a minus before them numbers are in the reverse order. -/
theorem compare_neg_neg (p q : ℚ) : compare (-p) (-q) = (compare p q).swap := by
  rw [← cmp_eq_compare, ← cmp_eq_compare, cmp_swap]
  exact StrictAnti.cmp_map_eq (fun _ _ => neg_lt_neg) p q

/-- The parts of doubles are compared as the values that they have. -/
theorem compare_partsOf (negative negative' : Bool) (k k' : ℕ) :
    (partsOf negative k).compare (partsOf negative' k') =
      some (compare (signedValue negative k) (signedValue negative' k')) := by
  rcases Nat.eq_zero_or_pos k with rfl | some
  · rcases Nat.eq_zero_or_pos k' with rfl | some'
    · cases negative <;> cases negative' <;> simp [partsOf, UnpackedFloat.compare]
    · cases negative' with
      | false =>
        rw [signedValue_zero, compare_lt_iff_lt.2 (signedValue_false_pos some')]
        simp [partsOf, some', UnpackedFloat.compare]
      | true =>
        rw [signedValue_zero, compare_gt_iff_gt.2 (signedValue_true_neg some')]
        simp [partsOf, some', UnpackedFloat.compare]
  · rcases Nat.eq_zero_or_pos k' with rfl | some'
    · cases negative with
      | false =>
        rw [signedValue_zero, compare_gt_iff_gt.2 (signedValue_false_pos some)]
        simp [partsOf, some, UnpackedFloat.compare]
      | true =>
        rw [signedValue_zero, compare_lt_iff_lt.2 (signedValue_true_neg some)]
        simp [partsOf, some, UnpackedFloat.compare]
    · -- Of two signs the minus comes first. With one sign the patterns decide.
      rw [partsOf, partsOf, dif_pos some, dif_pos some']
      cases negative <;> cases negative'
      · change Option.some _ = Option.some (compare (value k) (value k'))
        rw [compare_fields, compare_value]
      · exact congrArg _ (compare_gt_iff_gt.2
          ((signedValue_true_neg some').trans (signedValue_false_pos some))).symm
      · exact congrArg _ (compare_lt_iff_lt.2
          ((signedValue_true_neg some).trans (signedValue_false_pos some'))).symm
      · change Option.some (Ordering.swap _) = Option.some (compare (-value k) (-value k'))
        rw [compare_fields, compare_neg_neg, compare_value]

end Binary64

namespace Number

open Binary64

/-- The number that a finite double is. -/
def toRat (x : Float) : ℚ :=
  match Magnitude.ofFloat x with
  | .finite negative k => signedValue negative k
  | _ => 0

theorem toRat_signed (negative : Bool) {k : ℕ} (finite : k < infinity) :
    toRat (signed negative k) = signedValue negative k := by
  rw [toRat, ofFloat_signed finite]

/-- A finite double has a sign and a pattern. -/
theorem exists_signed_of_isFinite {x : Float} (finite : x.isFinite = true) :
    ∃ negative k, k < infinity ∧ x = signed negative k := by
  cases magnitude : Magnitude.ofFloat x with
  | finite negative k =>
    exact ⟨negative, k, lt_infinity_of_ofFloat magnitude, Magnitude.eq_signed_of_finite magnitude⟩
  | infinite negative =>
    rw [Magnitude.eq_signed_of_infinite magnitude] at finite
    cases negative <;> exact absurd finite (by decide +kernel)
  | undefined =>
    rw [Magnitude.eq_of_undefined magnitude] at finite
    exact absurd finite (by decide +kernel)

section

variable {x y : Float} (finite : x.isFinite = true) (finite' : y.isFinite = true)

include finite finite'

/-- Finite doubles are compared as the numbers that they are. -/
theorem compare_parts : (parts x).compare (parts y) = some (compare (toRat x) (toRat y)) := by
  obtain ⟨negative, k, below, rfl⟩ := exists_signed_of_isFinite finite
  obtain ⟨negative', k', below', rfl⟩ := exists_signed_of_isFinite finite'
  rw [toRat_signed negative below, toRat_signed negative' below', parts_signed below,
    parts_signed below', compare_partsOf]

theorem beq_iff_toRat_eq : (x == y) = true ↔ toRat x = toRat y := by
  change ((parts x).compare (parts y) == some .eq) = true ↔ _
  rw [compare_parts finite finite', beq_iff_eq, Option.some.injEq, compare_eq_iff_eq]

theorem lt_iff_toRat_lt : x < y ↔ toRat x < toRat y := by
  change decide ((parts x).lt (parts y) = true) = true ↔ _
  rw [decide_eq_true_iff, UnpackedFloat.lt, compare_parts finite finite', beq_iff_eq,
    Option.some.injEq, compare_lt_iff_lt]

theorem le_iff_toRat_le : x ≤ y ↔ toRat x ≤ toRat y := by
  change decide ((parts x).le (parts y) = true) = true ↔ _
  rw [decide_eq_true_iff, UnpackedFloat.le, compare_parts finite finite', ← compare_le_iff_le]
  exact Ordering.ne_gt_iff_isLE.symm

end

/-! ## Doubles without a fractional part -/

/-- The double is finite and has no fractional part. -/
def IsIntegral (x : Float) : Prop :=
  x.isFinite = true ∧ ∃ n : ℤ, toRat x = n

/-- The pattern of a natural number has no remainder. -/
theorem isWhole_iff {k : ℕ} : isWhole k = true ↔ ∃ n : ℕ, value k = n := by
  have notZero : (denominator k : ℚ) ≠ 0 := by exact_mod_cast (denominator_pos k).ne'
  rw [isWhole, decide_eq_true_iff, ← Nat.dvd_iff_mod_eq_zero, value]
  constructor
  · rintro ⟨n, product⟩
    exact ⟨n, by rw [product, Nat.cast_mul, mul_div_cancel_left₀ _ notZero]⟩
  · rintro ⟨n, quotient⟩
    rw [div_eq_iff notZero] at quotient
    exact ⟨n, by rw [mul_comm]; exact_mod_cast quotient⟩

/-- A sign makes no difference to having a fractional part. -/
theorem exists_signedValue_eq_iff {negative : Bool} {k : ℕ} :
    (∃ n : ℤ, signedValue negative k = n) ↔ ∃ n : ℤ, value k = n := by
  cases negative with
  | false => rfl
  | true =>
    constructor
    · rintro ⟨n, integer⟩
      exact ⟨-n, by rw [Int.cast_neg, ← integer, signedValue, if_pos rfl, neg_neg]⟩
    · rintro ⟨n, integer⟩
      exact ⟨-n, by rw [Int.cast_neg, ← integer, signedValue, if_pos rfl]⟩

/-- The integers among the finite doubles are those without a fractional part. -/
theorem isIntegral_signed {negative : Bool} {k : ℕ} (finite : k < infinity) :
    IsIntegral (signed negative k) ↔ isWhole k = true := by
  rw [IsIntegral, toRat_signed negative finite, exists_signedValue_eq_iff, isWhole_iff]
  constructor
  · rintro ⟨-, n, integer⟩
    have nonneg : (0 : ℚ) ≤ n := integer ▸ value_zero ▸ strictMono_value.monotone (Nat.zero_le k)
    obtain ⟨m, rfl⟩ := Int.eq_ofNat_of_zero_le (by exact_mod_cast nonneg)
    exact ⟨m, integer⟩
  · rintro ⟨n, natural⟩
    exact ⟨isFinite_signed finite, n, natural⟩

end Number

end ReversePolish
