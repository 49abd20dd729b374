import ReversePolish.Number.Display
import ReversePolish.Number.Numeral
import ReversePolish.Proofs.WrittenNumber

/-!
# Written numerals

A decimal numeral in characters: digits, perhaps a point with more digits behind it, perhaps a power
of ten. The numbers of expressions are such numerals, and so are the digits that doubles are shown
with. This module says which decimal the characters write, and proves that it is the one that is
read.

- `Numeral.Writes`: the characters write a decimal;
- `Numeral.Writes.readChars?_withSign`: a written decimal, with or without a minus before it, is
  read as the double nearest to it;
- `Numeral.isSome_read?_of_isNumber`: every number of an expression reads as a double.
-/

namespace ReversePolish.Numeral

open Lexeme Text

/-! ## Decimals in characters -/

/-- A point and the digits behind it, if there are any. -/
def pointed (fraction : List Char) : List Char :=
  if fraction.isEmpty then [] else '.' :: fraction

theorem pointed_of_isDigits {fraction : List Char} (isDigits : IsDigits fraction) :
    pointed fraction = '.' :: fraction := by
  rw [pointed, if_neg]
  simpa using isDigits.1

/-- The characters write the power of ten behind the digits: none, or `e`, a sign and digits. -/
inductive WritesPower : List Char → Int → Prop
  | absent : WritesPower [] 0
  | given {digits : List Char} (negative : Bool) (isDigits : IsDigits digits) :
    WritesPower ('e' :: (if negative then '-' else '+') :: digits)
      (if negative then -(Integer.ofDigits digits : Int) else Integer.ofDigits digits)

/-- The characters write `digits * 10 ^ power` as digits, perhaps with a point and more digits
behind it, and perhaps with a power of ten. -/
inductive Writes : List Char → Nat → Int → Prop
  | intro {whole fraction tail : List Char} {power : Int} (isDigits : IsDigits whole)
    (more : ∀ c ∈ fraction, c.isDigit = true) (writesPower : WritesPower tail power) :
    Writes (whole ++ (pointed fraction ++ tail)) (Integer.ofDigits (whole ++ fraction))
      (power - fraction.length)

/-- What follows the digits in front of a power of ten. -/
theorem WritesPower.stops {tail : List Char} {power : Int} (h : WritesPower tail power) :
    Scan.StopsNumber tail := by
  cases h with
  | absent => simp [Scan.StopsNumber]
  | given negative isDigits =>
    intro c hc
    obtain rfl : 'e' = c := by simpa using hc
    decide

theorem WritesPower.exponent?_eq {tail : List Char} {power : Int} (h : WritesPower tail power) :
    exponent? tail = some power := by
  cases h with
  | absent => rfl
  | @given digits negative isDigits =>
    have natural : natural? digits = some (Integer.ofDigits digits) := by
      rw [natural?, if_pos]
      simpa [IsDigits] using isDigits
    cases negative <;> simp [exponent?, splitSign, natural]

/-- Point and fraction are split off where the power of ten begins. -/
theorem splitFraction_pointed {fraction tail : List Char}
    (more : ∀ c ∈ fraction, c.isDigit = true) (stops : Scan.StopsNumber tail) :
    splitFraction (pointed fraction ++ tail) = (fraction, tail) := by
  cases fraction with
  | nil =>
    change splitFraction tail = _
    rw [splitFraction]
    rintro rest rfl
    exact (stops '.' rfl).2 rfl
  | cons d ds =>
    obtain ⟨taken, dropped⟩ := Scan.span_digits more tail fun c hc => (stops c hc).1
    change (((d :: ds) ++ tail).takeWhile _, ((d :: ds) ++ tail).dropWhile _) = _
    rw [taken, dropped]

/-- The digits and the power of ten that are written are read. -/
theorem Writes.decimal?_eq {cs : List Char} {digits : Nat} {e : Int} (h : Writes cs digits e) :
    decimal? cs = some (digits, e) := by
  obtain @⟨whole, fraction, tail, power, isDigits, more, writesPower⟩ := h
  have stop : ∀ c ∈ (pointed fraction ++ tail).head?, c.isDigit = false := by
    cases fraction with
    | nil => exact fun c hc => (writesPower.stops c hc).1
    | cons d ds =>
      intro c hc
      obtain rfl : '.' = c := by simpa [pointed] using hc
      decide
  obtain ⟨taken, dropped⟩ := Scan.span_digits isDigits.2 _ stop
  have some : whole.isEmpty = false := by simpa using isDigits.1
  simp [decimal?, taken, dropped, splitFraction_pointed more writesPower.stops, some,
    writesPower.exponent?_eq]

/-- A written decimal begins with a digit. -/
theorem Writes.exists_cons {cs : List Char} {digits : Nat} {e : Int} (h : Writes cs digits e) :
    ∃ d rest, cs = d :: rest ∧ d.isDigit = true := by
  obtain @⟨whole, fraction, tail, power, isDigits, more, writesPower⟩ := h
  obtain ⟨d, ds, rfl⟩ := List.exists_cons_of_ne_nil isDigits.1
  exact ⟨d, _, rfl, isDigits.2 d (by simp)⟩

theorem mem_pointed {fraction : List Char} {c : Char} (hc : c ∈ pointed fraction) :
    c = '.' ∨ c ∈ fraction := by
  rw [pointed] at hc
  split at hc
  · cases hc
  · exact List.mem_cons.1 hc

theorem WritesPower.mem {tail : List Char} {power : Int} (h : WritesPower tail power) {c : Char}
    (hc : c ∈ tail) : c.isDigit = true ∨ c ∈ ['e', '+', '-'] := by
  cases h with
  | absent => cases hc
  | given negative isDigits =>
    rcases List.mem_cons.1 hc with rfl | hc
    · decide
    · rcases List.mem_cons.1 hc with rfl | hc
      · cases negative <;> decide
      · exact .inl (isDigits.2 c hc)

/-- The characters of a written decimal. -/
theorem Writes.mem {cs : List Char} {digits : Nat} {e : Int} (h : Writes cs digits e) {c : Char}
    (hc : c ∈ cs) : c.isDigit = true ∨ c ∈ ['.', 'e', '+', '-'] := by
  obtain @⟨whole, fraction, tail, power, isDigits, more, writesPower⟩ := h
  rcases List.mem_append.1 hc with hc | hc
  · exact .inl (isDigits.2 c hc)
  · rcases List.mem_append.1 hc with hc | hc
    · rcases mem_pointed hc with rfl | hc
      · exact .inr (by decide)
      · exact .inl (more c hc)
    · exact (writesPower.mem hc).imp_right (List.mem_cons_of_mem '.')

/-- Without a point and a power of ten the digits write their number. -/
theorem writes_of_isDigits {cs : List Char} (isDigits : IsDigits cs) :
    Writes cs (Integer.ofDigits cs) 0 := by
  simpa [pointed] using @Writes.intro cs [] [] 0 isDigits (by simp) .absent

/-- The number of a lexeme is a decimal without a power of ten. -/
theorem exists_writes_of_isNumber {cs : List Char} (number : isNumber cs = true) :
    ∃ digits e, Writes cs digits e := by
  rcases isNumber_iff.1 number with isDigits | ⟨whole, fraction, isDigits, more, rfl⟩
  · exact ⟨_, _, writes_of_isDigits isDigits⟩
  · have writes := Writes.intro isDigits more.2 .absent
    rw [List.append_nil, pointed_of_isDigits more] at writes
    exact ⟨_, _, writes⟩

/-! ## Reading -/

/-- What reading leaves as it is: characters of ASCII, but neither layout nor low lines. -/
structure IsPlain (c : Char) : Prop where
  ascii : c.toNat < 0x80
  notLayout : isLayout c = false
  notLowLine : c ≠ '_'

theorem isPlain_of_isDigit {c : Char} (digit : c.isDigit = true) : IsPlain c where
  ascii := by
    have range : c.toNat ≤ 57 := (Char.isDigit_iff_toNat.1 digit).2
    omega
  notLayout := isLayout_of_isDigit digit
  notLowLine := by
    rintro rfl
    exact absurd digit (by decide)

/-- Nothing is cut off the ends of a text without layout. -/
private theorem trimBy_of_forall_not {p : Char → Bool} {cs : List Char}
    (h : ∀ c ∈ cs, p c = false) : trimBy p cs = cs := by
  -- The end is the front of the reversed text.
  have front : ∀ ds : List Char, (∀ c ∈ ds, p c = false) → ds.dropWhile p = ds := by
    intro ds hds
    cases ds with
    | nil => rfl
    | cons d ds => rw [List.dropWhile_cons_of_neg (by simp [hds d (by simp)])]
  rw [trimBy, front cs h, front cs.reverse (by simpa using h), List.reverse_reverse]

private theorem normal_of_isPlain {cs : List Char} (plain : ∀ c ∈ cs, IsPlain c) :
    normal cs = cs := by
  have same : cs.map normalChar = cs :=
    (List.map_congr_left fun c hc => if_pos (plain c hc).ascii).trans (List.map_id' cs)
  rw [normal, same]
  exact trimBy_of_forall_not fun c hc => (plain c hc).notLayout

/-- Without low lines there is nothing to leave out. -/
private theorem joinDigits?_of_notMem {cs : List Char} (h : '_' ∉ cs) (afterDigit : Bool) :
    joinDigits? afterDigit cs = some cs := by
  induction cs generalizing afterDigit with
  | nil => rfl
  | cons c cs ih =>
    rw [List.mem_cons, not_or] at h
    rw [joinDigits?, ih h.2]
    · rfl
    · rintro rfl
      exact h.1 rfl

/-- Plain characters are read as they stand. -/
theorem readChars?_of_isPlain {cs : List Char} (plain : ∀ c ∈ cs, IsPlain c) :
    readChars? cs = unsigned? (splitSign cs).1 (splitSign cs).2 := by
  have noLowLine : '_' ∉ cs := fun h => (plain '_' h).notLowLine rfl
  rw [readChars?, normal_of_isPlain plain, joinDigits?_of_notMem noLowLine]
  rfl

/-- What begins with a digit has no sign. -/
theorem splitSign_of_isDigit {d : Char} (digit : d.isDigit = true) (rest : List Char) :
    splitSign (d :: rest) = (false, d :: rest) := by
  rw [splitSign]
  · rintro rest' h
    cases h
    exact absurd digit (by decide)
  · rintro rest' h
    cases h
    exact absurd digit (by decide)

theorem Writes.isPlain {cs : List Char} {digits : Nat} {e : Int} (h : Writes cs digits e)
    {c : Char} (hc : c ∈ cs) : IsPlain c := by
  rcases h.mem hc with digit | other
  · exact isPlain_of_isDigit digit
  · simp only [List.mem_cons, List.not_mem_nil, or_false] at other
    obtain rfl | rfl | rfl | rfl := other
    all_goals exact ⟨by decide, by decide, by decide⟩

/-- What begins with a digit is none of the names of infinities and of what is not a number. -/
theorem unsigned?_of_isDigit {d : Char} (digit : d.isDigit = true) (rest : List Char)
    (negative : Bool) :
    unsigned? negative (d :: rest) = (decimal? (d :: rest)).map fun (digits, e) =>
      Binary64.signed negative (Binary64.ofDecimal digits e) := by
  -- The names are compared in lower case, which a digit does not have.
  have lower : d.toLower = d := by
    have range : 48 ≤ d.toNat ∧ d.toNat ≤ 57 := Char.isDigit_iff_toNat.1 digit
    refine dif_neg ?_
    rintro ⟨letter, -⟩
    change 65 ≤ d.toNat at letter
    omega
  have notLetter : d ≠ 'i' ∧ d ≠ 'n' := by
    constructor <;> rintro rfl <;> exact absurd digit (by decide)
  rw [unsigned?, if_neg, if_neg] <;> simp [lower, notLetter]

/-- A written decimal, perhaps with a minus before it, is read as the double nearest to it. -/
theorem Writes.readChars?_withSign {cs : List Char} {digits : Nat} {e : Int}
    (h : Writes cs digits e) (negative : Bool) :
    readChars? (Number.withSign negative cs) =
      some (Binary64.signed negative (Binary64.ofDecimal digits e)) := by
  have plain : ∀ c ∈ Number.withSign negative cs, IsPlain c := by
    intro c hc
    cases negative with
    | false => exact h.isPlain hc
    | true =>
      rcases List.mem_cons.1 hc with rfl | hc
      · exact ⟨by decide, by decide, by decide⟩
      · exact h.isPlain hc
  obtain ⟨d, rest, hd, digit⟩ := h.exists_cons
  have unsigned : splitSign (Number.withSign negative cs) = (negative, cs) := by
    cases negative with
    | false => rw [Number.withSign, if_neg (by decide), hd, splitSign_of_isDigit digit]
    | true => rfl
  have decimal := h.decimal?_eq
  rw [readChars?_of_isPlain plain, unsigned]
  rw [hd] at decimal ⊢
  rw [unsigned?_of_isDigit digit, decimal]
  rfl

/-- Every written number reads as a double. -/
theorem isSome_read?_of_isNumber {s : String} (number : isNumber s.toList = true) :
    (read? s).isSome = true := by
  obtain ⟨digits, e, writes⟩ := exists_writes_of_isNumber number
  have reads := writes.readChars?_withSign false
  change readChars? s.toList = _ at reads
  rw [read?, reads]
  rfl

end ReversePolish.Numeral
