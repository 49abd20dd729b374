import Mathlib.Data.List.TakeWhile
import ReversePolish.Scan
import ReversePolish.Token.Lexeme

/-!
# Written numbers

A written number is a run of digits, or two such runs with a point between them. This module proves
that rule equal to `Lexeme.isNumber`, and what follows from it for scanning:

- `splitNumber_of_isNumber`: scanning takes a written number off the front of a text as a whole, if
  it ends in front of what follows;
- `isNumber_splitNumber`, `endsNumber_splitNumber`: what scanning takes off at a digit is a written
  number, and the longest one that stands there.
-/

namespace ReversePolish

theorem Text.isLayout_of_isDigit {c : Char} (h : c.isDigit = true) : isLayout c = false := by
  have range : 48 ≤ c.toNat ∧ c.toNat ≤ 57 := Char.isDigit_iff_toNat.1 h
  simp only [isLayout, Bool.or_eq_false_iff, Bool.and_eq_false_iff, decide_eq_false_iff_not]
  omega

namespace Lexeme

/-- One or more digits. -/
def IsDigits (cs : List Char) : Prop :=
  cs ≠ [] ∧ ∀ c ∈ cs, c.isDigit = true

theorem ne_point_of_isDigit {c : Char} (h : c.isDigit = true) : c ≠ '.' := by
  rintro rfl
  exact absurd h (by decide)

/-- Up to a point, a run of digits is taken as a whole. -/
private theorem span_point {whole : List Char} (digits : IsDigits whole) (rest : List Char) :
    (whole ++ '.' :: rest).takeWhile (· ≠ '.') = whole ∧
      (whole ++ '.' :: rest).dropWhile (· ≠ '.') = '.' :: rest := by
  have inside : ∀ c ∈ whole, decide (c ≠ '.') = true := fun c hc =>
    decide_eq_true (ne_point_of_isDigit (digits.2 c hc))
  rw [List.takeWhile_append_of_pos inside, List.dropWhile_append_of_pos inside]
  simp

/-- Written numbers are one run of digits, or two with a point between them. -/
theorem isNumber_iff {cs : List Char} :
    isNumber cs = true ↔
      IsDigits cs ∨ ∃ whole fraction, IsDigits whole ∧ IsDigits fraction ∧
        cs = whole ++ '.' :: fraction := by
  constructor
  · intro h
    have parts := List.takeWhile_append_dropWhile (p := fun c => decide (c ≠ '.')) (l := cs)
    simp only [isNumber, Bool.and_eq_true, Bool.not_eq_true', List.isEmpty_eq_false_iff,
      List.all_eq_true] at h
    obtain ⟨⟨some, digits⟩, tail⟩ := h
    -- What is left over begins with a point, if there is anything left over.
    cases after : cs.dropWhile (fun c => decide (c ≠ '.')) with
    | nil =>
      rw [after, List.append_nil] at parts
      rw [parts] at some digits
      exact .inl ⟨some, digits⟩
    | cons c fraction =>
      have point : c = '.' := by
        have head := List.head?_dropWhile_not (fun c => decide (c ≠ '.')) cs
        rw [after] at head
        simpa using head
      rw [after] at tail
      simp only [Bool.and_eq_true, Bool.not_eq_true', List.isEmpty_eq_false_iff,
        List.all_eq_true] at tail
      rw [after, point] at parts
      exact .inr ⟨_, fraction, ⟨some, digits⟩, tail, parts.symm⟩
  · rintro (digits | ⟨whole, fraction, digits, more, rfl⟩)
    · have inside : ∀ c ∈ cs, decide (c ≠ '.') = true := fun c hc =>
        decide_eq_true (ne_point_of_isDigit (digits.2 c hc))
      have taken : cs.takeWhile (fun c => decide (c ≠ '.')) = cs :=
        List.takeWhile_eq_self_iff.2 inside
      have dropped : cs.dropWhile (fun c => decide (c ≠ '.')) = [] :=
        List.dropWhile_eq_nil_iff.2 inside
      simp only [isNumber, taken, dropped, Bool.and_eq_true, Bool.not_eq_true',
        List.isEmpty_eq_false_iff, List.all_eq_true]
      exact ⟨digits, trivial⟩
    · obtain ⟨taken, dropped⟩ := span_point digits fraction
      simp only [isNumber, taken, dropped, Bool.and_eq_true, Bool.not_eq_true',
        List.isEmpty_eq_false_iff, List.all_eq_true]
      exact ⟨digits, more⟩

/-- A written number begins with a digit. -/
theorem exists_cons_of_isNumber {cs : List Char} (h : isNumber cs = true) :
    ∃ d rest, cs = d :: rest ∧ d.isDigit = true := by
  rcases isNumber_iff.1 h with digits | ⟨whole, fraction, digits, -, rfl⟩
  · obtain ⟨d, rest, rfl⟩ := List.exists_cons_of_ne_nil digits.1
    exact ⟨d, rest, rfl, digits.2 d (by simp)⟩
  · obtain ⟨d, rest, rfl⟩ := List.exists_cons_of_ne_nil digits.1
    exact ⟨d, rest ++ '.' :: fraction, rfl, digits.2 d (by simp)⟩

/-- The characters of a written number are digits and the point. -/
theorem isDigit_or_point_of_mem {cs : List Char} (h : isNumber cs = true) {c : Char}
    (hc : c ∈ cs) : c.isDigit = true ∨ c = '.' := by
  rcases isNumber_iff.1 h with digits | ⟨whole, fraction, digits, more, rfl⟩
  · exact .inl (digits.2 c hc)
  · rcases List.mem_append.1 hc with hc | hc
    · exact .inl (digits.2 c hc)
    · rcases List.mem_cons.1 hc with rfl | hc
      · exact .inr rfl
      · exact .inl (more.2 c hc)

end Lexeme

/-! ## Scanning a written number -/

namespace Scan

open Lexeme

/-- The number `cs` ends in front of the text: no digit carries it on, and if it has no fraction, no
point with a digit behind it does. -/
structure EndsNumber (cs rest : List Char) : Prop where
  noDigit : ∀ c ∈ rest.head?, c.isDigit = false
  noFraction : '.' ∉ cs → ∀ d behind, rest = '.' :: d :: behind → d.isDigit = false

/-- The text begins neither with a digit nor with a point, so that any number in front of it ends
there. -/
def StopsNumber (cs : List Char) : Prop :=
  ∀ c ∈ cs.head?, c.isDigit = false ∧ c ≠ '.'

theorem StopsNumber.ends {rest : List Char} (h : StopsNumber rest) (cs : List Char) :
    EndsNumber cs rest where
  noDigit c hc := (h c hc).1
  noFraction _ d behind point := by
    rw [point] at h
    exact absurd rfl (h '.' rfl).2

/-- A run of digits ends where something else begins. -/
theorem span_digits {cs : List Char} (digits : ∀ c ∈ cs, c.isDigit = true)
    (rest : List Char) (stop : ∀ c ∈ rest.head?, c.isDigit = false) :
    (cs ++ rest).takeWhile Char.isDigit = cs ∧ (cs ++ rest).dropWhile Char.isDigit = rest := by
  rw [List.takeWhile_append_of_pos digits, List.dropWhile_append_of_pos digits]
  cases rest with
  | nil => simp
  | cons c rest => simp [stop c rfl]

/-- The longest number at the front of a text is the written number that stands there, if it ends
in front of what follows. -/
theorem splitNumber_of_isNumber {cs rest : List Char} (number : isNumber cs = true)
    (ends : EndsNumber cs rest) : splitNumber (cs ++ rest) = (cs, rest) := by
  rcases isNumber_iff.1 number with digits | ⟨whole, fraction, digits, more, rfl⟩
  · obtain ⟨taken, dropped⟩ := span_digits digits.2 rest ends.noDigit
    have noPoint : '.' ∉ cs := fun point => ne_point_of_isDigit (digits.2 '.' point) rfl
    rw [splitNumber, taken, dropped]
    cases rest with
    | nil => rfl
    | cons c rest =>
      -- A point is taken only if a digit follows it, and none does.
      have notTaken : ¬ (c = '.' ∧ ¬ (rest.takeWhile Char.isDigit).isEmpty = true) := by
        rintro ⟨rfl, some⟩
        cases rest with
        | nil => exact some rfl
        | cons d behind =>
          have notDigit := ends.noFraction noPoint d behind rfl
          simp [notDigit] at some
      dsimp only
      rw [if_neg notTaken]
  · -- The first run of digits ends at the point, the second one where the number ends.
    obtain ⟨taken, dropped⟩ := span_digits digits.2 ('.' :: (fraction ++ rest)) (by simp)
    obtain ⟨taken', dropped'⟩ := span_digits more.2 rest ends.noDigit
    rw [List.append_assoc, List.cons_append, splitNumber, taken, dropped]
    simp [taken', dropped', more.1]

/-- The first character that is dropped no more is no digit. -/
private theorem notDigit_of_mem_head? {cs : List Char} {c : Char}
    (hc : c ∈ (cs.dropWhile Char.isDigit).head?) : c.isDigit = false := by
  have head := List.head?_dropWhile_not Char.isDigit cs
  rw [Option.mem_def.1 hc] at head
  exact head

/-- What is split off at a digit ends in front of the rest: it is the longest number. -/
theorem endsNumber_splitNumber (cs : List Char) :
    EndsNumber (splitNumber cs).1 (splitNumber cs).2 := by
  rw [splitNumber]
  split
  · exact ⟨by simp, by simp⟩
  · next c after dropped =>
    have first : c ∈ (cs.dropWhile Char.isDigit).head? := by
      rw [dropped]
      rfl
    have notDigit := notDigit_of_mem_head? first
    split
    · refine ⟨fun d hd => notDigit_of_mem_head? hd, fun noPoint => ?_⟩
      exact absurd (by simp) noPoint
    · next notTaken =>
      refine ⟨fun d hd => ?_, fun _ d behind point => ?_⟩
      · obtain rfl : c = d := by simpa using hd
        exact notDigit
      · rw [List.cons.injEq] at point
        obtain ⟨rfl, rfl⟩ := point
        -- Had a digit followed the point, both would have been taken.
        cases digit : d.isDigit with
        | false => rfl
        | true => exact absurd ⟨rfl, by simp [digit]⟩ notTaken

/-- What is split off at a digit is a written number. -/
theorem isNumber_splitNumber {c : Char} (digit : c.isDigit = true) (rest : List Char) :
    isNumber (splitNumber (c :: rest)).1 = true := by
  have digits : IsDigits ((c :: rest).takeWhile Char.isDigit) := by
    refine ⟨by simp [digit], fun d hd => ?_⟩
    exact List.mem_takeWhile_imp hd
  rw [isNumber_iff, splitNumber]
  split
  · exact .inl digits
  · next d after _ =>
    split
    · -- The point is taken only if a digit follows it.
      next point =>
        refine .inr ⟨_, after.takeWhile Char.isDigit, digits, ⟨by simpa using point.2, ?_⟩, rfl⟩
        exact fun d hd => List.mem_takeWhile_imp hd
    · exact .inl digits

end Scan

end ReversePolish
