import Mathlib.Tactic.TFAE
import ReversePolish.Proofs.Sentence

/-!
# Accepted expressions

Conversion looks only at parentheses, and evaluation never sees them. This module counts what the
two let through. The surplus of a list is the number of its numbers less that of its operators. It
is one for every sequence that has a value (`count_of_evaluate`), and:

- `surplus_of_convert`: a conversion keeps the surplus;
- `Balanced.bounded`: where operands are separated, no balanced list has a greater surplus, and
  only sentences reach it;
- `evaluates_tfae_isSentence`: for separated operands, having a value, having a surplus of one and
  being a sentence are the same.
-/

namespace ReversePolish

/-! ## The surplus of numbers -/

/-- By how much the numbers outnumber the operators. -/
def surplus (ts : List Token) : Int :=
  ts.countP Token.isNumber - ts.countP Token.isOperator

theorem surplus_append (ts us : List Token) : surplus (ts ++ us) = surplus ts + surplus us := by
  simp only [surplus, List.countP_append]
  omega

theorem surplus_cons (t : Token) (ts : List Token) :
    surplus (t :: ts) = surplus [t] + surplus ts :=
  surplus_append [t] ts

theorem surplus_number {t : Token} (h : t.isNumber = true) : surplus [t] = 1 := by
  simp [surplus, h, (Token.not_of_isNumber h).1]

theorem surplus_operator {t : Token} (h : t.isOperator = true) : surplus [t] = -1 := by
  simp [surplus, h, (Token.not_of_isOperator h).1]

theorem surplus_paren {t : Token} (h : t.kind = .leftParen ∨ t.kind = .rightParen) :
    surplus [t] = 0 := by
  obtain ⟨notNumber, notOperator⟩ := Token.not_of_paren h
  simp [surplus, notNumber, notOperator]

/-- Nothing, or an operator and a sentence: what may follow a sentence. -/
def Continues (ts : List Token) : Prop :=
  ts = [] ∨ ∃ t us, ts = t :: us ∧ t.isOperator = true ∧ IsSentence us

/-- The surplus is at most one, and one only for a sentence. -/
structure Bounded (ts : List Token) : Prop where
  le : surplus ts ≤ 1
  isSentence : surplus ts = 1 → IsSentence ts

/-- The surplus is at most zero, and zero only for what may follow a sentence. -/
structure Trailing (ts : List Token) : Prop where
  le : surplus ts ≤ 0
  continues : surplus ts = 0 → Continues ts

theorem Trailing.nil : Trailing [] :=
  ⟨Int.le_refl 0, fun _ => .inl rfl⟩

/-- An operator uses up the surplus of what follows it. -/
theorem Bounded.trailing {t : Token} {ts : List Token} (isOperator : t.isOperator = true)
    (h : Bounded ts) : Trailing (t :: ts) := by
  have sum := surplus_cons t ts
  rw [surplus_operator isOperator] at sum
  refine ⟨by have := h.le; omega, fun zero => .inr ⟨t, ts, rfl, isOperator, ?_⟩⟩
  exact h.isSentence (by omega)

/-- To have a surplus of one, both a list and what trails it must have the greatest surplus that
they can have. -/
theorem Bounded.append {ts us : List Token} (first : Bounded ts) (second : Trailing us) :
    Bounded (ts ++ us) := by
  have sum := surplus_append ts us
  have least := first.le
  have most := second.le
  -- Neither can make up for the other: one of the sum is one of the first and zero of the second.
  refine ⟨by omega, fun one => ?_⟩
  have sentence := first.isSentence (by omega)
  rcases second.continues (by omega) with rfl | ⟨t, vs, rfl, isOperator, next⟩
  · rwa [List.append_nil]
  · exact sentence.join isOperator next

theorem Trailing.bounded {ts : List Token} (h : Trailing ts) : Bounded ts := by
  have most := h.le
  exact ⟨by omega, fun one => absurd one (by omega)⟩

/-- A number is an operand with the greatest surplus. -/
theorem Bounded.number {t : Token} (isNumber : t.isNumber = true) : Bounded [t] := by
  refine ⟨Int.le_of_eq (surplus_number isNumber), fun _ => ⟨.leaf t, ?_⟩⟩
  exact .product (.factor (.number isNumber))

/-- A group has the surplus of what it encloses. -/
theorem Bounded.group {opening closing : Token} {ts : List Token}
    (isOpening : opening.kind = .leftParen) (isClosing : closing.kind = .rightParen)
    (inner : Bounded ts) : Bounded (opening :: ts ++ [closing]) := by
  have same : surplus (opening :: ts ++ [closing]) = surplus ts := by
    rw [surplus_append, surplus_cons, surplus_paren (.inl isOpening),
      surplus_paren (.inr isClosing)]
    omega
  refine ⟨same ▸ inner.le, fun one => ?_⟩
  obtain ⟨tree, derivation⟩ := inner.isSentence (same ▸ one)
  exact ⟨tree, .product (.factor (.group isOpening isClosing derivation))⟩

/-- In a balanced list with separated operands the surplus is at most one, and it is at most zero
where the list does not begin with an operand. -/
theorem Balanced.bounded {ts : List Token} (balanced : Balanced ts) (separated : Separated ts) :
    Bounded ts ∧ ((∀ u ∈ ts.head?, u.beginsOperand = false) → Trailing ts) := by
  induction balanced with
  | nil => exact ⟨Trailing.nil.bounded, fun _ => .nil⟩
  | @term t ts isTerm _ ih =>
    obtain ⟨rest, trailing⟩ := ih separated.of_cons
    rw [Token.isTerm, Bool.or_eq_true] at isTerm
    rcases isTerm with isNumber | isOperator
    · -- Behind a number there begins no operand.
      have ends : t.endsOperand = true := by simp [Token.endsOperand, isNumber]
      have behind := trailing (separated.head_of_cons ends)
      refine ⟨(Bounded.number isNumber).append behind, fun begins => ?_⟩
      exact absurd (begins t rfl) (by simp [Token.beginsOperand, isNumber])
    · -- What follows an operator may begin with an operand or not.
      have behind := rest.trailing isOperator
      exact ⟨behind.bounded, fun _ => behind⟩
  | @group opening closing ts us isOpening isClosing _ _ ihInner ihRest =>
    rw [List.cons_append, Separated.cons_iff (Token.endsOperand_of_leftParen isOpening),
      Separated.append_cons_iff (Token.beginsOperand_of_rightParen isClosing)] at separated
    obtain ⟨inside, outside⟩ := separated
    have ends : closing.endsOperand = true := by simp [Token.endsOperand, isClosing]
    have behind := (ihRest outside.of_cons).2 (outside.head_of_cons ends)
    refine ⟨?_, fun begins => ?_⟩
    · have whole := ((ihInner inside).1.group isOpening isClosing).append behind
      rwa [List.append_assoc] at whole
    · exact absurd (begins opening rfl) (by simp [Token.beginsOperand, isOpening])

/-- Numbers and operators are counted alike before and after a conversion. -/
theorem surplus_of_convert {ts result : List Token} (converts : convert ts = .ok result) :
    surplus result = surplus ts := by
  have perm := perm_of_convert converts
  have numbers : (ts.filter Token.isTerm).countP Token.isNumber = ts.countP Token.isNumber := by
    rw [List.countP_filter]
    refine List.countP_congr fun t _ => ?_
    cases isNumber : t.isNumber <;> simp [Token.isTerm, isNumber]
  have operators : (ts.filter Token.isTerm).countP Token.isOperator =
      ts.countP Token.isOperator := by
    rw [List.countP_filter]
    refine List.countP_congr fun t _ => ?_
    cases isOperator : t.isOperator <;> simp [Token.isTerm, isOperator]
  rw [surplus, surplus, perm.countP_eq, perm.countP_eq, numbers, operators]

/-- Separated operands that convert to a sequence with a surplus of one make up a sentence. -/
theorem isSentence_of_convert {ts result : List Token} (separated : Separated ts)
    (converts : convert ts = .ok result)
    (count : result.countP Token.isNumber = result.countP Token.isOperator + 1) :
    IsSentence ts := by
  have one : surplus ts = 1 := by
    rw [← surplus_of_convert converts, surplus]
    omega
  exact ((balanced_of_convert converts).bounded separated).1.isSentence one

/-- A sentence of well-formed tokens is converted, and its notation has a value. -/
theorem IsSentence.evaluates {ts : List Token} (sentence : IsSentence ts)
    (wellFormed : ∀ t ∈ ts, t.WellFormed) :
    ∃ result v, convert ts = .ok result ∧ evaluate result = .ok v := by
  obtain ⟨tree, derivation⟩ := sentence
  obtain ⟨v, value⟩ := derivation.exists_value wellFormed
  refine ⟨tree.tokens, v, derivation.convert, ?_⟩
  rw [evaluate_eq_map_trace, Tree.trace_tokens value]
  rfl

/-- Where no operand stands directly behind another one, these are the same for well-formed tokens:
their reverse Polish notation has a value; it has one more number than operators; they are a
sentence. -/
theorem evaluates_tfae_isSentence {ts : List Token} (wellFormed : ∀ t ∈ ts, t.WellFormed)
    (separated : Separated ts) :
    List.TFAE
      [∃ result v, convert ts = .ok result ∧ evaluate result = .ok v,
        ∃ result, convert ts = .ok result ∧
          result.countP Token.isNumber = result.countP Token.isOperator + 1,
        IsSentence ts] := by
  tfae_have 1 → 2 := by
    rintro ⟨result, v, converts, evaluates⟩
    exact ⟨result, converts, count_of_evaluate evaluates⟩
  tfae_have 2 → 3 := by
    rintro ⟨result, converts, count⟩
    exact isSentence_of_convert separated converts count
  tfae_have 3 → 1 := fun sentence => sentence.evaluates wellFormed
  tfae_finish

/-- The three are the same for the tokens of `(8-2)*3`, of which no two operands are next to each
other. -/
theorem evaluates_tfae_isSentence_product :
    let opening : Token := { kind := .leftParen, text := "(", position := some 0 }
    let eight : Token := { kind := .number .integer, text := "8", position := some 1 }
    let minus : Token := { kind := .operator .sub, text := "-", position := some 2 }
    let two : Token := { kind := .number .integer, text := "2", position := some 3 }
    let closing : Token := { kind := .rightParen, text := ")", position := some 4 }
    let times : Token := { kind := .operator .mul, text := "*", position := some 5 }
    let three : Token := { kind := .number .integer, text := "3", position := some 6 }
    let ts := [opening, eight, minus, two, closing, times, three]
    (∀ t ∈ ts, t.WellFormed) ∧ Separated ts ∧
      List.TFAE
        [∃ result v, convert ts = .ok result ∧ evaluate result = .ok v,
          ∃ result, convert ts = .ok result ∧
            result.countP Token.isNumber = result.countP Token.isOperator + 1,
          IsSentence ts] :=
  ⟨by decide, by decide, evaluates_tfae_isSentence (by decide) (by decide)⟩

end ReversePolish
