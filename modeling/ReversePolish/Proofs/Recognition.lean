import ReversePolish.Proofs.Acceptance
import ReversePolish.Proofs.Expression

/-!
# Recognised texts

Which texts have a value. Every expression of the grammar has one, but they are not the only texts:
neither conversion nor evaluation looks at which tokens stand side by side, so that `1(2)+` is
calculated like `1+(2)`. The difference is exactly this:

- `isExpression_iff`: a text is an expression if and only if it has a value and its operands are
  separated;
- `not_isExpression_of_calculate`: having a value is not enough.

The way back from tokens to a derivation of the text is `Derives.exists_phrase`.
-/

namespace ReversePolish

variable {mode : Scan.Mode}

/-- The text is an expression of the grammar, but for characters that the mode passes over. -/
def IsExpression (mode : Scan.Mode) (text : String) : Prop :=
  ∃ expression : Expression mode, expression.text = text

/-! ## From tokens to a derivation of the text -/

namespace Scan

open Lexeme

/-- The lexeme of a number is a written number. -/
theorem exists_number_of_scans {position : Nat} {cs : List Char} {t : Token} {ts : List Token}
    (scans : tokensFrom mode position cs = .ok (t :: ts)) (isNumber : t.isNumber = true) :
    ∃ (gap : Gap mode) (numeral : WrittenNumber) (rest : List Char),
      cs = gap.1 ++ numeral.1 ++ rest ∧
        tokensFrom mode (position + (gap.1 ++ numeral.1).length) rest = .ok ts := by
  obtain ⟨gap, c, rest, skipped, rfl, first, tail⟩ := tokensFrom_eq_ok_cons scans
  have parts := splitLexeme_append c rest
  have valid : t.kind ≠ .invalid := by
    obtain ⟨spelling, kind⟩ := Token.exists_number isNumber
    simp [kind]
  rcases tokenOf_eq_ok first valid with ⟨number, -⟩ | ⟨kind, symbol, -, rfl⟩
  · refine ⟨⟨gap, skipped⟩, ⟨_, number⟩, (splitLexeme c rest).2, ?_, ?_⟩
    · rw [List.append_assoc, parts]
    · rwa [List.length_append, ← Nat.add_assoc]
  · have notNumber : (symbolToken (position + gap.length) c kind).isNumber = false :=
      isNumber_of_ofSymbol? symbol
    rw [isNumber] at notNumber
    cases notNumber

/-- The lexeme of an operator or a parenthesis is its symbol. -/
theorem exists_symbol_of_scans {position : Nat} {cs : List Char} {t : Token} {ts : List Token}
    (scans : tokensFrom mode position cs = .ok (t :: ts)) (notNumber : t.isNumber = false)
    (valid : t.kind ≠ .invalid) :
    ∃ (gap : Gap mode) (c : Char) (rest : List Char),
      Kind.ofSymbol? c = some t.kind ∧ cs = gap.1 ++ c :: rest ∧
        tokensFrom mode (position + gap.1.length + 1) rest = .ok ts := by
  obtain ⟨gap, c, rest, skipped, rfl, first, tail⟩ := tokensFrom_eq_ok_cons scans
  rcases tokenOf_eq_ok first valid with ⟨-, rfl⟩ | ⟨kind, symbol, split, rfl⟩
  · cases notNumber
  · rw [split] at tail
    exact ⟨⟨gap, skipped⟩, c, rest, symbol, rfl, tail⟩

/-- The lexeme of an operator is its symbol. -/
theorem exists_operator_of_scans {position : Nat} {cs : List Char} {t : Token} {op : Operator}
    {ts : List Token} (scans : tokensFrom mode position cs = .ok (t :: ts))
    (kind : t.kind = .operator op) :
    ∃ (gap : Gap mode) (rest : List Char), cs = gap.1 ++ op.symbol :: rest ∧
      tokensFrom mode (position + gap.1.length + 1) rest = .ok ts := by
  have notNumber := (Token.not_of_isOperator (Token.isOperator_of_kind kind)).1
  obtain ⟨gap, c, rest, symbol, rfl, tail⟩ :=
    exists_symbol_of_scans scans notNumber (by simp [kind])
  obtain rfl := Operator.symbol_of_ofSymbol? (kind ▸ symbol)
  exact ⟨gap, rest, rfl, tail⟩

/-- The symbols of the parentheses. -/
theorem eq_of_ofSymbol?_paren {c : Char} :
    (Kind.ofSymbol? c = some .leftParen → c = '(') ∧
      (Kind.ofSymbol? c = some .rightParen → c = ')') := by
  unfold Kind.ofSymbol?
  split <;> simp

/-- Behind a first operand stand the operator and a second one. -/
theorem exists_operand_of_scans {level : Level} {position : Nat} {first cs : List Char} {t : Token}
    {op : Operator} {ts us : List Token}
    (scans : tokensFrom mode (position + first.length) cs = .ok (t :: (ts ++ us)))
    (kind : t.kind = .operator op)
    (operand : ∀ {position : Nat} {cs : List Char},
      tokensFrom mode position cs = .ok (ts ++ us) →
        ∃ (phrase : Phrase mode level) (rest : List Char), cs = phrase.chars ++ rest ∧
          tokensFrom mode (position + phrase.chars.length) rest = .ok us) :
    ∃ (gap : Gap mode) (second : Phrase mode level) (rest : List Char),
      cs = gap.1 ++ op.symbol :: (second.chars ++ rest) ∧
        tokensFrom mode (position + (first ++ (gap.1 ++ op.symbol :: second.chars)).length) rest =
          .ok us := by
  obtain ⟨gap, behind, rfl, waits⟩ := exists_operator_of_scans scans kind
  obtain ⟨second, rest, rfl, tail⟩ := operand waits
  refine ⟨gap, second, rest, rfl, ?_⟩
  have place : position + (first ++ (gap.1 ++ op.symbol :: second.chars)).length =
      position + first.length + gap.1.length + 1 + second.chars.length := by
    simp only [List.length_append, List.length_cons]
    omega
  rw [place]
  exact tail

end Scan

open Scan in
/-- A text whose first tokens are a sentence begins with a phrase. -/
theorem Derives.exists_phrase {level : Level} {ts : List Token} {tree : Tree}
    (derivation : Derives level ts tree) {position : Nat} {cs : List Char} {us : List Token}
    (scans : tokensFrom mode position cs = .ok (ts ++ us)) :
    ∃ (phrase : Phrase mode level) (rest : List Char), cs = phrase.chars ++ rest ∧
      tokensFrom mode (position + phrase.chars.length) rest = .ok us := by
  induction derivation generalizing position cs us with
  | number isNumber =>
    obtain ⟨gap, numeral, rest, rfl, tail⟩ := exists_number_of_scans scans isNumber
    exact ⟨.number gap numeral, rest, rfl, tail⟩
  | @group opening closing ts tree isOpening isClosing _ ih =>
    rw [List.cons_append, List.cons_append, List.append_assoc, List.singleton_append] at scans
    obtain ⟨before, c, enclosed, symbol, rfl, opened⟩ :=
      exists_symbol_of_scans scans (Token.not_of_paren (.inl isOpening)).1 (by simp [isOpening])
    obtain rfl := eq_of_ofSymbol?_paren.1 (isOpening ▸ symbol)
    obtain ⟨inner, behind, rfl, closes⟩ := ih opened
    obtain ⟨after, c, rest, symbol', rfl, tail⟩ :=
      exists_symbol_of_scans closes (Token.not_of_paren (.inr isClosing)).1 (by simp [isClosing])
    obtain rfl := eq_of_ofSymbol?_paren.2 (isClosing ▸ symbol')
    refine ⟨.group before inner after, rest, by simp [Phrase.chars], ?_⟩
    -- Both count the same characters.
    rw [← tail]
    congr 1
    simp only [Phrase.chars, List.length_append, List.length_cons, List.length_nil]
    omega
  | factor _ ih =>
    obtain ⟨phrase, rest, chars, tail⟩ := ih scans
    exact ⟨.factor phrase, rest, chars, tail⟩
  | product _ ih =>
    obtain ⟨phrase, rest, chars, tail⟩ := ih scans
    exact ⟨.product phrase, rest, chars, tail⟩
  | @times t op ts us left right kind isProduct _ _ ihFirst ihSecond =>
    rw [List.append_assoc, List.cons_append] at scans
    obtain ⟨first, behind, rfl, scanned⟩ := ihFirst scans
    obtain ⟨gap, second, rest, rfl, tail⟩ := exists_operand_of_scans scanned kind ihSecond
    exact ⟨.times first gap op isProduct second, rest, by simp [Phrase.chars], tail⟩
  | @plus t op ts us left right kind isSum _ _ ihFirst ihSecond =>
    rw [List.append_assoc, List.cons_append] at scans
    obtain ⟨first, behind, rfl, scanned⟩ := ihFirst scans
    obtain ⟨gap, second, rest, rfl, tail⟩ := exists_operand_of_scans scanned kind ihSecond
    exact ⟨.plus first gap op isSum second, rest, by simp [Phrase.chars], tail⟩

/-- A text whose tokens are a sentence is an expression. -/
theorem isExpression_of_isSentence {text : String} {ts : List Token}
    (scans : Scan.tokens mode text = .ok ts) (sentence : IsSentence ts) :
    IsExpression mode text := by
  obtain ⟨tree, derivation⟩ := sentence
  rw [Scan.tokens, ← List.append_nil ts] at scans
  obtain ⟨sum, rest, chars, tail⟩ := derivation.exists_phrase scans
  refine ⟨⟨sum, ⟨rest, Scan.tokensFrom_eq_ok_nil tail⟩⟩, ?_⟩
  rw [Expression.text, ← chars, String.ofList_toList]

/-- The operands of an expression are separated. -/
theorem IsExpression.separated {text : String} (h : IsExpression mode text) :
    ∃ ts, Scan.tokens mode text = .ok ts ∧ Separated ts := by
  obtain ⟨expression, rfl⟩ := h
  exact ⟨_, expression.tokens_text, (expression.sum.derives 0).separated⟩

/-! ## Values and expressions -/

/-- What is calculated was scanned and converted, and its notation has a value. -/
theorem exists_of_calculate {text : String} {calculation : Calculation}
    (h : calculate mode text = .ok calculation) :
    ∃ ts result v, Scan.tokens mode text = .ok ts ∧ convert ts = .ok result ∧
      evaluate result = .ok v := by
  -- A fault at any of the stages would be the outcome.
  rw [calculate, bind_eq_ok_iff] at h
  obtain ⟨result, polish, valued⟩ := h
  rw [toPolish, bind_eq_ok_iff] at polish
  obtain ⟨ts, scans, converts⟩ := polish
  obtain ⟨steps, traced, -⟩ := map_eq_ok_iff.1 valued
  exact ⟨ts, result, steps.value, scans, converts, by rw [evaluate_eq_map_trace, traced]; rfl⟩

/-- A text is an expression of the grammar if and only if it has a value and no operand stands
directly behind another one. -/
theorem isExpression_iff {mode : Scan.Mode} {text : String} :
    IsExpression mode text ↔
      (∃ calculation, calculate mode text = .ok calculation) ∧
        ∃ ts, Scan.tokens mode text = .ok ts ∧ Separated ts := by
  constructor
  · intro h
    refine ⟨?_, h.separated⟩
    obtain ⟨expression, rfl⟩ := h
    exact ⟨_, expression.calculate_text⟩
  · rintro ⟨⟨calculation, calculated⟩, ts, scans, separated⟩
    obtain ⟨ts', result, v, scans', converts, evaluates⟩ := exists_of_calculate calculated
    -- The tokens that were calculated are those of which the operands are separated.
    obtain rfl : ts = ts' := Except.ok.inj (scans.symm.trans scans')
    exact isExpression_of_isSentence scans
      (isSentence_of_convert separated converts (count_of_evaluate evaluates))

/-- Having a value is not enough. In `1(2)+` the operator stands behind its operands, and these
stand side by side. -/
theorem not_isExpression_of_calculate :
    ¬ ∀ text, (∃ calculation, calculate {} text = .ok calculation) → IsExpression {} text := by
  intro claim
  have calculated : ∃ calculation, calculate {} "1(2)+" = .ok calculation := by
    have some : (calculate {} "1(2)+").toOption.isSome = true := by decide +kernel
    cases outcome : calculate {} "1(2)+" with
    | ok calculation => exact ⟨calculation, rfl⟩
    | error fault =>
      rw [outcome] at some
      cases some
  obtain ⟨ts, scans, separated⟩ := (claim _ calculated).separated
  have adjacent : (Scan.tokens {} "1(2)+").toOption.all fun ts => ¬ Separated ts := by
    decide +kernel
  rw [scans] at adjacent
  simp [Except.toOption, separated] at adjacent

end ReversePolish
