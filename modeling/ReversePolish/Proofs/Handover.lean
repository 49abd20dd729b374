import ReversePolish.Boundary
import ReversePolish.Calculation
import ReversePolish.Proofs.Decomposition
import ReversePolish.Proofs.Pending

/-!
# What is handed on

A result is refused if one of its tokens does not fit its kind. No token that comes from a text is
of that sort, and a conversion adds none, so that nothing is refused that began as a text.

- `Scan.exists_isLexeme_of_tokensFrom`: in every mode the tokens of a text are lexemes;
- `mem_of_convert`: the tokens of a conversion are numbers and operators of the expression;
- `convertChecked_of_wellFormed`, `convertOrSentinelChecked_of_wellFormed`,
  `traceChecked_of_wellFormed`: with well-formed tokens nothing is refused;
- `exists_isLexeme_of_toPolish`: the tokens of an expression in reverse Polish notation.
-/

namespace ReversePolish

/-! ## Tokens of texts -/

namespace Scan

variable {mode : Mode}

/-- The token that is taken at a character is a lexeme. -/
theorem isLexeme_of_tokenOf {position : Nat} {c : Char} {rest : List Char} {t : Token}
    (taken : tokenOf mode position c (splitLexeme c rest).1 = .ok t) : IsLexeme position t := by
  -- At a digit the lexeme is a number, and everywhere else the character alone.
  by_cases digit : c.isDigit = true
  · have split : splitLexeme c rest = splitNumber (c :: rest) := if_pos digit
    rw [split, tokenOf, kindOf?, if_pos digit] at taken
    cases taken
    exact .number (isNumber_splitNumber digit rest)
  · have split : splitLexeme c rest = ([c], rest) := if_neg digit
    rw [split, tokenOf, kindOf?, if_neg digit] at taken
    cases symbol : Kind.ofSymbol? c with
    | some kind =>
      rw [symbol] at taken
      cases taken
      exact .symbol symbol
    | none =>
      rw [symbol] at taken
      dsimp only at taken
      -- A strict mode would have refused the character.
      by_cases strict : mode.strict = true
      · rw [if_pos strict] at taken
        cases taken
      · rw [if_neg strict] at taken
        cases taken
        exact .invalid (by simpa using digit) symbol

/-- All tokens of a text are lexemes. -/
theorem exists_isLexeme_of_tokensFrom {position : Nat} {cs : List Char} {ts : List Token}
    (scans : tokensFrom mode position cs = .ok ts) : ∀ t ∈ ts, ∃ place, IsLexeme place t := by
  -- On the tokens: the first one is taken at the front of the text, the others come behind it.
  induction ts generalizing position cs with
  | nil => simp
  | cons t ts ih =>
    obtain ⟨gap, c, rest, -, -, first, others⟩ := tokensFrom_eq_ok_cons scans
    intro u hu
    rcases List.mem_cons.1 hu with rfl | hu
    · exact ⟨_, isLexeme_of_tokenOf first⟩
    · exact ih others u hu

theorem wellFormed_of_tokens {text : String} {ts : List Token}
    (scans : Scan.tokens mode text = .ok ts) : ∀ t ∈ ts, t.WellFormed := by
  intro t ht
  obtain ⟨place, isLexeme⟩ := exists_isLexeme_of_tokensFrom scans t ht
  exact isLexeme.wellFormed

end Scan

/-! ## Results -/

/-- A conversion hands on numbers and operators of the expression, and nothing else. -/
theorem mem_of_convert {ts result : List Token} (converts : convert ts = .ok result) {t : Token}
    (ht : t ∈ result) : t ∈ ts ∧ t.isTerm = true :=
  List.mem_filter.1 ((perm_of_convert converts).mem_iff.1 ht)

/-- A list of well-formed tokens is not refused. -/
theorem Token.checkAll_of_wellFormed {ts : List Token} (wellFormed : ∀ t ∈ ts, t.WellFormed)
    (result : String) : checkAll result ts = .ok ts := by
  have none : complaints result ts = [] := (complaintsFrom_eq_nil_iff result 0 ts).2 wellFormed
  rw [checkAll, none]

section WellFormed

variable {ts : List Token} (wellFormed : ∀ t ∈ ts, t.WellFormed)

include wellFormed

/-- The result of a conversion of well-formed tokens is not refused. -/
theorem convertChecked_of_wellFormed : convertChecked ts = .ok (convert ts) := by
  rw [convertChecked]
  cases converts : convert ts with
  | error fault => rfl
  | ok result =>
    -- The result has tokens of the expression only.
    have kept : ∀ t ∈ result, t.WellFormed := by
      intro t ht
      exact wellFormed t (mem_of_convert converts ht).1
    dsimp only
    rw [Token.checkAll_of_wellFormed kept]
    rfl

/-- Nor is the result or the stand-in for it. -/
theorem convertOrSentinelChecked_of_wellFormed :
    convertOrSentinelChecked ts = .ok (convertOrSentinel ts) := by
  rw [convertOrSentinelChecked, convertChecked_of_wellFormed wellFormed, convertOrSentinel]
  cases convert ts <;> rfl

/-- The outcome of an evaluation of well-formed tokens is not refused. -/
theorem traceChecked_of_wellFormed : traceChecked ts = (trace ts).map .ok := by
  rw [traceChecked, Token.checkAll_of_wellFormed wellFormed]
  rfl

end WellFormed

/-! ## Expressions -/

/-- An expression in reverse Polish notation consists of lexemes, all of them numbers or
operators. -/
theorem exists_isLexeme_of_toPolish {mode : Scan.Mode} {text : String} {polish : List Token}
    (converts : toPolish mode text = .ok polish) {t : Token} (ht : t ∈ polish) :
    (∃ place, Scan.IsLexeme place t) ∧ t.isTerm = true := by
  rw [toPolish, bind_eq_ok_iff] at converts
  obtain ⟨ts, scans, converts⟩ := converts
  obtain ⟨given, isTerm⟩ := mem_of_convert converts ht
  exact ⟨Scan.exists_isLexeme_of_tokensFrom scans t given, isTerm⟩

end ReversePolish
