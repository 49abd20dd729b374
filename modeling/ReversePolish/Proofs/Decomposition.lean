import ReversePolish.Proofs.Scanning

/-!
# The lexemes of a text

What it means to cut a text into its longest lexemes, without a scanner: the texts of the tokens
make up the text, each token is a lexeme at its place, and no number could have been longer. Every
text can be cut in exactly one such way, and scanning without skipping and in lenient mode finds it.

- `Decomposition`: the cut, as a property of the text and the tokens;
- `decomposition_cons_iff`: the same, from one lexeme to the next;
- `exists_decomposition`: every text can be cut;
- `tokensFrom_of_decomposition`: scanning gives the cut, whichever it is, so that there is one only;
- `tokens_existsUnique_decomposition`: both together.
-/

namespace ReversePolish.Scan

open Lexeme

/-! ## The cut -/

/-- The tokens that a lexeme at the place `position` gives: a written number, a symbol, or another
character that is no digit. -/
inductive IsLexeme (position : Nat) : Token → Prop
  | number {cs : List Char} (number : Lexeme.isNumber cs = true) :
      IsLexeme position (numberToken position cs)
  | symbol {c : Char} {kind : Kind} (symbol : Kind.ofSymbol? c = some kind) :
      IsLexeme position (symbolToken position c kind)
  | invalid {c : Char} (notDigit : c.isDigit = false) (noSymbol : Kind.ofSymbol? c = none) :
      IsLexeme position (invalidToken position c)

/-- The texts of the tokens, one behind the other. -/
def textOf (ts : List Token) : List Char :=
  ts.flatMap (·.text.toList)

/-- The tokens are the longest lexemes of the characters `cs`, before which `position` characters
stand. -/
structure Decomposition (position : Nat) (cs : List Char) (ts : List Token) : Prop where
  /-- The texts make up the characters. -/
  text : textOf ts = cs
  /-- Each token is a lexeme behind the texts of those before it. -/
  lexeme : ∀ before t after, ts = before ++ t :: after →
    IsLexeme (position + (textOf before).length) t
  /-- No digit follows a number. -/
  noDigit : ∀ before t after, ts = before ++ t :: after → t.isNumber = true →
    ∀ c ∈ (textOf after).head?, c.isDigit = false
  /-- No point with a digit behind it follows a number without a fraction. -/
  noFraction : ∀ before t after, ts = before ++ t :: after → t.kind = .number .integer →
    ∀ d behind, textOf after = '.' :: d :: behind → d.isDigit = false

theorem length_textOf_cons (t : Token) (ts : List Token) :
    (textOf (t :: ts)).length = t.text.length + (textOf ts).length := by
  rw [textOf, List.flatMap_cons, List.length_append, String.length_toList]
  rfl

/-- A token and those behind it are a cut if it is a lexeme, it could not have been longer, and they
are a cut of what it leaves. -/
theorem decomposition_cons_iff {position : Nat} {cs : List Char} {t : Token} {ts : List Token} :
    Decomposition position cs (t :: ts) ↔
      ∃ rest, cs = t.text.toList ++ rest ∧ IsLexeme position t ∧
        (t.isNumber = true → ∀ c ∈ rest.head?, c.isDigit = false) ∧
        (t.kind = .number .integer →
          ∀ d behind, rest = '.' :: d :: behind → d.isDigit = false) ∧
        Decomposition (position + t.text.length) rest ts := by
  constructor
  · rintro ⟨rfl, lexeme, noDigit, noFraction⟩
    refine ⟨textOf ts, rfl, lexeme [] t ts rfl, noDigit [] t ts rfl, noFraction [] t ts rfl, rfl,
      fun before u after split => ?_, fun before u after split => ?_,
      fun before u after split => ?_⟩
    · -- One more token stands before the others.
      have shifted := lexeme (t :: before) u after (by rw [split]; rfl)
      rwa [length_textOf_cons, ← Nat.add_assoc] at shifted
    · exact noDigit (t :: before) u after (by rw [split]; rfl)
    · exact noFraction (t :: before) u after (by rw [split]; rfl)
  · rintro ⟨rest, rfl, first, endsRun, endsWhole, rfl, lexeme, noDigit, noFraction⟩
    refine ⟨rfl, fun before u after split => ?_, fun before u after split => ?_,
      fun before u after split => ?_⟩
    -- The token is the first one or one of the others.
    all_goals
      rcases List.cons_eq_append_iff.1 split with ⟨rfl, same⟩ | ⟨between, rfl, others⟩
    · cases same
      exact first
    · rw [length_textOf_cons, ← Nat.add_assoc]
      exact lexeme between u after others
    · cases same
      exact endsRun
    · exact noDigit between u after others
    · cases same
      exact endsWhole
    · exact noFraction between u after others

theorem decomposition_nil_iff {position : Nat} {cs : List Char} :
    Decomposition position cs [] ↔ cs = [] := by
  constructor
  · rintro ⟨rfl, -⟩
    rfl
  · rintro rfl
    refine ⟨rfl, fun before t after split => ?_, fun before t after split => ?_,
      fun before t after split => ?_⟩
    all_goals simp at split

/-! ## There is one -/

theorem kind_numberToken_eq_integer_iff {position : Nat} {cs : List Char} :
    (numberToken position cs).kind = .number .integer ↔ '.' ∉ cs := by
  by_cases point : '.' ∈ cs <;> simp [numberToken, point]

theorem text_numberToken (position : Nat) (cs : List Char) :
    (numberToken position cs).text.toList = cs := by
  simp [numberToken]

/-- A lexeme of one character, in front of any cut of the rest. -/
theorem Decomposition.cons_single {position : Nat} {c : Char} {t : Token} {rest : List Char}
    {ts : List Token} (h : Decomposition (position + 1) rest ts) (isLexeme : IsLexeme position t)
    (text : t.text = String.ofList [c]) (notNumber : t.isNumber = false) :
    Decomposition position (c :: rest) (t :: ts) := by
  refine decomposition_cons_iff.2 ⟨rest, by simp [text], isLexeme, fun isNumber => ?_,
    fun integer => ?_, by simpa [text] using h⟩
  · rw [notNumber] at isNumber
    cases isNumber
  · rw [Token.isNumber, integer] at notNumber
    cases notNumber

/-- Every text can be cut into its longest lexemes. -/
theorem exists_decomposition (position : Nat) (cs : List Char) :
    ∃ ts, Decomposition position cs ts := by
  -- On the length of the text, since a number leaves any shorter rest.
  induction h : cs.length using Nat.strong_induction_on generalizing position cs with
  | _ n ih =>
    subst h
    cases cs with
    | nil => exact ⟨[], decomposition_nil_iff.2 rfl⟩
    | cons c rest =>
      by_cases digit : c.isDigit = true
      · -- The longest number is taken.
        have parts := splitNumber_append (c :: rest)
        have number := isNumber_splitNumber digit rest
        have ends := endsNumber_splitNumber (c :: rest)
        have shorter := length_splitLexeme_lt c rest
        rw [splitLexeme, if_pos digit] at shorter
        obtain ⟨ts, tail⟩ := ih _ shorter
          (position + (splitNumber (c :: rest)).1.length) (splitNumber (c :: rest)).2 rfl
        refine ⟨numberToken position (splitNumber (c :: rest)).1 :: ts, ?_⟩
        refine decomposition_cons_iff.2 ⟨(splitNumber (c :: rest)).2, ?_, .number number,
          fun _ => ends.noDigit, fun integer => ?_, by simpa [numberToken] using tail⟩
        · rw [text_numberToken, parts]
        · exact ends.noFraction (kind_numberToken_eq_integer_iff.1 integer)
      · obtain ⟨ts, tail⟩ := ih rest.length (by simp) (position + 1) rest rfl
        cases symbol : Kind.ofSymbol? c with
        | some kind =>
          exact ⟨symbolToken position c kind :: ts,
            tail.cons_single (.symbol symbol) rfl (isNumber_of_ofSymbol? symbol)⟩
        | none =>
          have notDigit : c.isDigit = false := by simpa using digit
          exact ⟨invalidToken position c :: ts,
            tail.cons_single (.invalid notDigit symbol) rfl rfl⟩

/-! ## There is one only -/

/-- Scanning gives the cut of a text. -/
theorem tokensFrom_of_decomposition {position : Nat} {cs : List Char} {ts : List Token}
    (h : Decomposition position cs ts) : tokensFrom {} position cs = .ok ts := by
  -- On the tokens, so that the given cut says what is to be scanned next.
  induction ts generalizing position cs with
  | nil =>
    rw [decomposition_nil_iff.1 h, tokensFrom]
  | cons t ts ih =>
    obtain ⟨rest, rfl, isLexeme, endsRun, endsWhole, tail⟩ := decomposition_cons_iff.1 h
    have scanned := ih tail
    cases isLexeme with
    | @number cs number =>
      -- A number that could not be longer is the one that is taken.
      have ends : EndsNumber cs rest :=
        ⟨endsRun rfl, fun noPoint => endsWhole (kind_numberToken_eq_integer_iff.2 noPoint)⟩
      rw [text_numberToken, tokensFrom_number number ends]
      simp only [numberToken, String.length_ofList] at scanned
      rw [scanned]
      rfl
    | @symbol c kind symbol =>
      simp only [symbolToken, String.length_ofList, List.length_singleton] at scanned
      simp only [symbolToken, String.toList_ofList, List.singleton_append]
      rw [tokensFrom_symbol symbol, scanned]
      rfl
    | @invalid c notDigit noSymbol =>
      simp only [invalidToken, String.length_ofList, List.length_singleton] at scanned
      simp only [invalidToken, String.toList_ofList, List.singleton_append]
      rw [tokensFrom_invalid rfl notDigit noSymbol rfl, scanned]
      rfl

/-! ## The tokens -/

/-- The text of a lexeme fits the kind of its token. -/
theorem IsLexeme.wellFormed {position : Nat} {t : Token} (h : IsLexeme position t) :
    t.WellFormed := by
  cases h with
  | @number cs number =>
    obtain ⟨d, rest, rfl, -⟩ := exists_cons_of_isNumber number
    simp [Token.WellFormed, Token.lexemeFault?, numberToken, number]
  | @symbol c kind symbol =>
    have notNumber := isNumber_of_ofSymbol? symbol
    cases kind with
    | number spelling => cases notNumber
    | _ => simp [Token.WellFormed, Token.lexemeFault?, symbolToken, isSymbol, symbol]
  | invalid => rfl

/-- A character beyond ASCII is part of no lexeme but the invalid one that it is itself. -/
theorem IsLexeme.invalid_of_mem {position : Nat} {t : Token} (h : IsLexeme position t) {c : Char}
    (hc : c ∈ t.text.toList) (beyond : 127 < c.toNat) :
    t = invalidToken position c := by
  cases h with
  | @number cs number =>
    rw [text_numberToken] at hc
    rcases isDigit_or_point_of_mem number hc with digit | rfl
    · have ascii : c.toNat ≤ 57 := (Char.isDigit_iff_toNat.1 digit).2
      omega
    · exact absurd beyond (by decide)
  | @symbol d kind symbol =>
    obtain rfl : c = d := by simpa [symbolToken] using hc
    -- All symbols are in ASCII.
    unfold Kind.ofSymbol? at symbol
    split at symbol
    all_goals first | exact absurd beyond (by decide) | cases symbol
  | @invalid d =>
    obtain rfl : c = d := by simpa [invalidToken] using hc
    rfl

theorem Decomposition.exists_isLexeme {position : Nat} {cs : List Char} {ts : List Token}
    (h : Decomposition position cs ts) {t : Token} (ht : t ∈ ts) :
    ∃ place, IsLexeme place t := by
  obtain ⟨before, after, split⟩ := List.append_of_mem ht
  exact ⟨_, h.lexeme before t after split⟩

/-- Without skipping and in lenient mode every text is scanned, and its tokens are the only cut of
it into longest lexemes. The tokens are well formed, and characters beyond ASCII, digits among them,
give invalid tokens. -/
theorem tokens_existsUnique_decomposition (source : String) :
    ∃ ts, Scan.tokens {} source = .ok ts ∧ Decomposition 0 source.toList ts ∧
      (∀ us, Decomposition 0 source.toList us → us = ts) ∧
      (∀ t ∈ ts, t.WellFormed) ∧
      ∀ t ∈ ts, ∀ c ∈ t.text.toList, 127 < c.toNat → ∃ place, t = invalidToken place c := by
  obtain ⟨ts, cut⟩ := exists_decomposition 0 source.toList
  have scanned := tokensFrom_of_decomposition cut
  refine ⟨ts, scanned, cut, fun us other => ?_, fun t ht => ?_, fun t ht c hc beyond => ?_⟩
  · -- Another cut would be scanned as well.
    have scannedOther := tokensFrom_of_decomposition other
    rw [scanned] at scannedOther
    exact (Except.ok.inj scannedOther).symm
  · obtain ⟨place, isLexeme⟩ := cut.exists_isLexeme ht
    exact isLexeme.wellFormed
  · obtain ⟨place, isLexeme⟩ := cut.exists_isLexeme ht
    exact ⟨place, isLexeme.invalid_of_mem hc beyond⟩

example : (Scan.tokens {} "1.2.3.").toOption.map (·.map (·.text)) =
    some ["1.2", ".", "3", "."] := by
  decide +kernel

end ReversePolish.Scan
