import ReversePolish.Proofs.WrittenNumber

/-!
# Scanning lexeme by lexeme

The tokens of a text, one lexeme at a time. Forwards, each lexeme is taken off the front of a text:

- `tokensFrom_gap`: characters that are passed over only move the place;
- `tokensFrom_number`: a written number gives its token, if it ends in front of what follows;
- `tokensFrom_symbol`: so does the symbol of an operator or a parenthesis;
- `tokensFrom_invalid`: any other character gives an invalid token in lenient mode.

Backwards, `tokensFrom_eq_ok_cons` says what stands at the front of a text whose first token is
given, and `tokensFrom_eq_ok_nil` what a text without tokens is. `tokenOf_cases` says in what the
modes differ at a single lexeme.
-/

namespace ReversePolish.Scan

open Lexeme

variable {mode : Mode}

/-! ## From lexemes to tokens -/

/-- A symbol is neither a digit nor a point nor layout. -/
theorem plain_of_ofSymbol? {c : Char} {kind : Kind} (h : Kind.ofSymbol? c = some kind) :
    c.isDigit = false ∧ c ≠ '.' ∧ Text.isLayout c = false := by
  unfold Kind.ofSymbol? at h
  split at h
  all_goals first | decide | cases h

/-- No symbol is that of a number. -/
theorem isNumber_of_ofSymbol? {c : Char} {kind : Kind} (h : Kind.ofSymbol? c = some kind) :
    kind.isNumber = false := by
  unfold Kind.ofSymbol? at h
  split at h <;> cases h <;> rfl

theorem isLayout_of_skips {c : Char} (h : mode.skips c = true) : Text.isLayout c = true := by
  rw [Mode.skips, Bool.and_eq_true] at h
  exact h.2

theorem skips_of_not_isLayout {c : Char} (h : Text.isLayout c = false) : mode.skips c = false := by
  simp [Mode.skips, h]

/-- A symbol carries no number on. -/
theorem StopsNumber.symbol {c : Char} {kind : Kind} (h : Kind.ofSymbol? c = some kind)
    (rest : List Char) : StopsNumber (c :: rest) := by
  intro d hd
  obtain rfl : c = d := by simpa using hd
  exact ⟨(plain_of_ofSymbol? h).1, (plain_of_ofSymbol? h).2.1⟩

/-- Neither does layout, which has no digits and no point in it. -/
theorem StopsNumber.layout {c : Char} (layout : Text.isLayout c = true) (rest : List Char) :
    StopsNumber (c :: rest) := by
  intro d hd
  obtain rfl : c = d := by simpa using hd
  constructor
  · cases digit : c.isDigit with
    | false => rfl
    | true => simp [Text.isLayout_of_isDigit digit] at layout
  · rintro rfl
    exact absurd layout (by decide)

/-- So a gap may stand before what stops a number. -/
theorem StopsNumber.gap {gap rest : List Char} (skipped : ∀ c ∈ gap, mode.skips c = true)
    (h : StopsNumber rest) : StopsNumber (gap ++ rest) := by
  cases gap with
  | nil => exact h
  | cons c gap => exact .layout (isLayout_of_skips (skipped c (by simp))) (gap ++ rest)

theorem StopsNumber.nil : StopsNumber [] := by
  simp [StopsNumber]

/-- Characters that are passed over only move the place. -/
theorem tokensFrom_gap {gap : List Char} (skipped : ∀ c ∈ gap, mode.skips c = true)
    (position : Nat) (cs : List Char) :
    tokensFrom mode position (gap ++ cs) = tokensFrom mode (position + gap.length) cs := by
  induction gap generalizing position with
  | nil => rfl
  | cons c gap ih =>
    rw [List.cons_append, tokensFrom, if_pos (skipped c (by simp)),
      ih (fun d hd => skipped d (by simp [hd])), List.length_cons]
    congr 1
    omega

/-- The token of a written number. -/
def numberToken (position : Nat) (cs : List Char) : Token where
  kind := .number (if '.' ∈ cs then .float else .integer)
  text := String.ofList cs
  position := some position

/-- The token of a symbol. -/
def symbolToken (position : Nat) (c : Char) (kind : Kind) : Token where
  kind := kind
  text := String.ofList [c]
  position := some position

/-- The token of a character that begins no lexeme. -/
def invalidToken (position : Nat) (c : Char) : Token where
  kind := .invalid
  text := String.ofList [c]
  message := some (unrecognizedText c position)
  position := some position

/-- A written number gives its token, if it ends in front of what follows. -/
theorem tokensFrom_number {cs rest : List Char} (number : isNumber cs = true)
    (ends : EndsNumber cs rest) (position : Nat) :
    tokensFrom mode position (cs ++ rest) =
      (tokensFrom mode (position + cs.length) rest).map (numberToken position cs :: ·) := by
  obtain ⟨d, digits, rfl, digit⟩ := exists_cons_of_isNumber number
  -- At its first digit the number is split off as a whole.
  have split : splitLexeme d (digits ++ rest) = (d :: digits, rest) := by
    rw [splitLexeme, if_pos digit, ← List.cons_append]
    exact splitNumber_of_isNumber number ends
  have skip : ¬ mode.skips d = true := by
    simp [skips_of_not_isLayout (Text.isLayout_of_isDigit digit)]
  rw [List.cons_append, tokensFrom, if_neg skip, split]
  simp [tokenOf, kindOf?, digit, numberToken]

/-- A symbol gives its token. -/
theorem tokensFrom_symbol {c : Char} {kind : Kind} (symbol : Kind.ofSymbol? c = some kind)
    (position : Nat) (rest : List Char) :
    tokensFrom mode position (c :: rest) =
      (tokensFrom mode (position + 1) rest).map (symbolToken position c kind :: ·) := by
  obtain ⟨notDigit, -, notLayout⟩ := plain_of_ofSymbol? symbol
  have split : splitLexeme c rest = ([c], rest) := by simp [splitLexeme, notDigit]
  have skip : ¬ mode.skips c = true := by simp [skips_of_not_isLayout notLayout]
  rw [tokensFrom, if_neg skip, split]
  simp [tokenOf, kindOf?, notDigit, symbol, symbolToken]

/-- In lenient mode a character that begins no lexeme and is not passed over gives an invalid
token. -/
theorem tokensFrom_invalid (lenient : mode.strict = false) {c : Char} (notDigit : c.isDigit = false)
    (noSymbol : Kind.ofSymbol? c = none) (kept : mode.skips c = false) (position : Nat)
    (rest : List Char) :
    tokensFrom mode position (c :: rest) =
      (tokensFrom mode (position + 1) rest).map (invalidToken position c :: ·) := by
  have split : splitLexeme c rest = ([c], rest) := by simp [splitLexeme, notDigit]
  rw [tokensFrom, if_neg (by simp [kept]), split]
  simp [tokenOf, kindOf?, notDigit, noSymbol, lenient, invalidToken]

/-! ## From tokens to lexemes -/

/-- A text without tokens is passed over as a whole. -/
theorem tokensFrom_eq_ok_nil {position : Nat} {cs : List Char}
    (scans : tokensFrom mode position cs = .ok []) : ∀ c ∈ cs, mode.skips c = true := by
  induction cs generalizing position with
  | nil => simp
  | cons c cs ih =>
    rw [tokensFrom] at scans
    split at scans
    · next skipped =>
      intro d hd
      rcases List.mem_cons.1 hd with rfl | hd
      · exact skipped
      · exact ih scans d hd
    · -- Any other character gives a token or a fault.
      split at scans
      · cases scans
      · next token _ =>
        cases tail : tokensFrom mode (position + (splitLexeme c cs).1.length) (splitLexeme c cs).2
        all_goals
          rw [tail] at scans
          cases scans

/-- A text with tokens begins with the lexeme of the first of them, behind characters that are
passed over. -/
theorem tokensFrom_eq_ok_cons {position : Nat} {cs : List Char} {t : Token} {ts : List Token}
    (scans : tokensFrom mode position cs = .ok (t :: ts)) :
    ∃ gap c rest, (∀ d ∈ gap, mode.skips d = true) ∧ cs = gap ++ c :: rest ∧
      tokenOf mode (position + gap.length) c (splitLexeme c rest).1 = .ok t ∧
      tokensFrom mode (position + gap.length + (splitLexeme c rest).1.length)
        (splitLexeme c rest).2 = .ok ts := by
  induction cs generalizing position with
  | nil =>
    rw [tokensFrom] at scans
    cases scans
  | cons c cs ih =>
    rw [tokensFrom] at scans
    split at scans
    · -- The gap is longer by the character that is passed over.
      next skipped =>
        obtain ⟨gap, d, rest, gapSkipped, rfl, first, tail⟩ := ih scans
        refine ⟨c :: gap, d, rest, ?_, rfl, ?_, ?_⟩
        · intro e he
          rcases List.mem_cons.1 he with rfl | he
          · exact skipped
          · exact gapSkipped e he
        · rwa [List.length_cons, Nat.add_comm gap.length, ← Nat.add_assoc]
        · rwa [List.length_cons, Nat.add_comm gap.length, ← Nat.add_assoc]
    · -- The lexeme of the first token begins here, behind an empty gap.
      split at scans
      · cases scans
      · next token first =>
        cases tail : tokensFrom mode (position + (splitLexeme c cs).1.length) (splitLexeme c cs).2
          with
        | error fault =>
          rw [tail] at scans
          cases scans
        | ok us =>
          rw [tail] at scans
          cases scans
          exact ⟨[], c, cs, by simp, rfl, first, tail⟩

/-- A token that is not invalid has a written number or a symbol for its lexeme. -/
theorem tokenOf_eq_ok {position : Nat} {c : Char} {rest : List Char} {t : Token}
    (first : tokenOf mode position c (splitLexeme c rest).1 = .ok t) (valid : t.kind ≠ .invalid) :
    (isNumber (splitLexeme c rest).1 = true ∧
        t = numberToken position (splitLexeme c rest).1) ∨
      ∃ kind, Kind.ofSymbol? c = some kind ∧ splitLexeme c rest = ([c], rest) ∧
        t = symbolToken position c kind := by
  rw [tokenOf] at first
  split at first
  · next kind known =>
    cases first
    -- The kind of a lexeme is known from its first character.
    cases digit : c.isDigit with
    | true =>
      have split : splitLexeme c rest = splitNumber (c :: rest) := by simp [splitLexeme, digit]
      simp only [kindOf?, digit, if_true, Option.some.injEq] at known
      subst known
      exact .inl ⟨split ▸ isNumber_splitNumber digit rest, rfl⟩
    | false =>
      have split : splitLexeme c rest = ([c], rest) := by simp [splitLexeme, digit]
      simp only [kindOf?, digit, Bool.false_eq_true, if_false] at known
      rw [split]
      exact .inr ⟨kind, known, rfl, rfl⟩
  · split at first
    · cases first
    · -- In the lenient mode a character without a kind gives an invalid token.
      cases first
      exact absurd rfl valid

/-! ## A lexeme in different modes -/

/-- The modes differ in what is no lexeme. A number or a symbol gives its token in every mode; any
other character gives an invalid token, or is refused in a strict mode. -/
theorem tokenOf_cases (position : Nat) (c : Char) (rest : List Char) :
    (∃ t : Token, t.kind ≠ .invalid ∧
        ∀ mode : Mode, tokenOf mode position c (splitLexeme c rest).1 = .ok t) ∨
      (splitLexeme c rest = ([c], rest) ∧
        ∀ mode : Mode, tokenOf mode position c [c] =
          if mode.strict then .error (.unrecognizedCharacter c position)
          else .ok (invalidToken position c)) := by
  cases known : kindOf? c (splitLexeme c rest).1 with
  | some kind =>
    refine .inl ⟨{ kind, text := String.ofList (splitLexeme c rest).1, position := some position },
      ?_, fun mode => by rw [tokenOf, known]⟩
    -- Neither a number nor a symbol is of the invalid kind.
    rintro rfl
    rw [kindOf?] at known
    split at known
    · cases known
    · unfold Kind.ofSymbol? at known
      split at known <;> cases known
  | none =>
    have notDigit : c.isDigit = false := by
      cases digit : c.isDigit with
      | false => rfl
      | true => simp [kindOf?, digit] at known
    have split : splitLexeme c rest = ([c], rest) := by simp [splitLexeme, notDigit]
    refine .inr ⟨split, fun mode => ?_⟩
    rw [split] at known
    rw [tokenOf, known]
    rfl

/-- In a lenient mode no lexeme is refused. -/
theorem tokenOf_ne_error (lenient : mode.strict = false) (position : Nat) (c : Char)
    (rest : List Char) (fault : Fault) :
    tokenOf mode position c (splitLexeme c rest).1 ≠ .error fault := by
  intro refused
  rcases tokenOf_cases position c rest with ⟨t, -, taken⟩ | ⟨split, taken⟩
  · rw [taken] at refused
    cases refused
  · rw [split, taken, if_neg (by simp [lenient])] at refused
    cases refused

end ReversePolish.Scan
