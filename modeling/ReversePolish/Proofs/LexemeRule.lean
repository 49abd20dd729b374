import ReversePolish.Cursor
import ReversePolish.Proofs.Handover
import ReversePolish.Proofs.Sentence

/-!
# The rule of lexemes and the scanner

A token may be given as a record, and then its text has to fit its kind. Scanning cuts a text into
lexemes. The two are written down apart from each other: the rule splits a number at its point, the
scanner takes digits as long as there are any. They describe the same texts: a text fits a kind
exactly if the scanner takes the whole of it as a single lexeme of this kind.

- `Token.wellFormed_iff_of_number`, `Token.wellFormed_iff_of_symbol`: the rule in terms of
  characters;
- `Scan.tokens_of_isNumber`, `Scan.tokens_of_ofSymbol?`: a text that fits is a single lexeme;
- `Scan.isLexeme_of_tokens_singleton`: the other direction;
- `evaluate_ne_unreadable`: the numbers of well-formed tokens can be read;
- `ofDatum_iff_single_lexeme`: records and scanning, and what follows for evaluations.
-/

namespace ReversePolish

open Lexeme

/-! ## The rule -/

namespace Token

/-- A number is well formed if its text is a written number. -/
theorem wellFormed_iff_of_number {t : Token} (isNumber : t.kind.isNumber = true) :
    t.WellFormed ↔ Lexeme.isNumber t.text.toList = true := by
  obtain ⟨spelling, kind⟩ := exists_number isNumber
  simp only [WellFormed, lexemeFault?, kind]
  split
  · next empty =>
    rw [empty]
    exact iff_of_false (Option.some_ne_none _) (by decide)
  · split
    · next fits => exact iff_of_true rfl fits
    · next misfits => exact iff_of_false (Option.some_ne_none _) misfits

/-- A token that is neither a number nor invalid is well formed if its text is the symbol of its
kind. -/
theorem wellFormed_iff_of_symbol {t : Token} (valid : t.kind ≠ .invalid)
    (notNumber : t.kind.isNumber = false) :
    t.WellFormed ↔ ∃ c, t.text.toList = [c] ∧ Kind.ofSymbol? c = some t.kind := by
  have symbol : t.WellFormed ↔ isSymbol t.kind t.text.toList = true := by
    rw [WellFormed, lexemeFault?]
    split
    · next kind => exact absurd kind valid
    · next spelling kind =>
      rw [kind] at notNumber
      cases notNumber
    · split
      · next empty =>
        rw [empty]
        exact iff_of_false (Option.some_ne_none _) Bool.false_ne_true
      · split
        · next fits => exact iff_of_true rfl fits
        · next misfits => exact iff_of_false (Option.some_ne_none _) misfits
  rw [symbol]
  cases chars : t.text.toList with
  | nil => simp [isSymbol]
  | cons c rest => cases rest <;> simp [isSymbol]

/-- A record with a kind and a text gives a token if the text fits the kind. -/
theorem exists_ofDatum_eq_ok_iff (kind : Kind) (text : String) :
    (∃ t, ofDatum (.record [("kind", .text kind.name), ("text", .text text)]) = .ok t) ↔
      WellFormed { kind, text } := by
  have named : kindOfDatum (.text kind.name) = .ok kind := by
    rw [kindOfDatum, Kind.ofName?_name]
  have field : checkField (.record [("kind", .text kind.name), ("text", .text text)]) "kind"
      (.error .missing) kindOfDatum = .ok kind := by
    change Checked.located _ (kindOfDatum (.text kind.name)) = _
    rw [named]
    rfl
  have checked : ofDatum (.record [("kind", .text kind.name), ("text", .text text)]) =
      check { kind, text } := by
    rw [ofDatum, field]
    rfl
  rw [checked, check, WellFormed]
  cases lexemeFault? { kind, text } with
  | none => exact iff_of_true ⟨_, rfl⟩ rfl
  | some fault =>
    refine iff_of_false ?_ (Option.some_ne_none fault)
    rintro ⟨t, given⟩
    cases given

end Token

/-! ## Single lexemes -/

namespace Scan

variable {mode : Mode}

/-- A written number is scanned as one token. -/
theorem tokens_of_isNumber {text : String} (number : isNumber text.toList = true) :
    tokens mode text = .ok [numberToken 0 text.toList] := by
  have scanned : tokensFrom mode 0 (text.toList ++ []) = _ :=
    tokensFrom_number number (StopsNumber.nil.ends text.toList) 0
  rw [List.append_nil, tokensFrom] at scanned
  exact scanned

/-- A symbol is scanned as one token. -/
theorem tokens_of_ofSymbol? {text : String} {c : Char} {kind : Kind} (chars : text.toList = [c])
    (symbol : Kind.ofSymbol? c = some kind) :
    tokens mode text = .ok [symbolToken 0 c kind] := by
  have scanned : tokensFrom mode 0 [c] = _ := tokensFrom_symbol symbol 0 []
  rw [tokensFrom] at scanned
  rw [tokens, chars]
  exact scanned

/-- A token by which a text is scanned is a lexeme. -/
theorem isLexeme_of_tokens_singleton {text : String} {t : Token}
    (scans : tokens mode text = .ok [t]) : ∃ place, IsLexeme place t :=
  exists_isLexeme_of_tokensFrom scans t List.mem_cons_self

/-- A text that fits a kind is scanned as a single lexeme of this kind, and only such a text is. Of
a number the kind tells no more than that it is one. -/
theorem exists_tokens_singleton_iff {kind : Kind} (valid : kind ≠ .invalid) (text : String) :
    (∃ t, tokens {} text = .ok [t] ∧ t.kind ≠ .invalid ∧ t.text = text ∧
        if kind.isNumber then t.isNumber = true else t.kind = kind) ↔
      Token.WellFormed { kind, text } := by
  cases isNumber : kind.isNumber with
  | true =>
    rw [Token.wellFormed_iff_of_number isNumber]
    constructor
    · rintro ⟨t, scans, -, rfl, number⟩
      obtain ⟨place, isLexeme⟩ := isLexeme_of_tokens_singleton scans
      exact (Token.wellFormed_iff_of_number number).1 isLexeme.wellFormed
    · intro number
      exact ⟨_, tokens_of_isNumber number, nofun, String.ofList_toList, rfl⟩
  | false =>
    rw [Token.wellFormed_iff_of_symbol valid isNumber]
    constructor
    · rintro ⟨t, scans, -, rfl, rfl⟩
      obtain ⟨place, isLexeme⟩ := isLexeme_of_tokens_singleton scans
      exact (Token.wellFormed_iff_of_symbol valid isNumber).1 isLexeme.wellFormed
    · rintro ⟨c, chars, symbol⟩
      refine ⟨_, tokens_of_ofSymbol? chars symbol, valid, ?_, rfl⟩
      exact String.toList_inj.1 (String.toList_ofList.trans chars.symm)

end Scan

/-- A token that is taken from a cursor is a lexeme. -/
theorem Cursor.isLexeme_of_consume {mode : Scan.Mode} {cursor next : Cursor} {t : Token}
    (taken : cursor.consume mode = .ok (t, next)) : ∃ place, Scan.IsLexeme place t := by
  rw [consume] at taken
  split at taken
  · cases taken
  · next position c rest _ =>
    dsimp only at taken
    split at taken
    · next token first =>
      cases taken
      exact ⟨position, Scan.isLexeme_of_tokenOf first⟩
    · cases taken

/-! ## Numbers that cannot be read -/

/-- Of all faults of a token, the one of a number that cannot be read is told of just such a
token. -/
theorem Evaluation.unreadable_of_feed {state : Evaluation} {u t : Token}
    (refused : state.feed u = .error (.unreadableNumber t)) :
    t = u ∧ t.isNumber = true ∧ Numeral.read? t.text = none := by
  cases kind : u.kind with
  | number spelling =>
    simp only [feed, kind] at refused
    split at refused
    · cases refused
    · next unreadable =>
      cases refused
      exact ⟨rfl, by rw [Token.isNumber, kind, Kind.isNumber], unreadable⟩
  | operator op =>
    simp only [feed, kind, operate] at refused
    split at refused <;> cases refused
  | leftParen | rightParen | invalid =>
    simp only [feed, kind] at refused
    cases refused

/-- Well-formed tokens have no number that cannot be read. -/
theorem evaluate_ne_unreadable {ts : List Token} (wellFormed : ∀ t ∈ ts, t.WellFormed) (t : Token) :
    evaluate ts ≠ .error (.unreadableNumber t) := by
  intro refused
  rw [evaluate_eq_map_trace, map_eq_error_iff] at refused
  rcases cases_of_trace_eq_error refused with opening | ⟨u, hu, before, fed⟩ | ⟨final, ending⟩
  · -- The opening of a sequence is refused for other reasons.
    unfold openingFault? at opening
    split at opening
    · cases opening
    · split at opening <;> cases opening
  · obtain ⟨rfl, isNumber, unreadable⟩ := Evaluation.unreadable_of_feed fed
    obtain ⟨x, reads⟩ := Token.exists_read isNumber (wellFormed t hu)
    rw [reads] at unreadable
    cases unreadable
  · rw [Evaluation.finish] at ending
    split at ending <;> cases ending

/-! ## Both sides -/

/-- The rule of lexemes and the scanner describe the same texts. A record of a kind and a text gives
a token exactly if the text is scanned as a single lexeme, which is not invalid, covers the whole
text, and is a number for either kind of numbers, and of the kind itself for any other. So whatever
is scanned, at once or token by token, is well formed. The text of a well-formed number can be read,
and an evaluation of well-formed tokens never ends at a number that cannot. -/
theorem ofDatum_iff_single_lexeme {kind : Kind} (valid : kind ≠ .invalid) (text : String) :
    ((∃ t, Token.ofDatum (.record [("kind", .text kind.name), ("text", .text text)]) = .ok t) ↔
        ∃ t, Scan.tokens {} text = .ok [t] ∧ t.kind ≠ .invalid ∧ t.text = text ∧
          if kind.isNumber then t.isNumber = true else t.kind = kind) ∧
      (∀ mode s ts, Scan.tokens mode s = .ok ts → ∀ t ∈ ts, t.WellFormed) ∧
      (∀ mode (cursor : Cursor) t next, cursor.consume mode = .ok (t, next) → t.WellFormed) ∧
      (∀ t : Token, t.isNumber = true → t.WellFormed → ∃ x, Numeral.read? t.text = some x) ∧
      ∀ ts, (∀ t ∈ ts, t.WellFormed) → ∀ t, evaluate ts ≠ .error (.unreadableNumber t) := by
  refine ⟨?_, fun mode s ts => Scan.wellFormed_of_tokens, fun mode cursor t next taken => ?_,
    fun t => Token.exists_read, fun ts => evaluate_ne_unreadable⟩
  · rw [Token.exists_ofDatum_eq_ok_iff, Scan.exists_tokens_singleton_iff valid]
  · obtain ⟨place, isLexeme⟩ := Cursor.isLexeme_of_consume taken
    exact isLexeme.wellFormed

/-- A number of one kind may have the text of the other, but no line feed behind it. -/
theorem ofDatum_iff_single_lexeme_number :
    (∃ t, Token.ofDatum (.record [("kind", .text "INTEGER"), ("text", .text "2.50")]) = .ok t) ∧
      ¬ ∃ t, Token.ofDatum (.record [("kind", .text "INTEGER"), ("text", .text "2.50\n")]) =
        .ok t := by
  have valid : Kind.number .integer ≠ .invalid := nofun
  constructor
  · refine (ofDatum_iff_single_lexeme valid "2.50").1.2 ?_
    have scans : Scan.tokens {} "2.50" =
        .ok [{ kind := .number .float, text := "2.50", position := some 0 }] := by decide +kernel
    exact ⟨_, scans, nofun, rfl, rfl⟩
  · intro given
    obtain ⟨t, scans, -⟩ := (ofDatum_iff_single_lexeme valid "2.50\n").1.1 given
    have two : (Scan.tokens {} "2.50\n").map List.length = .ok 2 := by decide +kernel
    rw [scans] at two
    cases two

end ReversePolish
