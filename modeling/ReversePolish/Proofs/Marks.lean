import ReversePolish.Proofs.Handover
import ReversePolish.Proofs.Nesting
import ReversePolish.Proofs.WrittenDecimal
import ReversePolish.Text.Charset

/-!
# Texts without marks

A square bracket that opens may begin a mark in what a console is handed. All that is said of an
expression without one is without one, too: but for the characters of the expression it is made of
words, digits and escapes, none of which has a bracket.

- `Unmarked`: a text without such brackets;
- `Fault.IsUnmarked`, `Fault.unmarked_message`: what the message of a fault quotes, and that it has
  no other marks;
- `tokensUnmarked_toPolish`, `isUnmarked_of_calculate`: what is said of an expression without marks.
-/

namespace ReversePolish

/-! ## Texts -/

/-- The text has no square bracket that opens. -/
def Unmarked (s : String) : Prop :=
  '[' ∉ s.toList

instance (s : String) : Decidable (Unmarked s) :=
  inferInstanceAs (Decidable ('[' ∉ s.toList))

@[simp]
theorem unmarked_append {s t : String} : Unmarked (s ++ t) ↔ Unmarked s ∧ Unmarked t := by
  simp [Unmarked]

/-- No digit is a bracket, in whatever base. -/
theorem bracket_notMem_toDigits {b : Nat} (base : 1 < b) (n : Nat) : '[' ∉ Nat.toDigits b n := by
  have notDigit : ∀ d : Nat, '[' ≠ d.digitChar := fun d => (Nat.digitChar_ne '[' rfl).symm
  -- On the number, which loses its last digit.
  induction n using Nat.strong_induction_on with
  | _ n ih =>
    rw [Nat.toDigits_eq_if base]
    split
    · simp [notDigit n]
    · next large =>
      have smaller : n / b < n := Nat.div_lt_self (by omega) base
      simpa [notDigit] using ih (n / b) smaller

@[simp]
theorem unmarked_toString_nat (n : Nat) : Unmarked (toString n) := by
  rw [Unmarked, Nat.toString_eq_repr, Nat.toList_repr]
  exact bracket_notMem_toDigits (by decide) n

@[simp]
theorem unmarked_toString_int (n : Int) : Unmarked (toString n) := by
  cases n with
  | ofNat n => exact unmarked_toString_nat n
  | negSucc n =>
    change Unmarked ("-" ++ toString (n + 1))
    rw [unmarked_append]
    exact ⟨by decide, unmarked_toString_nat (n + 1)⟩

/-- An escape brings no bracket with it. -/
theorem bracket_notMem_escaped {c : Char} (other : '[' ≠ c) (quote : Char) :
    '[' ∉ Text.escaped quote c := by
  have code : ∀ width, '[' ∉ Text.hexadecimal width c.toNat := by
    intro width
    simp [Text.hexadecimal, List.leftpad, bracket_notMem_toDigits]
  rw [Text.escaped]
  split_ifs
  · simp [other]
  · decide
  · decide
  · decide
  · simp [other]
  · rw [Text.codeEscape]
    split_ifs <;> simp [code]

/-- Neither do the quotes. -/
theorem unmarked_quoted {s : String} (h : Unmarked s) : Unmarked (Text.quoted s) := by
  have quote : '[' ≠ Text.quoteFor s.toList := by
    rw [Text.quoteFor]
    split <;> decide
  rw [Unmarked, Text.toList_quoted, Text.quotedChars]
  simp only [List.mem_cons, List.mem_append, List.mem_flatMap, List.not_mem_nil, or_false, not_or]
  refine ⟨quote, ?_, quote⟩
  rintro ⟨c, hc, mem⟩
  exact bracket_notMem_escaped (fun same => h (same ▸ hc)) _ mem

/-- A number is written without brackets, finite or not. -/
theorem unmarked_plain (x : Float) : Unmarked (Number.plain x) := by
  rw [Unmarked, Number.toList_plain]
  cases magnitude : Magnitude.ofFloat x with
  | finite negative k =>
    intro mem
    have finite : (Magnitude.ofFloat x).isFinite = true := by rw [magnitude]; rfl
    exact absurd (Number.mem_plainChars_of_finite finite mem) (by decide)
  | infinite negative =>
    rw [Number.plainChars_of_infinite magnitude]
    cases negative <;> decide
  | undefined =>
    rw [Number.plainChars_of_undefined magnitude]
    decide

/-- What the output cannot hold is replaced by other characters than brackets. -/
theorem unmarked_shown {s : String} (h : Unmarked s) (charset : Charset) :
    Unmarked (charset.shown s) := by
  have spelled : ∀ c ∈ s.toList, '[' ∉ Charset.spellArrow c := by
    intro c hc
    have other : '[' ≠ c := fun same => h (same ▸ hc)
    rw [Charset.spellArrow]
    split
    · decide
    · simpa using other
  rw [Unmarked, Charset.shown, String.toList_ofList, List.mem_map]
  rintro ⟨d, hd, same⟩
  obtain ⟨c, hc, arrow⟩ := List.mem_flatMap.1 hd
  split at same
  · exact spelled c hc (same ▸ arrow)
  · exact absurd same (by decide)

/-! ## Tokens and faults -/

theorem Kind.unmarked_name (kind : Kind) : Unmarked kind.name := by
  cases kind with
  | number spelling => cases spelling <;> decide
  | operator op => cases op <;> decide
  | leftParen | rightParen | invalid => decide

theorem FaultCode.unmarked_name (code : FaultCode) : Unmarked code.name := by
  cases code <;> decide

/-- Neither the text nor the message of the token has a mark. -/
structure Token.IsUnmarked (t : Token) : Prop where
  text : Unmarked t.text
  message : ∀ message ∈ t.message, Unmarked message

theorem Token.IsUnmarked.remark {t : Token} (h : t.IsUnmarked) {remark : String}
    (given : t.remark? = some remark) : Unmarked remark := by
  rw [Token.remark?, Option.filter_eq_some_iff] at given
  exact h.message remark given.1

theorem Token.IsUnmarked.display {t : Token} (h : t.IsUnmarked) : Unmarked t.display := by
  rw [Token.display]
  split
  · cases given : t.message with
    | none => decide
    | some message => exact h.message message given
  · exact h.text

/-- What the message of a fault quotes has no mark. -/
def Fault.IsUnmarked : Fault → Prop
  | .unrecognizedCharacter c _ => '[' ≠ c
  | .unsupported t | .rejected t | .leadingOperator t | .unreadableNumber t | .unexpected t
  | .missingOperand t _ => t.IsUnmarked
  | .unmatched _ | .unclosed _ | .nothing | .leftover _ => True

theorem unmarked_unrecognizedText {c : Char} (h : '[' ≠ c) (position : Nat) :
    Unmarked (unrecognizedText c position) := by
  have quoted : Unmarked (Text.quoted (String.singleton c)) :=
    unmarked_quoted (by simpa [Unmarked] using h)
  unfold unrecognizedText
  rw [unmarked_append, unmarked_append, unmarked_append]
  exact ⟨⟨⟨by decide, quoted⟩, by decide⟩, unmarked_toString_nat position⟩

theorem Fault.unmarked_detailed {detail : String} (h : Unmarked detail) :
    Unmarked (detailed detail) := by
  simp only [detailed, unmarked_append, h, and_true]
  decide

theorem unmarked_positionText (position : Option Int) : Unmarked (positionText position) := by
  cases position with
  | none => decide
  | some position => exact unmarked_toString_int position

/-- The message of a fault has a mark only if something quoted in it has one. -/
theorem Fault.unmarked_message {fault : Fault} (h : fault.IsUnmarked) :
    Unmarked fault.message := by
  cases fault with
  | unrecognizedCharacter c position => exact unmarked_unrecognizedText h position
  | unsupported t =>
    have quiet : t.IsUnmarked := h
    refine unmarked_detailed ?_
    cases given : t.remark? with
    | none => exact unmarked_append.2 ⟨by decide, unmarked_quoted quiet.display⟩
    | some remark => exact quiet.remark given
  | unmatched t | unclosed t =>
    exact unmarked_detailed (unmarked_append.2 ⟨by decide, unmarked_positionText t.position⟩)
  | nothing => decide
  | rejected t =>
    have quiet : t.IsUnmarked := h
    rw [message]
    cases given : t.remark? with
    | none => decide
    | some remark => exact quiet.remark given
  | leadingOperator t | unreadableNumber t =>
    have quiet : t.IsUnmarked := h
    exact unmarked_detailed (unmarked_append.2 ⟨by decide, unmarked_quoted quiet.text⟩)
  | unexpected t =>
    have quiet : t.IsUnmarked := h
    have quoted := unmarked_quoted quiet.display
    refine unmarked_detailed ?_
    simp only [unmarked_append, t.kind.unmarked_name, quoted, and_true]
    decide
  | missingOperand t found =>
    have quiet : t.IsUnmarked := h
    have quoted := unmarked_quoted quiet.text
    refine unmarked_detailed ?_
    simp only [unmarked_append, quoted, unmarked_toString_nat, and_true]
    decide
  | leftover count =>
    refine unmarked_detailed ?_
    simp only [unmarked_append, unmarked_toString_nat, true_and]
    decide

/-! ## From an expression to what is said of it -/

/-- Neither the tokens nor what a fault quotes in their place has a mark. -/
def TokensUnmarked : Except Fault (List Token) → Prop
  | .ok ts => ∀ t ∈ ts, t.IsUnmarked
  | .error fault => fault.IsUnmarked

namespace Scan

variable {mode : Mode}

theorem isUnmarked_of_tokenOf {position : Nat} {c : Char} {lexeme : List Char} (first : '[' ≠ c)
    (all : '[' ∉ lexeme) {t : Token} (taken : tokenOf mode position c lexeme = .ok t) :
    t.IsUnmarked := by
  have text : Unmarked (String.ofList lexeme) := by rwa [Unmarked, String.toList_ofList]
  rw [tokenOf] at taken
  split at taken
  · cases taken
    refine ⟨text, ?_⟩
    rintro message ⟨⟩
  · split at taken
    · cases taken
    · cases taken
      refine ⟨text, ?_⟩
      rintro message ⟨⟩
      exact unmarked_unrecognizedText first position

theorem isUnmarked_of_tokenOf_eq_error {position : Nat} {c : Char} {lexeme : List Char}
    (first : '[' ≠ c) {fault : Fault} (refused : tokenOf mode position c lexeme = .error fault) :
    fault.IsUnmarked := by
  rw [tokenOf] at refused
  split at refused
  · cases refused
  · split at refused
    · cases refused
      exact first
    · cases refused

/-- Characters without marks give tokens without marks. -/
theorem tokensUnmarked_tokensFrom {position : Nat} {cs : List Char} (h : '[' ∉ cs) :
    TokensUnmarked (tokensFrom mode position cs) := by
  -- On the scan itself, which takes a lexeme or passes over a character.
  fun_induction tokensFrom mode position cs with
  | case1 position => exact List.forall_mem_nil _
  | case2 position c rest skips ih => exact ih fun mem => h (List.mem_cons_of_mem c mem)
  | case3 position c rest kept fault refused =>
    have first : '[' ≠ c := fun same => h (same ▸ List.mem_cons_self)
    exact isUnmarked_of_tokenOf_eq_error first refused
  | case4 position c rest kept t taken ih =>
    have first : '[' ≠ c := fun same => h (same ▸ List.mem_cons_self)
    -- The lexeme and what follows it are parts of the text.
    rw [← splitLexeme_append c rest, List.mem_append, not_or] at h
    have later := ih h.2
    cases scanned : tokensFrom mode (position + (splitLexeme c rest).1.length)
        (splitLexeme c rest).2 with
    | error fault =>
      rw [scanned] at later
      exact later
    | ok ts =>
      rw [scanned] at later
      exact List.forall_mem_cons.2 ⟨isUnmarked_of_tokenOf first h.1 taken, later⟩

end Scan

/-- A conversion brings no marks with it. -/
theorem tokensUnmarked_convert {ts : List Token} (h : ∀ t ∈ ts, t.IsUnmarked) :
    TokensUnmarked (convert ts) := by
  -- Of all faults of a conversion only that of an invalid token quotes anything.
  rcases faultless_or_firstFault ts with faultless | ⟨t, isFirst⟩
  · by_cases closed : nesting ts = 0
    · obtain ⟨result, converts⟩ := exists_convert_of_faultless faultless closed
      rw [converts]
      exact fun t ht => h t (mem_of_convert converts ht).1
    · obtain ⟨paren, -, unclosed⟩ := exists_lastUnclosed_of_faultless faultless closed
      rw [unclosed]
      exact trivial
  · obtain ⟨unsupported, unmatched⟩ := convert_of_firstFault isFirst
    obtain ⟨before, after, rfl, -, invalid | ⟨isClosing, -⟩⟩ := isFirst
    · rw [unsupported invalid]
      exact h t (by simp)
    · rw [unmatched isClosing]
      exact trivial

theorem Evaluation.isUnmarked_of_feed {state : Evaluation} {t : Token} (h : t.IsUnmarked)
    {fault : Fault} (refused : state.feed t = .error fault) : fault.IsUnmarked := by
  -- Whatever is wrong is said of the token.
  rw [feed] at refused
  split at refused
  · split at refused
    · cases refused
    · cases refused
      exact h
  · rw [operate] at refused
    split at refused
    · cases refused
    · cases refused
      exact h
  · cases refused
    exact h

/-- An evaluation quotes none but its tokens. -/
theorem isUnmarked_of_trace {ts : List Token} (h : ∀ t ∈ ts, t.IsUnmarked) {fault : Fault}
    (refused : trace ts = .error fault) : fault.IsUnmarked := by
  rcases cases_of_trace_eq_error refused with opening | ⟨t, ht, before, fed⟩ | ⟨final, ending⟩
  · cases ts with
    | nil =>
      cases opening
      exact trivial
    | cons t ts =>
      -- The first token is refused for its kind.
      rw [openingFault?] at opening
      split at opening
      · cases opening
        exact h t List.mem_cons_self
      · cases opening
        exact h t List.mem_cons_self
      · cases opening
  · exact Evaluation.isUnmarked_of_feed (h t ht) fed
  · -- Of what is left in the end only the number is told.
    rw [Evaluation.finish] at ending
    split at ending
    · cases ending
    · cases ending
      exact trivial

/-- The reverse Polish notation of an expression without marks has none, or the fault in its
place. -/
theorem tokensUnmarked_toPolish {expression : String} (h : Unmarked expression)
    (mode : Scan.Mode) : TokensUnmarked (toPolish mode expression) := by
  have scanned : TokensUnmarked (Scan.tokens mode expression) :=
    Scan.tokensUnmarked_tokensFrom h
  rw [toPolish]
  cases scans : Scan.tokens mode expression with
  | error fault =>
    rw [scans] at scanned
    exact scanned
  | ok ts =>
    rw [scans] at scanned
    exact tokensUnmarked_convert scanned

/-- So has the line in which it is shown. -/
theorem unmarked_render {outcome : Except Fault (List Token)} (h : TokensUnmarked outcome) :
    Unmarked (render " " outcome) := by
  cases outcome with
  | error fault => exact Fault.unmarked_message h
  | ok ts =>
    rw [render, Unmarked, String.toList_intercalate]
    -- On the tokens: a gap follows each of them but the last.
    induction ts with
    | nil => decide
    | cons t ts ih =>
      have first : '[' ∉ t.text.toList := (h t List.mem_cons_self).text
      have later := ih fun u hu => h u (List.mem_cons_of_mem t hu)
      by_cases last : ts = []
      · rw [last]
        simpa using first
      · have more : (ts.map (·.text)).map String.toList ≠ [] := by simpa using last
        rw [List.map_cons, List.map_cons, List.intercalate_cons_of_ne_nil more, List.mem_append,
          List.mem_append, not_or, not_or]
        exact ⟨⟨first, by decide⟩, later⟩

/-- The fault of a calculation quotes nothing that has a mark. -/
theorem isUnmarked_of_calculate {expression : String} (h : Unmarked expression)
    {mode : Scan.Mode} {fault : Fault} (refused : calculate mode expression = .error fault) :
    fault.IsUnmarked := by
  have polished := tokensUnmarked_toPolish h mode
  rw [calculate] at refused
  cases converts : toPolish mode expression with
  | error first =>
    rw [converts] at refused polished
    cases refused
    exact polished
  | ok polish =>
    rw [converts] at refused polished
    exact isUnmarked_of_trace polished (map_eq_error_iff.1 refused)

end ReversePolish
