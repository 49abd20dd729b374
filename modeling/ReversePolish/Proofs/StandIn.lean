import ReversePolish.Proofs.Handover
import ReversePolish.Proofs.Strictness

/-!
# The stand-in for a failed conversion

A conversion can hide its fault: in the place of a result it gives a single invalid token. This is
never mistaken for a result, since a result has no invalid token, and an evaluation refuses it. So
the way by the stand-in and the way by the fault have the same values and the same faults of
evaluation; they differ in what is said of a failed conversion.

- `exists_invalid_convertOrSentinel_iff`: an invalid token shows a failed conversion;
- `code_of_convert_eq_error`: a failed conversion is of one of two classes;
- `evaluate_convertOrSentinel_of_error`: of the stand-in only the general class is known;
- `convertOrSentinel_agrees`: both ways, from any tokens and from any text.
-/

namespace ReversePolish

/-! ## The stand-in and results -/

theorem convertOrSentinel_of_ok {ts result : List Token} (converts : convert ts = .ok result) :
    convertOrSentinel ts = result := by
  rw [convertOrSentinel, converts]

theorem convertOrSentinel_of_error {ts : List Token} {fault : Fault}
    (refused : convert ts = .error fault) : convertOrSentinel ts = [Token.sentinel] := by
  rw [convertOrSentinel, refused]

/-- An invalid token shows that the conversion failed, even where some of the tokens given were
invalid. -/
theorem exists_invalid_convertOrSentinel_iff {ts : List Token} :
    (∃ t ∈ convertOrSentinel ts, t.kind = .invalid) ↔ ∃ fault, convert ts = .error fault := by
  cases converts : convert ts with
  | ok result =>
    rw [convertOrSentinel_of_ok converts]
    constructor
    · -- A result has numbers and operators only.
      rintro ⟨t, ht, invalid⟩
      have isTerm := (mem_of_convert converts ht).2
      exact absurd invalid (Token.ne_invalid_of_isTerm isTerm)
    · rintro ⟨fault, absurd⟩
      cases absurd
  | error fault =>
    rw [convertOrSentinel_of_error converts]
    exact ⟨fun _ => ⟨fault, rfl⟩, fun _ => ⟨Token.sentinel, List.mem_singleton_self _, rfl⟩⟩

/-! ## What is said of a failed conversion -/

/-- A conversion fails by an unrecognized token or by its parentheses. -/
theorem code_of_convert_eq_error {ts : List Token} {fault : Fault}
    (refused : convert ts = .error fault) :
    fault.code = .unrecognizedToken ∨ fault.code = .unbalancedParentheses := by
  -- The first token at fault decides, and without one a parenthesis that is left open.
  rcases faultless_or_firstFault ts with faultless | ⟨t, isFirst⟩
  · by_cases closed : nesting ts = 0
    · obtain ⟨result, converts⟩ := exists_convert_of_faultless faultless closed
      rw [converts] at refused
      cases refused
    · obtain ⟨paren, -, unclosed⟩ := exists_lastUnclosed_of_faultless faultless closed
      rw [unclosed] at refused
      cases refused
      exact .inr rfl
  · obtain ⟨unsupported, unmatched⟩ := convert_of_firstFault isFirst
    obtain ⟨before, after, -, -, invalid | ⟨isClosing, -⟩⟩ := isFirst
    · rw [unsupported invalid] at refused
      cases refused
      exact .inl rfl
    · rw [unmatched isClosing] at refused
      cases refused
      exact .inr rfl

/-- The stand-in is refused by every evaluation, and its message tells nothing of the fault. -/
theorem evaluate_convertOrSentinel_of_error {ts : List Token} {fault : Fault}
    (refused : convert ts = .error fault) :
    (evaluate (convertOrSentinel ts)).mapError Fault.diagnosis =
      .error { code := .invalidExpression, message := "invalid expression" } := by
  rw [convertOrSentinel_of_error refused]
  rfl

/-! ## Both ways -/

/-- Where the conversion does not fail, an evaluation of what it gives is a calculation without its
steps. -/
theorem evaluate_convertOrSentinel_of_ok {mode : Scan.Mode} {text : String}
    {scanned polish : List Token} (scans : Scan.tokens mode text = .ok scanned)
    (converts : convert scanned = .ok polish) :
    evaluate (convertOrSentinel scanned) = (calculate mode text).map (·.value) := by
  rw [convertOrSentinel_of_ok converts, map_value_calculate, toPolish, scans]
  change _ = (convert scanned).bind evaluate
  rw [converts]
  rfl

/-- Where it fails, its fault is that of the calculation. -/
theorem calculate_of_convert_eq_error {mode : Scan.Mode} {text : String} {scanned : List Token}
    {fault : Fault} (scans : Scan.tokens mode text = .ok scanned)
    (refused : convert scanned = .error fault) : calculate mode text = .error fault := by
  apply calculate_of_toPolish_eq_error
  rw [toPolish, scans]
  exact refused

/-- The stand-in tells of a failed conversion as surely as its fault does. Among the tokens of a
conversion that may fail is an invalid one exactly if it did fail, and then that is all there is: no
text, no place, and the general message. So from a text that is scanned leniently both ways come to
the same value or to the same fault of the evaluation. Where the conversion fails, the one tells its
fault and the other the general one. -/
theorem convertOrSentinel_agrees {ts : List Token} (wellFormed : ∀ t ∈ ts, t.WellFormed)
    (mode : Scan.Mode) (text : String) :
    convertChecked ts = .ok (convert ts) ∧
      convertOrSentinelChecked ts = .ok (convertOrSentinel ts) ∧
      ((∃ t ∈ convertOrSentinel ts, t.kind = .invalid) ↔ ∃ fault, convert ts = .error fault) ∧
      ((∃ t ∈ convertOrSentinel ts, t.kind = .invalid) →
        convertOrSentinel ts =
          [{ kind := .invalid, text := "", message := some "invalid expression",
             position := none }]) ∧
      ∃ scanned, Scan.tokens mode.leniently text = .ok scanned ∧
        convertOrSentinelChecked scanned = .ok (convertOrSentinel scanned) ∧
        (∀ v, evaluate (convertOrSentinel scanned) = .ok v ↔
          ∃ result, calculate mode.leniently text = .ok result ∧ result.value = v) ∧
        (∀ polish, convert scanned = .ok polish → ∀ fault,
          evaluate (convertOrSentinel scanned) = .error fault ↔
            calculate mode.leniently text = .error fault) ∧
        (∀ fault, convert scanned = .error fault →
          calculate mode.leniently text = .error fault ∧
            (fault.code = .unrecognizedToken ∨ fault.code = .unbalancedParentheses) ∧
            (evaluate (convertOrSentinel scanned)).mapError Fault.diagnosis =
              .error { code := .invalidExpression, message := "invalid expression" }) := by
  obtain ⟨scanned, scans, -⟩ := Scan.exists_tokensFrom_leniently mode 0 text.toList
  have lenient : Scan.tokens mode.leniently text = .ok scanned := scans
  refine ⟨convertChecked_of_wellFormed wellFormed,
    convertOrSentinelChecked_of_wellFormed wellFormed, exists_invalid_convertOrSentinel_iff, ?_,
    scanned, lenient,
    convertOrSentinelChecked_of_wellFormed (Scan.wellFormed_of_tokens lenient), ?_, ?_, ?_⟩
  · intro invalid
    obtain ⟨fault, refused⟩ := exists_invalid_convertOrSentinel_iff.1 invalid
    exact convertOrSentinel_of_error refused
  · intro v
    cases converts : convert scanned with
    | ok polish => rw [evaluate_convertOrSentinel_of_ok lenient converts, map_eq_ok_iff]
    | error fault =>
      -- Neither way comes to a value.
      rw [convertOrSentinel_of_error converts, calculate_of_convert_eq_error lenient converts]
      constructor
      · intro absurd
        cases absurd
      · rintro ⟨result, absurd, -⟩
        cases absurd
  · intro polish converts fault
    rw [evaluate_convertOrSentinel_of_ok lenient converts, map_eq_error_iff]
  · intro fault refused
    exact ⟨calculate_of_convert_eq_error lenient refused, code_of_convert_eq_error refused,
      evaluate_convertOrSentinel_of_error refused⟩

/-- A parenthesis without its other half is hidden behind the stand-in, and an operator without its
second operand is told by both ways. -/
theorem convertOrSentinel_agrees_sentinel :
    ∃ ts scanned : List Token, ts.map (·.text) = ["8", "-", "0.5", ")"] ∧
      (∀ t ∈ ts, t.WellFormed) ∧ convertOrSentinelChecked ts = .ok [Token.sentinel] ∧
      Scan.tokens {} "(8-2)*" = .ok scanned ∧
      ∃ fault, fault.code = .operandUnderflow ∧
        evaluate (convertOrSentinel scanned) = .error fault ∧
        calculate {} "(8-2)*" = .error fault := by
  let ts : List Token := [
    { kind := .number .integer, text := "8", position := some 0 },
    { kind := .operator .sub, text := "-", position := some 1 },
    { kind := .number .float, text := "0.5", position := some 2 },
    { kind := .rightParen, text := ")", position := some 5 }]
  have wellFormed : ∀ t ∈ ts, t.WellFormed := by decide +kernel
  have refused : ∃ fault, convert ts = .error fault := ⟨_, by rfl⟩
  obtain ⟨-, handed, shown, alone, scanned, scans, -, -, same, -⟩ :=
    convertOrSentinel_agrees wellFormed {} "(8-2)*"
  change Scan.tokens {} "(8-2)*" = .ok scanned at scans
  rw [alone (shown.2 refused)] at handed
  have fault : calculate {} "(8-2)*" =
      .error (.missingOperand { kind := .operator .mul, text := "*", position := some 5 } 1) := by
    with_unfolding_all rfl
  have converted : (toPolish {} "(8-2)*").isOk = true := by decide +kernel
  cases converts : convert scanned with
  | error other =>
    have refused : toPolish {} "(8-2)*" = .error other := by
      rw [toPolish, scans]
      exact converts
    rw [refused] at converted
    cases converted
  | ok polish =>
    exact ⟨ts, scanned, rfl, wellFormed, handed, scans, _, rfl, (same polish converts _).2 fault,
      fault⟩

end ReversePolish
