import ReversePolish.Proofs.Expression
import ReversePolish.Proofs.Handover
import ReversePolish.Proofs.PostOrder
import ReversePolish.Proofs.SignOfZero

/-!
# Steps as they are read

The line of a step shows three numbers in plain form. A reader can take two of them, carry out the
operation and compare. The line is true if this gives the third.

- `readsTrue`: whether a line is true as it is read;
- `exists_operator_of_step`: every step was carried out by an operator of the expression;
- `readsTrue_text_iff`: its line is true, unless it divides by negative zero, which is shown without
  its sign.
-/

namespace ReversePolish

/-! ## Lines -/

/-- Whether the operation of the symbol on the two numbers that are read gives the one that is
written as the result. -/
def operationHolds (left : List Char) (symbol : Char) (right result : List Char) : Bool :=
  match Numeral.readChars? left, Kind.ofSymbol? symbol, Numeral.readChars? right with
  | some x, some (.operator op), some y => Number.plainChars (op.apply x y) = result
  | _, _, _ => false

/-- Whether a line is true as it is read: between blanks stand a number, the symbol of an operator,
a number, the sign of equality and a number, and the last is the result of the operation in plain
form. -/
def readsTrue (line : String) : Bool :=
  match line.toList.splitOn ' ' with
  | [left, [symbol], right, sign, result] =>
    sign = ['='] && operationHolds left symbol right result
  | _ => false

example : readsTrue "0.1 + 0.2 = 0.30000000000000004" = true := by decide +kernel

example : readsTrue "1 / 3 = 0.3" = false := by decide +kernel

/-- No plain form has a blank. -/
theorem Number.blank_notMem_plainChars (x : Float) : ' ' ∉ plainChars x := by
  cases magnitude : Magnitude.ofFloat x with
  | finite negative k =>
    intro blank
    have finite : (Magnitude.ofFloat x).isFinite = true := by rw [magnitude]; rfl
    exact absurd (mem_plainChars_of_finite finite blank) (by decide)
  | infinite negative =>
    rw [plainChars_of_infinite magnitude]
    cases negative <;> decide
  | undefined =>
    rw [plainChars_of_undefined magnitude]
    decide

/-- The parts of the line of a step. -/
theorem splitOn_text {step : Step} {op : Operator}
    (symbol : step.symbol = String.ofList [op.symbol]) :
    step.text.toList.splitOn ' ' =
      [Number.plainChars step.left, [op.symbol], Number.plainChars step.right, ['='],
        Number.plainChars step.result] := by
  have parts : step.text.toList = [' '].intercalate
      [Number.plainChars step.left, [op.symbol], Number.plainChars step.right, ['='],
        Number.plainChars step.result] := by
    simp [Step.text, symbol, List.intercalate]
  rw [parts]
  -- The line falls apart at its blanks, since none of the parts has one.
  refine List.splitOn_intercalate ' ' ?_ (by simp)
  intro part hpart
  simp only [List.mem_cons, List.not_mem_nil, or_false] at hpart
  obtain rfl | rfl | rfl | rfl | rfl := hpart
  · exact Number.blank_notMem_plainChars _
  · cases op <;> decide
  · exact Number.blank_notMem_plainChars _
  · decide
  · exact Number.blank_notMem_plainChars _

/-- The line of a step is true, unless the sign of a zero that it does not show decides the
result. -/
theorem readsTrue_text_of_operator {step : Step} {op : Operator}
    (symbol : step.symbol = String.ofList [op.symbol])
    (result : step.result = op.apply step.left step.right) :
    readsTrue step.text = true ↔
      ¬ (op = .div ∧ DividesByNegativeZero step.left step.right) := by
  have line : readsTrue step.text = operationHolds (Number.plainChars step.left) op.symbol
      (Number.plainChars step.right) (Number.plainChars step.result) := by
    rw [readsTrue, splitOn_text symbol]
    simp
  rw [line, operationHolds, Number.readChars?_plainChars, Number.readChars?_plainChars,
    op.ofSymbol?_symbol, result]
  simp only [decide_eq_true_eq]
  exact plainChars_apply_shown_iff

/-! ## Steps of a calculation -/

/-- Every step of a run was carried out by an operator of the sequence. -/
theorem Evaluation.exists_operator_of_mem_steps {ts : List Token} {final : Evaluation}
    (run : start.feedAll ts = .ok final) :
    ∀ step ∈ final.steps, ∃ t ∈ ts, ∃ op, t.kind = .operator op ∧ step.symbol = t.text ∧
      step.result = op.apply step.left step.right := by
  refine feedAll_induction (P := fun ts state => ∀ step ∈ state.steps, ∃ t ∈ ts, ∃ op,
    t.kind = .operator op ∧ step.symbol = t.text ∧
      step.result = op.apply step.left step.right) (by simp [start]) ?_ run
  intro ts state t next before fed step carried
  -- What was carried out before was carried out by an earlier token.
  have earlier : step ∈ state.steps → ∃ t' ∈ ts ++ [t], ∃ op, t'.kind = .operator op ∧
      step.symbol = t'.text ∧ step.result = op.apply step.left step.right := by
    intro carried
    obtain ⟨t', ht', found⟩ := before step carried
    exact ⟨t', List.mem_append_left [t] ht', found⟩
  cases fed with
  | number => exact earlier carried
  | operator kind =>
    rcases List.mem_cons.1 carried with rfl | carried
    · exact ⟨t, by simp, _, kind, rfl, rfl⟩
    · exact earlier carried

/-- The text of an operator is its symbol. -/
theorem Scan.IsLexeme.text_of_operator {position : Nat} {t : Token} {op : Operator}
    (lexeme : IsLexeme position t) (kind : t.kind = .operator op) :
    t.text = String.ofList [op.symbol] := by
  cases lexeme with
  | number => cases kind
  | symbol symbol =>
    obtain rfl : _ = Kind.operator op := kind
    rw [← Operator.symbol_of_ofSymbol? symbol]
    rfl
  | invalid => cases kind

/-- Every step of a calculation was carried out by an operator, and shows its symbol. -/
theorem exists_operator_of_step {mode : Scan.Mode} {text : String} {result : Calculation}
    (calculates : calculate mode text = .ok result) {step : Step} (carried : step ∈ result.steps) :
    ∃ op : Operator, step.symbol = String.ofList [op.symbol] ∧
      step.result = op.apply step.left step.right := by
  rw [calculate, bind_eq_ok_iff] at calculates
  obtain ⟨polish, converts, traced⟩ := calculates
  obtain ⟨whole, evaluates, rfl⟩ := map_eq_ok_iff.1 traced
  obtain ⟨final, run, -, steps⟩ := Evaluation.exists_of_trace evaluates
  have noted : step ∈ final.steps := by
    rw [← List.mem_reverse, steps]
    exact carried
  obtain ⟨t, ht, op, kind, symbol, value⟩ := Evaluation.exists_operator_of_mem_steps run step noted
  obtain ⟨⟨place, lexeme⟩, -⟩ := exists_isLexeme_of_toPolish converts ht
  exact ⟨op, symbol.trans (lexeme.text_of_operator kind), value⟩

/-- A step of a calculation is true as it is read, exactly if it does not divide a number other than
zero by negative zero. Negative zero is shown as zero, which gives the other infinity. -/
theorem readsTrue_text_iff {mode : Scan.Mode} {text : String} {result : Calculation}
    (calculates : calculate mode text = .ok result) {step : Step} (carried : step ∈ result.steps) :
    readsTrue step.text = true ↔
      ¬ (step.symbol = "/" ∧ DividesByNegativeZero step.left step.right) := by
  obtain ⟨op, symbol, value⟩ := exists_operator_of_step calculates carried
  have division : op = .div ↔ step.symbol = "/" := by
    rw [symbol]
    cases op <;> decide
  rw [readsTrue_text_of_operator symbol value, division]

/-- The difference of `1/2-0.75` is true as it is read. -/
theorem readsTrue_text_iff_difference :
    ∃ result step, calculate {} "1/2-0.75" = .ok result ∧ step ∈ result.steps ∧
      step.text = "0.5 - 0.75 = -0.25" ∧ readsTrue step.text = true := by
  have shown : (calculate {} "1/2-0.75").map
      (fun result => result.steps.map fun step => (step.symbol, step.text)) =
      .ok [("/", "1 / 2 = 0.5"), ("-", "0.5 - 0.75 = -0.25")] := by decide +kernel
  obtain ⟨result, calculates, lines⟩ := map_eq_ok_iff.1 shown
  have second : ("-", "0.5 - 0.75 = -0.25") ∈
      result.steps.map fun step => (step.symbol, step.text) := by
    rw [lines]
    exact List.mem_of_mem_tail (List.mem_singleton_self _)
  obtain ⟨step, carried, same⟩ := List.mem_map.1 second
  rw [Prod.mk.injEq] at same
  obtain ⟨symbol, text⟩ := same
  refine ⟨result, step, calculates, carried, text, (readsTrue_text_iff calculates carried).2 ?_⟩
  rintro ⟨division, -⟩
  rw [symbol] at division
  exact absurd division (by decide)

/-- A product with minus one may be negative zero, and the division by it is not true as it is
read. -/
theorem not_forall_readsTrue_text :
    ¬ ∀ text result, calculate {} text = .ok result →
      ∀ step ∈ result.steps, readsTrue step.text = true := by
  intro claim
  have shown : (calculate {} "1/(0*(0-1))").map (fun result => result.steps.map Step.text) =
      .ok ["0 - 1 = -1", "0 * -1 = 0", "1 / 0 = -inf"] := by decide +kernel
  obtain ⟨result, calculates, lines⟩ := map_eq_ok_iff.1 shown
  have last : "1 / 0 = -inf" ∈ result.steps.map Step.text := by
    rw [lines]
    decide
  obtain ⟨step, carried, text⟩ := List.mem_map.1 last
  have wrong := claim _ _ calculates step carried
  rw [text] at wrong
  exact absurd wrong (by decide +kernel)

end ReversePolish
