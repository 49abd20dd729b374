import ReversePolish.Calculation
import ReversePolish.Proofs.Scanning
import ReversePolish.Proofs.Sentence

/-!
# Written expressions

Derivations of the grammar down to the characters: each token is spelled by a lexeme, with any
characters before it that the mode passes over. A derivation gives its text, its tree with the place
of each lexeme, and its value, all by recursion on the derivation alone.

The main result is `calculate_expression`: for the text of any derivation, scanning, conversion and
evaluation give the listing and the value that the derivation has by itself. It is put together from

- `Phrase.scans`: the text of a phrase is scanned as its tokens;
- `Phrase.derives`: these tokens are a sentence of the level and stand for the tree;
- `Phrase.value?_tree`: the value of the tree is that of the phrase;
- `Phrase.standsIn`: the tokens of the tree stand in the text at their places.
-/

namespace ReversePolish

/-- The symbol of an operator. -/
def Operator.symbol : Operator → Char
  | .add => '+'
  | .sub => '-'
  | .mul => '*'
  | .div => '/'

theorem Operator.ofSymbol?_symbol (op : Operator) :
    Kind.ofSymbol? op.symbol = some (.operator op) := by
  cases op <;> rfl

/-- Only an operator has its symbol. -/
theorem Operator.symbol_of_ofSymbol? {c : Char} {op : Operator}
    (h : Kind.ofSymbol? c = some (.operator op)) : c = op.symbol := by
  unfold Kind.ofSymbol? at h
  split at h <;> cases h <;> rfl

/-- Characters that the mode passes over: any layout if it skips layout, and none otherwise. -/
def Gap (mode : Scan.Mode) : Type :=
  { cs : List Char // ∀ c ∈ cs, mode.skips c = true }

/-- One or more digits, perhaps with a point and one or more digits after them. -/
def WrittenNumber : Type :=
  { cs : List Char // Lexeme.isNumber cs = true }

/-- The double that a written number reads as. -/
def WrittenNumber.value (number : WrittenNumber) : Float :=
  (Numeral.read? (String.ofList number.1)).get
    (Numeral.isSome_read?_of_isNumber (by simpa using number.2))

/-- The derivations of a level of the grammar, with the characters before each lexeme. -/
inductive Phrase (mode : Scan.Mode) : Level → Type where
  /-- A written number. -/
  | number (gap : Gap mode) (numeral : WrittenNumber) : Phrase mode .factor
  /-- A sum in parentheses. -/
  | group (before : Gap mode) (inner : Phrase mode .sum) (after : Gap mode) : Phrase mode .factor
  /-- A factor as a product. -/
  | factor (single : Phrase mode .factor) : Phrase mode .product
  /-- A product, `*` or `/`, and a factor. -/
  | times (first : Phrase mode .product) (gap : Gap mode) (op : Operator)
      (isProduct : op.isSum = false) (second : Phrase mode .factor) : Phrase mode .product
  /-- A product as a sum. -/
  | product (single : Phrase mode .product) : Phrase mode .sum
  /-- A sum, `+` or `-`, and a product. -/
  | plus (first : Phrase mode .sum) (gap : Gap mode) (op : Operator)
      (isSum : op.isSum = true) (second : Phrase mode .product) : Phrase mode .sum

namespace Phrase

variable {mode : Scan.Mode} {level : Level}

/-- The characters of the phrase. -/
def chars {level : Level} : Phrase mode level → List Char
  | number gap numeral => gap.1 ++ numeral.1
  | group before inner after => before.1 ++ '(' :: (inner.chars ++ (after.1 ++ [')']))
  | factor single => single.chars
  | times first gap op _ second => first.chars ++ (gap.1 ++ op.symbol :: second.chars)
  | product single => single.chars
  | plus first gap op _ second => first.chars ++ (gap.1 ++ op.symbol :: second.chars)

/-- The tree of a phrase that stands after `position` characters: a leaf for each number, a node for
each operator, and nothing for the parentheses. -/
def tree {level : Level} (position : Nat) : Phrase mode level → Tree
  | number gap numeral => .leaf (Scan.numberToken (position + gap.1.length) numeral.1)
  | group before inner _ => inner.tree (position + before.1.length + 1)
  | factor single => single.tree position
  | times first gap op _ second =>
    let place := position + first.chars.length + gap.1.length
    .node (Scan.symbolToken place op.symbol (.operator op)) (first.tree position)
      (second.tree (place + 1))
  | product single => single.tree position
  | plus first gap op _ second =>
    let place := position + first.chars.length + gap.1.length
    .node (Scan.symbolToken place op.symbol (.operator op)) (first.tree position)
      (second.tree (place + 1))

/-- The value of the phrase: that of its numbers, put together by its operators, the left operand
first. -/
def value {level : Level} : Phrase mode level → Float
  | number _ numeral => numeral.value
  | group _ inner _ => inner.value
  | factor single => single.value
  | times first _ op _ second => op.apply first.value second.value
  | product single => single.value
  | plus first _ op _ second => op.apply first.value second.value

/-- The tokens of a phrase that stands after `position` characters. -/
def tokens {level : Level} (position : Nat) : Phrase mode level → List Token
  | number gap numeral => [Scan.numberToken (position + gap.1.length) numeral.1]
  | group before inner after =>
    let start := position + before.1.length
    Scan.symbolToken start '(' .leftParen :: inner.tokens (start + 1) ++
      [Scan.symbolToken (start + 1 + inner.chars.length + after.1.length) ')' .rightParen]
  | factor single => single.tokens position
  | times first gap op _ second =>
    let place := position + first.chars.length + gap.1.length
    first.tokens position ++ Scan.symbolToken place op.symbol (.operator op) ::
      second.tokens (place + 1)
  | product single => single.tokens position
  | plus first gap op _ second =>
    let place := position + first.chars.length + gap.1.length
    first.tokens position ++ Scan.symbolToken place op.symbol (.operator op) ::
      second.tokens (place + 1)

/-! ## Scanning -/

open Scan

/-- In front of anything that carries no number on, the characters are scanned as the tokens. -/
def Reads (mode : Scan.Mode) (position : Nat) (cs : List Char) (ts : List Token) : Prop :=
  ∀ {rest : List Char} {us : List Token}, StopsNumber rest →
    tokensFrom mode (position + cs.length) rest = .ok us →
    tokensFrom mode position (cs ++ rest) = .ok (ts ++ us)

/-- The operator stops a number at the end of the first operand. -/
theorem Reads.node {position : Nat} {cs ds : List Char} {ts us : List Token} {gap : Gap mode}
    {op : Operator} (first : Reads mode position cs ts)
    (second : Reads mode (position + cs.length + gap.1.length + 1) ds us) :
    Reads mode position (cs ++ (gap.1 ++ op.symbol :: ds))
      (ts ++ symbolToken (position + cs.length + gap.1.length) op.symbol (.operator op) :: us) := by
  intro rest vs stop scans
  -- The place behind the phrase, as it is reached through its parts.
  have place : position + (cs ++ (gap.1 ++ op.symbol :: ds)).length =
      position + cs.length + gap.1.length + 1 + ds.length := by
    simp only [List.length_append, List.length_cons]
    omega
  rw [place] at scans
  -- The operator and the second operand are scanned first, since they tell what stops the first.
  have behind : tokensFrom mode (position + cs.length) (gap.1 ++ op.symbol :: (ds ++ rest)) =
      .ok (symbolToken (position + cs.length + gap.1.length) op.symbol (.operator op) ::
        (us ++ vs)) := by
    rw [tokensFrom_gap gap.2, tokensFrom_symbol op.ofSymbol?_symbol, second stop scans]
    rfl
  have all := first (.gap gap.2 (.symbol op.ofSymbol?_symbol _)) behind
  simpa using all

/-- The text of a phrase is scanned as its tokens. -/
theorem scans {level : Level} (phrase : Phrase mode level) (position : Nat) :
    Reads mode position phrase.chars (phrase.tokens position) := by
  induction phrase generalizing position with
  | number gap numeral =>
    intro rest us stop scans
    -- Here alone does it matter what follows: it must not carry the number on.
    rw [chars, List.length_append, ← Nat.add_assoc] at scans
    rw [chars, List.append_assoc, tokensFrom_gap gap.2,
      tokensFrom_number numeral.2 (stop.ends _), scans]
    rfl
  | group before inner after ih =>
    intro rest us stop scans
    have place : position + (group before inner after).chars.length =
        position + before.1.length + 1 + inner.chars.length + after.1.length + 1 := by
      simp only [chars, List.length_append, List.length_cons, List.length_nil]
      omega
    rw [place] at scans
    -- From the last lexeme to the first: the closing parenthesis, what it closes, the opening one.
    have closing : tokensFrom mode (position + before.1.length + 1 + inner.chars.length)
        (after.1 ++ ')' :: rest) = .ok (symbolToken
          (position + before.1.length + 1 + inner.chars.length + after.1.length) ')' .rightParen ::
            us) := by
      rw [tokensFrom_gap after.2, tokensFrom_symbol rfl, scans]
      rfl
    have inside := ih (position + before.1.length + 1) (.gap after.2 (.symbol rfl rest)) closing
    rw [chars, List.append_assoc, tokensFrom_gap before.2, List.cons_append, tokensFrom_symbol rfl,
      List.append_assoc, List.append_assoc, List.singleton_append, inside]
    simp [tokens, Except.map]
  | factor single ih => exact ih position
  | product single ih => exact ih position
  | times first gap op _ second ihFirst ihSecond => exact Reads.node (ihFirst position) (ihSecond _)
  | plus first gap op _ second ihFirst ihSecond => exact Reads.node (ihFirst position) (ihSecond _)

/-! ## Tokens and tree -/

@[simp]
theorem isNumber_numberToken (position : Nat) (cs : List Char) :
    (numberToken position cs).isNumber = true := rfl

/-- The tokens of a phrase are a sentence of its level and stand for its tree. -/
theorem derives {level : Level} (phrase : Phrase mode level) (position : Nat) :
    Derives level (phrase.tokens position) (phrase.tree position) := by
  induction phrase generalizing position with
  | number gap numeral => exact .number rfl
  | group before inner after ih => exact .group rfl rfl (ih _)
  | factor single ih => exact .factor (ih position)
  | product single ih => exact .product (ih position)
  | times first gap op isProduct second ihFirst ihSecond =>
    exact .times rfl isProduct (ihFirst position) (ihSecond _)
  | plus first gap op isSum second ihFirst ihSecond =>
    exact .plus rfl isSum (ihFirst position) (ihSecond _)

/-- The token stands in the characters `cs` at its place, if `position` characters stand before
them. -/
def StandsIn (position : Nat) (cs : List Char) (t : Token) : Prop :=
  ∃ before after, cs = before ++ (t.text.toList ++ after) ∧
    t.position = some ((position + before.length : Nat) : Int)

/-- What stands in a part of the characters stands in all of them. -/
theorem StandsIn.widen {position : Nat} {cs : List Char} {t : Token} (front back : List Char)
    (h : StandsIn (position + front.length) cs t) :
    StandsIn position (front ++ (cs ++ back)) t := by
  obtain ⟨before, after, rfl, place⟩ := h
  refine ⟨front ++ before, after ++ back, by simp, ?_⟩
  rw [place, List.length_append, Nat.add_assoc]

/-- An operator stands between its operands. -/
theorem StandsIn.node {position : Nat} {cs ds : List Char} {gap : List Char} {op : Operator}
    {left right : Tree} (first : ∀ t ∈ left.tokens, StandsIn position cs t)
    (second : ∀ t ∈ right.tokens, StandsIn (position + cs.length + gap.length + 1) ds t) :
    ∀ t ∈ (Tree.node (symbolToken (position + cs.length + gap.length) op.symbol (.operator op))
      left right).tokens, StandsIn position (cs ++ (gap ++ op.symbol :: ds)) t := by
  intro t ht
  rw [Tree.tokens, List.mem_append, List.mem_append, List.mem_singleton] at ht
  rcases ht with (ht | ht) | rfl
  · -- In front of the first operand there is nothing more.
    exact (first t ht).widen [] _
  · -- Behind the operator the characters before it are in front as well.
    have behind : StandsIn (position + (cs ++ (gap ++ [op.symbol])).length) ds t := by
      have place : position + (cs ++ (gap ++ [op.symbol])).length =
          position + cs.length + gap.length + 1 := by
        simp only [List.length_append, List.length_singleton]
        omega
      rw [place]
      exact second t ht
    simpa using behind.widen (cs ++ (gap ++ [op.symbol])) []
  · refine ⟨cs ++ gap, ds, by simp [symbolToken], ?_⟩
    rw [symbolToken, List.length_append, Nat.add_assoc]

/-- The tokens of the tree stand in the text at their places. -/
theorem standsIn {level : Level} (phrase : Phrase mode level) (position : Nat) :
    ∀ t ∈ (phrase.tree position).tokens, StandsIn position phrase.chars t := by
  induction phrase generalizing position with
  | number gap numeral =>
    intro t ht
    obtain rfl := List.mem_singleton.1 ht
    exact ⟨gap.1, [], by simp [chars, numberToken], rfl⟩
  | group before inner after ih =>
    intro t ht
    have inside : StandsIn (position + (before.1 ++ ['(']).length) inner.chars t := by
      rw [List.length_append, List.length_singleton, ← Nat.add_assoc]
      exact ih _ t ht
    simpa [chars] using inside.widen (before.1 ++ ['(']) (after.1 ++ [')'])
  | factor single ih => exact ih position
  | product single ih => exact ih position
  | times first gap op _ second ihFirst ihSecond =>
    exact StandsIn.node (ihFirst position) (ihSecond _)
  | plus first gap op _ second ihFirst ihSecond =>
    exact StandsIn.node (ihFirst position) (ihSecond _)

/-- The value of the tree is that of the phrase. -/
theorem value?_tree {level : Level} (phrase : Phrase mode level) (position : Nat) :
    (phrase.tree position).value? = some phrase.value := by
  induction phrase generalizing position with
  | number gap numeral =>
    rw [tree, Tree.value?, isNumber_numberToken, if_pos rfl, value, WrittenNumber.value,
      Option.some_get]
    rfl
  | group before inner after ih => exact ih _
  | factor single ih => exact ih position
  | product single ih => exact ih position
  | times first gap op _ second ihFirst ihSecond =>
    exact Tree.value?_node_eq_some.2 ⟨op, _, _, rfl, ihFirst position, ihSecond _, rfl⟩
  | plus first gap op _ second ihFirst ihSecond =>
    exact Tree.value?_node_eq_some.2 ⟨op, _, _, rfl, ihFirst position, ihSecond _, rfl⟩

end Phrase

/-! ## Whole expressions -/

/-- A derivation of a whole expression, with the characters behind its last lexeme. -/
structure Expression (mode : Scan.Mode) where
  /-- The derivation. -/
  sum : Phrase mode .sum
  /-- The characters that are passed over at the end. -/
  trailing : Gap mode

namespace Expression

variable {mode : Scan.Mode}

/-- The text of the expression. -/
def text (expression : Expression mode) : String :=
  String.ofList (expression.sum.chars ++ expression.trailing.1)

/-- The tree of the expression. -/
def tree (expression : Expression mode) : Tree :=
  expression.sum.tree 0

/-- The value of the expression. -/
def value (expression : Expression mode) : Float :=
  expression.sum.value

/-- The text of the expression is scanned as its tokens. -/
theorem tokens_text (expression : Expression mode) :
    Scan.tokens mode expression.text = .ok (expression.sum.tokens 0) := by
  have trailing := Scan.tokensFrom_gap expression.trailing.2 (0 + expression.sum.chars.length) []
  rw [List.append_nil, Scan.tokensFrom] at trailing
  -- The end of the text stops a number, and so does a gap in front of it.
  have stop : Scan.StopsNumber expression.trailing.1 := by
    simpa using Scan.StopsNumber.gap expression.trailing.2 .nil
  have all := expression.sum.scans 0 stop trailing
  rw [Scan.tokens, text, String.toList_ofList, all, List.append_nil]

/-- The text of the expression is converted to the post-order listing of its tree. -/
theorem toPolish_text (expression : Expression mode) :
    toPolish mode expression.text = .ok expression.tree.tokens := by
  rw [toPolish, tokens_text]
  exact (expression.sum.derives 0).convert

/-- The text of the expression is calculated to its value, by the operations of its tree. -/
theorem calculate_text (expression : Expression mode) :
    calculate mode expression.text =
      .ok { value := expression.value, steps := expression.tree.steps,
            polish := expression.tree.tokens } := by
  have traced := Tree.trace_tokens (expression.sum.value?_tree 0)
  rw [calculate, toPolish_text]
  simp only [Except.bind, tree, traced, Except.map]
  rfl

end Expression

/-- The text of an expression means what its derivation means. Its reverse Polish notation is the
post-order listing of the tree, and each token of it stands in the text at the place that it gives;
its value is that of the derivation. This holds whether or not layout is passed over, and then with
any layout, and whether or not invalid tokens are refused. -/
theorem calculate_expression {mode : Scan.Mode} (expression : Expression mode) :
    toPolish mode expression.text = .ok expression.tree.tokens ∧
      (∀ t ∈ expression.tree.tokens, ∃ before after,
        expression.text.toList = before ++ (t.text.toList ++ after) ∧
          t.position = some (before.length : Int)) ∧
      calculate mode expression.text =
        .ok { value := expression.value, steps := expression.tree.steps,
              polish := expression.tree.tokens } := by
  refine ⟨expression.toPolish_text, fun t ht => ?_, expression.calculate_text⟩
  obtain ⟨before, after, chars, place⟩ := expression.sum.standsIn 0 t ht
  -- The gap at the end of the text stands behind every token.
  refine ⟨before, after ++ expression.trailing.1, ?_, by simpa using place⟩
  rw [Expression.text, String.toList_ofList, chars]
  simp

end ReversePolish
