import ReversePolish.Evaluation

/-!
# Expression trees

What an expression means, apart from how it is written: numbers at the leaves, operators at the
inner nodes. Reverse Polish notation is the post-order listing of such a tree, and the value of the
tree is found from the leaves up, without a stack.

## Main definitions

* `Tree`: the trees.
* `Tree.tokens`: the post-order listing.
* `Tree.value?`: the value; there is none if a leaf is no readable number or a node no operator.
* `Tree.steps`: the operations in post-order.

## Main statements

* `Tree.feedAll_tokens`: evaluating the listing of a tree puts its value on the stack and leaves
  what was there before.
* `Tree.trace_tokens`: evaluating it from the start gives value and steps of the tree.
-/

namespace ReversePolish

/-- Expressions as trees. -/
inductive Tree where
  | leaf (number : Token)
  | node (operator : Token) (left right : Tree)
  deriving DecidableEq, Repr

namespace Tree

/-- The tokens of the tree in post-order: those of the left operand, those of the right one, the
operator. -/
def tokens : Tree → List Token
  | .leaf t => [t]
  | .node t left right => left.tokens ++ right.tokens ++ [t]

/-- The value of the tree. -/
def value? : Tree → Option Float
  | .leaf t => if t.isNumber then Numeral.read? t.text else none
  | .node t left right =>
    match t.kind, left.value?, right.value? with
    | .operator op, some x, some y => some (op.apply x y)
    | _, _, _ => none

/-- The operations of the tree in post-order, if the tree has a value. -/
def steps : Tree → List Step
  | .leaf _ => []
  | .node t left right =>
    left.steps ++ right.steps ++
      match t.kind, left.value?, right.value? with
      | .operator op, some x, some y =>
        [{ left := x, symbol := t.text, right := y, result := op.apply x y }]
      | _, _, _ => []

/-- A node has a value exactly if it is an operator on two values. -/
theorem value?_node_eq_some {t : Token} {left right : Tree} {v : Float} :
    (node t left right).value? = some v ↔
      ∃ op x y, t.kind = .operator op ∧ left.value? = some x ∧ right.value? = some y ∧
        op.apply x y = v := by
  simp only [value?]
  split
  · next op x y hop hx hy => simp [hop, hx, hy]
  · next h =>
    constructor
    · intro absurd
      cases absurd
    · rintro ⟨op, x, y, hop, hx, hy, _⟩
      exact absurd hy (h op x y hop hx)

/-- Evaluating the listing of a tree puts its value on the stack, records its steps, and leaves what
was there before. -/
theorem feedAll_tokens {tree : Tree} {v : Float} (h : tree.value? = some v)
    (state : Evaluation) :
    state.feedAll tree.tokens =
      .ok { operands := v :: state.operands, steps := tree.steps.reverse ++ state.steps } := by
  induction tree generalizing v state with
  | leaf t =>
    simp only [value?] at h
    split at h
    · next isNumber =>
      obtain ⟨spelling, kind⟩ : ∃ spelling, t.kind = .number spelling := by
        cases hk : t.kind <;> simp_all [Token.isNumber, Kind.isNumber]
      simp [tokens, steps, Evaluation.feed, kind, h, Except.bind, Evaluation.push]
    · cases h
  | node t left right ihLeft ihRight =>
    obtain ⟨op, x, y, kind, hx, hy, rfl⟩ := value?_node_eq_some.1 h
    simp only [tokens, steps]
    rw [Evaluation.feedAll_append, Evaluation.feedAll_append, ihLeft hx]
    dsimp only [Except.bind]
    rw [ihRight hy]
    simp [Evaluation.feed, kind, hx, hy, Except.bind, Evaluation.operate]

/-- The listing of a tree with a value begins with a number. -/
theorem openingFault?_tokens {tree : Tree} {v : Float} (h : tree.value? = some v)
    (rest : List Token) : openingFault? (tree.tokens ++ rest) = none := by
  induction tree generalizing v rest with
  | leaf t =>
    simp only [value?] at h
    split at h
    · next isNumber =>
      cases hk : t.kind <;> simp_all [Token.isNumber, Kind.isNumber, tokens, openingFault?]
    · cases h
  | node t left right ihLeft _ =>
    obtain ⟨_, x, _, _, hx, _, _⟩ := value?_node_eq_some.1 h
    simp only [tokens, List.append_assoc]
    exact ihLeft hx _

/-- Evaluating the listing of a tree gives its value and its steps. -/
theorem trace_tokens {tree : Tree} {v : Float} (h : tree.value? = some v) :
    trace tree.tokens = .ok { value := v, steps := tree.steps } := by
  have opening := openingFault?_tokens h []
  rw [List.append_nil] at opening
  rw [trace, opening]
  dsimp only
  rw [feedAll_tokens h]
  simp [Except.bind, Evaluation.finish, Evaluation.start]

end Tree

end ReversePolish
