import ReversePolish.Proofs.Handover
import ReversePolish.Proofs.PostOrder
import ReversePolish.Proofs.Sentence

/-!
# The steps of an evaluation

An evaluation notes each operation that it carries out, with operands that it takes off a stack. For
the listing of a tree these notes are about the tree: there is one for each inner node, in
post-order, and it shows the values of the two operands of the node and of the node itself.

- `Tree.nodes`: the inner nodes in post-order, which is the order of their operators in the listing
  (`Tree.map_operator_nodes`);
- `Node.Shows`: what a line shows of a node;
- `Tree.forall₂_shows`: the lines of the steps show the nodes, one by one;
- `traceChecked_of_postOrder`: value and steps of a listing.
-/

namespace ReversePolish

/-! ## Nodes -/

/-- An inner node of a tree. -/
structure Node where
  /-- The operator. -/
  operator : Token
  /-- The left operand. -/
  left : Tree
  /-- The right operand. -/
  right : Tree

namespace Node

/-- The subtree of the node. -/
def tree (node : Node) : Tree :=
  .node node.operator node.left node.right

/-- The line shows the values of the two operands of the node, its operator between them, and its
own value. -/
inductive Shows (node : Node) : String → Prop
  | line {l r x : Float} (left : node.left.value? = some l) (right : node.right.value? = some r)
      (whole : node.tree.value? = some x) :
      Shows node (Number.plain l ++ " " ++ node.operator.text ++ " " ++ Number.plain r ++ " = " ++
        Number.plain x)

end Node

namespace Tree

/-- The inner nodes in post-order: those of the left operand, those of the right one, the node
itself. -/
def nodes : Tree → List Node
  | .leaf _ => []
  | .node t left right =>
    left.nodes ++ right.nodes ++ [{ operator := t, left := left, right := right }]

/-- The leaves are numbers and the inner nodes are operators. -/
inductive Proper : Tree → Prop
  | leaf {t : Token} (isNumber : t.isNumber = true) : Proper (.leaf t)
  | node {t : Token} {left right : Tree} (isOperator : t.isOperator = true)
      (first : Proper left) (second : Proper right) : Proper (.node t left right)

/-- With well-formed tokens the numbers can be read. -/
theorem Proper.wellFormed {tree : Tree} (proper : tree.Proper)
    (tokens : ∀ t ∈ tree.tokens, t.WellFormed) : tree.WellFormed := by
  induction proper with
  | @leaf t isNumber =>
    obtain ⟨x, reads⟩ := Token.exists_read isNumber (tokens t (by simp [Tree.tokens]))
    exact .leaf isNumber (by rw [reads]; rfl)
  | node isOperator _ _ ihFirst ihSecond =>
    exact .node isOperator (ihFirst fun t ht => tokens t (by simp [Tree.tokens, ht]))
      (ihSecond fun t ht => tokens t (by simp [Tree.tokens, ht]))

/-- The operators of a listing are those of the nodes, in the same order. -/
theorem map_operator_nodes {tree : Tree} (proper : tree.Proper) :
    tree.nodes.map Node.operator = tree.tokens.filter Token.isOperator := by
  induction proper with
  | leaf isNumber => simp [nodes, tokens, (Token.not_of_isNumber isNumber).1]
  | node isOperator _ _ ihFirst ihSecond => simp [nodes, tokens, ihFirst, ihSecond, isOperator]

/-- The lines of the steps show the nodes, one by one. -/
theorem forall₂_shows {tree : Tree} {v : Float} (value : tree.value? = some v) :
    List.Forall₂ Node.Shows tree.nodes (tree.steps.map Step.text) := by
  -- On the tree: the steps of the two operands come before that of the node, as the nodes do.
  induction tree generalizing v with
  | leaf t => exact .nil
  | node t left right ihLeft ihRight =>
    obtain ⟨op, x, y, kind, hx, hy, -⟩ := value?_node_eq_some.1 value
    have last : (⟨t, left, right⟩ : Node).Shows
        (Step.text { left := x, symbol := t.text, right := y, result := op.apply x y }) :=
      .line hx hy (value?_node_eq_some.2 ⟨op, x, y, kind, hx, hy, rfl⟩)
    simp only [nodes, steps, kind, hx, hy, List.map_append, List.map_cons, List.map_nil]
    exact List.rel_append (List.rel_append (ihLeft hx) (ihRight hy)) (.cons last .nil)

/-- The last step gives the value of the tree. -/
theorem result_of_getLast?_steps {tree : Tree} {v : Float} (value : tree.value? = some v)
    {step : Step} (last : tree.steps.getLast? = some step) : step.result = v := by
  cases tree with
  | leaf t => simp [steps] at last
  | node t left right =>
    obtain ⟨op, x, y, kind, hx, hy, rfl⟩ := value?_node_eq_some.1 value
    simp only [steps, kind, hx, hy, List.getLast?_append, List.getLast?_singleton, Option.some_or,
      Option.some.injEq] at last
    rw [← last]

end Tree

/-! ## Listings -/

/-- The evaluation of the listing of a tree gives the value of the tree. Its steps are the inner
nodes of the tree in post-order, which is the order of the operators in the listing, and each of
them shows the values of the operands of its node and of the node. So there is one for each
operator, one fewer than numbers, and the last one shows the value of the tree. An evaluation that
has no value has no steps either. -/
theorem traceChecked_of_postOrder {ts : List Token} (wellFormed : ∀ t ∈ ts, t.WellFormed)
    {tree : Tree} (proper : tree.Proper) (lists : tree.tokens = ts) :
    ∃ v steps,
      traceChecked ts = .ok (.ok { value := v, steps := steps }) ∧ evaluate ts = .ok v ∧
      tree.value? = some v ∧
      tree.nodes.map Node.operator = ts.filter Token.isOperator ∧
      List.Forall₂ Node.Shows tree.nodes (steps.map Step.text) ∧
      steps.length = ts.countP Token.isOperator ∧ steps.length + 1 = ts.countP Token.isNumber ∧
      (∀ line, (steps.map Step.text).getLast? = some line →
        ∃ front, line = front ++ " = " ++ Number.plain v) ∧
      ∀ us fault, evaluate us = .error fault → traceChecked us = .error fault := by
  subst lists
  obtain ⟨v, value⟩ := Tree.exists_value_iff.2 (proper.wellFormed wellFormed)
  have traced := Tree.trace_tokens value
  have evaluates : evaluate tree.tokens = .ok v := by
    rw [evaluate_eq_map_trace, traced]
    rfl
  have operators := Tree.map_operator_nodes proper
  have shown := Tree.forall₂_shows value
  -- There are as many steps as nodes, and as many nodes as operators.
  have count : tree.steps.length = tree.tokens.countP Token.isOperator := by
    rw [List.countP_eq_length_filter, ← operators, List.length_map, shown.length_eq,
      List.length_map]
  refine ⟨v, tree.steps, ?_, evaluates, value, operators, shown, count, ?_, fun line last => ?_,
    fun us fault refused => ?_⟩
  · rw [traceChecked_of_wellFormed wellFormed, traced]
    rfl
  · rw [count, count_of_evaluate evaluates]
  · rw [List.getLast?_map, Option.map_eq_some_iff] at last
    obtain ⟨step, isLast, rfl⟩ := last
    rw [← Tree.result_of_getLast?_steps value isLast]
    exact ⟨_, rfl⟩
  · rw [evaluate_eq_map_trace, map_eq_error_iff] at refused
    rw [traceChecked, map_eq_error_iff]
    exact refused

/-- The tree of `3*(0.5-2)`. -/
def timesDifference : Tree :=
  .node { kind := .operator .mul, text := "*" } (.leaf { kind := .number .integer, text := "3" })
    (.node { kind := .operator .sub, text := "-" } (.leaf { kind := .number .float, text := "0.5" })
      (.leaf { kind := .number .integer, text := "2" }))

/-- In the listing of a product with a difference, the difference is shown first. -/
theorem traceChecked_of_postOrder_difference :
    (∀ t ∈ timesDifference.tokens, t.WellFormed) ∧ timesDifference.Proper ∧
      ∃ v steps, traceChecked timesDifference.tokens = .ok (.ok { value := v, steps := steps }) ∧
        steps.map Step.text = ["0.5 - 2 = -1.5", "3 * -1.5 = -4.5"] := by
  have wellFormed : ∀ t ∈ timesDifference.tokens, t.WellFormed := by decide
  have proper : timesDifference.Proper := .node rfl (.leaf rfl) (.node rfl (.leaf rfl) (.leaf rfl))
  obtain ⟨v, steps, traced, -⟩ := traceChecked_of_postOrder wellFormed proper rfl
  refine ⟨wellFormed, proper, v, steps, traced, ?_⟩
  have shown : (traceChecked timesDifference.tokens).map
      (fun checked => checked.map fun trace => trace.steps.map Step.text) =
      .ok (.ok ["0.5 - 2 = -1.5", "3 * -1.5 = -4.5"]) := by decide +kernel
  rw [traced] at shown
  simpa [Except.map] using shown

end ReversePolish
