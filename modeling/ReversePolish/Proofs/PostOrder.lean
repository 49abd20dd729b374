import ReversePolish.Proofs.Pending
import ReversePolish.Tree

/-!
# Reverse Polish notation

Which sequences of tokens have a value: the post-order listings of expression trees, and no others.
A sequence lists at most one tree, and its value is that of the tree.

- `Evaluation.feed_eq_ok_iff`: the two ways in which an evaluation takes a token;
- `Evaluation.builds_of_feedAll`: the operands that wait are the values of trees, the listings of
  which make up the tokens that were taken;
- `Tree.tokens_append_inj`: a tree can be read back from the end of a listing;
- `evaluate_eq_ok_iff_postOrder`: both directions put together, with what they say about the numbers
  and operators of a sequence and of its beginnings.
-/

namespace ReversePolish

namespace Evaluation

/-! ## One token -/

/-- The ways in which an evaluation takes a token, with the state after it. -/
inductive Feeds (state : Evaluation) (t : Token) : Evaluation → Prop
  /-- A number is put on the stack. -/
  | number {x : Float} (isNumber : t.isNumber = true) (reads : Numeral.read? t.text = some x) :
      Feeds state t (state.push x)
  /-- An operator puts its result in the place of the two latest operands. -/
  | operator {op : Operator} {left right : Float} {rest : List Float}
      (kind : t.kind = .operator op) (operands : state.operands = right :: left :: rest) :
      Feeds state t {
        operands := op.apply left right :: rest
        steps :=
          { left, symbol := t.text, right, result := op.apply left right } :: state.steps }

theorem feed_eq_ok_iff {state next : Evaluation} {t : Token} :
    state.feed t = .ok next ↔ Feeds state t next := by
  constructor
  · intro fed
    cases kind : t.kind with
    | number spelling =>
      simp only [feed, kind] at fed
      split at fed
      · next x reads =>
        cases fed
        exact .number (by simp [Token.isNumber, kind, Kind.isNumber]) reads
      · -- A number that cannot be read is a fault.
        cases fed
    | operator op =>
      simp only [feed, kind, operate] at fed
      split at fed
      · next right left rest operands =>
        cases fed
        exact .operator kind operands
      · cases fed
    | leftParen => simp [feed, kind] at fed
    | rightParen => simp [feed, kind] at fed
    | invalid => simp [feed, kind] at fed
  · rintro (⟨isNumber, reads⟩ | ⟨kind, operands⟩)
    · obtain ⟨spelling, kind⟩ := Token.exists_number isNumber
      simp [feed, kind, reads]
    · simp [feed, kind, operate, operands]

/-- What holds at the start and is kept by every token holds of the tokens of a run and the state
that it reaches. -/
theorem feedAll_induction {P : List Token → Evaluation → Prop} (initial : P [] start)
    (step : ∀ {ts state t next}, P ts state → Feeds state t next → P (ts ++ [t]) next)
    {ts : List Token} {final : Evaluation} (run : start.feedAll ts = .ok final) : P ts final :=
  foldlM_induction initial (fun h fed => step h (feed_eq_ok_iff.1 fed)) run

/-- A sequence that has a value leaves it as its only operand, and its steps are those of the
run. -/
theorem exists_of_trace {ts : List Token} {result : Trace} (traced : trace ts = .ok result) :
    ∃ final, start.feedAll ts = .ok final ∧ final.operands = [result.value] ∧
      final.steps.reverse = result.steps := by
  rw [trace] at traced
  split at traced
  · cases traced
  · obtain ⟨final, run, ending⟩ := bind_eq_ok_iff.1 traced
    refine ⟨final, run, ?_⟩
    rw [finish] at ending
    split at ending
    · next value one =>
      cases ending
      exact ⟨one, rfl⟩
    · cases ending

theorem exists_of_evaluate {ts : List Token} {v : Float} (evaluates : evaluate ts = .ok v) :
    ∃ final, start.feedAll ts = .ok final ∧ final.operands = [v] := by
  rw [evaluate_eq_map_trace, map_eq_ok_iff] at evaluates
  obtain ⟨result, traced, rfl⟩ := evaluates
  obtain ⟨final, run, one, -⟩ := exists_of_trace traced
  exact ⟨final, run, one⟩

/-! ## Counting operands -/

/-- A token changes the number of operands by one: a number adds one, an operator puts one in the
place of two. -/
theorem Feeds.length_operands {state next : Evaluation} {t : Token} (fed : Feeds state t next) :
    next.operands.length + [t].countP Token.isOperator =
      state.operands.length + [t].countP Token.isNumber := by
  cases fed with
  | number isNumber => simp [push, isNumber, (Token.not_of_isNumber isNumber).1]
  | operator kind operands =>
    have isOperator := Token.isOperator_of_kind kind
    simp [operands, isOperator, (Token.not_of_isOperator isOperator).1]

theorem Feeds.operands_ne_nil {state next : Evaluation} {t : Token} (fed : Feeds state t next) :
    next.operands ≠ [] := by
  cases fed with
  | number => exact List.cons_ne_nil _ _
  | operator => exact List.cons_ne_nil _ _

/-- As many operands wait as there are more numbers than operators. -/
theorem length_operands_of_feedAll {ts : List Token} {final : Evaluation}
    (run : start.feedAll ts = .ok final) :
    final.operands.length + ts.countP Token.isOperator = ts.countP Token.isNumber := by
  refine feedAll_induction (P := fun ts state =>
    state.operands.length + ts.countP Token.isOperator = ts.countP Token.isNumber) rfl ?_ run
  intro ts state t next before fed
  have last := fed.length_operands
  rw [List.countP_append, List.countP_append]
  omega

/-- Behind any tokens at all there is an operand. -/
theorem operands_ne_nil_of_feedAll {ts : List Token} {final : Evaluation}
    (run : start.feedAll ts = .ok final) (some : ts ≠ []) : final.operands ≠ [] := by
  refine feedAll_induction (P := fun ts state => ts ≠ [] → state.operands ≠ []) ?_ ?_ run some
  · intro absurd
    exact (absurd rfl).elim
  · intro ts state t next _ fed _
    exact fed.operands_ne_nil

/-- In front of any place of a run, its beginning apart, numbers outnumber operators. -/
theorem count_lt_of_isPrefix {ts front : List Token} {final : Evaluation}
    (run : start.feedAll ts = .ok final) (isPrefix : front <+: ts) (some : front ≠ []) :
    front.countP Token.isOperator + 1 ≤ front.countP Token.isNumber := by
  obtain ⟨back, rfl⟩ := isPrefix
  rw [feedAll_append, bind_eq_ok_iff] at run
  obtain ⟨state, before, -⟩ := run
  have count := length_operands_of_feedAll before
  have one := List.length_pos_iff.2 (operands_ne_nil_of_feedAll before some)
  omega

end Evaluation

/-- A sequence that has a value has one more number than operators. -/
theorem count_of_evaluate {ts : List Token} {v : Float} (evaluates : evaluate ts = .ok v) :
    ts.countP Token.isNumber = ts.countP Token.isOperator + 1 := by
  obtain ⟨final, run, one⟩ := Evaluation.exists_of_evaluate evaluates
  have count := Evaluation.length_operands_of_feedAll run
  rw [one, List.length_singleton] at count
  omega

/-! ## Trees with a value -/

/-- The leaves are numbers that can be read, and the inner nodes are operators. -/
inductive Tree.WellFormed : Tree → Prop
  | leaf {t : Token} (isNumber : t.isNumber = true)
      (readable : (Numeral.read? t.text).isSome = true) : WellFormed (.leaf t)
  | node {t : Token} {left right : Tree} (isOperator : t.isOperator = true)
      (first : WellFormed left) (second : WellFormed right) : WellFormed (.node t left right)

namespace Tree

theorem exists_value_node {t : Token} {op : Operator} {left right : Tree}
    (kind : t.kind = .operator op) (first : ∃ x, left.value? = some x)
    (second : ∃ y, right.value? = some y) : ∃ v, (node t left right).value? = some v := by
  obtain ⟨x, hx⟩ := first
  obtain ⟨y, hy⟩ := second
  exact ⟨op.apply x y, value?_node_eq_some.2 ⟨op, x, y, kind, hx, hy, rfl⟩⟩

/-- The trees with a value are the well-formed ones. -/
theorem exists_value_iff {tree : Tree} : (∃ v, tree.value? = some v) ↔ tree.WellFormed := by
  constructor
  · rintro ⟨v, value⟩
    induction tree generalizing v with
    | leaf t =>
      simp only [value?] at value
      split at value
      · next isNumber => exact .leaf isNumber (by rw [value]; rfl)
      · cases value
    | node t left right ihLeft ihRight =>
      obtain ⟨op, x, y, kind, hx, hy, -⟩ := value?_node_eq_some.1 value
      exact .node (Token.isOperator_of_kind kind) (ihLeft x hx) (ihRight y hy)
  · intro wellFormed
    induction wellFormed with
    | leaf isNumber readable =>
      obtain ⟨x, reads⟩ := Option.isSome_iff_exists.1 readable
      exact ⟨x, by simp [value?, isNumber, reads]⟩
    | node isOperator _ _ ihFirst ihSecond =>
      obtain ⟨op, kind⟩ := Token.exists_operator isOperator
      exact exists_value_node kind ihFirst ihSecond

/-- The last token of a listing tells a leaf from a node, and what is before it ends with the right
operand: a tree can be read back from the end of a listing. -/
theorem tokens_append_inj {a b : Tree} (ha : a.WellFormed) (hb : b.WellFormed)
    {ts us : List Token} (same : ts ++ a.tokens = us ++ b.tokens) : ts = us ∧ a = b := by
  -- What is before the listings is arbitrary: it takes in the left operand when the right one is
  -- read.
  induction ha generalizing b ts us with
  | @leaf t isNumber =>
    cases hb with
    | leaf =>
      obtain ⟨front, last⟩ := List.append_inj' same rfl
      exact ⟨front, congrArg Tree.leaf (List.singleton_inj.1 last)⟩
    | node isOperator =>
      -- A number is no operator.
      rw [tokens, tokens, ← List.append_assoc] at same
      have last := List.singleton_inj.1 (List.append_inj' same rfl).2
      rw [← last, (Token.not_of_isNumber isNumber).1] at isOperator
      cases isOperator
  | @node t left right isOperator _ _ ihLeft ihRight =>
    cases hb with
    | leaf isNumber =>
      -- An operator is no number.
      rw [tokens, tokens, ← List.append_assoc] at same
      have last := List.singleton_inj.1 (List.append_inj' same rfl).2
      rw [← last, (Token.not_of_isOperator isOperator).1] at isNumber
      cases isNumber
    | node _ hleft hright =>
      -- From the end: the operator, the right operand, the left operand.
      rw [tokens, tokens, ← List.append_assoc, ← List.append_assoc us] at same
      obtain ⟨operands, last⟩ := List.append_inj' same rfl
      rw [← List.append_assoc, ← List.append_assoc us] at operands
      obtain ⟨first, rfl⟩ := ihRight hright operands
      obtain ⟨front, rfl⟩ := ihLeft hleft first
      rw [List.singleton_inj.1 last]
      exact ⟨front, rfl⟩

end Tree

/-! ## From runs to trees -/

/-- The tokens are the listings of trees, one behind the other, and the operands are the values of
these trees, the last one first. -/
inductive Builds : List Token → List Float → Prop
  | nil : Builds [] []
  | tree {ts : List Token} {operands : List Float} {tree : Tree} {v : Float}
      (before : Builds ts operands) (value : tree.value? = some v) :
      Builds (ts ++ tree.tokens) (v :: operands)

namespace Evaluation

/-- A number is a new tree, and an operator joins the two latest trees. -/
theorem Feeds.builds {ts : List Token} {state next : Evaluation} {t : Token}
    (fed : Feeds state t next) (h : Builds ts state.operands) :
    Builds (ts ++ [t]) next.operands := by
  cases fed with
  | @number x isNumber reads =>
    have value : (Tree.leaf t).value? = some x := by simp [Tree.value?, isNumber, reads]
    exact h.tree value
  | @operator op x y rest kind operands =>
    rw [operands] at h
    -- The two latest trees become the operands of a new one.
    cases h with
    | @tree _ _ right _ h hy =>
      cases h with
      | @tree ts _ left _ before hx =>
        have value : (Tree.node t left right).value? = some (op.apply x y) :=
          Tree.value?_node_eq_some.2 ⟨op, x, y, kind, hx, hy, rfl⟩
        have joined := before.tree value
        rwa [Tree.tokens, ← List.append_assoc, ← List.append_assoc] at joined

/-- Along every run the operands are the values of trees. -/
theorem builds_of_feedAll {ts : List Token} {final : Evaluation}
    (run : start.feedAll ts = .ok final) : Builds ts final.operands :=
  feedAll_induction (P := fun ts state => Builds ts state.operands) .nil
    (fun h fed => fed.builds h) run

end Evaluation

/-- A sequence that has a value lists a tree of that value. -/
theorem exists_tree_of_evaluate {ts : List Token} {v : Float} (evaluates : evaluate ts = .ok v) :
    ∃ tree : Tree, tree.tokens = ts ∧ tree.value? = some v := by
  obtain ⟨final, run, one⟩ := Evaluation.exists_of_evaluate evaluates
  have builds := Evaluation.builds_of_feedAll run
  rw [one] at builds
  cases builds with
  | @tree _ _ tree _ before value =>
    cases before with
    | nil => exact ⟨tree, rfl, value⟩

/-- The sequences that have a value are the post-order listings of the well-formed trees. The value
is that of the tree, and no other tree has the same listing. Such a sequence has one more number
than operators, and each of its beginnings has at least one more. -/
theorem evaluate_eq_ok_iff_postOrder (ts : List Token) :
    ((∃ v, evaluate ts = .ok v) ↔ ∃ tree : Tree, tree.WellFormed ∧ tree.tokens = ts) ∧
      (∀ tree : Tree, tree.WellFormed → tree.tokens = ts →
        (∃ v, tree.value? = some v ∧ evaluate ts = .ok v) ∧
          ∀ other : Tree, other.WellFormed → other.tokens = ts → other = tree) ∧
      ∀ v, evaluate ts = .ok v →
        ts.countP Token.isNumber = ts.countP Token.isOperator + 1 ∧
          ∀ front, front <+: ts → front ≠ [] →
            front.countP Token.isOperator + 1 ≤ front.countP Token.isNumber := by
  -- A well-formed tree has a value, which its listing gives.
  have listing : ∀ tree : Tree, tree.WellFormed → tree.tokens = ts →
      ∃ v, tree.value? = some v ∧ evaluate ts = .ok v := by
    rintro tree wellFormed rfl
    obtain ⟨v, value⟩ := Tree.exists_value_iff.2 wellFormed
    refine ⟨v, value, ?_⟩
    rw [evaluate_eq_map_trace, Tree.trace_tokens value]
    rfl
  refine ⟨⟨?_, ?_⟩, fun tree wellFormed lists => ⟨listing tree wellFormed lists, ?_⟩, ?_⟩
  · rintro ⟨v, evaluates⟩
    obtain ⟨tree, lists, value⟩ := exists_tree_of_evaluate evaluates
    exact ⟨tree, Tree.exists_value_iff.1 ⟨v, value⟩, lists⟩
  · rintro ⟨tree, wellFormed, lists⟩
    obtain ⟨v, -, evaluates⟩ := listing tree wellFormed lists
    exact ⟨v, evaluates⟩
  · intro other wellFormed' lists'
    have same : [] ++ other.tokens = [] ++ tree.tokens := by rw [lists, lists']
    exact (Tree.tokens_append_inj wellFormed' wellFormed same).2
  · intro v evaluates
    obtain ⟨final, run, -⟩ := Evaluation.exists_of_evaluate evaluates
    exact ⟨count_of_evaluate evaluates, fun front => Evaluation.count_lt_of_isPrefix run⟩

end ReversePolish
