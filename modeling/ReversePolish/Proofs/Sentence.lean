import ReversePolish.Grammar
import ReversePolish.Proofs.PostOrder
import ReversePolish.Proofs.WrittenNumeral

/-!
# Sentences

What holds of the sentences of the grammar, level by level:

- `Derives.separated`: between two operands of a sentence there is an operator;
- `IsSentence.join`: two sentences with an operator between them are a sentence, however the
  operators bind;
- `Derives.convert`: the reverse Polish notation of a sentence is the post-order listing of its
  tree;
- `Derives.exists_value`: the tree of a sentence of well-formed tokens has a value.
-/

namespace ReversePolish

namespace Token

/-- An operand can begin with the token: it is a number or a left parenthesis. -/
def beginsOperand (t : Token) : Bool :=
  t.isNumber || t.kind = .leftParen

/-- An operand can end with the token: it is a number or a right parenthesis. -/
def endsOperand (t : Token) : Bool :=
  t.isNumber || t.kind = .rightParen

theorem beginsOperand_of_isOperator {t : Token} (h : t.isOperator = true) :
    t.beginsOperand = false := by
  simp [beginsOperand, not_of_isOperator h]

theorem endsOperand_of_isOperator {t : Token} (h : t.isOperator = true) :
    t.endsOperand = false := by
  simp [endsOperand, not_of_isOperator h]

theorem beginsOperand_of_rightParen {t : Token} (h : t.kind = .rightParen) :
    t.beginsOperand = false := by
  simp [beginsOperand, not_of_paren (.inr h), h]

theorem endsOperand_of_leftParen {t : Token} (h : t.kind = .leftParen) :
    t.endsOperand = false := by
  simp [endsOperand, not_of_paren (.inl h), h]

end Token

/-! ## Operands side by side -/

/-- No operand stands directly behind another one: a number or right parenthesis is never followed
by a number or left parenthesis. -/
def Separated (ts : List Token) : Prop :=
  ts.IsChain fun t u => ¬ (t.endsOperand = true ∧ u.beginsOperand = true)

/-- Whether operands are separated is decidable. -/
instance (ts : List Token) : Decidable (Separated ts) :=
  inferInstanceAs (Decidable (ts.IsChain _))

namespace Separated

/-- A token that ends no operand may stand before any tokens. -/
theorem cons_iff {t : Token} (h : t.endsOperand = false) {ts : List Token} :
    Separated (t :: ts) ↔ Separated ts := by
  simp [Separated, List.isChain_cons, h]

/-- A token that begins no operand may stand behind any tokens. -/
theorem append_cons_iff {t : Token} (h : t.beginsOperand = false) {ts us : List Token} :
    Separated (ts ++ t :: us) ↔ Separated ts ∧ Separated (t :: us) := by
  simp [Separated, List.isChain_append, h]

/-- An operator separates the operands on its sides. -/
theorem node {t : Token} (isOperator : t.isOperator = true) {ts us : List Token}
    (first : Separated ts) (second : Separated us) : Separated (ts ++ t :: us) := by
  rw [append_cons_iff (Token.beginsOperand_of_isOperator isOperator),
    cons_iff (Token.endsOperand_of_isOperator isOperator)]
  exact ⟨first, second⟩

theorem of_cons {t : Token} {ts : List Token} (h : Separated (t :: ts)) : Separated ts :=
  (List.isChain_cons.1 h).2

/-- After the end of an operand there begins no other one. -/
theorem head_of_cons {t : Token} {ts : List Token} (h : Separated (t :: ts))
    (ends : t.endsOperand = true) : ∀ u ∈ ts.head?, u.beginsOperand = false := by
  intro u hu
  have apart := (List.isChain_cons.1 h).1 u hu
  simpa [ends] using apart

end Separated

/-- The operands of a sentence are separated. -/
theorem Derives.separated {level : Level} {ts : List Token} {tree : Tree}
    (derivation : Derives level ts tree) : Separated ts := by
  induction derivation with
  | number => exact .singleton _
  | group isOpening isClosing _ ih =>
    rw [List.cons_append, Separated.cons_iff (Token.endsOperand_of_leftParen isOpening),
      Separated.append_cons_iff (Token.beginsOperand_of_rightParen isClosing)]
    exact ⟨ih, .singleton _⟩
  | factor _ ih => exact ih
  | product _ ih => exact ih
  | times kind _ _ _ ihFirst ihSecond =>
    exact .node (Token.isOperator_of_kind kind) ihFirst ihSecond
  | plus kind _ _ _ ihFirst ihSecond =>
    exact .node (Token.isOperator_of_kind kind) ihFirst ihSecond

/-! ## Sentences side by side -/

namespace IsSentence

/-- A sentence goes on with an operator and a factor. If the operator binds tighter than the last
one of the sentence, the factor belongs to the last product. -/
theorem snoc {ts us : List Token} {t : Token} {tree : Tree} (h : IsSentence ts)
    (isOperator : t.isOperator = true) (next : Derives .factor us tree) :
    IsSentence (ts ++ t :: us) := by
  obtain ⟨op, kind⟩ := Token.exists_operator isOperator
  obtain ⟨tree', derivation⟩ := h
  cases binds : op.isSum with
  | true => exact ⟨_, .plus kind binds derivation (.factor next)⟩
  | false =>
    cases derivation with
    | product single => exact ⟨_, .product (.times kind binds single next)⟩
    | plus isOperator' isSum first second =>
      -- The new operator binds tighter than the last one, and takes its second operand over.
      rw [List.append_assoc, List.cons_append]
      exact ⟨_, .plus isOperator' isSum first (.times kind binds second next)⟩

/-- Two sentences with an operator between them are a sentence. -/
theorem join {ts us : List Token} {t : Token} (first : IsSentence ts)
    (isOperator : t.isOperator = true) (second : IsSentence us) :
    IsSentence (ts ++ t :: us) := by
  obtain ⟨tree, derivation⟩ := second
  -- The second sentence is taken apart into factors, which are added one by one.
  suffices onward : ∀ {level : Level} {us : List Token} {tree : Tree}, Derives level us tree →
      ∀ {ts : List Token} {t : Token}, IsSentence ts → t.isOperator = true →
        IsSentence (ts ++ t :: us) from onward derivation first isOperator
  intro level us tree derivation
  induction derivation with
  | number isNumber => exact fun first op => first.snoc op (.number isNumber)
  | group isOpening isClosing inner _ =>
    exact fun first op => first.snoc op (.group isOpening isClosing inner)
  | factor _ ih => exact ih
  | product _ ih => exact ih
  | times isOperator _ _ _ ihFirst ihSecond =>
    intro ts t first op
    rw [← List.cons_append, ← List.append_assoc]
    exact ihSecond (ihFirst first op) (Token.isOperator_of_kind isOperator)
  | plus isOperator _ _ _ ihFirst ihSecond =>
    intro ts t first op
    rw [← List.cons_append, ← List.append_assoc]
    exact ihSecond (ihFirst first op) (Token.isOperator_of_kind isOperator)

end IsSentence

/-! ## Sentences in reverse Polish notation -/

/-- The least precedence of the operators between the parts of a level. -/
def Level.rank : Level → Nat
  | .sum => 2
  | .product => 3
  | .factor => 4

/-- Operators bind as the level to which they belong. -/
theorem Operator.precedence_eq (op : Operator) :
    (Kind.operator op).precedence = if op.isSum then Level.sum.rank else Level.product.rank := by
  cases op <;> rfl

/-- The latest of the entries that wait is a parenthesis, or binds less tightly than the operators
of the level. -/
def Level.Admits (level : Level) (pending : List Token) : Prop :=
  ∀ t ∈ pending.head?, t.kind = .leftParen ∨ t.kind.precedence < level.rank

/-- A tighter level is admitted wherever a looser one is. -/
theorem Level.Admits.mono {level tighter : Level} {pending : List Token}
    (h : level.Admits pending) (le : level.rank ≤ tighter.rank) : tighter.Admits pending := by
  intro t ht
  rcases h t ht with paren | loose
  · exact .inl paren
  · exact .inr (by omega)

open Conversion

/-- Taking `ts` leaves the operators `waiting` on what waited before, none of which binds less
tightly than the level. The post-order listing of the tree is what was emitted meanwhile, with these
operators behind it. -/
def Lists (level : Level) (state : Conversion) (ts : List Token) (tree : Tree) : Prop :=
  ∃ waiting emitted,
    state.feedAll ts = .ok { emitted, pending := waiting ++ state.pending } ∧
      waiting.reverse ++ emitted = tree.tokens.reverse ++ state.emitted ∧
      ∀ t ∈ waiting, t.isOperator = true ∧ level.rank ≤ t.kind.precedence

/-- What is listed at a level is listed at the looser ones. -/
theorem Lists.mono {level tighter : Level} {state : Conversion} {ts : List Token} {tree : Tree}
    (h : Lists tighter state ts tree) (le : level.rank ≤ tighter.rank) :
    Lists level state ts tree := by
  obtain ⟨waiting, emitted, run, listing, operators⟩ := h
  refine ⟨waiting, emitted, run, listing, fun t ht => ?_⟩
  obtain ⟨isOperator, tight⟩ := operators t ht
  exact ⟨isOperator, le.trans tight⟩

/-- The parentheses of a group vanish, and nothing of the group is left waiting. -/
theorem Lists.group {state : Conversion} {opening closing : Token} {ts : List Token} {tree : Tree}
    (isOpening : opening.kind = .leftParen) (isClosing : closing.kind = .rightParen)
    (inner : Lists .sum (state.openGroup opening) ts tree) :
    Lists .factor state (opening :: ts ++ [closing]) tree := by
  obtain ⟨waiting, emitted, run, listing, operators⟩ := inner
  -- Only operators wait above the left parenthesis, so that it is the one that gets closed.
  have isInside : ∀ u ∈ waiting, u.kind ≠ .leftParen := fun u hu =>
    (Token.not_of_isOperator (operators u hu).1).2.1
  have last : Feeds { emitted, pending := waiting ++ opening :: state.pending } closing
      { emitted := waiting.reverse ++ emitted, pending := state.pending } :=
    .closing isClosing isInside isOpening rfl
  refine ⟨[], waiting.reverse ++ emitted, ?_, listing, by simp⟩
  rw [List.cons_append, feedAll_cons_eq_ok_iff]
  refine ⟨_, .opening isOpening, ?_⟩
  rw [feedAll_append, run]
  exact feedAll_cons_eq_ok_iff.2 ⟨_, last, rfl⟩

/-- An operator of the level sends away what the first part left waiting, and itself waits below
what the second part leaves. -/
theorem Lists.node {level tighter : Level} {state : Conversion} {t : Token} {ts us : List Token}
    {left right : Tree} (isOperator : t.isOperator = true)
    (binds : t.kind.precedence = level.rank) (lt : level.rank < tighter.rank)
    (admits : level.Admits state.pending) (first : Lists level state ts left)
    (second : ∀ state : Conversion, tighter.Admits state.pending → Lists tighter state us right) :
    Lists level state (ts ++ t :: us) (.node t left right) := by
  obtain ⟨waiting, emitted, run, listing, operators⟩ := first
  -- All that the first part left waiting makes way, and nothing of what waited before.
  have awaited : ({ emitted, pending := waiting ++ state.pending } : Conversion).await t =
      { emitted := waiting.reverse ++ emitted, pending := t :: state.pending } := by
    refine await_eq isOperator rfl (fun u hu => ?_) (by rw [binds]; exact admits)
    exact ⟨(Token.not_of_isOperator (operators u hu).1).2.1, binds ▸ (operators u hu).2⟩
  -- The operator that waits now is looser than those of the second part.
  obtain ⟨waiting', emitted', run', listing', operators'⟩ := second
    { emitted := waiting.reverse ++ emitted, pending := t :: state.pending }
    (by simp [Level.Admits, binds, lt])
  refine ⟨waiting' ++ [t], emitted', ?_, ?_, ?_⟩
  · rw [feedAll_append, run]
    refine feedAll_cons_eq_ok_iff.2 ⟨_, .operator isOperator, ?_⟩
    rw [awaited, run', List.append_assoc, List.singleton_append]
  · calc (waiting' ++ [t]).reverse ++ emitted'
        = t :: (waiting'.reverse ++ emitted') := by simp
      _ = t :: (right.tokens.reverse ++ (waiting.reverse ++ emitted)) := by rw [listing']
      _ = t :: (right.tokens.reverse ++ (left.tokens.reverse ++ state.emitted)) := by rw [listing]
      _ = (Tree.node t left right).tokens.reverse ++ state.emitted := by simp [Tree.tokens]
  · intro u hu
    rcases List.mem_append.1 hu with hu | hu
    · exact ⟨(operators' u hu).1, lt.le.trans (operators' u hu).2⟩
    · rw [List.mem_singleton.1 hu]
      exact ⟨isOperator, binds.ge⟩

/-- Whatever waits, a sentence is listed if its level is admitted. -/
theorem Derives.lists {level : Level} {ts : List Token} {tree : Tree}
    (derivation : Derives level ts tree) (state : Conversion)
    (admits : level.Admits state.pending) : Lists level state ts tree := by
  induction derivation generalizing state with
  | @number t isNumber =>
    refine ⟨[], t :: state.emitted, ?_, rfl, by simp⟩
    exact feedAll_cons_eq_ok_iff.2 ⟨_, .number isNumber, rfl⟩
  | @group opening closing ts tree isOpening isClosing _ ih =>
    -- Inside the group its parenthesis hides what waited before.
    exact .group isOpening isClosing
      (ih (state.openGroup opening) (by simp [Level.Admits, openGroup, isOpening]))
  | factor _ ih => exact (ih state (admits.mono (by decide))).mono (by decide)
  | product _ ih => exact (ih state (admits.mono (by decide))).mono (by decide)
  | @times t op ts us left right kind isProduct _ _ ihFirst ihSecond =>
    have binds : t.kind.precedence = Level.product.rank := by
      rw [kind, Operator.precedence_eq, isProduct]
      rfl
    exact .node (Token.isOperator_of_kind kind) binds (by decide) admits (ihFirst state admits)
      ihSecond
  | @plus t op ts us left right kind isSum _ _ ihFirst ihSecond =>
    have binds : t.kind.precedence = Level.sum.rank := by
      rw [kind, Operator.precedence_eq, isSum]
      rfl
    exact .node (Token.isOperator_of_kind kind) binds (by decide) admits (ihFirst state admits)
      ihSecond

/-- The reverse Polish notation of a sentence is the post-order listing of its tree. -/
theorem Derives.convert {ts : List Token} {tree : Tree} (derivation : Derives .sum ts tree) :
    convert ts = .ok tree.tokens := by
  obtain ⟨waiting, emitted, run, listing, operators⟩ :=
    derivation.lists start (by simp [Level.Admits, start])
  refine convert_eq_ok_iff.2 ⟨_, run, finish_eq_ok_iff.2 ⟨fun t ht => ?_, ?_⟩⟩
  · have waits : t ∈ waiting := by simpa [start] using ht
    exact (Token.not_of_isOperator (operators t waits).1).2.1
  · have reversed := congrArg List.reverse listing
    simpa [start] using reversed.symm

/-! ## The value of a sentence -/

/-- The text of a well-formed number can be read. -/
theorem Token.exists_read {t : Token} (isNumber : t.isNumber = true) (wellFormed : t.WellFormed) :
    ∃ x, Numeral.read? t.text = some x := by
  obtain ⟨spelling, kind⟩ := exists_number isNumber
  refine Option.isSome_iff_exists.1 (Numeral.isSome_read?_of_isNumber ?_)
  simp only [WellFormed, lexemeFault?, kind] at wellFormed
  split at wellFormed
  · cases wellFormed
  · split at wellFormed
    · assumption
    · cases wellFormed

/-- A sentence of well-formed tokens has a value. -/
theorem Derives.exists_value {level : Level} {ts : List Token} {tree : Tree}
    (derivation : Derives level ts tree) (wellFormed : ∀ t ∈ ts, t.WellFormed) :
    ∃ v, tree.value? = some v := by
  induction derivation with
  | @number t isNumber =>
    obtain ⟨x, read⟩ := Token.exists_read isNumber (wellFormed t (by simp))
    exact ⟨x, by simp [Tree.value?, isNumber, read]⟩
  | group _ _ _ ih => exact ih fun t ht => wellFormed t (by simp [ht])
  | factor _ ih => exact ih wellFormed
  | product _ ih => exact ih wellFormed
  | times kind _ _ _ ihFirst ihSecond =>
    exact Tree.exists_value_node kind (ihFirst fun t ht => wellFormed t (by simp [ht]))
      (ihSecond fun t ht => wellFormed t (by simp [ht]))
  | plus kind _ _ _ ihFirst ihSecond =>
    exact Tree.exists_value_node kind (ihFirst fun t ht => wellFormed t (by simp [ht]))
      (ihSecond fun t ht => wellFormed t (by simp [ht]))

end ReversePolish
