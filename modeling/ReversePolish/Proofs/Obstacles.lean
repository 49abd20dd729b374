import ReversePolish.Proofs.Acceptance
import ReversePolish.Proofs.Handover
import ReversePolish.Proofs.PostOrder

/-!
# Faults of evaluations

Whether a sequence has a value, and with which fault its evaluation ends otherwise, told by counting
numbers and operators. The evaluation itself keeps operands on a stack; how many there are at a
place is the surplus of what stands in front of it. A token is an obstacle if it is a number that
cannot be read, no number or operator at all, or an operator behind a surplus of less than two.

- `Evaluation.exists_feed_of_not_obstacle`, `Evaluation.feed_of_obstacle`: one token, at a place
  behind which operands wait as the surplus tells;
- `Evaluation.exists_feedAll_of_unobstructed`: a sequence without an obstacle is taken as a whole;
- `DecidedByOpening`, `DecidedByObstacle`, `DecidedBySurplus`: what each of the three decides;
- `evaluate_decided_by_obstacles`: the opening of a sequence, its first obstacle and its surplus, in
  this order, decide what its evaluation ends with.
-/

namespace ReversePolish

/-! ## Obstacles -/

/-- Evaluation cannot take the token where it stands behind the tokens `before`: it is a number
whose text reads as none, neither a number nor an operator, or an operator where the numbers do not
outnumber the operators by two. -/
def Token.IsObstacleBehind (t : Token) (before : List Token) : Prop :=
  t.isNumber = true ∧ Numeral.read? t.text = none ∨ t.isTerm = false ∨
    t.isOperator = true ∧ surplus before < 2

/-- No token of the sequence is an obstacle. -/
def Unobstructed (ts : List Token) : Prop :=
  Nowhere (fun before t => t.IsObstacleBehind before) ts

/-- The token is the first obstacle of the sequence. -/
def FirstObstacle (ts : List Token) (t : Token) : Prop :=
  ∃ before after, ts = before ++ t :: after ∧ Unobstructed before ∧ t.IsObstacleBehind before

/-- A sequence has no obstacle, or it has a first one. -/
theorem unobstructed_or_firstObstacle (ts : List Token) :
    Unobstructed ts ∨ ∃ t, FirstObstacle ts t := by
  rcases nowhere_or_exists_first (fun before t => t.IsObstacleBehind before) ts with
    nowhere | ⟨before, t, after, first⟩
  · exact .inl nowhere
  · exact .inr ⟨t, before, after, first⟩

/-- What an evaluation ends with at an obstacle. Behind an operand at least one waits, so that an
operator misses at most one. -/
def Token.obstruction (t : Token) : Fault :=
  match t.kind with
  | .number _ => .unreadableNumber t
  | .operator _ => .missingOperand t 1
  | _ => .unexpected t

/-- What is neither a number nor an operator is a parenthesis or invalid. -/
theorem Token.kind_of_isTerm_eq_false {t : Token} (notTerm : t.isTerm = false) :
    t.kind = .leftParen ∨ t.kind = .rightParen ∨ t.kind = .invalid := by
  cases kind : t.kind <;>
    simp_all [Token.isTerm, Token.isNumber, Token.isOperator, Kind.isNumber, Kind.isOperator]

theorem Token.obstruction_of_isTerm_eq_false {t : Token} (notTerm : t.isTerm = false) :
    t.obstruction = .unexpected t := by
  rcases kind_of_isTerm_eq_false notTerm with kind | kind | kind <;> simp [obstruction, kind]

namespace Evaluation

/-! ## One token -/

/-- A token that is no obstacle is taken, if as many operands wait as the surplus tells. -/
theorem exists_feed_of_not_obstacle {before : List Token} {state : Evaluation} {t : Token}
    (waiting : (state.operands.length : Int) = surplus before)
    (passes : ¬ t.IsObstacleBehind before) : ∃ next, state.feed t = .ok next := by
  unfold Token.IsObstacleBehind at passes
  rw [not_or, not_or, not_and, not_and, Bool.not_eq_false] at passes
  obtain ⟨readable, isTerm, enough⟩ := passes
  rcases Token.kind_of_isTerm isTerm with ⟨spelling, kind⟩ | ⟨op, kind⟩
  · have isNumber : t.isNumber = true := by simp [Token.isNumber, kind, Kind.isNumber]
    obtain ⟨x, reads⟩ := Option.ne_none_iff_exists'.1 (readable isNumber)
    exact ⟨state.push x, feed_eq_ok_iff.2 (.number isNumber reads)⟩
  · have two : 2 ≤ state.operands.length := by
      have enough := enough (Token.isOperator_of_kind kind)
      omega
    -- Two operands are what an operator needs.
    cases operands : state.operands with
    | nil => simp [operands] at two
    | cons right others =>
      cases others with
      | nil => simp [operands] at two
      | cons left rest => exact ⟨_, feed_eq_ok_iff.2 (.operator kind operands)⟩

/-- At an obstacle the evaluation ends. At its very beginning an operator would find no operand at
all, anywhere else it finds one. -/
theorem feed_of_obstacle {before : List Token} {state : Evaluation} {t : Token}
    (waiting : (state.operands.length : Int) = surplus before)
    (begun : t.isOperator = true → state.operands ≠ [])
    (obstacle : t.IsObstacleBehind before) : state.feed t = .error t.obstruction := by
  rcases obstacle with ⟨isNumber, unreadable⟩ | notTerm | ⟨isOperator, few⟩
  · obtain ⟨spelling, kind⟩ := Token.exists_number isNumber
    simp [feed, Token.obstruction, kind, unreadable]
  · rw [Token.obstruction_of_isTerm_eq_false notTerm]
    rcases Token.kind_of_isTerm_eq_false notTerm with kind | kind | kind <;> simp [feed, kind]
  · obtain ⟨op, kind⟩ := Token.exists_operator isOperator
    obtain ⟨x, operands⟩ : ∃ x, state.operands = [x] := by
      refine List.length_eq_one_iff.1 ?_
      have one := List.length_pos_iff.2 (begun isOperator)
      omega
    simp [feed, Token.obstruction, kind, operate, operands]

/-! ## A run -/

/-- As many operands wait as the surplus of the tokens tells. -/
theorem length_operands_eq_surplus {ts : List Token} {final : Evaluation}
    (run : start.feedAll ts = .ok final) : (final.operands.length : Int) = surplus ts := by
  have count := length_operands_of_feedAll run
  rw [surplus]
  omega

/-- A sequence without an obstacle is taken as a whole. -/
theorem exists_feedAll_of_unobstructed {ts : List Token} (unobstructed : Unobstructed ts) :
    ∃ final, start.feedAll ts = .ok final := by
  induction ts using List.reverseRecOn with
  | nil => exact ⟨start, rfl⟩
  | append_singleton ts t ih =>
    obtain ⟨before, passes⟩ := nowhere_concat_iff.1 unobstructed
    obtain ⟨state, run⟩ := ih before
    obtain ⟨next, fed⟩ := exists_feed_of_not_obstacle (length_operands_eq_surplus run) passes
    refine ⟨next, ?_⟩
    rw [feedAll_append, run]
    change (state.feed t).bind _ = _
    rw [fed]
    rfl

/-- The first obstacle is what a run ends with, whatever follows it, unless that is an operator at
the very beginning. -/
theorem feedAll_of_firstObstacle {ts : List Token} {t : Token} (first : FirstObstacle ts t)
    (begins : ∀ u ∈ ts.head?, u.isOperator = false) :
    start.feedAll ts = .error t.obstruction := by
  obtain ⟨before, after, rfl, unobstructed, obstacle⟩ := first
  obtain ⟨state, run⟩ := exists_feedAll_of_unobstructed unobstructed
  have begun : t.isOperator = true → state.operands ≠ [] := by
    intro isOperator
    refine operands_ne_nil_of_feedAll run ?_
    rintro rfl
    rw [begins t rfl] at isOperator
    cases isOperator
  rw [feedAll_append, run]
  change (state.feed t).bind _ = _
  rw [feed_of_obstacle (length_operands_eq_surplus run) begun obstacle]
  rfl

end Evaluation

/-! ## Sequences -/

/-- What is said of an invalid token at the beginning: its own message, if there is one. -/
def Token.rejection (t : Token) : String :=
  match t.message with
  | none | some "" => "invalid expression"
  | some message => message

theorem message_rejected (t : Token) : (Fault.rejected t).message = t.rejection := by
  rw [Fault.message, Token.remark?, Token.rejection]
  split
  · next absent => rw [absent]; rfl
  · next empty => rw [empty]; rfl
  · next message notEmpty present =>
    rw [present, Option.filter_some_pos (by simpa using notEmpty)]
    rfl

theorem evaluate_of_openingFault {ts : List Token} {fault : Fault}
    (opening : openingFault? ts = some fault) : evaluate ts = .error fault := by
  rw [evaluate, opening]

/-- A sequence that begins neither with an invalid token nor with an operator is evaluated. -/
theorem openingFault?_cons {first : Token} {rest : List Token} (valid : first.kind ≠ .invalid)
    (notOperator : first.isOperator = false) : openingFault? (first :: rest) = none := by
  cases kind : first.kind <;>
    simp_all [openingFault?, Token.isOperator, Kind.isOperator]

theorem evaluate_of_feedAll {ts : List Token} {fault : Fault} (opening : openingFault? ts = none)
    (refused : Evaluation.start.feedAll ts = .error fault) : evaluate ts = .error fault := by
  rw [evaluate_eq_map_trace, trace, opening]
  dsimp only
  rw [refused]
  rfl

/-- A sequence without an obstacle has a surplus of at least one, which is the number of operands
that are left: one of them is the value, and more are a fault. -/
theorem evaluate_of_unobstructed {first : Token} {rest : List Token}
    (opening : openingFault? (first :: rest) = none) (unobstructed : Unobstructed (first :: rest)) :
    ∃ m : Nat, surplus (first :: rest) = m ∧ 1 ≤ m ∧
      (m = 1 → ∃ v, evaluate (first :: rest) = .ok v) ∧
      (m ≠ 1 → evaluate (first :: rest) = .error (.leftover m)) := by
  obtain ⟨final, run⟩ := Evaluation.exists_feedAll_of_unobstructed unobstructed
  have ended : evaluate (first :: rest) = final.finish.map (·.value) := by
    rw [evaluate_eq_map_trace, trace, opening]
    dsimp only
    rw [run]
    rfl
  have some := Evaluation.operands_ne_nil_of_feedAll run (List.cons_ne_nil first rest)
  refine ⟨final.operands.length, (Evaluation.length_operands_eq_surplus run).symm,
    List.length_pos_iff.2 some, fun one => ?_, fun more => ?_⟩
  · obtain ⟨v, operands⟩ := List.length_eq_one_iff.1 one
    refine ⟨v, ?_⟩
    rw [ended, Evaluation.finish, operands]
    rfl
  · rw [ended, Evaluation.finish]
    split
    · next v operands => simp [operands] at more
    · rfl

/-- An evaluation with its steps ends with the same faults as one without. -/
theorem traceChecked_eq_error_iff {ts : List Token} {fault : Fault} :
    traceChecked ts = .error fault ↔ evaluate ts = .error fault := by
  rw [traceChecked, evaluate_eq_map_trace, map_eq_error_iff, map_eq_error_iff]

/-! ## What decides -/

/-- The evaluation of the sequence ends with a fault of the given class and wording. -/
def Faults (ts : List Token) (code : FaultCode) (message : String) : Prop :=
  (evaluate ts).mapError Fault.diagnosis = .error { code, message }

/-- Nothing at all, an invalid token at the beginning and an operator at the beginning are faults of
their own. -/
structure DecidedByOpening (ts : List Token) : Prop where
  nothing : ts = [] → Faults ts .invalidExpression "invalid expression: empty postfix sequence"
  invalid : ∀ first rest, ts = first :: rest → first.kind = .invalid →
    Faults ts .invalidExpression first.rejection
  operator : ∀ first rest, ts = first :: rest → first.isOperator = true →
    Faults ts .malformedOperatorPlacement
      ("invalid expression: " ++ ("postfix starts with operator " ++ Text.quoted first.text))

/-- The sequence ends at its first obstacle `t`: at a number that cannot be read, at a token that is
no number and no operator, or at an operator, which then finds a single operand. -/
structure DecidedByObstacle (ts : List Token) (t : Token) : Prop where
  number : t.isNumber = true → Faults ts .unrecognizedToken
    ("invalid expression: " ++ ("malformed number " ++ Text.quoted t.text))
  neither : t.isTerm = false → Faults ts .unrecognizedToken
    ("invalid expression: " ++
      ("unexpected " ++ t.kind.name ++ " token " ++ Text.quoted t.display))
  operator : t.isOperator = true → Faults ts .operandUnderflow
    ("invalid expression: " ++
      ("operator " ++ Text.quoted t.text ++ " needs two operands, found " ++ toString 1))

/-- The surplus of the sequence, at least one, is the number of operands that are left. If it is one
there is a value. -/
structure DecidedBySurplus (ts : List Token) (left : Nat) : Prop where
  surplus : surplus ts = left
  positive : 1 ≤ left
  value : (∃ v, evaluate ts = .ok v) ↔ left = 1
  leftover : left ≠ 1 → Faults ts .malformedOperatorPlacement
    ("invalid expression: " ++ (toString left ++ " operands left without an operator"))

theorem decidedByOpening (ts : List Token) : DecidedByOpening ts where
  nothing := by
    rintro rfl
    rw [Faults, evaluate_of_openingFault rfl]
    rfl
  invalid := by
    rintro first rest rfl invalid
    have opening : openingFault? (first :: rest) = some (.rejected first) := by
      simp [openingFault?, invalid]
    rw [Faults, evaluate_of_openingFault opening, ← message_rejected]
    rfl
  operator := by
    rintro first rest rfl isOperator
    obtain ⟨op, kind⟩ := Token.exists_operator isOperator
    have opening : openingFault? (first :: rest) = some (.leadingOperator first) := by
      simp [openingFault?, kind]
    rw [Faults, evaluate_of_openingFault opening]
    rfl

theorem decidedByObstacle {ts : List Token} {t : Token}
    (stops : evaluate ts = .error t.obstruction) : DecidedByObstacle ts t where
  number := by
    intro isNumber
    obtain ⟨spelling, kind⟩ := Token.exists_number isNumber
    rw [Faults, stops, Token.obstruction, kind]
    rfl
  neither := by
    intro notTerm
    rw [Faults, stops, Token.obstruction_of_isTerm_eq_false notTerm]
    rfl
  operator := by
    intro isOperator
    obtain ⟨op, kind⟩ := Token.exists_operator isOperator
    rw [Faults, stops, Token.obstruction, kind]
    rfl

theorem exists_decidedBySurplus {first : Token} {rest : List Token}
    (opening : openingFault? (first :: rest) = none) (unobstructed : Unobstructed (first :: rest)) :
    ∃ left, DecidedBySurplus (first :: rest) left := by
  obtain ⟨left, isSurplus, positive, one, more⟩ := evaluate_of_unobstructed opening unobstructed
  refine ⟨left, isSurplus, positive, ⟨?_, one⟩, fun notOne => ?_⟩
  · rintro ⟨v, evaluates⟩
    by_contra notOne
    rw [more notOne] at evaluates
    cases evaluates
  · rw [Faults, more notOne]
    rfl

/-- What the evaluation of a sequence ends with, for every sequence of tokens. Nothing at all, an
invalid token at the beginning and an operator at the beginning are faults of their own. Any other
sequence ends at its first obstacle, if it has one, whatever follows that. Without an obstacle its
surplus decides. An evaluation with its steps ends with the same faults. -/
theorem evaluate_decided_by_obstacles (ts : List Token) :
    DecidedByOpening ts ∧
      (∀ first rest, ts = first :: rest → first.kind ≠ .invalid → first.isOperator = false →
        (Unobstructed ts ∨ ∃ t, FirstObstacle ts t) ∧
          (∀ t, FirstObstacle ts t → DecidedByObstacle ts t) ∧
          (Unobstructed ts → ∃ left, DecidedBySurplus ts left)) ∧
      ∀ fault, traceChecked ts = .error fault ↔ evaluate ts = .error fault := by
  refine ⟨decidedByOpening ts, ?_, fun fault => traceChecked_eq_error_iff⟩
  rintro first rest rfl valid notOperator
  have opening : openingFault? (first :: rest) = none := openingFault?_cons valid notOperator
  refine ⟨unobstructed_or_firstObstacle _, fun t isFirst => ?_,
    exists_decidedBySurplus opening⟩
  refine decidedByObstacle (evaluate_of_feedAll opening ?_)
  exact Evaluation.feedAll_of_firstObstacle isFirst (by simpa using notOperator)

end ReversePolish
