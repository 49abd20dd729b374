import ReversePolish.Proofs.Nesting

/-!
# What waits in a conversion

Along every run, also of tokens that are refused later on, what waits is made up of layers. The left
parentheses among it are those that no right one matches yet, and above, between and below them
stand operators that bind tighter the later they came. As there are two ranks of operators, no layer
has more than two of them, and what waits is bounded by the depth.

An arriving operator is compared with those of the uppermost layer alone, so that nothing is ever
compared but operators.

- `unmatched`: the left parentheses that are not matched, found by counting;
- `Conversion.passage`: an operator on its way to its place, with the comparisons that it takes;
- `comparisons`: all comparisons of a conversion;
- `waiting_layered`: what waits at each point of a conversion, and what is compared.
-/

namespace ReversePolish

/-! ## Unmatched parentheses -/

/-- Whether the tokens close a group that stands `depth` groups outside the one in which they
begin. -/
def closes : Nat → List Token → Bool
  | _, [] => false
  | depth, t :: ts =>
    match t.kind, depth with
    | .leftParen, depth => closes (depth + 1) ts
    | .rightParen, 0 => true
    | .rightParen, depth + 1 => closes depth ts
    | _, depth => closes depth ts

/-- The left parentheses that no right one matches, in order. -/
def unmatched : List Token → List Token
  | [] => []
  | t :: ts => if t.kind = .leftParen ∧ closes 0 ts = false then t :: unmatched ts else unmatched ts

theorem closes_term {t : Token} (isTerm : t.isTerm = true) (depth : Nat) (ts : List Token) :
    closes depth (t :: ts) = closes depth ts := by
  rcases Token.kind_of_isTerm isTerm with ⟨spelling, hk⟩ | ⟨op, hk⟩ <;> simp [closes, hk]

theorem closes_opening {t : Token} (isOpening : t.kind = .leftParen) (depth : Nat)
    (ts : List Token) : closes depth (t :: ts) = closes (depth + 1) ts := by
  simp [closes, isOpening]

theorem closes_closing {t : Token} (isClosing : t.kind = .rightParen) (depth : Nat)
    (ts : List Token) : closes (depth + 1) (t :: ts) = closes depth ts := by
  simp [closes, isClosing]

theorem closes_closing_zero {t : Token} (isClosing : t.kind = .rightParen) (ts : List Token) :
    closes 0 (t :: ts) = true := by
  simp [closes, isClosing]

theorem unmatched_cons_of_ne {t : Token} (notOpening : t.kind ≠ .leftParen) (ts : List Token) :
    unmatched (t :: ts) = unmatched ts := by
  simp [unmatched, notOpening]

/-- A balanced list closes no group outside. -/
theorem Balanced.closes_append {ts : List Token} (h : Balanced ts) (depth : Nat)
    (us : List Token) : closes depth (ts ++ us) = closes depth us := by
  induction h generalizing depth us with
  | nil => rfl
  | term isTerm _ ih => rw [List.cons_append, closes_term isTerm, ih]
  | group isOpening isClosing _ _ ihInner ihRest =>
    rw [List.append_assoc, List.cons_append, List.cons_append, closes_opening isOpening, ihInner,
      closes_closing isClosing, ihRest]

theorem Balanced.closes_eq_false {ts : List Token} (h : Balanced ts) (depth : Nat) :
    closes depth ts = false := by
  rw [← List.append_nil ts, h.closes_append]
  rfl

/-- In a balanced list every left parenthesis is matched. -/
theorem Balanced.unmatched_append {ts : List Token} (h : Balanced ts) (us : List Token) :
    unmatched (ts ++ us) = unmatched us := by
  induction h generalizing us with
  | nil => rfl
  | term isTerm _ ih =>
    have notOpening : _ ≠ Kind.leftParen := fun isOpening => by
      rw [Token.isTerm_of_paren (.inl isOpening)] at isTerm
      cases isTerm
    rw [List.cons_append, unmatched_cons_of_ne notOpening, ih]
  | @group opening closing inner rest isOpening isClosing balanced _ ihInner ihRest =>
    -- The right parenthesis matches the left one, and what is inside has its matches inside.
    have matched : closes 0 (inner ++ closing :: (rest ++ us)) = true := by
      rw [balanced.closes_append, closes_closing_zero isClosing]
    have notOpening : closing.kind ≠ .leftParen := by simp [isClosing]
    rw [List.append_assoc, List.cons_append, List.cons_append, unmatched, matched, ihInner,
      unmatched_cons_of_ne notOpening, ihRest]
    simp

theorem Balanced.unmatched_eq_nil {ts : List Token} (h : Balanced ts) : unmatched ts = [] := by
  have none := h.unmatched_append []
  rwa [List.append_nil] at none

/-- What closes no group outside does not matter for the groups before it. -/
theorem closes_append_of_never {us : List Token} (never : ∀ depth, closes depth us = false)
    (depth : Nat) (ts : List Token) : closes depth (ts ++ us) = closes depth ts := by
  induction ts generalizing depth with
  | nil => exact never depth
  | cons t ts ih =>
    rw [List.cons_append, closes.eq_def, closes.eq_def depth (t :: ts)]
    simp only [ih]

theorem unmatched_append_of_never {us : List Token} (never : ∀ depth, closes depth us = false)
    (ts : List Token) : unmatched (ts ++ us) = unmatched ts ++ unmatched us := by
  induction ts with
  | nil => rfl
  | cons t ts ih =>
    rw [List.cons_append, unmatched, unmatched, closes_append_of_never never, ih]
    split <;> rfl

/-- The parentheses that are open are those that are not matched, the latest first. -/
theorem Unclosed.unmatched_eq {parens ts : List Token} (h : Unclosed parens ts) :
    unmatched ts = parens.reverse := by
  induction h with
  | balanced balanced => exact balanced.unmatched_eq_nil
  | @opened outer ts us opening _ isOpening inside ih =>
    have never : ∀ depth, closes depth (opening :: us) = false := by
      intro depth
      rw [closes_opening isOpening]
      exact inside.closes_eq_false (depth + 1)
    have latest : unmatched (opening :: us) = [opening] := by
      rw [unmatched, if_pos ⟨isOpening, inside.closes_eq_false 0⟩, inside.unmatched_eq_nil]
    rw [unmatched_append_of_never never, ih, latest, List.reverse_cons]

/-! ## Layers -/

/-- The precedence of an operator is one of two. -/
theorem Token.precedence_of_isOperator {t : Token} (isOperator : t.isOperator = true) :
    t.kind.precedence = 2 ∨ t.kind.precedence = 3 := by
  obtain ⟨op, hk⟩ := exists_operator isOperator
  rw [hk]
  cases op <;> simp [Kind.precedence]

theorem Token.precedence_ne_guard {t : Token} (isOperator : t.isOperator = true) :
    t.kind.precedence ≠ Kind.guardPrecedence := by
  rcases precedence_of_isOperator isOperator with sum | product
  · rw [sum]
    decide
  · rw [product]
    decide

/-- There are not more than two operators of which each binds tighter than the next. -/
theorem length_le_two_of_falling {layer : List Token} (operators : ∀ t ∈ layer, t.isOperator = true)
    (falling : (layer.map (·.kind.precedence)).Pairwise (· > ·)) : layer.length ≤ 2 := by
  rcases layer with _ | ⟨first, _ | ⟨second, _ | ⟨third, rest⟩⟩⟩
  · simp
  · simp
  · simp
  · -- Three operators would take three ranks.
    simp only [List.map_cons, List.pairwise_cons, List.mem_cons, forall_eq_or_imp] at falling
    have tightest := Token.precedence_of_isOperator (operators first (by simp))
    have loosest := Token.precedence_of_isOperator (operators third (by simp))
    have upper := falling.1.1
    have lower := falling.2.1.1
    omega

namespace Conversion

/-- Entries in a row without a parenthesis are operators that bind tighter the later they came. -/
theorem Stacked.falling_of_row {pending layer : List Token} (h : Stacked pending)
    (row : layer <:+: pending) (within : ∀ t ∈ layer, t.kind ≠ .leftParen) :
    (layer.map (·.kind.precedence)).Pairwise (· > ·) := by
  have falling := List.IsChain.infix h.falling row
  have chain : layer.IsChain fun above below =>
      below.kind.precedence < above.kind.precedence := by
    refine falling.imp_of_mem_imp fun above below habove hbelow falls => ?_
    rcases falls with paren | paren | lt
    · exact absurd paren (within above habove)
    · exact absurd paren (within below hbelow)
    · exact lt
  rw [← List.isChain_iff_pairwise, List.isChain_map]
  exact chain

theorem Stacked.isOperator_of_row {pending layer : List Token} (h : Stacked pending)
    (row : layer <:+: pending) (within : ∀ t ∈ layer, t.kind ≠ .leftParen) :
    ∀ t ∈ layer, t.isOperator = true :=
  fun t ht => h.isOperator_of_ne (row.subset ht) (within t ht)

/-- No layer has more than two entries. -/
theorem Stacked.length_layer_le {pending layer : List Token} (h : Stacked pending)
    (row : layer <:+: pending) (within : ∀ t ∈ layer, t.kind ≠ .leftParen) : layer.length ≤ 2 :=
  length_le_two_of_falling (h.isOperator_of_row row within) (h.falling_of_row row within)

/-- Every open group adds its parenthesis and not more than two operators. -/
theorem Stacked.length_le {pending : List Token} (h : Stacked pending) :
    pending.length ≤ 3 * (openings pending).length + 2 := by
  -- On what waits, of which the uppermost layer and the parenthesis under it are taken off.
  induction size : pending.length using Nat.strong_induction_on generalizing pending with
  | _ size ih =>
    have parts := List.takeWhile_append_dropWhile (p := Token.isInside) (l := pending)
    have within : ∀ t ∈ pending.takeWhile Token.isInside, t.kind ≠ .leftParen := by
      intro t ht
      simpa [Token.isInside] using List.mem_takeWhile_imp ht
    have upper := h.length_layer_le (List.takeWhile_prefix _).isInfix within
    rcases below : pending.dropWhile Token.isInside with _ | ⟨paren, outside⟩
    · rw [below, List.append_nil] at parts
      rw [parts] at upper
      omega
    · have isOpening : paren.kind = .leftParen := by
        have head := List.head?_dropWhile_not Token.isInside pending
        rw [below] at head
        simpa [Token.isInside] using head
      rw [below] at parts
      have suffix : outside <:+ pending :=
        ⟨pending.takeWhile Token.isInside ++ [paren], by rw [List.append_assoc]; exact parts⟩
      have length := congrArg List.length parts
      rw [List.length_append, List.length_cons] at length
      have rest := ih outside.length (by omega) (h.of_suffix suffix) rfl
      rw [← parts, openings_append_cons within isOpening, List.length_cons]
      omega

/-! ## Comparisons -/

/-- What an operator finds on the way to its place. -/
structure Passage where
  /-- The entries that make way, the latest first. -/
  released : List Token := []
  /-- The entries that stay under it. -/
  kept : List Token := []
  /-- The entries whose precedence is compared with its own, in order. -/
  compared : List Token := []
  deriving DecidableEq, Repr

/-- An operator goes down from entry to entry. It stops without a comparison where nothing is left
or a group was opened, and after a comparison at an entry that does not make way. -/
def passage (op : Token) : List Token → Passage
  | [] => {}
  | waiting :: below =>
    if waiting.kind = .leftParen then { kept := waiting :: below }
    else if op.kind.precedence < waiting.kind.precedence ∨
        op.kind.precedence = waiting.kind.precedence ∧ op.kind.associativity = .left then
      let further := passage op below
      { released := waiting :: further.released
        kept := further.kept
        compared := waiting :: further.compared }
    else { kept := waiting :: below, compared := [waiting] }

/-- Those that make way are the entries that yield, up to the first that does not. -/
theorem released_kept_passage (op : Token) (pending : List Token) :
    (passage op pending).released = pending.takeWhile (·.yieldsTo op) ∧
      (passage op pending).kept = pending.dropWhile (·.yieldsTo op) := by
  induction pending with
  | nil => exact ⟨rfl, rfl⟩
  | cons waiting below ih =>
    rw [passage]
    split
    · next paren => simp [Token.yieldsTo, paren]
    · next notParen =>
      split
      · next yields =>
        have goes : waiting.yieldsTo op = true := by simpa [Token.yieldsTo, notParen] using yields
        simp [goes, ih.1, ih.2]
      · next stays =>
        have stops : waiting.yieldsTo op = false := by simpa [Token.yieldsTo, notParen] using stays
        simp [stops]

/-- An operator comes to its place in this way. -/
theorem await_eq_passage (state : Conversion) (op : Token) :
    state.await op =
      { emitted := (passage op state.pending).released.reverse ++ state.emitted
        pending := op :: (passage op state.pending).kept } := by
  obtain ⟨released, kept⟩ := released_kept_passage op state.pending
  rw [await, released, kept]

/-- An operator is compared with entries that are no parentheses. -/
theorem mem_of_mem_compared {op waiting : Token} {pending : List Token}
    (mem : waiting ∈ (passage op pending).compared) :
    waiting ∈ pending ∧ waiting.kind ≠ .leftParen := by
  induction pending with
  | nil => cases mem
  | cons first below ih =>
    rw [passage] at mem
    split at mem
    · cases mem
    · next notParen =>
      split at mem
      · rcases List.mem_cons.1 mem with rfl | mem
        · exact ⟨List.mem_cons_self, notParen⟩
        · exact ⟨List.mem_cons_of_mem first (ih mem).1, (ih mem).2⟩
      · rw [List.mem_singleton.1 mem]
        exact ⟨List.mem_cons_self, notParen⟩

/-- Takes the next token, and notes which entries an operator is compared with. -/
def feedNoting (state : Conversion) (t : Token) :
    Except Fault Conversion × List (Token × Token) :=
  if t.isOperator then
    let way := passage t state.pending
    (.ok { emitted := way.released.reverse ++ state.emitted, pending := t :: way.kept },
      way.compared.map (·, t))
  else (state.feed t, [])

/-- Takes a list of tokens, and notes all comparisons as far as it comes. -/
def feedAllNoting (state : Conversion) :
    List Token → Except Fault Conversion × List (Token × Token)
  | [] => (.ok state, [])
  | t :: ts =>
    match state.feedNoting t with
    | (.error fault, compared) => (.error fault, compared)
    | (.ok next, compared) =>
      ((next.feedAllNoting ts).1, compared ++ (next.feedAllNoting ts).2)

/-- A token is taken in the same way when comparisons are noted. -/
theorem fst_feedNoting (state : Conversion) (t : Token) :
    (state.feedNoting t).1 = state.feed t := by
  rw [feedNoting]
  split
  · next isOperator =>
    obtain ⟨op, hk⟩ := Token.exists_operator isOperator
    rw [feed, hk]
    exact congrArg Except.ok (state.await_eq_passage t).symm
  · rfl

theorem fst_feedAllNoting (state : Conversion) (ts : List Token) :
    (state.feedAllNoting ts).1 = state.feedAll ts := by
  induction ts generalizing state with
  | nil => rfl
  | cons t ts ih =>
    rw [feedAll_cons, ← fst_feedNoting, feedAllNoting]
    rcases state.feedNoting t with ⟨fault | next, compared⟩
    · rfl
    · exact ih next

/-- Only operators are compared with an operator that comes to what is stacked. -/
theorem Stacked.isOperator_of_mem_feedNoting {state : Conversion} (h : Stacked state.pending)
    {t waiting op : Token} (mem : (waiting, op) ∈ (state.feedNoting t).2) :
    waiting.isOperator = true ∧ op.isOperator = true := by
  rw [feedNoting] at mem
  split at mem
  · next isOperator =>
    obtain ⟨entry, compared, same⟩ := List.mem_map.1 mem
    rw [Prod.mk.injEq] at same
    obtain ⟨rfl, rfl⟩ := same
    obtain ⟨waits, notParen⟩ := mem_of_mem_compared compared
    exact ⟨h.isOperator_of_ne waits notParen, isOperator⟩
  · cases mem

theorem Stacked.isOperator_of_mem_feedAllNoting {state : Conversion} (h : Stacked state.pending)
    {ts : List Token} {waiting op : Token} (mem : (waiting, op) ∈ (state.feedAllNoting ts).2) :
    waiting.isOperator = true ∧ op.isOperator = true := by
  induction ts generalizing state with
  | nil => cases mem
  | cons t ts ih =>
    have single : (waiting, op) ∈ (state.feedNoting t).2 →
        waiting.isOperator = true ∧ op.isOperator = true := h.isOperator_of_mem_feedNoting
    have step := fst_feedNoting state t
    rw [feedAllNoting] at mem
    rcases noted : state.feedNoting t with ⟨fault | next, compared⟩ <;>
      rw [noted] at mem single step
    · exact single mem
    · rcases List.mem_append.1 mem with now | later
      · exact single now
      · exact ih ((feed_eq_ok_iff.1 step.symm).stacked h) later

end Conversion

/-- The conversion of a list of tokens, with the comparisons that it makes. They are noted also if
it fails in the end. -/
def convertNoting (ts : List Token) : Except Fault (List Token) × List (Token × Token) :=
  let run := Conversion.start.feedAllNoting ts
  (run.1.bind Conversion.finish, run.2)

/-! ## Along a conversion -/

/-- At each point of a conversion, operators and left parentheses wait. The parentheses are those
that are not matched so far, and the operators between two of them bind tighter the later they came,
so that they are not more than two. What waits is bounded by the depth. All comparisons are between
two operators, and the rank of the kinds that do not bind is never compared. -/
theorem waiting_layered (ts : List Token) :
    (∀ before state, before <+: ts → Conversion.start.feedAll before = .ok state →
      (∀ t ∈ state.pending, t.isOperator = true ∨ t.kind = .leftParen) ∧
        (openings state.pending).reverse = unmatched before ∧
        (∀ layer, layer <:+: state.pending → (∀ t ∈ layer, t.kind ≠ .leftParen) →
          (layer.map (·.kind.precedence)).Pairwise (· > ·) ∧ layer.length ≤ 2) ∧
        state.pending.length ≤ 3 * nesting before + 2) ∧
      (convertNoting ts).1 = convert ts ∧
      ∀ waiting op, (waiting, op) ∈ (convertNoting ts).2 →
        waiting.isOperator = true ∧ op.isOperator = true ∧
          waiting.kind.precedence ≠ Kind.guardPrecedence ∧
          op.kind.precedence ≠ Kind.guardPrecedence := by
  refine ⟨fun before state _ run => ?_, ?_, fun waiting op mem => ?_⟩
  · have stacked := Conversion.stacked_of_feedAll run
    have unclosed := unclosed_of_feedAll run
    refine ⟨stacked.entries, unclosed.unmatched_eq.symm, fun layer row within => ?_, ?_⟩
    · exact ⟨stacked.falling_of_row row within, stacked.length_layer_le row within⟩
    · rw [unclosed.nesting_eq]
      exact_mod_cast stacked.length_le
  · rw [convertNoting, Conversion.fst_feedAllNoting]
    rfl
  · have stacked : Conversion.Stacked Conversion.start.pending := .nil
    obtain ⟨first, second⟩ := stacked.isOperator_of_mem_feedAllNoting mem
    exact ⟨first, second, Token.precedence_ne_guard first, Token.precedence_ne_guard second⟩

/-- Behind `()+*(+*(+*` as much waits as can at depth two. The three parentheses after it are one
too many. -/
theorem waiting_layered_full :
    let opening (place : Int) : Token := { kind := .leftParen, text := "(", position := some place }
    let closing : Token := { kind := .rightParen, text := ")" }
    let sum : Token := { kind := .operator .add, text := "+" }
    let product : Token := { kind := .operator .mul, text := "*" }
    let before :=
      [opening 0, closing, sum, product, opening 4, sum, product, opening 7, sum, product]
    let ts := before ++ [closing, closing, closing]
    convert ts = .error (.unmatched closing) ∧
      ∃ state, Conversion.start.feedAll before = .ok state ∧ state.pending.length = 8 ∧
        state.pending.length ≤ 3 * nesting before + 2 ∧ unmatched before = [opening 4, opening 7] ∧
        [product, sum].length ≤ 2 ∧ (sum, product) ∈ (convertNoting ts).2 ∧
        sum.kind.precedence ≠ Kind.guardPrecedence := by
  intro opening closing sum product before ts
  obtain ⟨points, outcome, compared⟩ := waiting_layered ts
  let state : Conversion :=
    { pending := [product, sum, opening 7, product, sum, opening 4, product, sum] }
  have run : Conversion.start.feedAll before = .ok state := by decide
  obtain ⟨-, parens, layers, bounded⟩ := points before state (List.prefix_append _ _) run
  have upper : [product, sum] <:+: state.pending :=
    ⟨[], [opening 7, product, sum, opening 4, product, sum], rfl⟩
  have noted : (sum, product) ∈ (convertNoting ts).2 := by decide
  refine ⟨?_, state, run, rfl, bounded, ?_, (layers [product, sum] upper (by decide)).2, noted,
    (compared sum product noted).2.2.1⟩
  · rw [← outcome]
    decide
  · rw [← parens]
    rfl

end ReversePolish
