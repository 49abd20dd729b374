import Mathlib.Data.List.Chain
import Mathlib.Data.List.Induction
import Mathlib.Data.List.Perm.Basic
import Mathlib.Data.List.TakeWhile
import ReversePolish.Conversion

/-!
# The run of a conversion

What one token does to a conversion under way, and what a run of tokens keeps. A token is taken in
one of four ways (`Feeds`), and a property of the tokens taken so far and the state reached is
proved by showing that each of the four keeps it (`feedAll_induction`).

Along every run:

- `stacked_of_feedAll`: operators and left parentheses wait, and between two parentheses the
  precedences fall from the latest operator to the earliest;
- `perm_of_convert`: a result has the numbers and operators of the expression, each once;
- `filter_isNumber_of_convert`: numbers stay in the order in which they were given;
- `balanced_of_convert`: an expression that can be converted is made up of numbers, operators and
  groups in matching parentheses.
-/

namespace ReversePolish

/-! ## Runs that succeed -/

/-- Two parts in turn have a result if the first one has one that the second one goes on from. -/
theorem bind_eq_ok_iff {α β ε : Type} {x : Except ε α} {f : α → Except ε β} {b : β} :
    x.bind f = .ok b ↔ ∃ a, x = .ok a ∧ f a = .ok b := by
  cases x <;> simp [Except.bind]

theorem map_eq_ok_iff {α β ε : Type} {x : Except ε α} {f : α → β} {b : β} :
    x.map f = .ok b ↔ ∃ a, x = .ok a ∧ f a = b := by
  cases x <;> simp [Except.map]

theorem map_eq_error_iff {α β ε : Type} {x : Except ε α} {f : α → β} {e : ε} :
    x.map f = .error e ↔ x = .error e := by
  cases x <;> simp [Except.map]

/-- What is made of a result does not touch what is made of a fault. -/
theorem mapError_map {α β ε δ : Type} (x : Except ε α) (f : α → β) (g : ε → δ) :
    (x.map f).mapError g = (x.mapError g).map f := by
  cases x <;> rfl

/-- What holds at the start and is kept by every step holds of all that a run has taken and of the
state that it reaches. -/
theorem foldlM_induction {σ τ ε : Type} {step : σ → τ → Except ε σ} {P : List τ → σ → Prop}
    {start : σ} (initial : P [] start)
    (kept : ∀ {ts state t next}, P ts state → step state t = .ok next → P (ts ++ [t]) next)
    {ts : List τ} {final : σ} (run : ts.foldlM step start = .ok final) : P ts final := by
  induction ts using List.reverseRecOn generalizing final with
  | nil =>
    cases run
    exact initial
  | append_singleton ts t ih =>
    rw [List.foldlM_append] at run
    obtain ⟨state, before, last⟩ := bind_eq_ok_iff.1 run
    simp only [List.foldlM_cons, List.foldlM_nil, bind_pure] at last
    exact kept (ih before) last

/-! ## First places -/

/-- Nowhere in the list does `P` hold of an element and those before it. -/
def Nowhere {α : Type} (P : List α → α → Prop) (xs : List α) : Prop :=
  ∀ before x after, xs = before ++ x :: after → ¬ P before x

theorem Nowhere.nil {α : Type} {P : List α → α → Prop} : Nowhere P [] := by
  intro before x after split
  simp at split

theorem nowhere_concat_iff {α : Type} {P : List α → α → Prop} {xs : List α} {x : α} :
    Nowhere P (xs ++ [x]) ↔ Nowhere P xs ∧ ¬ P xs x := by
  constructor
  · intro h
    refine ⟨fun before y after split => ?_, h xs x [] rfl⟩
    exact h before y (after ++ [x]) (by rw [split]; simp)
  · rintro ⟨h, notHere⟩ before y after split
    -- The element `y` is the last one or one of those before it.
    rcases List.eq_nil_or_concat after with rfl | ⟨between, last, rfl⟩
    · obtain ⟨rfl, last⟩ := List.append_inj' split rfl
      rw [List.cons.injEq] at last
      rwa [← last.1]
    · rw [List.concat_eq_append, ← List.cons_append, ← List.append_assoc] at split
      exact h before y between (List.append_inj' split rfl).1

/-- If it does anywhere, there is a first place where it does. -/
theorem nowhere_or_exists_first {α : Type} (P : List α → α → Prop) (xs : List α) :
    Nowhere P xs ∨ ∃ before x after, xs = before ++ x :: after ∧ Nowhere P before ∧ P before x := by
  induction xs using List.reverseRecOn with
  | nil => exact .inl .nil
  | append_singleton xs x ih =>
    rcases ih with nowhere | ⟨before, y, after, rfl, first⟩
    · by_cases here : P xs x
      · exact .inr ⟨xs, x, [], rfl, nowhere, here⟩
      · exact .inl (nowhere_concat_iff.2 ⟨nowhere, here⟩)
    · exact .inr ⟨before, y, after ++ [x], by simp, first⟩

namespace Token

/-- The token is a number or an operator, so that conversion hands it on. -/
def isTerm (t : Token) : Bool :=
  t.isNumber || t.isOperator

theorem isTerm_of_isNumber {t : Token} (h : t.isNumber = true) : t.isTerm = true := by
  simp [isTerm, h]

theorem isTerm_of_isOperator {t : Token} (h : t.isOperator = true) : t.isTerm = true := by
  simp [isTerm, h]

/-- A parenthesis is neither a number nor an operator. -/
theorem not_of_paren {t : Token} (h : t.kind = .leftParen ∨ t.kind = .rightParen) :
    t.isNumber = false ∧ t.isOperator = false := by
  rcases h with h | h <;> simp [isNumber, isOperator, h, Kind.isNumber, Kind.isOperator]

theorem isTerm_of_paren {t : Token} (h : t.kind = .leftParen ∨ t.kind = .rightParen) :
    t.isTerm = false := by
  rw [isTerm, (not_of_paren h).1, (not_of_paren h).2]
  rfl

theorem exists_number {t : Token} (h : t.isNumber = true) :
    ∃ spelling, t.kind = .number spelling := by
  cases hk : t.kind <;> simp_all [isNumber, Kind.isNumber]

theorem exists_operator {t : Token} (h : t.isOperator = true) : ∃ op, t.kind = .operator op := by
  cases hk : t.kind <;> simp_all [isOperator, Kind.isOperator]

/-- What conversion hands on is told by its kind. -/
theorem kind_of_isTerm {t : Token} (h : t.isTerm = true) :
    (∃ spelling, t.kind = .number spelling) ∨ ∃ op, t.kind = .operator op := by
  rw [isTerm, Bool.or_eq_true] at h
  exact h.imp exists_number exists_operator

theorem ne_invalid_of_isTerm {t : Token} (h : t.isTerm = true) : t.kind ≠ .invalid := by
  rcases kind_of_isTerm h with ⟨spelling, hk⟩ | ⟨op, hk⟩
  · simp [hk]
  · simp [hk]

theorem isOperator_of_kind {t : Token} {op : Operator} (h : t.kind = .operator op) :
    t.isOperator = true := by
  simp [isOperator, h, Kind.isOperator]

/-- An operator is neither a number nor a parenthesis. -/
theorem not_of_isOperator {t : Token} (h : t.isOperator = true) :
    t.isNumber = false ∧ t.kind ≠ .leftParen ∧ t.kind ≠ .rightParen := by
  obtain ⟨op, hk⟩ := exists_operator h
  simp [isNumber, hk, Kind.isNumber]

/-- A number is neither an operator nor a parenthesis. -/
theorem not_of_isNumber {t : Token} (h : t.isNumber = true) :
    t.isOperator = false ∧ t.kind ≠ .leftParen ∧ t.kind ≠ .rightParen := by
  obtain ⟨spelling, hk⟩ := exists_number h
  simp [isOperator, hk, Kind.isOperator]

/-- An operator makes way for those that bind no tighter: all operators are grouped from the
left. -/
theorem yieldsTo_iff {op : Token} (h : op.isOperator = true) (waiting : Token) :
    waiting.yieldsTo op = true ↔
      waiting.kind ≠ .leftParen ∧ op.kind.precedence ≤ waiting.kind.precedence := by
  obtain ⟨o, hk⟩ := exists_operator h
  simp only [yieldsTo, hk, Kind.associativity, Bool.and_eq_true, Bool.or_eq_true,
    decide_eq_true_eq, and_true, Nat.le_iff_lt_or_eq]

/-- The entries that make way for an operator are no parentheses and bind as tightly. -/
theorem yields_of_mem_takeWhile {op waiting : Token} (h : op.isOperator = true)
    {pending : List Token} (hw : waiting ∈ pending.takeWhile (·.yieldsTo op)) :
    waiting.kind ≠ .leftParen ∧ op.kind.precedence ≤ waiting.kind.precedence :=
  (yieldsTo_iff h waiting).1 (List.mem_takeWhile_imp (p := fun w : Token => w.yieldsTo op) hw)

/-- The latest entry that does not make way for an operator is a parenthesis or binds less
tightly. -/
theorem stays_of_mem_head? {op waiting : Token} (h : op.isOperator = true) {pending : List Token}
    (hw : waiting ∈ (pending.dropWhile (·.yieldsTo op)).head?) :
    waiting.kind = .leftParen ∨ waiting.kind.precedence < op.kind.precedence := by
  have stays := List.head?_dropWhile_not (·.yieldsTo op) pending
  rw [Option.mem_def.1 hw] at stays
  have notYields : ¬ waiting.yieldsTo op = true := by simpa using stays
  rwa [yieldsTo_iff h, not_and_or, not_not, Nat.not_le] at notYields

end Token

namespace Conversion

/-! ## One token -/

/-- The ways in which a conversion takes a token, with the state after it. -/
inductive Feeds (state : Conversion) (t : Token) : Conversion → Prop
  /-- A number is emitted. -/
  | number (isNumber : t.isNumber = true) : Feeds state t (state.emit t)
  /-- An operator waits on top of those that bind less tightly. -/
  | operator (isOperator : t.isOperator = true) : Feeds state t (state.await t)
  /-- A left parenthesis opens a group. -/
  | opening (isOpening : t.kind = .leftParen) : Feeds state t (state.openGroup t)
  /-- A right parenthesis emits the operators `inside` the group that `paren` opened. -/
  | closing {inside outside : List Token} {paren : Token} (isClosing : t.kind = .rightParen)
      (isInside : ∀ u ∈ inside, u.kind ≠ .leftParen) (isOpening : paren.kind = .leftParen)
      (pending : state.pending = inside ++ paren :: outside) :
      Feeds state t { emitted := inside.reverse ++ state.emitted, pending := outside }

/-- An operator passes those that bind less tightly, and stops at a parenthesis. -/
theorem await_eq {state : Conversion} {op : Token} (isOperator : op.isOperator = true)
    {released kept : List Token} (pending : state.pending = released ++ kept)
    (yields : ∀ t ∈ released,
      t.kind ≠ .leftParen ∧ op.kind.precedence ≤ t.kind.precedence)
    (stays : ∀ t ∈ kept.head?, t.kind = .leftParen ∨ t.kind.precedence < op.kind.precedence) :
    state.await op =
      { emitted := released.reverse ++ state.emitted, pending := op :: kept } := by
  have go : ∀ t ∈ released, t.yieldsTo op = true := fun t ht =>
    (Token.yieldsTo_iff isOperator t).2 (yields t ht)
  rw [await, pending, List.takeWhile_append_of_pos go, List.dropWhile_append_of_pos go]
  cases kept with
  | nil => simp
  | cons t kept =>
    -- The first entry that is kept ends what is released.
    have stay : ¬ t.yieldsTo op = true := by
      rw [Token.yieldsTo_iff isOperator]
      rintro ⟨notParen, tight⟩
      rcases stays t rfl with paren | loose
      · exact notParen paren
      · omega
    simp [stay]

/-- A group can be closed as far as its left parenthesis. -/
theorem closeGroup_eq {state : Conversion} {inside outside : List Token} {paren : Token}
    (isInside : ∀ u ∈ inside, u.kind ≠ .leftParen) (isOpening : paren.kind = .leftParen)
    (pending : state.pending = inside ++ paren :: outside) (t : Token) :
    state.closeGroup t =
      .ok { emitted := inside.reverse ++ state.emitted, pending := outside } := by
  have within : ∀ u ∈ inside, u.isInside = true := fun u hu =>
    decide_eq_true (isInside u hu)
  have beyond : paren.isInside = false := by simp [Token.isInside, isOpening]
  rw [closeGroup, pending, List.dropWhile_append_of_pos within,
    List.takeWhile_append_of_pos within]
  simp [beyond]

/-- A token is taken exactly in one of the four ways. -/
theorem feed_eq_ok_iff {state next : Conversion} {t : Token} :
    state.feed t = .ok next ↔ Feeds state t next := by
  constructor
  · intro h
    cases hk : t.kind with
    | number spelling =>
      simp only [feed, hk, Except.ok.injEq] at h
      subst h
      exact .number (by simp [Token.isNumber, hk, Kind.isNumber])
    | operator op =>
      simp only [feed, hk, Except.ok.injEq] at h
      subst h
      exact .operator (Token.isOperator_of_kind hk)
    | leftParen =>
      simp only [feed, hk, Except.ok.injEq] at h
      subst h
      exact .opening hk
    | rightParen =>
      simp only [feed, hk, closeGroup] at h
      have parts := List.takeWhile_append_dropWhile (p := Token.isInside) (l := state.pending)
      cases after : state.pending.dropWhile Token.isInside with
      | nil => simp [after] at h
      | cons paren outside =>
        simp only [after, Except.ok.injEq] at h
        subst h
        -- What is not inside the group begins with the parenthesis that opened it.
        have isOpening : paren.kind = .leftParen := by
          have head := List.head?_dropWhile_not Token.isInside state.pending
          rw [after] at head
          simpa [Token.isInside] using head
        refine .closing hk (fun u hu => ?_) isOpening (by rw [← after, parts])
        simpa [Token.isInside] using List.mem_takeWhile_imp hu
    | invalid => simp [feed, hk] at h
  · rintro (isNumber | isOperator | isOpening | ⟨isClosing, isInside, isOpening, pending⟩)
    · obtain ⟨spelling, hk⟩ := Token.exists_number isNumber
      simp [feed, hk]
    · obtain ⟨op, hk⟩ := Token.exists_operator isOperator
      simp [feed, hk]
    · simp [feed, isOpening]
    · simp only [feed, isClosing]
      exact closeGroup_eq isInside isOpening pending t

/-- The end is reached exactly if no group is open, and what waits follows what is emitted. -/
theorem finish_eq_ok_iff {state : Conversion} {result : List Token} :
    state.finish = .ok result ↔
      (∀ t ∈ state.pending, t.kind ≠ .leftParen) ∧
        result = state.emitted.reverse ++ state.pending := by
  rw [finish]
  split
  · next paren found =>
    have isOpening : paren.kind = .leftParen := by simpa using List.find?_some found
    constructor
    · intro absurd
      cases absurd
    · rintro ⟨closed, -⟩
      exact absurd isOpening (closed paren (List.mem_of_find?_eq_some found))
  · next closed =>
    rw [List.find?_eq_none] at closed
    constructor
    · intro h
      exact ⟨fun t ht => by simpa using closed t ht, (Except.ok.inj h).symm⟩
    · rintro ⟨-, rfl⟩
      rfl

/-! ## Runs -/

/-- The first token of a run is taken in one of the four ways. -/
theorem feedAll_cons_eq_ok_iff {state final : Conversion} {t : Token} {ts : List Token} :
    state.feedAll (t :: ts) = .ok final ↔
      ∃ next, Feeds state t next ∧ next.feedAll ts = .ok final := by
  rw [feedAll_cons, bind_eq_ok_iff]
  simp only [feed_eq_ok_iff]

/-- A result comes from a run and its end. -/
theorem convert_eq_ok_iff {ts result : List Token} :
    convert ts = .ok result ↔
      ∃ final, start.feedAll ts = .ok final ∧ final.finish = .ok result := by
  rw [convert, bind_eq_ok_iff]

/-- What holds at the start and is kept by every token holds of the tokens of a run and the state
that it reaches. -/
theorem feedAll_induction {P : List Token → Conversion → Prop} (initial : P [] start)
    (step : ∀ {ts state t next}, P ts state → Feeds state t next → P (ts ++ [t]) next)
    {ts : List Token} {final : Conversion} (run : start.feedAll ts = .ok final) :
    P ts final :=
  foldlM_induction initial (fun h fed => step h (feed_eq_ok_iff.1 fed)) run

/-! ## What is emitted and what waits -/

/-- Operators and left parentheses wait. Within a group the later of two operators binds tighter,
since it would have sent the earlier one away otherwise. -/
structure Stacked (pending : List Token) : Prop where
  entries : ∀ t ∈ pending, t.isOperator = true ∨ t.kind = .leftParen
  falling : pending.IsChain fun above below =>
    above.kind = .leftParen ∨ below.kind = .leftParen ∨
      below.kind.precedence < above.kind.precedence

theorem Stacked.nil : Stacked [] :=
  ⟨by simp, .nil⟩

/-- What is left when the latest entries are gone is stacked. -/
theorem Stacked.of_suffix {pending rest : List Token} (h : Stacked pending)
    (suffix : rest <:+ pending) : Stacked rest where
  entries t ht := h.entries t (suffix.subset ht)
  falling := h.falling.suffix suffix

/-- A token keeps the order of what waits. -/
theorem Feeds.stacked {state next : Conversion} {t : Token} (fed : Feeds state t next)
    (h : Stacked state.pending) : Stacked next.pending := by
  cases fed with
  | number isNumber => exact h
  | operator isOperator =>
    have kept : Stacked (state.pending.dropWhile (·.yieldsTo t)) :=
      h.of_suffix (List.dropWhile_suffix _)
    refine ⟨?_, List.isChain_cons.2 ⟨fun below hbelow => ?_, kept.falling⟩⟩
    · intro u hu
      rcases List.mem_cons.1 hu with rfl | hu
      · exact .inl isOperator
      · exact kept.entries u hu
    · -- The first entry that stays is one that does not make way.
      exact .inr (Token.stays_of_mem_head? isOperator hbelow)
  | opening isOpening =>
    refine ⟨?_, List.isChain_cons.2 ⟨fun _ _ => .inl isOpening, h.falling⟩⟩
    intro u hu
    rcases List.mem_cons.1 hu with rfl | hu
    · exact .inr isOpening
    · exact h.entries u hu
  | @closing inside outside paren isClosing isInside isOpening pending =>
    refine h.of_suffix ?_
    rw [pending]
    exact ⟨inside ++ [paren], by simp⟩

/-- Every run leaves a stacked list waiting. -/
theorem stacked_of_feedAll {ts : List Token} {final : Conversion}
    (run : start.feedAll ts = .ok final) : Stacked final.pending :=
  feedAll_induction (P := fun _ state => Stacked state.pending) .nil
    (fun h fed => fed.stacked h) run

/-- The numbers and operators among the tokens `ts` are those that the state holds; the numbers are
emitted, in order. -/
structure Accounts (ts : List Token) (state : Conversion) : Prop where
  terms : ∀ t ∈ state.emitted, t.isTerm = true
  perm : ((state.emitted ++ state.pending).filter Token.isTerm).Perm (ts.filter Token.isTerm)
  numbers : state.emitted.reverse.filter Token.isNumber = ts.filter Token.isNumber

/-- A token that is no number may wait. -/
theorem Accounts.wait {ts : List Token} {state : Conversion} (h : Accounts ts state) {t : Token}
    (notNumber : t.isNumber = false) :
    Accounts (ts ++ [t]) { state with pending := t :: state.pending } where
  terms := h.terms
  perm := by
    calc ((state.emitted ++ t :: state.pending).filter Token.isTerm).Perm
          ((t :: (state.emitted ++ state.pending)).filter Token.isTerm) :=
        List.perm_middle.filter _
      _ = [t].filter Token.isTerm ++ (state.emitted ++ state.pending).filter Token.isTerm := by
        rw [← List.filter_append, List.singleton_append]
      List.Perm _ ([t].filter Token.isTerm ++ ts.filter Token.isTerm) := h.perm.append_left _
      List.Perm _ (ts.filter Token.isTerm ++ [t].filter Token.isTerm) := List.perm_append_comm
      _ = (ts ++ [t]).filter Token.isTerm := (List.filter_append ..).symm
  numbers := by simp [h.numbers, notNumber]

/-- Operators that wait may be emitted, the latest first. -/
theorem Accounts.release {ts : List Token} {state : Conversion} (h : Accounts ts state)
    {released kept : List Token} (pending : state.pending = released ++ kept)
    (operators : ∀ t ∈ released, t.isOperator = true) :
    Accounts ts { emitted := released.reverse ++ state.emitted, pending := kept } where
  terms t ht := by
    rcases List.mem_append.1 ht with ht | ht
    · exact Token.isTerm_of_isOperator (operators t (List.mem_reverse.1 ht))
    · exact h.terms t ht
  perm := by
    refine List.Perm.trans (List.Perm.filter _ ?_) h.perm
    rw [pending, ← List.append_assoc]
    refine List.Perm.append_right _ ?_
    exact ((List.reverse_perm released).append_right _).trans List.perm_append_comm
  numbers := by
    have none : released.filter Token.isNumber = [] :=
      List.filter_eq_nil_iff.2 fun t ht => by simp [(Token.not_of_isOperator (operators t ht)).1]
    simp [h.numbers, none]

/-- The entries that wait and are no parentheses are operators. -/
theorem Stacked.isOperator_of_ne {pending : List Token} (h : Stacked pending) {t : Token}
    (ht : t ∈ pending) (notParen : t.kind ≠ .leftParen) : t.isOperator = true :=
  (h.entries t ht).resolve_right notParen

/-- A token is accounted for. -/
theorem Feeds.accounts {ts : List Token} {state next : Conversion} {t : Token}
    (fed : Feeds state t next) (stacked : Stacked state.pending) (h : Accounts ts state) :
    Accounts (ts ++ [t]) next := by
  cases fed with
  | number isNumber =>
    have isTerm := Token.isTerm_of_isNumber isNumber
    refine ⟨?_, ?_, ?_⟩
    · simpa [emit, isTerm] using h.terms
    · have same : (ts ++ [t]).filter Token.isTerm = ts.filter Token.isTerm ++ [t] := by
        simp [isTerm]
      rw [same, emit, List.cons_append, List.filter_cons_of_pos isTerm]
      exact (h.perm.cons t).trans (List.perm_append_singleton t _).symm
    · simp [emit, h.numbers, isNumber]
  | operator isOperator =>
    refine Accounts.wait (h.release List.takeWhile_append_dropWhile.symm fun u hu => ?_)
      (Token.not_of_isOperator isOperator).1
    exact stacked.isOperator_of_ne ((List.takeWhile_prefix _).subset hu)
      (Token.yields_of_mem_takeWhile isOperator hu).1
  | opening isOpening =>
    exact h.wait (Token.not_of_paren (.inl isOpening)).1
  | @closing inside outside paren isClosing isInside isOpening pending =>
    have released := h.release pending fun u hu =>
      stacked.isOperator_of_ne (by simp [pending, hu]) (isInside u hu)
    -- Neither of the two parentheses is a term.
    have openingGone := Token.isTerm_of_paren (.inl isOpening)
    have closingGone := Token.isTerm_of_paren (.inr isClosing)
    refine ⟨released.terms, ?_, ?_⟩
    · have perm := released.perm
      simpa [openingGone, closingGone] using perm
    · have numbers := released.numbers
      simpa [(Token.not_of_paren (.inr isClosing)).1] using numbers

/-- Every run accounts for its tokens. -/
theorem accounts_of_feedAll {ts : List Token} {final : Conversion}
    (run : start.feedAll ts = .ok final) : Accounts ts final := by
  have both := feedAll_induction (P := fun ts state => Stacked state.pending ∧ Accounts ts state)
    ⟨.nil, by simp [start], by simp [start], by simp [start]⟩
    (fun h fed => ⟨fed.stacked h.1, fed.accounts h.1 h.2⟩) run
  exact both.2

end Conversion

/-- A result has the numbers and operators of the expression, each of them once. -/
theorem perm_of_convert {ts result : List Token} (converts : convert ts = .ok result) :
    result.Perm (ts.filter Token.isTerm) := by
  obtain ⟨final, run, ending⟩ := Conversion.convert_eq_ok_iff.1 converts
  obtain ⟨closed, rfl⟩ := Conversion.finish_eq_ok_iff.1 ending
  have stacked := Conversion.stacked_of_feedAll run
  have accounts := Conversion.accounts_of_feedAll run
  -- At the end no parenthesis waits, so that the state holds terms alone.
  have all : (final.emitted ++ final.pending).filter Token.isTerm =
      final.emitted ++ final.pending := by
    refine List.filter_eq_self.2 fun t ht => ?_
    rcases List.mem_append.1 ht with ht | ht
    · exact accounts.terms t ht
    · exact Token.isTerm_of_isOperator (stacked.isOperator_of_ne ht (closed t ht))
  have perm := accounts.perm
  rw [all] at perm
  exact ((List.reverse_perm final.emitted).append_right _).trans perm

/-- Numbers stay in order. -/
theorem filter_isNumber_of_convert {ts result : List Token} (converts : convert ts = .ok result) :
    result.filter Token.isNumber = ts.filter Token.isNumber := by
  obtain ⟨final, run, ending⟩ := Conversion.convert_eq_ok_iff.1 converts
  obtain ⟨closed, rfl⟩ := Conversion.finish_eq_ok_iff.1 ending
  have stacked := Conversion.stacked_of_feedAll run
  -- Numbers never wait.
  have none : final.pending.filter Token.isNumber = [] := by
    refine List.filter_eq_nil_iff.2 fun t ht => ?_
    simp [(Token.not_of_isOperator (stacked.isOperator_of_ne ht (closed t ht))).1]
  rw [List.filter_append, none, List.append_nil, (Conversion.accounts_of_feedAll run).numbers]

/-! ## Groups -/

/-- Numbers, operators and groups in matching parentheses, in any order. -/
inductive Balanced : List Token → Prop
  | nil : Balanced []
  | term {t : Token} {ts : List Token} (isTerm : t.isTerm = true) (rest : Balanced ts) :
      Balanced (t :: ts)
  | group {opening closing : Token} {ts us : List Token} (isOpening : opening.kind = .leftParen)
      (isClosing : closing.kind = .rightParen) (inner : Balanced ts) (rest : Balanced us) :
      Balanced (opening :: ts ++ closing :: us)

theorem Balanced.append {ts us : List Token} (first : Balanced ts) (second : Balanced us) :
    Balanced (ts ++ us) := by
  induction first with
  | nil => exact second
  | term isTerm _ ih => exact .term isTerm ih
  | group isOpening isClosing inner _ _ ih =>
    simpa using Balanced.group isOpening isClosing inner ih

/-- The tokens are balanced but for the left parentheses `open`, of which the latest comes first. -/
inductive Unclosed : List Token → List Token → Prop
  | balanced {ts : List Token} (balanced : Balanced ts) : Unclosed [] ts
  | opened {parens ts us : List Token} {opening : Token} (outside : Unclosed parens ts)
      (isOpening : opening.kind = .leftParen) (inside : Balanced us) :
      Unclosed (opening :: parens) (ts ++ opening :: us)

namespace Unclosed

theorem append {parens ts us : List Token} (h : Unclosed parens ts) (more : Balanced us) :
    Unclosed parens (ts ++ us) := by
  cases h with
  | balanced balanced => exact .balanced (balanced.append more)
  | opened outside isOpening inside =>
    simpa using Unclosed.opened outside isOpening (inside.append more)

/-- A right parenthesis closes the latest of the open groups. -/
theorem close {parens ts : List Token} {opening closing : Token}
    (h : Unclosed (opening :: parens) ts) (isClosing : closing.kind = .rightParen) :
    Unclosed parens (ts ++ [closing]) := by
  cases h with
  | opened outside isOpening inside =>
    simpa using outside.append (.group isOpening isClosing inside .nil)

end Unclosed

/-- The left parentheses of a list. -/
def openings (ts : List Token) : List Token :=
  ts.filter fun t => t.kind = .leftParen

theorem openings_eq_nil_iff {ts : List Token} :
    openings ts = [] ↔ ∀ t ∈ ts, t.kind ≠ .leftParen := by
  simp [openings, List.filter_eq_nil_iff]

/-- Behind the operators of a group comes the parenthesis that opened it. -/
theorem openings_append_cons {inside outside : List Token} {paren : Token}
    (isInside : ∀ u ∈ inside, u.kind ≠ .leftParen) (isOpening : paren.kind = .leftParen) :
    openings (inside ++ paren :: outside) = paren :: openings outside := by
  have none := openings_eq_nil_iff.2 isInside
  rw [openings] at none
  simp [openings, none, isOpening]

namespace Conversion

/-- An operator leaves all groups open. -/
theorem openings_await {op : Token} (isOperator : op.isOperator = true) (state : Conversion) :
    openings (state.await op).pending = openings state.pending := by
  -- Only operators make way.
  have none : openings (state.pending.takeWhile (·.yieldsTo op)) = [] :=
    openings_eq_nil_iff.2 fun u hu => (Token.yields_of_mem_takeWhile isOperator hu).1
  rw [← List.takeWhile_append_dropWhile (p := (·.yieldsTo op)) (l := state.pending), openings,
    openings, List.filter_append]
  rw [openings] at none
  simp [none, await, (Token.not_of_isOperator isOperator).2.1]

/-- A left parenthesis opens one more group. -/
theorem openings_openGroup {paren : Token} (isOpening : paren.kind = .leftParen)
    (state : Conversion) :
    openings (state.openGroup paren).pending = paren :: openings state.pending := by
  simp [openings, openGroup, isOpening]

/-- The parentheses that wait are those that are open. -/
theorem Feeds.unclosed {ts : List Token} {state next : Conversion} {t : Token}
    (fed : Feeds state t next) (h : Unclosed (openings state.pending) ts) :
    Unclosed (openings next.pending) (ts ++ [t]) := by
  cases fed with
  | number isNumber => exact h.append (.term (Token.isTerm_of_isNumber isNumber) .nil)
  | operator isOperator =>
    rw [openings_await isOperator]
    exact h.append (.term (Token.isTerm_of_isOperator isOperator) .nil)
  | opening isOpening =>
    rw [openings_openGroup isOpening]
    exact .opened h isOpening .nil
  | closing isClosing isInside isOpening pending =>
    rw [pending, openings_append_cons isInside isOpening] at h
    exact h.close isClosing

end Conversion

/-- Along every run the parentheses that wait are those that are open. -/
theorem unclosed_of_feedAll {ts : List Token} {final : Conversion}
    (run : Conversion.start.feedAll ts = .ok final) : Unclosed (openings final.pending) ts :=
  Conversion.feedAll_induction (P := fun ts state => Unclosed (openings state.pending) ts)
    (.balanced .nil) (fun h fed => fed.unclosed h) run

/-- Only a balanced list can be converted. -/
theorem balanced_of_convert {ts result : List Token} (converts : convert ts = .ok result) :
    Balanced ts := by
  obtain ⟨final, run, ending⟩ := Conversion.convert_eq_ok_iff.1 converts
  have unclosed := unclosed_of_feedAll run
  rw [openings_eq_nil_iff.2 (Conversion.finish_eq_ok_iff.1 ending).1] at unclosed
  cases unclosed with
  | balanced balanced => exact balanced

end ReversePolish
