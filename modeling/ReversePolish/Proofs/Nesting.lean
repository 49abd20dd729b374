import Mathlib.Data.List.Induction
import ReversePolish.Proofs.Pending

/-!
# Faults of conversions

Whether a conversion succeeds, and with which fault it ends otherwise, told by counting parentheses.
The conversion itself never counts: it finds out by looking for a left parenthesis on a stack that
operators wait on as well. Here the left parentheses less the right ones are counted from left to
right, and a token is a fault if it is invalid or a right parenthesis at depth zero.

- `Conversion.map_openings_feedAll`: the open groups of a conversion go their own way (`nest`), in
  which numbers and operators have no part;
- `exists_nestAll_iff_faultless`: they go on as long as there is no fault;
- `convert_decided_by_nesting`: the first fault is what is reported, behind it the last parenthesis
  that stays open, and without either there is a result.
-/

namespace ReversePolish

/-! ## Depth -/

/-- How deep the place behind the tokens is nested: their left parentheses less their right ones. -/
def nesting (ts : List Token) : Int :=
  ts.countP (·.kind = .leftParen) - ts.countP (·.kind = .rightParen)

theorem nesting_append (ts us : List Token) : nesting (ts ++ us) = nesting ts + nesting us := by
  simp only [nesting, List.countP_append]
  omega

theorem nesting_cons (t : Token) (ts : List Token) :
    nesting (t :: ts) = nesting [t] + nesting ts :=
  nesting_append [t] ts

theorem nesting_opening {t : Token} (h : t.kind = .leftParen) : nesting [t] = 1 := by
  simp [nesting, h]

theorem nesting_closing {t : Token} (h : t.kind = .rightParen) : nesting [t] = -1 := by
  simp [nesting, h]

theorem nesting_term {t : Token} (h : t.isTerm = true) : nesting [t] = 0 := by
  cases hk : t.kind <;>
    simp_all [nesting, Token.isTerm, Token.isNumber, Token.isOperator, Kind.isNumber,
      Kind.isOperator]

theorem Balanced.nesting_eq_zero {ts : List Token} (h : Balanced ts) : nesting ts = 0 := by
  induction h with
  | nil => rfl
  | term isTerm _ ih =>
    rw [nesting_cons, nesting_term isTerm, ih]
    rfl
  | group isOpening isClosing _ _ ihInner ihRest =>
    rw [List.cons_append, nesting_cons, nesting_append, nesting_opening isOpening, ihInner,
      nesting_cons, nesting_closing isClosing, ihRest]
    rfl

/-- The parentheses that are open are counted by the depth. -/
theorem Unclosed.nesting_eq {parens ts : List Token} (h : Unclosed parens ts) :
    nesting ts = parens.length := by
  induction h with
  | balanced balanced => exact balanced.nesting_eq_zero
  | opened _ isOpening inside ih =>
    rw [nesting_append, nesting_cons, nesting_opening isOpening, inside.nesting_eq_zero, ih,
      List.length_cons]
    omega

/-! ## Faults, told by the depth -/

/-- The token is a fault where it stands behind the tokens `before`: it is invalid, or a right
parenthesis where no group is open. -/
def Token.IsFaultBehind (t : Token) (before : List Token) : Prop :=
  t.kind = .invalid ∨ t.kind = .rightParen ∧ nesting before = 0

/-- No token of the list is a fault. -/
def Faultless (ts : List Token) : Prop :=
  ∀ before t after, ts = before ++ t :: after → ¬ t.IsFaultBehind before

/-- The token is the first fault of the list. -/
def FirstFault (ts : List Token) (t : Token) : Prop :=
  ∃ before after, ts = before ++ t :: after ∧ Faultless before ∧ t.IsFaultBehind before

/-- Among the tokens is the right parenthesis that matches a left one in front of them: what stands
between the two is never less deep than its beginning, and in the end as deep. -/
def ClosesGroup (ts : List Token) : Prop :=
  ∃ inside closing rest, ts = inside ++ closing :: rest ∧ closing.kind = .rightParen ∧
    nesting inside = 0 ∧ ∀ front, front <+: inside → 0 ≤ nesting front

/-- The token is the last left parenthesis of the list that no right one matches. -/
def LastUnclosed (ts : List Token) (paren : Token) : Prop :=
  ∃ before after, ts = before ++ paren :: after ∧ paren.kind = .leftParen ∧ ¬ ClosesGroup after ∧
    ∀ inside opening rest, after = inside ++ opening :: rest → opening.kind = .leftParen →
      ClosesGroup rest

theorem Faultless.nil : Faultless [] :=
  Nowhere.nil

theorem faultless_concat_iff {ts : List Token} {t : Token} :
    Faultless (ts ++ [t]) ↔ Faultless ts ∧ ¬ t.IsFaultBehind ts :=
  nowhere_concat_iff

/-- A list has no fault, or it has a first one. -/
theorem faultless_or_firstFault (ts : List Token) : Faultless ts ∨ ∃ t, FirstFault ts t := by
  rcases nowhere_or_exists_first (fun before t => t.IsFaultBehind before) ts with
    nowhere | ⟨before, t, after, first⟩
  · exact .inl nowhere
  · exact .inr ⟨t, before, after, first⟩

/-! ## The open groups of a conversion -/

/-- What a token does to the groups that are open, of which the latest comes first. -/
def nest (parens : List Token) (t : Token) : Except Fault (List Token) :=
  match t.kind with
  | .leftParen => .ok (t :: parens)
  | .rightParen =>
    match parens with
    | [] => .error (.unmatched t)
    | _ :: outer => .ok outer
  | .invalid => .error (.unsupported t)
  | _ => .ok parens

/-- What is wrong with groups that are open at the end. -/
def settle : List Token → Except Fault Unit
  | [] => .ok ()
  | paren :: _ => .error (.unclosed paren)

/-- What a list of tokens does to the open groups. -/
def nestAll (parens ts : List Token) : Except Fault (List Token) :=
  ts.foldlM nest parens

theorem nestAll_cons (parens : List Token) (t : Token) (ts : List Token) :
    nestAll parens (t :: ts) = (nest parens t).bind (nestAll · ts) := rfl

theorem nestAll_append (parens ts us : List Token) :
    nestAll parens (ts ++ us) = (nestAll parens ts).bind (nestAll · us) :=
  List.foldlM_append

theorem nestAll_cons_of_ok {parens next : List Token} {t : Token} (fed : nest parens t = .ok next)
    (ts : List Token) : nestAll parens (t :: ts) = nestAll next ts := by
  rw [nestAll_cons, fed]
  rfl

theorem nestAll_append_of_ok {parens next ts : List Token} (run : nestAll parens ts = .ok next)
    (us : List Token) : nestAll parens (ts ++ us) = nestAll next us := by
  rw [nestAll_append, run]
  rfl

theorem nest_term {t : Token} (isTerm : t.isTerm = true) (parens : List Token) :
    nest parens t = .ok parens := by
  cases hk : t.kind <;>
    simp_all [nest, Token.isTerm, Token.isNumber, Token.isOperator, Kind.isNumber, Kind.isOperator]

theorem nest_opening {t : Token} (isOpening : t.kind = .leftParen) (parens : List Token) :
    nest parens t = .ok (t :: parens) := by
  simp [nest, isOpening]

theorem nest_closing {t : Token} (isClosing : t.kind = .rightParen) (paren : Token)
    (outer : List Token) : nest (paren :: outer) t = .ok outer := by
  simp [nest, isClosing]

theorem nest_closing_nil {t : Token} (isClosing : t.kind = .rightParen) :
    nest [] t = .error (.unmatched t) := by
  simp [nest, isClosing]

theorem nest_invalid {t : Token} (invalid : t.kind = .invalid) (parens : List Token) :
    nest parens t = .error (.unsupported t) := by
  simp [nest, invalid]

namespace Conversion

theorem Feeds.nest_eq {state next : Conversion} {t : Token} (fed : Feeds state t next) :
    nest (openings state.pending) t = .ok (openings next.pending) := by
  cases fed with
  | number isNumber => exact nest_term (Token.isTerm_of_isNumber isNumber) _
  | operator isOperator =>
    rw [openings_await isOperator]
    exact nest_term (Token.isTerm_of_isOperator isOperator) _
  | opening isOpening => rw [openings_openGroup isOpening, nest_opening isOpening]
  | closing isClosing isInside isOpening pending =>
    rw [pending, openings_append_cons isInside isOpening, nest_closing isClosing]

theorem nest_eq_of_feed_eq_error {state : Conversion} {t : Token} {fault : Fault}
    (refused : state.feed t = .error fault) : nest (openings state.pending) t = .error fault := by
  cases hk : t.kind with
  | number spelling => simp [feed, hk] at refused
  | operator op => simp [feed, hk] at refused
  | leftParen => simp [feed, hk] at refused
  | rightParen =>
    simp only [feed, hk, closeGroup] at refused
    split at refused
    · next all =>
      -- Without a left parenthesis on the stack there is no open group.
      have none : openings state.pending = [] := by
        rw [openings_eq_nil_iff]
        simpa [Token.isInside] using all
      cases refused
      rw [none, nest_closing_nil hk]
    · cases refused
  | invalid =>
    rw [nest_invalid hk]
    simpa [feed, hk] using refused

/-- Along a run the open groups go their own way. -/
theorem map_openings_feedAll (state : Conversion) (ts : List Token) :
    (state.feedAll ts).map (openings ·.pending) = nestAll (openings state.pending) ts := by
  induction ts generalizing state with
  | nil => rfl
  | cons t ts ih =>
    rw [feedAll_cons, nestAll_cons]
    cases fed : state.feed t with
    | ok next =>
      rw [(feed_eq_ok_iff.1 fed).nest_eq]
      exact ih next
    | error fault =>
      rw [nest_eq_of_feed_eq_error fed]
      rfl

theorem map_openings_start (ts : List Token) :
    (start.feedAll ts).map (openings ·.pending) = nestAll [] ts :=
  map_openings_feedAll start ts

/-- The end is a fault if a group is open. -/
theorem map_finish (state : Conversion) :
    state.finish.map (fun _ => ()) = settle (openings state.pending) := by
  have latest : (openings state.pending).head? = state.pending.find? (·.kind = .leftParen) :=
    List.head?_filter
  rw [finish, ← latest]
  cases openings state.pending <;> rfl

end Conversion

/-- Apart from its result, a conversion is decided by the open groups. -/
theorem map_convert (ts : List Token) :
    (convert ts).map (fun _ => ()) = (nestAll [] ts).bind settle := by
  rw [← Conversion.map_openings_start, convert]
  cases Conversion.start.feedAll ts with
  | ok final => exact final.map_finish
  | error fault => rfl

/-- The faults of a conversion are those of its open groups. -/
theorem convert_eq_error_iff {ts : List Token} {fault : Fault} :
    convert ts = .error fault ↔ (nestAll [] ts).bind settle = .error fault := by
  rw [← map_convert]
  cases convert ts <;> simp [Except.map]

/-- Numbers and operators have no part in the open groups. -/
theorem nestAll_filter (parens ts : List Token) :
    nestAll parens (ts.filter fun t => !t.isTerm) = nestAll parens ts := by
  induction ts generalizing parens with
  | nil => rfl
  | cons t ts ih =>
    by_cases isTerm : t.isTerm = true
    · rw [List.filter_cons_of_neg (by simp [isTerm]), ih,
        nestAll_cons_of_ok (nest_term isTerm parens)]
    · rw [List.filter_cons_of_pos (by simp [isTerm]), nestAll_cons, nestAll_cons]
      simp only [ih]

/-! ## Open groups and the depth -/

/-- The groups that are open behind a list are its parentheses that are open. -/
theorem unclosed_of_nest {ts parens : List Token} (run : nestAll [] ts = .ok parens) :
    Unclosed parens ts := by
  rw [← Conversion.map_openings_start, map_eq_ok_iff] at run
  obtain ⟨final, fed, rfl⟩ := run
  exact unclosed_of_feedAll fed

/-- At depth zero no group is open. -/
theorem nesting_eq_zero_iff {ts parens : List Token} (run : nestAll [] ts = .ok parens) :
    nesting ts = 0 ↔ parens = [] := by
  rw [(unclosed_of_nest run).nesting_eq, Int.natCast_eq_zero, List.length_eq_zero_iff]

/-- A token is refused exactly if it is a fault where it stands. -/
theorem exists_nest_eq_ok_iff {ts parens : List Token} (run : nestAll [] ts = .ok parens)
    (t : Token) : (∃ next, nest parens t = .ok next) ↔ ¬ t.IsFaultBehind ts := by
  have atDepth := nesting_eq_zero_iff run
  cases hk : t.kind with
  | rightParen => cases parens <;> simp [nest, hk, Token.IsFaultBehind, atDepth]
  | _ => simp [nest, hk, Token.IsFaultBehind]

/-- The groups go on exactly as long as there is no fault. -/
theorem exists_nestAll_iff_faultless {ts : List Token} :
    (∃ parens, nestAll [] ts = .ok parens) ↔ Faultless ts := by
  -- From the end, since a token is a fault by what stands before it.
  induction ts using List.reverseRecOn with
  | nil => exact ⟨fun _ => .nil, fun _ => ⟨[], rfl⟩⟩
  | append_singleton ts t ih =>
    rw [faultless_concat_iff, ← ih, nestAll_append]
    cases before : nestAll [] ts with
    | error fault => simp [Except.bind]
    | ok parens =>
      have last := exists_nest_eq_ok_iff before t
      have single : nestAll parens [t] = nest parens t := by
        rw [nestAll_cons]
        cases nest parens t <;> rfl
      simp [Except.bind, single, last]

/-! ## What a conversion reports -/

/-- The first fault is reported, whatever follows it. -/
theorem convert_of_firstFault {ts : List Token} {t : Token} (h : FirstFault ts t) :
    (t.kind = .invalid → convert ts = .error (.unsupported t)) ∧
      (t.kind = .rightParen → convert ts = .error (.unmatched t)) := by
  obtain ⟨before, after, rfl, faultless, isFault⟩ := h
  obtain ⟨parens, run⟩ := exists_nestAll_iff_faultless.2 faultless
  -- What is refused behind the tokens before it ends the conversion at once.
  have ends : ∀ fault, nest parens t = .error fault →
      convert (before ++ t :: after) = .error fault := by
    intro fault refused
    rw [convert_eq_error_iff, nestAll_append_of_ok run, nestAll_cons, refused]
    rfl
  refine ⟨fun invalid => ends _ (nest_invalid invalid parens), fun isClosing => ends _ ?_⟩
  rcases isFault with invalid | ⟨-, zero⟩
  · -- A right parenthesis is not invalid.
    rw [invalid] at isClosing
    cases isClosing
  · rw [(nesting_eq_zero_iff run).1 zero]
    exact nest_closing_nil isClosing

/-- A balanced list leaves the groups open that it finds. -/
theorem Balanced.nestAll_eq {ts : List Token} (h : Balanced ts) (parens : List Token) :
    nestAll parens ts = .ok parens := by
  induction h generalizing parens with
  | nil => rfl
  | term isTerm _ ih => rw [nestAll_cons_of_ok (nest_term isTerm parens), ih]
  | group isOpening isClosing _ _ ihInner ihRest =>
    -- The right parenthesis closes the group that the left one opened.
    rw [List.cons_append, nestAll_cons_of_ok (nest_opening isOpening parens),
      nestAll_append_of_ok (ihInner _), nestAll_cons_of_ok (nest_closing isClosing _ parens),
      ihRest]

/-- No prefix of a balanced list closes more groups than it opens. -/
theorem Balanced.nesting_nonneg {ts front : List Token} (h : Balanced ts)
    (isPrefix : front <+: ts) : 0 ≤ nesting front := by
  obtain ⟨back, rfl⟩ := isPrefix
  have run := h.nestAll_eq []
  rw [nestAll_append, bind_eq_ok_iff] at run
  obtain ⟨parens, before, -⟩ := run
  rw [(unclosed_of_nest before).nesting_eq]
  exact Int.natCast_nonneg _

/-- A parenthesis in front of a balanced list stays open. -/
theorem Balanced.not_closesGroup {ts : List Token} (h : Balanced ts) : ¬ ClosesGroup ts := by
  rintro ⟨inside, closing, rest, split, isClosing, zero, -⟩
  have faultless := exists_nestAll_iff_faultless.1 ⟨[], h.nestAll_eq []⟩
  exact faultless inside closing rest split (.inr ⟨isClosing, zero⟩)

theorem ClosesGroup.append {ts : List Token} (h : ClosesGroup ts) (us : List Token) :
    ClosesGroup (ts ++ us) := by
  obtain ⟨inside, closing, rest, rfl, isClosing, closes⟩ := h
  exact ⟨inside, closing, rest ++ us, by simp, isClosing, closes⟩

/-- Every left parenthesis of a balanced list has a match in it. -/
theorem Balanced.closesGroup {ts : List Token} (h : Balanced ts) {inside rest : List Token}
    {opening : Token} (split : ts = inside ++ opening :: rest)
    (isOpening : opening.kind = .leftParen) : ClosesGroup rest := by
  induction h generalizing inside rest with
  | nil => simp at split
  | @term t ts isTerm _ ih =>
    rw [List.cons_eq_append_iff] at split
    rcases split with ⟨rfl, same⟩ | ⟨inside, rfl, split⟩
    · -- A number or operator is no parenthesis.
      rw [List.cons.injEq] at same
      rw [← same.1, Token.isTerm_of_paren (.inl isOpening)] at isTerm
      cases isTerm
    · exact ih split
  | @group first closing ts us _ isClosing inner _ ihInner ihRest =>
    have notClosing : opening ≠ closing := by
      rintro rfl
      rw [isOpening] at isClosing
      cases isClosing
    rw [List.cons_append, List.cons_eq_append_iff] at split
    rcases split with ⟨rfl, same⟩ | ⟨inside, rfl, split⟩
    · -- It is the parenthesis that opens the group.
      rw [List.cons.injEq] at same
      refine ⟨ts, closing, us, same.2, isClosing, inner.nesting_eq_zero, fun front isPrefix => ?_⟩
      exact inner.nesting_nonneg isPrefix
    · rcases List.append_eq_append_iff.1 split with ⟨between, rfl, tail⟩ | ⟨between, rfl, tail⟩
      · -- It stands behind the group.
        rcases List.cons_eq_append_iff.1 tail with ⟨rfl, same⟩ | ⟨between, rfl, behind⟩
        · rw [List.cons.injEq] at same
          exact absurd same.1 notClosing
        · exact ihRest behind
      · -- It stands inside the group.
        rcases List.cons_eq_append_iff.1 tail with ⟨rfl, same⟩ | ⟨between, rfl, behind⟩
        · rw [List.cons.injEq] at same
          exact absurd same.1.symm notClosing
        · rw [behind]
          exact (ihInner rfl).append _

/-- Without a fault, the last parenthesis that stays open is reported. -/
theorem exists_lastUnclosed_of_faultless {ts : List Token} (faultless : Faultless ts)
    (deep : nesting ts ≠ 0) :
    ∃ paren, LastUnclosed ts paren ∧ convert ts = .error (.unclosed paren) := by
  obtain ⟨parens, run⟩ := exists_nestAll_iff_faultless.2 faultless
  have unclosed := unclosed_of_nest run
  -- The latest open group begins at its parenthesis, and what follows is balanced.
  cases unclosed with
  | balanced balanced => exact absurd balanced.nesting_eq_zero deep
  | @opened outer before after paren _ isOpening inside =>
    refine ⟨paren, ⟨before, after, rfl, isOpening, inside.not_closesGroup, ?_⟩, ?_⟩
    · intro front opening rest split isOpening
      exact inside.closesGroup split isOpening
    · rw [convert_eq_error_iff, run]
      rfl

/-- Without a fault and at depth zero in the end there is a result. -/
theorem exists_convert_of_faultless {ts : List Token} (faultless : Faultless ts)
    (closed : nesting ts = 0) : ∃ result, convert ts = .ok result := by
  obtain ⟨parens, run⟩ := exists_nestAll_iff_faultless.2 faultless
  have verdict : (convert ts).map (fun _ => ()) = .ok () := by
    rw [map_convert, run, (nesting_eq_zero_iff run).1 closed]
    rfl
  obtain ⟨result, converts, -⟩ := map_eq_ok_iff.1 verdict
  exact ⟨result, converts⟩

/-- What is said of an invalid token: its own message or, without one, its text. -/
def Token.objection (t : Token) : String :=
  match t.message with
  | none | some "" => "unsupported token " ++ Text.quoted t.text
  | some message => message

/-- A token without a message shows its text. -/
theorem Token.display_eq_text {t : Token} (h : t.message.getD "" = "") : t.display = t.text := by
  rw [display, h]
  split
  · next empty => exact empty.symm
  · rfl

theorem message_unsupported (t : Token) :
    (Fault.unsupported t).message = "invalid expression: " ++ t.objection := by
  have detail : t.remark?.getD ("unsupported token " ++ Text.quoted t.display) = t.objection := by
    rw [Token.objection, Token.remark?]
    split
    · next absent => rw [Token.display_eq_text (by rw [absent]; rfl), absent]; rfl
    · next empty => rw [Token.display_eq_text (by rw [empty]; rfl), empty]; rfl
    · next message notEmpty present =>
      rw [present, Option.filter_some_pos (by simpa using notEmpty)]
      rfl
  rw [Fault.message, detail]
  rfl

/-- Whether an expression is converted, and with which fault it is refused otherwise, is decided by
its depth alone. The first fault is reported, whatever follows it. Without a fault, the last left
parenthesis that no right one matches is reported, if the depth in the end is not zero, and if it is
zero there is a result. Numbers and operators do not matter, wherever they stand. -/
theorem convert_decided_by_nesting (ts : List Token) :
    (Faultless ts ∨ ∃ t, FirstFault ts t) ∧
      (∀ t, FirstFault ts t → t.kind = .invalid →
        (convert ts).mapError Fault.diagnosis =
          .error { code := .unrecognizedToken, message := "invalid expression: " ++ t.objection }) ∧
      (∀ t, FirstFault ts t → t.kind = .rightParen →
        (convert ts).mapError Fault.diagnosis =
          .error {
            code := .unbalancedParentheses
            message :=
              "invalid expression: " ++ ("unmatched ')' at position " ++ positionText t.position) }) ∧
      (Faultless ts → nesting ts ≠ 0 →
        ∃ paren, LastUnclosed ts paren ∧
          (convert ts).mapError Fault.diagnosis =
            .error {
              code := .unbalancedParentheses
              message := "invalid expression: " ++
                ("unclosed '(' at position " ++ positionText paren.position) }) ∧
      (Faultless ts → nesting ts = 0 → ∃ result, convert ts = .ok result) ∧
      (convert ts).map (fun _ => ()) =
        (convert (ts.filter fun t => !t.isTerm)).map (fun _ => ()) := by
  refine ⟨faultless_or_firstFault ts, fun t first invalid => ?_, fun t first isClosing => ?_,
    fun faultless deep => ?_, exists_convert_of_faultless, ?_⟩
  · rw [(convert_of_firstFault first).1 invalid, ← message_unsupported]
    rfl
  · rw [(convert_of_firstFault first).2 isClosing]
    rfl
  · obtain ⟨paren, last, converts⟩ := exists_lastUnclosed_of_faultless faultless deep
    refine ⟨paren, last, ?_⟩
    rw [converts]
    rfl
  · rw [map_convert, map_convert, nestAll_filter]

end ReversePolish
