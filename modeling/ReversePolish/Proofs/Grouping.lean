import ReversePolish.Proofs.Pending

/-!
# Groups as operands

A group in parentheses is converted on its own: what stands around it treats it like a single
number, and what stands inside it never touches the operators that wait outside. This holds in any
surroundings, also in those that are no expressions, and for any tokens in the group that can be
converted.

- `Conversion.feedAll_after`: a run does not depend on what was emitted before it;
- `Conversion.feedAll_within`: a run that succeeds does the same inside an open group;
- `exists_context`: two lists around a hole either refuse all that can be put into it, or put it
  between the same tokens of the result;
- `convert_group`: the result with a group has the result of the group in the place of a number.
-/

namespace ReversePolish

namespace Conversion

/-! ## What was emitted before -/

/-- The state, if `earlier` was emitted before all that it emitted; the latest comes first. -/
def after (state : Conversion) (earlier : List Token) : Conversion :=
  { state with emitted := state.emitted ++ earlier }

/-- A token is taken alike, whatever was emitted before. -/
theorem feed_after (state : Conversion) (earlier : List Token) (t : Token) :
    (state.after earlier).feed t = (state.feed t).map (·.after earlier) := by
  cases hk : t.kind with
  | number spelling => simp [feed, hk, Except.map, emit, after]
  | operator op => simp [feed, hk, Except.map, await, after]
  | leftParen => simp [feed, hk, Except.map, openGroup, after]
  | rightParen =>
    simp only [feed, hk, closeGroup, after]
    split
    · rfl
    · simp [Except.map]
  | invalid => simp [feed, hk, Except.map]

/-- A run is the same, whatever was emitted before. -/
theorem feedAll_after (state : Conversion) (earlier ts : List Token) :
    (state.after earlier).feedAll ts = (state.feedAll ts).map (·.after earlier) := by
  induction ts generalizing state with
  | nil => rfl
  | cons t ts ih =>
    rw [feedAll_cons, feedAll_cons, feed_after]
    cases state.feed t with
    | error fault => rfl
    | ok next => exact ih next

/-- What was emitted before begins the result. -/
theorem finish_after (state : Conversion) (earlier : List Token) :
    (state.after earlier).finish = state.finish.map (earlier.reverse ++ ·) := by
  rw [finish, finish, after]
  dsimp only
  cases state.pending.find? (·.kind = .leftParen) with
  | some paren => rfl
  | none => simp [Except.map]

/-! ## What waits outside -/

/-- The state inside a group that `paren` opened, where `outside` waits outside the group. -/
def within (state : Conversion) (paren : Token) (outside : List Token) : Conversion :=
  { state with pending := state.pending ++ paren :: outside }

/-- A token that is taken is taken alike inside a group. -/
theorem Feeds.within {state next : Conversion} {t paren : Token} (fed : Feeds state t next)
    (isOpening : paren.kind = .leftParen) (outside : List Token) :
    Feeds (state.within paren outside) t (next.within paren outside) := by
  cases fed with
  | number isNumber => exact .number isNumber
  | operator isOperator =>
    have parts : (state.within paren outside).pending =
        state.pending.takeWhile (·.yieldsTo t) ++
          (state.pending.dropWhile (·.yieldsTo t) ++ paren :: outside) := by
      rw [← List.append_assoc, List.takeWhile_append_dropWhile]
      rfl
    -- The parenthesis stops an operator where nothing else does.
    have awaited : (state.within paren outside).await t =
        (state.await t).within paren outside := by
      refine await_eq isOperator parts
        (fun u hu => Token.yields_of_mem_takeWhile isOperator hu) fun u hu => ?_
      cases kept : state.pending.dropWhile (·.yieldsTo t) with
      | nil =>
        rw [kept] at hu
        obtain rfl : paren = u := by simpa using hu
        exact .inl isOpening
      | cons v rest =>
        rw [kept] at hu
        obtain rfl : v = u := by simpa using hu
        exact Token.stays_of_mem_head? isOperator (by rw [kept]; rfl)
    rw [← awaited]
    exact .operator isOperator
  | opening isOpening' => exact .opening isOpening'
  | @closing inside between inner isClosing isInside isOpening' pending =>
    -- The group that is closed was opened later than `paren`.
    have parts : (state.within paren outside).pending =
        inside ++ inner :: (between ++ paren :: outside) := by
      rw [Conversion.within, pending]
      simp
    exact .closing isClosing isInside isOpening' parts

/-- A run that succeeds does the same inside a group. -/
theorem feedAll_within {state final : Conversion} {paren : Token} {ts : List Token}
    (run : state.feedAll ts = .ok final) (isOpening : paren.kind = .leftParen)
    (outside : List Token) :
    (state.within paren outside).feedAll ts = .ok (final.within paren outside) := by
  induction ts generalizing state with
  | nil =>
    rw [feedAll_nil, Except.ok.injEq] at run
    rw [run]
    rfl
  | cons t ts ih =>
    obtain ⟨next, fed, rest⟩ := feedAll_cons_eq_ok_iff.1 run
    exact feedAll_cons_eq_ok_iff.2 ⟨_, fed.within isOpening outside, ih rest⟩

end Conversion

open Conversion

/-! ## Blocks and their surroundings -/

/-- Wherever the tokens of the block are taken, they emit the result and leave waiting what
waits. -/
def Emits (block result : List Token) : Prop :=
  ∀ state : Conversion,
    state.feedAll block = .ok { state with emitted := result.reverse ++ state.emitted }

theorem Emits.number {t : Token} (isNumber : t.isNumber = true) : Emits [t] [t] := by
  intro state
  exact feedAll_cons_eq_ok_iff.2 ⟨_, .number isNumber, rfl⟩

/-- A group emits the result of what stands inside it. -/
theorem Emits.group {ts result : List Token} {opening closing : Token}
    (converts : convert ts = .ok result) (isOpening : opening.kind = .leftParen)
    (isClosing : closing.kind = .rightParen) : Emits (opening :: ts ++ [closing]) result := by
  intro state
  obtain ⟨final, run, ending⟩ := convert_eq_ok_iff.1 converts
  obtain ⟨closed, rfl⟩ := finish_eq_ok_iff.1 ending
  -- Inside the group the tokens do what they do on their own.
  have inside : (state.openGroup opening).feedAll ts =
      .ok ((final.within opening state.pending).after state.emitted) := by
    change ((start.within opening state.pending).after state.emitted).feedAll ts = _
    rw [feedAll_after, feedAll_within run isOpening]
    rfl
  have last : Feeds ((final.within opening state.pending).after state.emitted) closing
      { emitted := final.pending.reverse ++ (final.emitted ++ state.emitted)
        pending := state.pending } :=
    .closing isClosing closed isOpening rfl
  rw [List.cons_append, feedAll_cons_eq_ok_iff]
  refine ⟨_, .opening isOpening, ?_⟩
  rw [feedAll_append, inside]
  refine feedAll_cons_eq_ok_iff.2 ⟨_, last, ?_⟩
  simp

/-- Behind a block the second list is taken on top of what waits, and what was emitted only comes
before. -/
theorem convert_around {first block result : List Token} {state : Conversion}
    (run : start.feedAll first = .ok state) (emits : Emits block result) (second : List Token) :
    convert (first ++ block ++ second) =
      ((({ pending := state.pending } : Conversion).feedAll second).bind finish).map
        (state.emitted.reverse ++ result ++ ·) := by
  have taken : start.feedAll (first ++ block) = .ok
      (({ pending := state.pending } : Conversion).after (result.reverse ++ state.emitted)) := by
    rw [feedAll_append, run]
    exact emits state
  rw [convert, feedAll_append, taken]
  change (feedAll _ second).bind finish = _
  rw [feedAll_after]
  cases ({ pending := state.pending } : Conversion).feedAll second with
  | error fault => rfl
  | ok final =>
    change (final.after _).finish = _
    rw [finish_after, List.reverse_append, List.reverse_reverse]
    rfl

/-- Two lists around a hole refuse whatever is put into the hole, or they put its result between the
same tokens; the numbers before it are those of the first list. -/
theorem exists_context (first second : List Token) :
    (∃ fault, ∀ {block result : List Token}, Emits block result →
      convert (first ++ block ++ second) = .error fault) ∨
    ∃ before behind, before.filter Token.isNumber = first.filter Token.isNumber ∧
      ∀ {block result : List Token}, Emits block result →
        convert (first ++ block ++ second) = .ok (before ++ result ++ behind) := by
  cases run : start.feedAll first with
  | error fault =>
    -- The hole is never reached.
    refine .inl ⟨fault, fun _ => ?_⟩
    rw [convert, List.append_assoc, feedAll_append, run]
    rfl
  | ok state =>
    -- Neither the block nor its result has a part in what the second list does.
    cases rest : (({ pending := state.pending } : Conversion).feedAll second).bind finish with
    | error fault =>
      refine .inl ⟨fault, fun emits => ?_⟩
      rw [convert_around run emits, rest]
      rfl
    | ok tokens =>
      have numbers := (accounts_of_feedAll run).numbers
      refine .inr ⟨state.emitted.reverse, tokens, numbers, fun emits => ?_⟩
      rw [convert_around run emits, rest]
      rfl

/-- A group is treated like a number by what stands around it. Where a number is refused, so is any
group that can be converted on its own, with the same fault; where a number is taken, the result
with the group has that of the group in the place of the number. That place is known by the numbers
before it. -/
theorem convert_group {first second ts result : List Token} {number opening closing : Token}
    (converts : convert ts = .ok result) (isNumber : number.isNumber = true)
    (isOpening : opening.kind = .leftParen) (isClosing : closing.kind = .rightParen) :
    (∀ fault, convert (first ++ [number] ++ second) = .error fault →
      convert (first ++ (opening :: ts ++ [closing]) ++ second) = .error fault) ∧
    (∀ tokens, convert (first ++ [number] ++ second) = .ok tokens →
      ∃ before behind, tokens = before ++ [number] ++ behind ∧
        before.filter Token.isNumber = first.filter Token.isNumber ∧
        convert (first ++ (opening :: ts ++ [closing]) ++ second) =
          .ok (before ++ result ++ behind)) := by
  have single := Emits.number isNumber
  have group := Emits.group converts isOpening isClosing
  rcases exists_context first second with ⟨fault, refuses⟩ | ⟨before, behind, numbers, takes⟩
  · rw [refuses single, refuses group]
    refine ⟨fun _ same => same, fun tokens absurd => ?_⟩
    cases absurd
  · rw [takes single, takes group]
    refine ⟨fun fault absurd => ?_, fun tokens same => ?_⟩
    · cases absurd
    · cases same
      exact ⟨before, behind, rfl, numbers, rfl⟩

/-- In `2-` and `*3`, where the surroundings are malformed as well, the group `(4/+)` takes the
place of a number. -/
theorem convert_group_malformed :
    let two : Token := { kind := .number .integer, text := "2", position := some 0 }
    let minus : Token := { kind := .operator .sub, text := "-", position := some 1 }
    let opening : Token := { kind := .leftParen, text := "(", position := some 2 }
    let four : Token := { kind := .number .integer, text := "4", position := some 3 }
    let slash : Token := { kind := .operator .div, text := "/", position := some 4 }
    let plus : Token := { kind := .operator .add, text := "+", position := some 5 }
    let closing : Token := { kind := .rightParen, text := ")", position := some 6 }
    let times : Token := { kind := .operator .mul, text := "*", position := some 7 }
    let three : Token := { kind := .number .integer, text := "3", position := some 8 }
    let nine : Token := { kind := .number .integer, text := "9", position := some 2 }
    convert [four, slash, plus] = .ok [four, slash, plus] ∧
      convert ([two, minus] ++ [nine] ++ [times, three]) = .ok [two, nine, three, times, minus] ∧
      ∃ before behind, [two, nine, three, times, minus] = before ++ [nine] ++ behind ∧
        before.filter Token.isNumber = [two, minus].filter Token.isNumber ∧
        convert ([two, minus] ++ (opening :: [four, slash, plus] ++ [closing]) ++ [times, three]) =
          .ok (before ++ [four, slash, plus] ++ behind) :=
  ⟨by decide, by decide,
    (convert_group (by decide) (by decide) (by decide) (by decide)).2 _ (by decide)⟩

end ReversePolish
