import ReversePolish.Cursor
import ReversePolish.Proofs.Pending
import ReversePolish.Proofs.Scanning

/-!
# Scanning in parts

A text can be scanned in one go, in two parts, or token by token from a cursor.

- `Scan.Apart`: no number goes on from one text into the next;
- `Scan.tokensFrom_append`: where a text is cut between two such parts, its tokens are those of the
  parts;
- `Cursor.Drains`: tokens are taken from a cursor as long as there are any;
- `Cursor.tokens_eq_ok_iff_drains`: this gives the tokens from the cursor on.
-/

namespace ReversePolish

namespace Scan

open Lexeme

variable {mode : Mode}

/-! ## Two parts of a text -/

/-- The text ends neither in a digit nor in a point, so that no number at its end can be carried
on. -/
def ClosesNumber (cs : List Char) : Prop :=
  ∀ c ∈ cs.getLast?, c.isDigit = false ∧ c ≠ '.'

/-- No number goes on from the one text into the other, because of how the one ends or of how the
other begins. -/
def Apart (cs rest : List Char) : Prop :=
  ClosesNumber cs ∨ StopsNumber rest

theorem ClosesNumber.of_append {front back : List Char} (h : ClosesNumber (front ++ back)) :
    ClosesNumber back := by
  intro c hc
  refine h c ?_
  rw [List.getLast?_append, Option.mem_def.1 hc]
  rfl

/-- What stands in front of a lexeme does not matter. -/
theorem Apart.of_append {front back rest : List Char} (h : Apart (front ++ back) rest) :
    Apart back rest :=
  h.imp_left ClosesNumber.of_append

/-- A written number can be carried on. -/
theorem not_closesNumber_of_isNumber {cs : List Char} (number : isNumber cs = true) :
    ¬ ClosesNumber cs := by
  obtain ⟨d, rest, rfl, -⟩ := exists_cons_of_isNumber number
  intro closes
  have last := List.getLast?_eq_some_getLast (List.cons_ne_nil d rest)
  obtain ⟨notDigit, notPoint⟩ := closes _ last
  rcases isDigit_or_point_of_mem number (List.getLast_mem (List.cons_ne_nil d rest)) with
    digit | point
  · rw [digit] at notDigit
    cases notDigit
  · exact notPoint point

/-- A number still ends where it did when more follows, if that carries no number on. -/
theorem EndsNumber.append {cs behind rest : List Char} (ends : EndsNumber cs behind)
    (stop : StopsNumber rest) : EndsNumber cs (behind ++ rest) where
  noDigit c hc := by
    cases behind with
    | nil => exact (stop c hc).1
    | cons d behind => exact ends.noDigit c hc
  noFraction noPoint d after point := by
    -- The point and the digit behind it may stand on either side of the cut.
    rcases behind with _ | ⟨x, _ | ⟨y, behind⟩⟩
    · rw [List.nil_append] at point
      exact absurd rfl (stop '.' (by rw [point]; rfl)).2
    · rw [List.cons_append, List.nil_append, List.cons.injEq] at point
      exact (stop d (by rw [point.2]; rfl)).1
    · rw [List.cons_append, List.cons_append, List.cons.injEq, List.cons.injEq] at point
      exact ends.noFraction noPoint d behind (by rw [point.1, point.2.1])

/-- So it does when something stands behind it that can itself not be carried on. -/
theorem EndsNumber.append_of_closes {cs behind : List Char} (ends : EndsNumber cs behind)
    (some : behind ≠ []) (closes : ClosesNumber behind) (rest : List Char) :
    EndsNumber cs (behind ++ rest) where
  noDigit c hc := by
    obtain ⟨x, behind, rfl⟩ := List.exists_cons_of_ne_nil some
    exact ends.noDigit c hc
  noFraction noPoint d after point := by
    -- A lone point in front of the cut would be its end.
    rcases behind with _ | ⟨x, _ | ⟨y, behind⟩⟩
    · exact absurd rfl some
    · rw [List.cons_append, List.cons.injEq] at point
      exact absurd point.1 (closes x rfl).2
    · rw [List.cons_append, List.cons_append, List.cons.injEq, List.cons.injEq] at point
      exact ends.noFraction noPoint d behind (by rw [point.1, point.2.1])

/-- The first lexeme of a text stays the same when more follows, if no number goes on into that. -/
theorem splitLexeme_append_of_apart {c : Char} {cs rest : List Char}
    (apart : Apart (c :: cs) rest) :
    splitLexeme c (cs ++ rest) = ((splitLexeme c cs).1, (splitLexeme c cs).2 ++ rest) := by
  by_cases digit : c.isDigit = true
  · have parts := splitNumber_append (c :: cs)
    have number := isNumber_splitNumber digit cs
    have ends : EndsNumber (splitNumber (c :: cs)).1 ((splitNumber (c :: cs)).2 ++ rest) := by
      have alone := endsNumber_splitNumber (c :: cs)
      rcases apart with closes | stop
      · rw [← parts] at closes
        refine alone.append_of_closes (fun none => ?_) closes.of_append rest
        -- Were the number all there is, it could be carried on.
        rw [none, List.append_nil] at closes
        exact not_closesNumber_of_isNumber number closes
      · exact alone.append stop
    have whole : c :: (cs ++ rest) =
        (splitNumber (c :: cs)).1 ++ ((splitNumber (c :: cs)).2 ++ rest) := by
      rw [← List.append_assoc, parts, List.cons_append]
    rw [splitLexeme, splitLexeme, if_pos digit, if_pos digit, whole]
    exact splitNumber_of_isNumber number ends
  · simp [splitLexeme, digit]

/-- A text that is cut where no number goes on has the tokens of its two parts. -/
theorem tokensFrom_append {cs rest : List Char} (apart : Apart cs rest) (position : Nat) :
    tokensFrom mode position (cs ++ rest) =
      (tokensFrom mode position cs).bind fun ts =>
        (tokensFrom mode (position + cs.length) rest).map (ts ++ ·) := by
  -- By the recursion of scanning: a character that is skipped, or a lexeme.
  fun_induction tokensFrom mode position cs with
  | case1 position =>
    rw [List.nil_append, List.length_nil, Nat.add_zero]
    cases tokensFrom mode position rest <;> rfl
  | case2 position c cs skipped ih =>
    have behind : Apart cs rest := Apart.of_append (show Apart ([c] ++ cs) rest from apart)
    rw [List.cons_append, tokensFrom, if_pos skipped, ih behind, List.length_cons]
    congr 2
    funext ts
    congr 2
    omega
  | case3 position c cs kept fault refused =>
    rw [List.cons_append, tokensFrom, if_neg kept, splitLexeme_append_of_apart apart, refused]
    rfl
  | case4 position c cs kept token taken ih =>
    have whole := splitLexeme_append c cs
    have behind : Apart (splitLexeme c cs).2 rest := by
      rw [← whole] at apart
      exact apart.of_append
    have parts := congrArg List.length whole
    rw [List.length_append] at parts
    rw [List.cons_append, tokensFrom, if_neg kept, splitLexeme_append_of_apart apart, taken]
    dsimp only
    rw [ih behind, Nat.add_assoc, parts]
    cases tokensFrom mode (position + (splitLexeme c cs).1.length) (splitLexeme c cs).2 with
    | error fault => rfl
    | ok ts => cases tokensFrom mode (position + (c :: cs).length) rest <;> rfl

end Scan

/-! ## Token by token -/

namespace Cursor

variable {mode : Scan.Mode}

/-- The layout at a place is passed over up to the first character that is not skipped. -/
theorem skipFrom_eq (mode : Scan.Mode) (position : Nat) (cs : List Char) :
    ∃ gap, (∀ c ∈ gap, mode.skips c = true) ∧ cs = gap ++ (skipFrom mode position cs).2 ∧
      (skipFrom mode position cs).1 = position + gap.length ∧
      ∀ c ∈ (skipFrom mode position cs).2.head?, mode.skips c = false := by
  induction cs generalizing position with
  | nil => exact ⟨[], by simp, rfl, rfl, by simp [skipFrom]⟩
  | cons c cs ih =>
    by_cases skipped : mode.skips c = true
    · obtain ⟨gap, all, chars, place, stop⟩ := ih (position + 1)
      rw [skipFrom, if_pos skipped]
      refine ⟨c :: gap, List.forall_mem_cons.2 ⟨skipped, all⟩,
        by rw [List.cons_append, ← chars], ?_, stop⟩
      rw [place, List.length_cons]
      omega
    · rw [skipFrom, if_neg skipped]
      exact ⟨[], by simp, rfl, rfl, by simpa using skipped⟩

/-- Whether or not the layout at a place is passed over first, the tokens are the same. -/
theorem tokensFrom_skipFrom (position : Nat) (cs : List Char) :
    Scan.tokensFrom mode (skipFrom mode position cs).1 (skipFrom mode position cs).2 =
      Scan.tokensFrom mode position cs := by
  obtain ⟨gap, all, chars, place, -⟩ := skipFrom_eq mode position cs
  have moved := Scan.tokensFrom_gap all position (skipFrom mode position cs).2
  rw [← chars, ← place] at moved
  exact moved.symm

/-- The tokens of a place are those of the next lexeme and what follows it. -/
theorem tokens_eq (cursor : Cursor) :
    cursor.tokens mode =
      Scan.tokensFrom mode (cursor.skipped mode).1 (cursor.skipped mode).2 :=
  (tokensFrom_skipFrom cursor.position cursor.remaining).symm

/-- The characters from a lexeme on stand at the place that is given for it. -/
theorem drop_skipped (mode : Scan.Mode) (cursor : Cursor) :
    cursor.source.toList.drop (cursor.skipped mode).1 = (cursor.skipped mode).2 := by
  obtain ⟨gap, -, chars, place, -⟩ := skipFrom_eq mode cursor.position cursor.remaining
  rw [← skipped, remaining] at chars
  rw [← skipped] at place
  rw [place, ← List.drop_drop, chars, List.drop_left]

/-- What can become of the next token: there is none, it is refused, or it is taken. The tokens from
the place on say the same, and go on behind a token that is taken. -/
theorem consume_cases (mode : Scan.Mode) (cursor : Cursor) :
    (cursor.hasNext mode = false ∧ cursor.tokens mode = .ok [] ∧
        ∃ position, cursor.consume mode = .error (.noToken position)) ∨
      (cursor.hasNext mode = true ∧
        ∃ fault, cursor.consume mode = .error (.refused fault) ∧
          cursor.tokens mode = .error fault) ∨
      (cursor.hasNext mode = true ∧
        ∃ t next, cursor.consume mode = .ok (t, next) ∧
          cursor.tokens mode = (next.tokens mode).map (t :: ·)) := by
  have behind := drop_skipped mode cursor
  obtain ⟨-, -, -, -, stop⟩ := skipFrom_eq mode cursor.position cursor.remaining
  rw [← skipped] at stop
  rw [hasNext, consume, tokens_eq]
  rcases place : cursor.skipped mode with ⟨position, _ | ⟨c, rest⟩⟩
  · -- Only layout is left.
    exact .inl ⟨rfl, by rw [Scan.tokensFrom], position, rfl⟩
  · rw [place] at behind stop
    have kept : mode.skips c = false := stop c rfl
    rw [Scan.tokensFrom, if_neg (by simp [kept])]
    dsimp only
    cases first : Scan.tokenOf mode position c (Scan.splitLexeme c rest).1 with
    | error fault => exact .inr (.inl ⟨rfl, fault, rfl, rfl⟩)
    | ok t =>
      refine .inr (.inr ⟨rfl, t, _, rfl, ?_⟩)
      -- Behind the lexeme stands what it leaves of the text.
      rw [tokens, remaining, ← List.drop_drop, behind, ← Scan.splitLexeme_append c rest,
        List.drop_left]

/-- Tokens are taken from the cursor one by one, as long as there is a next one. -/
inductive Drains (mode : Scan.Mode) : Cursor → List Token → Prop
  | done {cursor : Cursor} (none : cursor.hasNext mode = false) : Drains mode cursor []
  | next {cursor next : Cursor} {t : Token} {ts : List Token}
      (more : cursor.hasNext mode = true) (taken : cursor.consume mode = .ok (t, next))
      (rest : Drains mode next ts) : Drains mode cursor (t :: ts)

/-- Taking tokens one by one gives the tokens from the place on. -/
theorem tokens_eq_ok_iff_drains {cursor : Cursor} {ts : List Token} :
    cursor.tokens mode = .ok ts ↔ Drains mode cursor ts := by
  constructor
  · -- On the tokens: each of them is one that is taken.
    intro scans
    induction ts generalizing cursor with
    | nil =>
      rcases consume_cases mode cursor with ⟨none, -, -⟩ | ⟨-, fault, -, all⟩ | ⟨-, t, next, -, all⟩
      · exact .done none
      · rw [all] at scans
        cases scans
      · rw [all, map_eq_ok_iff] at scans
        obtain ⟨us, -, absurd⟩ := scans
        cases absurd
    | cons t ts ih =>
      rcases consume_cases mode cursor with ⟨-, all, -⟩ | ⟨-, fault, -, all⟩ |
        ⟨more, u, next, taken, all⟩
      · rw [all] at scans
        cases scans
      · rw [all] at scans
        cases scans
      · rw [all, map_eq_ok_iff] at scans
        obtain ⟨us, rest, same⟩ := scans
        cases same
        exact .next more taken (ih rest)
  · intro drains
    induction drains with
    | @done cursor none =>
      rcases consume_cases mode cursor with ⟨-, all, -⟩ | ⟨more, -⟩ | ⟨more, -⟩
      · exact all
      · rw [none] at more
        cases more
      · rw [none] at more
        cases more
    | @next cursor next t ts _ taken _ ih =>
      rcases consume_cases mode cursor with ⟨-, -, _, absurd⟩ | ⟨-, fault, absurd, -⟩ |
        ⟨-, u, after, taken', all⟩
      · rw [taken] at absurd
        cases absurd
      · rw [taken] at absurd
        cases absurd
      · rw [taken] at taken'
        cases taken'
        rw [all, ih]
        rfl

end Cursor

end ReversePolish
