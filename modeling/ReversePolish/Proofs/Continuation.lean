import Mathlib.Tactic.TFAE
import ReversePolish.Proofs.Displacement
import ReversePolish.Proofs.Resumption
import ReversePolish.Proofs.Strictness

/-!
# Scanning that goes on

Scanning can stop behind any token and go on from the place reached, or begin at a place that was
chosen freely. Nothing is remembered but the place: what is scanned from there on is the rest of the
text by itself, at the places that it has in the whole.

- `Cursor.takeTokens`: a number of tokens, one by one;
- `Cursor.moves_of_consume`, `Cursor.moves_of_takeTokens`: taking a token leads on and stays within
  the text, and so does taking several;
- `Cursor.exists_takeTokens_of_tokens`, `Cursor.exists_noToken_of_length_lt`: the tokens that are
  taken and those that are left;
- `Cursor.exists_takeTokens_end`: after so many tokens none is left, or the next one is refused;
- `Cursor.tokens_resumable`: all of this from any place.
-/

namespace ReversePolish

/-- The text of a token is the lexeme that it was taken for. -/
theorem Scan.toList_text_of_tokenOf {mode : Scan.Mode} {position : Nat} {c : Char}
    {lexeme : List Char} {t : Token} (taken : tokenOf mode position c lexeme = .ok t) :
    t.text.toList = lexeme := by
  rw [tokenOf] at taken
  split at taken
  · cases taken
    exact String.toList_ofList
  · split at taken
    · cases taken
    · cases taken
      exact String.toList_ofList

namespace Cursor

variable {mode : Scan.Mode}

/-- As many tokens as are asked for, taken one by one, and the place after them. -/
def takeTokens (mode : Scan.Mode) : Nat → Cursor → Except CursorFault (List Token × Cursor)
  | 0, cursor => .ok ([], cursor)
  | count + 1, cursor =>
    (cursor.consume mode).bind fun (t, next) =>
      (takeTokens mode count next).map fun (ts, last) => (t :: ts, last)

/-! ## One token -/

/-- A token is taken behind layout, and the place after it is the one behind its text. -/
theorem exists_gap_of_consume {cursor next : Cursor} {t : Token}
    (taken : cursor.consume mode = .ok (t, next)) :
    ∃ gap rest, cursor.remaining = gap ++ t.text.toList ++ rest ∧ t.text.toList ≠ [] ∧
      next = { cursor with position := cursor.position + gap.length + t.text.length } := by
  -- The layout in front is passed over first, and the token is taken at what is left.
  obtain ⟨gap, -, chars, place, -⟩ := skipFrom_eq mode cursor.position cursor.remaining
  rw [← skipped] at chars place
  rw [consume] at taken
  rcases found : cursor.skipped mode with ⟨position, _ | ⟨c, rest⟩⟩
  · rw [found] at taken
    cases taken
  · rw [found] at taken chars place
    dsimp only at taken chars place
    cases first : Scan.tokenOf mode position c (Scan.splitLexeme c rest).1 with
    | error fault =>
      rw [first] at taken
      cases taken
    | ok u =>
      rw [first] at taken
      cases taken
      have text := Scan.toList_text_of_tokenOf first
      refine ⟨gap, (Scan.splitLexeme c rest).2, ?_, ?_, ?_⟩
      · rw [text, List.append_assoc, Scan.splitLexeme_append, chars]
      · rw [text]
        exact Scan.splitLexeme_ne_nil c rest
      · rw [place, ← text, String.length_toList]

theorem length_remaining (cursor : Cursor) :
    cursor.remaining.length = cursor.source.length - cursor.position := by
  rw [remaining, List.length_drop, String.length_toList]

/-- What is done to a cursor when a token is taken: the expression stays, and the place moves on,
but not beyond the end. -/
structure Moves (cursor next : Cursor) : Prop where
  source : next.source = cursor.source
  forward : cursor.position < next.position
  inside : next.position ≤ cursor.source.length

theorem moves_of_consume {cursor next : Cursor} {t : Token}
    (taken : cursor.consume mode = .ok (t, next)) : Moves cursor next := by
  obtain ⟨gap, rest, chars, notEmpty, rfl⟩ := exists_gap_of_consume taken
  -- Layout and token fit into what remains, and the token is not empty.
  have length := congrArg List.length chars
  have some := List.length_pos_iff.2 notEmpty
  rw [length_remaining, List.length_append, List.length_append, String.length_toList] at length
  rw [String.length_toList] at some
  refine ⟨rfl, ?_, ?_⟩
  · change cursor.position < cursor.position + gap.length + t.text.length
    omega
  · change cursor.position + gap.length + t.text.length ≤ cursor.source.length
    omega

/-- A move that stays within the text is not stopped by the end. -/
theorem advance?_of_le {cursor : Cursor} {distance : Nat}
    (inside : cursor.position + distance ≤ cursor.source.length) :
    cursor.advance? distance = .ok { cursor with position := cursor.position + distance } := by
  have forward : ¬ (distance : Int) < 0 := by omega
  rw [advance?, if_neg forward, Int.toNat_natCast, Nat.min_eq_left inside]

/-- A token is taken by two such moves: over the layout in front of it, and over its text. -/
theorem exists_advance?_of_consume {cursor next : Cursor} {t : Token}
    (taken : cursor.consume mode = .ok (t, next)) :
    ∃ gap : Nat, (cursor.advance? gap).bind (·.advance? t.text.length) = .ok next := by
  have inside := (moves_of_consume taken).inside
  obtain ⟨gap, rest, -, -, rfl⟩ := exists_gap_of_consume taken
  change cursor.position + gap.length + t.text.length ≤ cursor.source.length at inside
  refine ⟨gap.length, ?_⟩
  rw [advance?_of_le (by omega)]
  exact advance?_of_le inside

/-! ## Several tokens -/

/-- One more token is taken in front of the others. -/
theorem takeTokens_succ_of_ok {count : Nat} {cursor middle next : Cursor} {t : Token}
    {ts : List Token} (first : cursor.consume mode = .ok (t, middle))
    (others : middle.takeTokens mode count = .ok (ts, next)) :
    cursor.takeTokens mode (count + 1) = .ok (t :: ts, next) := by
  rw [takeTokens, first]
  dsimp only [Except.bind]
  rw [others]
  rfl

/-- Taking several tokens keeps the expression, leads on by at least as many characters, and stays
within the text. -/
theorem moves_of_takeTokens {count : Nat} {cursor next : Cursor} {ts : List Token}
    (taken : cursor.takeTokens mode count = .ok (ts, next)) :
    next.source = cursor.source ∧ cursor.position + count ≤ next.position ∧
      (count ≠ 0 → next.position ≤ cursor.source.length) := by
  -- On the number of tokens. Without any, the place may be beyond the end from the start.
  induction count generalizing cursor ts with
  | zero =>
    cases taken
    simp
  | succ count ih =>
    rw [takeTokens, bind_eq_ok_iff] at taken
    obtain ⟨⟨t, middle⟩, first, others⟩ := taken
    obtain ⟨⟨us, last⟩, others, same⟩ := map_eq_ok_iff.1 others
    cases same
    have moves := moves_of_consume first
    obtain ⟨source, forward, inside⟩ := ih others
    have step := moves.forward
    refine ⟨source.trans moves.source, by omega, fun _ => ?_⟩
    -- Where no more token is taken, the first one has not led beyond the end.
    by_cases none : count = 0
    · subst none
      cases others
      exact moves.inside
    · rw [moves.source] at inside
      exact inside none

/-- Of the tokens from a place on, so many can be taken as there are. Those taken are the first
ones, and the others are there from the place reached. -/
theorem exists_takeTokens_of_tokens {cursor : Cursor} {all : List Token}
    (scans : cursor.tokens mode = .ok all) {count : Nat} (enough : count ≤ all.length) :
    ∃ next, cursor.takeTokens mode count = .ok (all.take count, next) ∧
      next.tokens mode = .ok (all.drop count) ∧ next.source = cursor.source := by
  induction count generalizing cursor all with
  | zero => exact ⟨cursor, rfl, scans, rfl⟩
  | succ count ih =>
    rcases consume_cases mode cursor with ⟨-, none, -⟩ | ⟨-, fault, -, refused⟩ |
      ⟨-, t, middle, taken, tokens⟩
    · rw [none] at scans
      cases scans
      cases enough
    · rw [refused] at scans
      cases scans
    · rw [tokens, map_eq_ok_iff] at scans
      obtain ⟨others, rest, rfl⟩ := scans
      obtain ⟨next, takes, left, source⟩ := ih rest (Nat.le_of_succ_le_succ enough)
      exact ⟨next, takeTokens_succ_of_ok taken takes, left,
        source.trans (moves_of_consume taken).source⟩

/-- More tokens than there are cannot be taken. -/
theorem exists_noToken_of_length_lt {cursor : Cursor} {all : List Token}
    (scans : cursor.tokens mode = .ok all) {count : Nat} (more : all.length < count) :
    ∃ position, cursor.takeTokens mode count = .error (.noToken position) := by
  induction count generalizing cursor all with
  | zero => cases more
  | succ count ih =>
    rw [takeTokens]
    rcases consume_cases mode cursor with ⟨-, -, position, none⟩ | ⟨-, fault, -, refused⟩ |
      ⟨-, t, middle, taken, tokens⟩
    · exact ⟨position, by rw [none]; rfl⟩
    · rw [refused] at scans
      cases scans
    · rw [tokens, map_eq_ok_iff] at scans
      obtain ⟨others, rest, rfl⟩ := scans
      obtain ⟨position, fails⟩ := ih rest (Nat.lt_of_succ_lt_succ more)
      refine ⟨position, ?_⟩
      rw [taken]
      dsimp only [Except.bind]
      rw [fails]
      rfl

theorem position_lt_of_hasNext {cursor : Cursor} (more : cursor.hasNext mode = true) :
    cursor.position < cursor.source.length := by
  -- Beyond the end nothing remains, layout or not.
  by_contra beyond
  have none : cursor.remaining = [] := by
    rw [← List.length_eq_zero_iff, length_remaining]
    omega
  rw [hasNext, skipped, none] at more
  cases more

/-- What is left after taking tokens: either none, or one that is refused. -/
theorem exists_takeTokens_end (mode : Scan.Mode) (cursor : Cursor) :
    ∃ count ts next, cursor.takeTokens mode count = .ok (ts, next) ∧
      (next.hasNext mode = false ∧ cursor.tokens mode = .ok ts ∨
        next.hasNext mode = true ∧ ∃ fault, next.consume mode = .error (.refused fault) ∧
          cursor.tokens mode = .error fault) := by
  -- On what remains of the text, of which every token takes some.
  induction left : cursor.source.length - cursor.position using Nat.strong_induction_on
    generalizing cursor with
  | _ left ih =>
    rcases consume_cases mode cursor with ⟨none, tokens, -⟩ | ⟨more, fault, refused, tokens⟩ |
      ⟨-, t, middle, taken, tokens⟩
    · exact ⟨0, [], cursor, rfl, .inl ⟨none, tokens⟩⟩
    · exact ⟨0, [], cursor, rfl, .inr ⟨more, fault, refused, tokens⟩⟩
    · have moves := moves_of_consume taken
      have forward := moves.forward
      have inside := moves.inside
      obtain ⟨count, ts, next, takes, ends⟩ :=
        ih (middle.source.length - middle.position) (by rw [moves.source]; omega) middle rfl
      refine ⟨count + 1, t :: ts, next, takeTokens_succ_of_ok taken takes, ?_⟩
      rw [tokens]
      rcases ends with ⟨none, all⟩ | ⟨more, fault, refused, fails⟩
      · exact .inl ⟨none, by rw [all]; rfl⟩
      · exact .inr ⟨more, fault, refused, by rw [fails]; rfl⟩

/-- There is no next token exactly where the tokens from the place on are none, and where taking one
fails for that reason. -/
theorem hasNext_tfae (mode : Scan.Mode) (cursor : Cursor) :
    [cursor.hasNext mode = false, cursor.tokens mode = .ok [],
      ∃ position, cursor.consume mode = .error (.noToken position)].TFAE := by
  rcases consume_cases mode cursor with ⟨none, tokens, position, fails⟩ |
    ⟨more, fault, refused, tokens⟩ | ⟨more, t, next, taken, tokens⟩
  · rw [none, tokens, fails]
    simp
  · rw [more, tokens, refused]
    simp
  · rw [more, tokens, taken]
    cases next.tokens mode <;> simp [Except.map]

/-! ## From any place -/

/-- Scanning from a place on is scanning the rest of the text by itself and moving the tokens, or
the fault, to that place; it may be taken up behind any token, and from the start of the text anew.
There is no next token exactly where none is left. Every token leads on within the text, so that
after no more steps than the text has characters none is left, or one is refused. -/
theorem tokens_resumable (mode : Scan.Mode) (cursor : Cursor) :
    (cursor.tokens mode).mapError Fault.diagnosis =
        ((Scan.tokens mode (String.ofList (cursor.source.toList.drop cursor.position))).map
          (List.map (Token.shift cursor.position))).mapError
          (fun fault => fault.diagnosis.shift cursor.position) ∧
      (∃ all, cursor.tokens mode.leniently = .ok all ∧
        (∀ count ≤ all.length, ∃ next,
          cursor.takeTokens mode.leniently count = .ok (all.take count, next) ∧
            next.tokens mode.leniently = .ok (all.drop count) ∧
            next.reset.tokens mode.leniently = Scan.tokens mode.leniently cursor.source) ∧
        ∀ count, all.length < count → ∃ position,
          cursor.takeTokens mode.leniently count = .error (.noToken position)) ∧
      cursor.reset.tokens mode = Scan.tokens mode cursor.source ∧
      [cursor.hasNext mode = false, cursor.tokens mode = .ok [],
        ∃ position, cursor.consume mode = .error (.noToken position)].TFAE ∧
      (∀ t next, cursor.consume mode = .ok (t, next) →
        next.source = cursor.source ∧ cursor.position < next.position ∧
          next.position ≤ cursor.source.length ∧
          ∃ gap : Nat, (cursor.advance? gap).bind (·.advance? t.text.length) = .ok next) ∧
      ∃ count ts next, cursor.takeTokens mode count = .ok (ts, next) ∧
        (next.hasNext mode = false ∧ cursor.tokens mode = .ok ts ∧
            count ≤ cursor.source.length ∨
          next.hasNext mode = true ∧ count + 1 ≤ cursor.source.length ∧
            ∃ fault, next.consume mode = .error (.refused fault) ∧
              cursor.tokens mode = .error fault) := by
  refine ⟨?_, ?_, tokens_reset mode cursor, hasNext_tfae mode cursor, ?_, ?_⟩
  · -- The rest of the text by itself is scanned at place zero, and then moved.
    rw [Scan.tokens, String.toList_ofList, ← Scan.tokensFrom_shift, Nat.zero_add]
    rfl
  · obtain ⟨all, scans, -⟩ :=
      Scan.exists_tokensFrom_leniently mode cursor.position cursor.remaining
    refine ⟨all, scans, fun count enough => ?_, fun count more =>
      exists_noToken_of_length_lt scans more⟩
    obtain ⟨next, takes, left, source⟩ := exists_takeTokens_of_tokens scans enough
    exact ⟨next, takes, left, by rw [tokens_reset, source]⟩
  · intro t next taken
    have moves := moves_of_consume taken
    exact ⟨moves.source, moves.forward, moves.inside, exists_advance?_of_consume taken⟩
  · obtain ⟨count, ts, next, takes, ends⟩ := exists_takeTokens_end mode cursor
    obtain ⟨source, forward, inside⟩ := moves_of_takeTokens takes
    refine ⟨count, ts, next, takes, ?_⟩
    rcases ends with ⟨none, tokens⟩ | ⟨more, fault, refused, tokens⟩
    · refine .inl ⟨none, tokens, ?_⟩
      by_cases nothing : count = 0
      · omega
      · have bound := inside nothing
        omega
    · -- The token that is refused begins within the text.
      have begins := position_lt_of_hasNext more
      rw [source] at begins
      exact .inr ⟨more, by omega, fault, refused, tokens⟩

end Cursor

end ReversePolish
