import ReversePolish.Proofs.Continuation

/-!
# Histories of cursors

A cursor is asked again and again to move on: by a number of characters, or over the next token. The
expression stays the same throughout, and a request that fails leaves the cursor where it is. Within
the text no request leads back. A cursor may also be put beyond the end, where there is no token to
be taken, and from there any number of characters leads to the end, which is a step back.

- `Cursor.Request`, `Cursor.history`: what is asked for, and the cursors that this leads to;
- `Cursor.follow_position_lt_iff`: which requests lead back, and from where;
- `Cursor.ascends_history_iff`: in which histories none does.
-/

namespace ReversePolish.Cursor

/-! ## Requests -/

/-- What a cursor is asked for. -/
inductive Request where
  /-- To move on by a number of characters. -/
  | advance (distance : Int)
  /-- To take the next token, scanning in the given mode. -/
  | consume (mode : Scan.Mode)
  deriving DecidableEq, Repr

/-- The cursor that a request leads to. -/
def follow? (cursor : Cursor) : Request → Except CursorFault Cursor
  | .advance distance => cursor.advance? distance
  | .consume mode => (cursor.consume mode).map (·.2)

/-- The cursor after a request. One that fails leaves it where it is. -/
def follow (cursor : Cursor) (request : Request) : Cursor :=
  match cursor.follow? request with
  | .ok next => next
  | .error _ => cursor

/-- The request moves the cursor by a number of characters, which may be none. A negative number is
refused. -/
def Request.IsAdvance (request : Request) : Prop :=
  ∃ distance : Nat, request = .advance distance

/-- The end of the expression. -/
def atEnd (cursor : Cursor) : Cursor :=
  { cursor with position := cursor.source.length }

variable {cursor : Cursor} {request : Request}

theorem follow_advance (cursor : Cursor) (distance : Nat) :
    cursor.follow (.advance distance) =
      { cursor with position := min (cursor.position + distance) cursor.source.length } := by
  have forward : ¬ (distance : Int) < 0 := by omega
  rw [follow, follow?, advance?, if_neg forward, Int.toNat_natCast]

/-- A request that does not advance leaves the cursor where it is, unless it takes a token. -/
theorem follow_eq_or_moves (cursor : Cursor) (stays : ¬ request.IsAdvance) :
    cursor.follow request = cursor ∨ Moves cursor (cursor.follow request) := by
  cases request with
  | advance distance =>
    have backwards : distance < 0 := by
      by_contra forward
      exact stays ⟨distance.toNat, by rw [Int.toNat_of_nonneg (by omega)]⟩
    left
    rw [follow, follow?, advance?, if_pos backwards]
  | consume mode =>
    rw [follow, follow?]
    cases taken : cursor.consume mode with
    | error fault => exact .inl rfl
    | ok result =>
      obtain ⟨t, next⟩ := result
      exact .inr (moves_of_consume taken)

/-- The expression stays the same. -/
theorem source_follow (cursor : Cursor) (request : Request) :
    (cursor.follow request).source = cursor.source := by
  by_cases advances : request.IsAdvance
  · obtain ⟨distance, rfl⟩ := advances
    rw [follow_advance]
  · rcases cursor.follow_eq_or_moves advances with same | moves
    · rw [same]
    · exact moves.source

/-- Within the text every request leads on, or nowhere, and not beyond the end. -/
theorem follow_of_le (inside : cursor.position ≤ cursor.source.length) (request : Request) :
    cursor.position ≤ (cursor.follow request).position ∧
      (cursor.follow request).position ≤ cursor.source.length := by
  by_cases advances : request.IsAdvance
  · obtain ⟨distance, rfl⟩ := advances
    rw [follow_advance]
    exact ⟨le_min (Nat.le_add_right _ _) inside, Nat.min_le_right _ _⟩
  · rcases cursor.follow_eq_or_moves advances with same | moves
    · rw [same]
      exact ⟨le_refl _, inside⟩
    · exact ⟨moves.forward.le, moves.inside⟩

/-- Beyond the end every advance leads to the end. -/
theorem follow_of_isAdvance (beyond : cursor.source.length ≤ cursor.position)
    (advances : request.IsAdvance) : cursor.follow request = cursor.atEnd := by
  obtain ⟨distance, rfl⟩ := advances
  rw [follow_advance, Nat.min_eq_right (by omega), atEnd]

/-- Beyond the end a cursor stays as long as it does not advance. -/
theorem follow_of_not_isAdvance (beyond : cursor.source.length ≤ cursor.position)
    (stays : ¬ request.IsAdvance) : cursor.follow request = cursor := by
  rcases cursor.follow_eq_or_moves stays with same | moves
  · exact same
  · -- There is no token to be taken.
    have forward := moves.forward
    have inside := moves.inside
    omega

/-- A request leads back exactly if it is an advance from beyond the end. -/
theorem follow_position_lt_iff :
    (cursor.follow request).position < cursor.position ↔
      cursor.source.length < cursor.position ∧ request.IsAdvance := by
  by_cases inside : cursor.position ≤ cursor.source.length
  · have forward := (follow_of_le inside request).1
    constructor
    · intro back
      omega
    · rintro ⟨beyond, -⟩
      omega
  · have beyond : cursor.source.length ≤ cursor.position := by omega
    by_cases advances : request.IsAdvance
    · rw [follow_of_isAdvance beyond advances]
      simp only [atEnd, advances, and_true]
    · rw [follow_of_not_isAdvance beyond advances]
      simp [advances]

/-! ## Histories -/

/-- The cursors of a history: the first one, and the one after each request. -/
def history (cursor : Cursor) (requests : List Request) : List Cursor :=
  requests.scanl follow cursor

/-- The places of the cursors never decrease. -/
def Ascends (cursors : List Cursor) : Prop :=
  cursors.IsChain fun cursor next => cursor.position ≤ next.position

theorem history_cons (cursor : Cursor) (request : Request) (requests : List Request) :
    cursor.history (request :: requests) =
      cursor :: (cursor.follow request).history requests :=
  List.scanl_cons

/-- A history begins with its cursor. -/
theorem head?_history (cursor : Cursor) (requests : List Request) :
    (cursor.history requests).head? = some cursor := by
  cases requests with
  | nil => rfl
  | cons request requests => rw [history_cons, List.head?_cons]

theorem ascends_history_cons_iff {requests : List Request} :
    Ascends (cursor.history (request :: requests)) ↔
      cursor.position ≤ (cursor.follow request).position ∧
        Ascends ((cursor.follow request).history requests) := by
  rw [history_cons, Ascends, List.isChain_cons, head?_history]
  simp [Ascends]

/-- The expression stays the same in a history. -/
theorem source_of_mem_history {requests : List Request} {later : Cursor}
    (mem : later ∈ cursor.history requests) : later.source = cursor.source := by
  induction requests generalizing cursor with
  | nil =>
    rw [history, List.scanl_nil, List.mem_singleton] at mem
    rw [mem]
  | cons request requests ih =>
    rw [history_cons, List.mem_cons] at mem
    rcases mem with rfl | mem
    · rfl
    · rw [ih mem, source_follow]

/-- A history that begins within the text never leads back. -/
theorem ascends_history_of_le (inside : cursor.position ≤ cursor.source.length)
    (requests : List Request) : Ascends (cursor.history requests) := by
  induction requests generalizing cursor with
  | nil => exact .singleton _
  | cons request requests ih =>
    have step := follow_of_le inside request
    refine ascends_history_cons_iff.2 ⟨step.1, ih ?_⟩
    rw [source_follow]
    exact step.2

/-- Beyond the end a cursor stays until it advances for the first time, and then goes on from the
end. -/
theorem history_of_beyond (beyond : cursor.source.length ≤ cursor.position)
    {before : List Request} (stays : ∀ request ∈ before, ¬ request.IsAdvance)
    (advances : request.IsAdvance) (later : List Request) :
    cursor.history (before ++ request :: later) =
      List.replicate (before.length + 1) cursor ++ cursor.atEnd.history later := by
  induction before with
  | nil =>
    rw [List.nil_append, history_cons, follow_of_isAdvance beyond advances]
    rfl
  | cons first before ih =>
    rw [List.forall_mem_cons] at stays
    rw [List.cons_append, history_cons, follow_of_not_isAdvance beyond stays.1, ih stays.2,
      List.length_cons, List.replicate_succ (n := before.length + 1), List.cons_append]

/-- In a history no request leads back exactly if it begins within the text or never advances. -/
theorem ascends_history_iff {requests : List Request} :
    Ascends (cursor.history requests) ↔
      cursor.position ≤ cursor.source.length ∨ ∀ request ∈ requests, ¬ request.IsAdvance := by
  by_cases inside : cursor.position ≤ cursor.source.length
  · simp [inside, ascends_history_of_le inside requests]
  · -- Beyond the end, the cursor stays until the first advance, which leads back.
    have beyond : cursor.source.length ≤ cursor.position := by omega
    simp only [inside, false_or]
    induction requests with
    | nil => simp [Ascends, history]
    | cons request requests ih =>
      rw [ascends_history_cons_iff, List.forall_mem_cons]
      by_cases advances : request.IsAdvance
      · have back := follow_position_lt_iff.2 ⟨Nat.lt_of_not_le inside, advances⟩
        simp [advances, back]
      · rw [follow_of_not_isAdvance beyond advances]
        simp [advances, ih]

/-- In a history the expression stays the same, and no request leads back unless the cursor stands
beyond the end. From there the first advance leads back, to the end, and from then on no request
does. -/
theorem ascends_history_unless_beyond (cursor : Cursor) (requests : List Request) :
    (∀ later ∈ cursor.history requests, later.source = cursor.source) ∧
      (Ascends (cursor.history requests) ↔
        cursor.position ≤ cursor.source.length ∨ ∀ request ∈ requests, ¬ request.IsAdvance) ∧
      ∀ before request later, requests = before ++ request :: later →
        (∀ earlier ∈ before, ¬ earlier.IsAdvance) → request.IsAdvance →
        cursor.source.length < cursor.position →
        cursor.history requests =
            List.replicate (before.length + 1) cursor ++ cursor.atEnd.history later ∧
          Ascends (cursor.atEnd.history later) := by
  refine ⟨fun later mem => source_of_mem_history mem, ascends_history_iff, ?_⟩
  rintro before request later rfl stays advances beyond
  exact ⟨history_of_beyond beyond.le stays advances later, ascends_history_of_le (le_refl _) later⟩

/-- Four places behind the end of `1+2`, neither a token nor a negative number of characters can be
had. To move on by none leads back to the end. -/
theorem ascends_history_unless_beyond_sum :
    let beyond : Cursor := { source := "1+2", position := 7 }
    let requests : List Request := [.consume {}, .advance (-1), .advance 0, .advance 5]
    (beyond.history requests).map (·.position) = [7, 7, 7, 3, 3] ∧
      ¬ Ascends (beyond.history requests) ∧ Ascends (beyond.atEnd.history [.advance 5]) := by
  intro beyond requests
  obtain ⟨-, ascends, back⟩ := ascends_history_unless_beyond beyond requests
  have stays : ∀ earlier ∈ [Request.consume {}, .advance (-1)], ¬ earlier.IsAdvance := by
    simp [Request.IsAdvance]
  have none : (Request.advance 0).IsAdvance := ⟨0, rfl⟩
  obtain ⟨parts, fromEnd⟩ := back _ _ [.advance 5] rfl stays none (by decide)
  refine ⟨?_, ?_, fromEnd⟩
  · rw [parts]
    decide
  · rw [ascends]
    rintro (inside | never)
    · exact absurd inside (by decide)
    · exact never _ (by simp [requests]) none

/-- A cursor may move back, although it is only asked to move on: by no character at all, from
beyond the end. -/
theorem not_forall_ascends_history :
    ¬ ∀ (source : String) (place : Int) (cursor : Cursor) (requests : List Request),
        Cursor.at? source place = some cursor →
        (∀ distance, .advance distance ∈ requests → 0 ≤ distance) →
        Ascends (cursor.history requests) := by
  intro claim
  have ascends := claim "1" 5 { source := "1", position := 5 } [.advance 0] rfl (by simp)
  rw [ascends_history_iff] at ascends
  rcases ascends with inside | never
  · exact absurd inside (by decide)
  · exact never _ (List.mem_singleton_self _) ⟨0, rfl⟩

end ReversePolish.Cursor
