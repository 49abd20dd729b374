import Mathlib.Data.List.Nodup
import Mathlib.Data.List.TakeWhile
import ReversePolish.Proofs.Pending

/-!
# The order of a conversion

The result of a conversion, told without its stack. Every number and operator has a time: a number
the place at which it stands, an operator the place of the token that sends it away. The result is
the list of the numbers and operators by their times, and of several that go at one time the latest
comes first. This does not need the tokens to be an expression: it holds wherever a conversion
succeeds.

* `Token.releaseAfter`: how far away the token is that sends an operator away.
* `emissionOrder`: the numbers and operators of a list, sorted by their times.
* `Conversion.Feeds.emits`: what one token adds to the result is what is due at its place.
* `convert_eq_emissionOrder`: a conversion gives the tokens in the order of their times.
-/

namespace ReversePolish

namespace Token

/-- How deep the tokens after `t` are nested, where `t` itself is nested `depth` groups deep. -/
def depthAfter (t : Token) (depth : Nat) : Nat :=
  match t.kind with
  | .leftParen => depth + 1
  | .rightParen => depth - 1
  | _ => depth

/-- Whether `t`, nested `depth` groups deep inside the group of the operator `op`, sends `op` away:
it closes that group, or it is an operator of that group which binds no tighter than `op`. -/
def releases (t op : Token) (depth : Nat) : Bool :=
  depth = 0 &&
    (t.kind = .rightParen || (t.isOperator && t.kind.precedence ≤ op.kind.precedence))

/-- The number of tokens before the first one that sends the operator `op` away, where the tokens
begin `depth` groups deep inside the group of `op`. -/
def releaseAfter (op : Token) : Nat → List Token → Nat
  | _, [] => 0
  | depth, t :: ts =>
    if t.releases op depth then 0 else 1 + op.releaseAfter (t.depthAfter depth) ts

/-- Behind a number or an operator the tokens are nested as deep as it is. -/
theorem depthAfter_of_isTerm {t : Token} (h : t.isTerm = true) (depth : Nat) :
    t.depthAfter depth = depth := by
  cases hk : t.kind <;> simp_all [depthAfter, isTerm, isNumber, isOperator, Kind.isNumber,
    Kind.isOperator]

/-- An operator sends away those of its group that bind as tightly. -/
theorem releases_of_le {t op : Token} (isOperator : t.isOperator = true)
    (le : t.kind.precedence ≤ op.kind.precedence) : t.releases op 0 = true := by
  simp [releases, isOperator, le]

/-- A right parenthesis sends away all operators of its group. -/
theorem releases_of_closing {t : Token} (isClosing : t.kind = .rightParen) (op : Token) :
    t.releases op 0 = true := by
  simp [releases, isClosing]

/-- Of the tokens that close no group, only operators send others away, namely those that bind as
tightly. -/
theorem releases_eq_false {t op : Token} (notClosing : t.kind ≠ .rightParen)
    (lt : t.isOperator = true → op.kind.precedence < t.kind.precedence) (depth : Nat) :
    t.releases op depth = false := by
  cases isOperator : t.isOperator with
  | false => simp [releases, notClosing, isOperator]
  | true =>
    have := lt isOperator
    simp [releases, notClosing, this]

end Token

/-- A token of a result: where it stood in the expression, and the place of the token that was
looked at when it was emitted. -/
structure Emission where
  token : Token
  place : Nat
  time : Nat
  deriving DecidableEq, Repr

namespace Emission

/-- Earlier emissions come first; of those at one time, the one that stood last does. -/
def le (a b : Emission) : Bool :=
  a.time < b.time || (a.time = b.time && b.place ≤ a.place)

theorem le_iff {a b : Emission} :
    a.le b = true ↔ a.time < b.time ∨ a.time = b.time ∧ b.place ≤ a.place := by
  simp [le]

theorem le_trans (a b c : Emission) (hab : a.le b = true) (hbc : b.le c = true) :
    a.le c = true := by
  rw [le_iff] at hab hbc ⊢
  omega

theorem le_total (a b : Emission) : (a.le b || b.le a) = true := by
  rw [Bool.or_eq_true, le_iff, le_iff]
  omega

/-- Two emissions that each come first are at one place. -/
theorem place_eq_of_le {a b : Emission} (hab : a.le b = true) (hba : b.le a = true) :
    a.place = b.place := by
  rw [le_iff] at hab hba
  omega

end Emission

/-- The emissions of a list of tokens of which the first stands at `place`. A number is emitted at
its own place, an operator where it is sent away, at the latest at the end. -/
def emissionsFrom : Nat → List Token → List Emission
  | _, [] => []
  | place, t :: ts =>
    if t.isNumber then
      { token := t, place := place, time := place } :: emissionsFrom (place + 1) ts
    else if t.isOperator then
      { token := t, place := place, time := place + 1 + t.releaseAfter 0 ts } ::
        emissionsFrom (place + 1) ts
    else
      emissionsFrom (place + 1) ts

/-- The numbers and operators of a list, by the times at which they are emitted. -/
def emissionOrder (ts : List Token) : List Token :=
  ((emissionsFrom 0 ts).mergeSort Emission.le).map (·.token)

/-- The emissions of a list are at its places. -/
theorem le_place_of_mem_emissionsFrom {ts : List Token} {place : Nat} :
    ∀ e ∈ emissionsFrom place ts, place ≤ e.place := by
  induction ts generalizing place with
  | nil => simp [emissionsFrom]
  | cons t ts ih =>
    intro e he
    have later : e ∈ emissionsFrom (place + 1) ts → place ≤ e.place := by
      intro h
      have := ih e h
      omega
    rw [emissionsFrom] at he
    split at he
    · rcases List.mem_cons.1 he with rfl | he
      · exact Nat.le_refl place
      · exact later he
    · split at he
      · rcases List.mem_cons.1 he with rfl | he
        · exact Nat.le_refl place
        · exact later he
      · exact later he

/-- No two emissions of a list are at one place. -/
theorem pairwise_place_emissionsFrom (place : Nat) (ts : List Token) :
    (emissionsFrom place ts).Pairwise fun a b => a.place < b.place := by
  induction ts generalizing place with
  | nil => exact .nil
  | cons t ts ih =>
    rw [emissionsFrom]
    split
    · exact List.pairwise_cons.2 ⟨le_place_of_mem_emissionsFrom, ih (place + 1)⟩
    · split
      · exact List.pairwise_cons.2 ⟨le_place_of_mem_emissionsFrom, ih (place + 1)⟩
      · exact ih (place + 1)

/-- An emission of a list is known by its place. -/
theorem eq_of_mem_emissionsFrom {place : Nat} {ts : List Token} {a b : Emission}
    (ha : a ∈ emissionsFrom place ts) (hb : b ∈ emissionsFrom place ts)
    (samePlace : a.place = b.place) : a = b := by
  have nodup : ((emissionsFrom place ts).map (·.place)).Nodup := by
    rw [List.nodup_iff_pairwise_ne, List.pairwise_map]
    exact (pairwise_place_emissionsFrom place ts).imp Nat.ne_of_lt
  exact List.inj_on_of_nodup_map nodup ha hb samePlace

/-- A list of the emissions in which none comes too early is the sorted one. -/
theorem map_token_eq_emissionOrder {ts : List Token} {emissions : List Emission}
    (perm : emissions.Perm (emissionsFrom 0 ts))
    (ordered : emissions.Pairwise fun a b => a.le b = true) :
    emissions.map (·.token) = emissionOrder ts := by
  have sortedPerm : ((emissionsFrom 0 ts).mergeSort Emission.le).Perm (emissionsFrom 0 ts) :=
    List.mergeSort_perm _ _
  have sorted := List.pairwise_mergeSort Emission.le_trans Emission.le_total (emissionsFrom 0 ts)
  -- Both lists are sorted, and emissions of one time are told apart by their places.
  rw [emissionOrder]
  congr 1
  refine List.Perm.eq_of_pairwise (fun a b ha hb hab hba => ?_) ordered sorted
    (perm.trans sortedPerm.symm)
  exact eq_of_mem_emissionsFrom (perm.subset ha) (sortedPerm.subset hb)
    (Emission.place_eq_of_le hab hba)

/-! ## What is due -/

/-- The emissions of the entries that wait, each with its place, where the tokens that are still to
come begin at `place`, in a group `depth` groups deeper than the innermost one of the entries. -/
def held (place : Nat) (ts : List Token) : Nat → List (Token × Nat) → List Emission
  | _, [] => []
  | depth, (t, i) :: waiting =>
    if t.kind = .leftParen then
      held place ts (depth + 1) waiting
    else
      { token := t, place := i, time := place + t.releaseAfter depth ts } ::
        held place ts depth waiting

/-- The emissions that are still to come: of the entries that wait, and of the tokens. -/
def due (place : Nat) (waiting : List (Token × Nat)) (ts : List Token) : List Emission :=
  held place ts 0 waiting ++ emissionsFrom place ts

/-- The emissions at the time `place` of entries that wait. -/
def emittedAt (place : Nat) (waiting : List (Token × Nat)) : List Emission :=
  waiting.map fun e => { token := e.1, place := e.2, time := place }

@[simp]
theorem map_token_emittedAt (place : Nat) (waiting : List (Token × Nat)) :
    (emittedAt place waiting).map (·.token) = waiting.map Prod.fst := by
  simp [emittedAt]

theorem time_of_mem_emittedAt {place : Nat} {waiting : List (Token × Nat)} :
    ∀ e ∈ emittedAt place waiting, e.time = place := by
  intro e he
  obtain ⟨entry, -, rfl⟩ := List.mem_map.1 he
  rfl

/-- A token that sends nobody away leaves all emissions where they are. -/
theorem held_cons {t : Token} {place : Nat} {ts : List Token} {waiting : List (Token × Nat)}
    {depth : Nat} (closes : t.kind = .rightParen → 0 < depth)
    (keeps : depth = 0 →
      ∀ u ∈ (waiting.map Prod.fst).takeWhile Token.isInside, t.releases u 0 = false) :
    held place (t :: ts) depth waiting = held (place + 1) ts (t.depthAfter depth) waiting := by
  induction waiting generalizing depth with
  | nil => rfl
  | cons e waiting ih =>
    obtain ⟨u, i⟩ := e
    by_cases paren : u.kind = .leftParen
    · -- Outside the innermost group nothing is sent away.
      have deeper : t.depthAfter (depth + 1) = t.depthAfter depth + 1 := by
        cases hk : t.kind <;> simp only [Token.depthAfter, hk]
        have := closes hk
        omega
      rw [held, if_pos paren, held, if_pos paren, ← deeper]
      exact ih (fun _ => Nat.succ_pos depth) (fun absurd => nomatch absurd)
    · have inside : u.isInside = true := decide_eq_true paren
      -- Only where no group has been left yet can the entry be sent away.
      have stays : t.releases u depth = false := by
        by_cases top : depth = 0
        · subst top
          exact keeps rfl u (by simp [inside])
        · simp [Token.releases, top]
      have others : held place (t :: ts) depth waiting =
          held (place + 1) ts (t.depthAfter depth) waiting := by
        refine ih closes fun top v hv => keeps top v ?_
        rw [List.map_cons, List.takeWhile_cons_of_pos inside]
        exact List.mem_cons_of_mem u hv
      have time : place + u.releaseAfter depth (t :: ts) =
          place + 1 + u.releaseAfter (t.depthAfter depth) ts := by
        rw [Token.releaseAfter, stays, if_neg Bool.false_ne_true]
        omega
      rw [held, if_neg paren, held, if_neg paren, others, time]

/-- The latest entries that wait are emitted at a token that sends all of them away. -/
theorem held_append {t : Token} {place : Nat} {ts : List Token}
    {released waiting : List (Token × Nat)}
    (inside : ∀ e ∈ released, e.1.kind ≠ .leftParen)
    (goes : ∀ e ∈ released, t.releases e.1 0 = true) :
    held place (t :: ts) 0 (released ++ waiting) =
      emittedAt place released ++ held place (t :: ts) 0 waiting := by
  induction released with
  | nil => rfl
  | cons e released ih =>
    rw [List.forall_mem_cons] at inside goes
    rw [List.cons_append, held, if_neg inside.1, ih inside.2 goes.2, Token.releaseAfter,
      if_pos goes.1]
    rfl

/-- At the end everything that waits is emitted. -/
theorem held_nil {place : Nat} {waiting : List (Token × Nat)}
    (inside : ∀ e ∈ waiting, e.1.kind ≠ .leftParen) :
    held place [] 0 waiting = emittedAt place waiting := by
  induction waiting with
  | nil => rfl
  | cons e waiting ih =>
    rw [List.forall_mem_cons] at inside
    rw [held, if_neg inside.1, ih inside.2]
    rfl

/-- A number is emitted at its place. -/
theorem due_number {t : Token} (isNumber : t.isNumber = true) (place : Nat)
    (waiting : List (Token × Nat)) (ts : List Token) :
    (due place waiting (t :: ts)).Perm
      ({ token := t, place := place, time := place } :: due (place + 1) waiting ts) := by
  obtain ⟨notOperator, -, notClosing⟩ := Token.not_of_isNumber isNumber
  have same : held place (t :: ts) 0 waiting = held (place + 1) ts 0 waiting := by
    rw [held_cons (fun isClosing => absurd isClosing notClosing)
      (fun _ u _ => Token.releases_eq_false notClosing (by simp [notOperator]) 0),
      Token.depthAfter_of_isTerm (Token.isTerm_of_isNumber isNumber)]
  rw [due, emissionsFrom, if_pos isNumber, same]
  exact List.perm_middle

/-- At an operator those that bind as tightly are emitted, and the operator waits. -/
theorem due_operator {t : Token} (isOperator : t.isOperator = true) {place : Nat}
    {gone kept : List (Token × Nat)}
    (yields : ∀ e ∈ gone, e.1.kind ≠ .leftParen ∧ t.kind.precedence ≤ e.1.kind.precedence)
    (stays : ∀ u ∈ (kept.map Prod.fst).takeWhile Token.isInside,
      u.kind.precedence < t.kind.precedence) (ts : List Token) :
    (due place (gone ++ kept) (t :: ts)).Perm
      (emittedAt place gone ++ due (place + 1) ((t, place) :: kept) ts) := by
  obtain ⟨notNumber, notOpening, notClosing⟩ := Token.not_of_isOperator isOperator
  -- Those that are kept are as far from being sent away as before.
  have same : held place (t :: ts) 0 kept = held (place + 1) ts 0 kept := by
    rw [held_cons (fun isClosing => absurd isClosing notClosing)
      (fun _ u hu => Token.releases_eq_false notClosing (fun _ => stays u hu) 0),
      Token.depthAfter_of_isTerm (Token.isTerm_of_isOperator isOperator)]
  rw [due, held_append (fun e he => (yields e he).1)
    (fun e he => Token.releases_of_le isOperator (yields e he).2), same, emissionsFrom,
    if_neg (by simp [notNumber]), if_pos isOperator, due, held, if_neg notOpening,
    List.append_assoc]
  exact List.perm_middle.append_left _

/-- A parenthesis is not emitted. -/
theorem emissionsFrom_paren {t : Token} (paren : t.kind = .leftParen ∨ t.kind = .rightParen)
    (place : Nat) (ts : List Token) :
    emissionsFrom place (t :: ts) = emissionsFrom (place + 1) ts := by
  obtain ⟨notNumber, notOperator⟩ := Token.not_of_paren paren
  rw [emissionsFrom, if_neg (by simp [notNumber]), if_neg (by simp [notOperator])]

/-- At a left parenthesis nothing is emitted. -/
theorem due_opening {t : Token} (isOpening : t.kind = .leftParen) (place : Nat)
    (waiting : List (Token × Nat)) (ts : List Token) :
    due place waiting (t :: ts) = due (place + 1) ((t, place) :: waiting) ts := by
  have notClosing : t.kind ≠ .rightParen := by simp [isOpening]
  have notOperator : ¬ t.isOperator = true := by simp [Token.not_of_paren (.inl isOpening)]
  have deeper : t.depthAfter 0 = 1 := by simp [Token.depthAfter, isOpening]
  rw [due, emissionsFrom_paren (.inl isOpening), held_cons
    (fun isClosing => absurd isClosing notClosing)
    (fun _ u _ => Token.releases_eq_false notClosing (fun h => absurd h notOperator) 0), deeper,
    due, held, if_pos isOpening]

/-- At a right parenthesis the operators of its group are emitted. -/
theorem due_closing {t : Token} (isClosing : t.kind = .rightParen) {place : Nat}
    {gone kept : List (Token × Nat)} {paren : Token × Nat}
    (inside : ∀ e ∈ gone, e.1.kind ≠ .leftParen) (isOpening : paren.1.kind = .leftParen)
    (ts : List Token) :
    due place (gone ++ paren :: kept) (t :: ts) =
      emittedAt place gone ++ due (place + 1) kept ts := by
  have back : t.depthAfter 1 = 0 := by simp [Token.depthAfter, isClosing]
  rw [due, emissionsFrom_paren (.inr isClosing),
    held_append inside (fun e _ => Token.releases_of_closing isClosing e.1), held,
    if_pos isOpening, held_cons (fun _ => Nat.one_pos) (fun absurd => nomatch absurd), back, due,
    List.append_assoc]

/-! ## Runs -/

/-- The entries that wait, each with its place: the later ones stood further behind. -/
structure Placed (place : Nat) (waiting : List (Token × Nat)) (pending : List Token) : Prop where
  tokens : waiting.map Prod.fst = pending
  falling : waiting.Pairwise fun above below => below.2 < above.2
  before : ∀ e ∈ waiting, e.2 < place

/-- What is left when the latest entries are gone is placed, and so is what is gone. -/
theorem Placed.of_append {place : Nat} {waiting : List (Token × Nat)} {above below : List Token}
    (h : Placed place waiting (above ++ below)) :
    ∃ gone kept, waiting = gone ++ kept ∧ Placed place gone above ∧ Placed place kept below := by
  obtain ⟨gone, kept, rfl, goneTokens, keptTokens⟩ := List.map_eq_append_iff.1 h.tokens
  obtain ⟨goneFalling, keptFalling, -⟩ := List.pairwise_append.1 h.falling
  refine ⟨gone, kept, rfl, ⟨goneTokens, goneFalling, fun e he => ?_⟩,
    ⟨keptTokens, keptFalling, fun e he => ?_⟩⟩
  · exact h.before e (List.mem_append_left _ he)
  · exact h.before e (List.mem_append_right _ he)

/-- What is left when the latest entry is gone is placed. -/
theorem Placed.of_cons {place : Nat} {waiting : List (Token × Nat)} {latest : Token}
    {below : List Token} (h : Placed place waiting (latest :: below)) :
    ∃ i kept, waiting = (latest, i) :: kept ∧ Placed place kept below := by
  obtain ⟨⟨u, i⟩, kept, split, same, keptTokens⟩ := List.map_eq_cons_iff.1 h.tokens
  rw [split] at h
  change u = latest at same
  refine ⟨i, kept, by rw [split, same], keptTokens, (List.pairwise_cons.1 h.falling).2, ?_⟩
  exact fun e he => h.before e (List.mem_cons_of_mem _ he)

/-- A property of the tokens that wait is one of the entries. -/
theorem Placed.forall_mem {place : Nat} {waiting : List (Token × Nat)} {pending : List Token}
    (h : Placed place waiting pending) {P : Token → Prop} (all : ∀ t ∈ pending, P t) :
    ∀ e ∈ waiting, P e.1 := by
  intro e he
  have mem := List.mem_map_of_mem (f := Prod.fst) he
  rw [h.tokens] at mem
  exact all e.1 mem

/-- The next token may wait on top. -/
theorem Placed.cons {place : Nat} {waiting : List (Token × Nat)} {pending : List Token}
    (h : Placed place waiting pending) (t : Token) :
    Placed (place + 1) ((t, place) :: waiting) (t :: pending) where
  tokens := by rw [List.map_cons, h.tokens]
  falling := List.pairwise_cons.2 ⟨h.before, h.falling⟩
  before e he := by
    rcases List.mem_cons.1 he with rfl | he
    · exact Nat.lt_succ_self place
    · exact Nat.lt_succ_of_lt (h.before e he)

/-- The places stay behind. -/
theorem Placed.succ {place : Nat} {waiting : List (Token × Nat)} {pending : List Token}
    (h : Placed place waiting pending) : Placed (place + 1) waiting pending :=
  ⟨h.tokens, h.falling, fun e he => Nat.lt_succ_of_lt (h.before e he)⟩

/-- Entries that are emitted at one time are emitted in order, the latest first. -/
theorem Placed.pairwise_emittedAt {place : Nat} {waiting : List (Token × Nat)}
    {pending : List Token} (h : Placed place waiting pending) (time : Nat) :
    (emittedAt time waiting).Pairwise fun a b => a.le b = true := by
  rw [emittedAt, List.pairwise_map]
  refine h.falling.imp ?_
  intro above below lt
  exact Emission.le_iff.2 (.inr ⟨rfl, Nat.le_of_lt lt⟩)

/-- The emissions `emissions` are those of `all`, in order, none of them before `place`. -/
structure Scheduled (place : Nat) (all emissions : List Emission) : Prop where
  perm : emissions.Perm all
  ordered : emissions.Pairwise fun a b => a.le b = true
  later : ∀ e ∈ emissions, place ≤ e.time

/-- What is emitted at one place goes before all that is emitted at later places. -/
theorem Scheduled.prepend {place : Nat} {first all rest emissions : List Emission}
    (ordered : first.Pairwise fun a b => a.le b = true) (now : ∀ e ∈ first, e.time = place)
    (perm : all.Perm (first ++ rest)) (h : Scheduled (place + 1) rest emissions) :
    Scheduled place all (first ++ emissions) where
  perm := (h.perm.append_left first).trans perm.symm
  ordered := by
    refine List.pairwise_append.2 ⟨ordered, h.ordered, fun a ha b hb => ?_⟩
    have := now a ha
    have := h.later b hb
    exact Emission.le_iff.2 (.inl (by omega))
  later e he := by
    rcases List.mem_append.1 he with he | he
    · exact (now e he).ge
    · have := h.later e he
      omega

/-- In a stacked list an operator binds tighter than all those below it in its group. -/
theorem Conversion.Stacked.lt_of_mem_takeWhile {op : Token} {pending : List Token}
    (h : Stacked (op :: pending)) (notParen : op.kind ≠ .leftParen) :
    ∀ u ∈ pending.takeWhile Token.isInside, u.kind.precedence < op.kind.precedence := by
  induction pending generalizing op with
  | nil => simp
  | cons below pending ih =>
    intro u hu
    by_cases paren : below.kind = .leftParen
    · have outside : ¬ below.isInside = true := by simp [Token.isInside, paren]
      rw [List.takeWhile_cons_of_neg outside] at hu
      exact absurd hu List.not_mem_nil
    · have tighter : below.kind.precedence < op.kind.precedence := by
        rcases (List.isChain_cons_cons.1 h.falling).1 with absurdParen | absurdParen | lt
        · exact absurd absurdParen notParen
        · exact absurd absurdParen paren
        · exact lt
      have inside : below.isInside = true := decide_eq_true paren
      rw [List.takeWhile_cons_of_pos inside] at hu
      rcases List.mem_cons.1 hu with rfl | hu
      · exact tighter
      · have kept : Stacked (below :: pending) := h.of_suffix (List.suffix_cons op _)
        exact (ih kept paren u hu).trans tighter

namespace Conversion

/-- What one token adds to the result is what is due at its place, in order. All the rest stays
due. -/
theorem Feeds.emits {state next : Conversion} {t : Token} {place : Nat}
    {waiting : List (Token × Nat)} (fed : Feeds state t next) (stacked : Stacked state.pending)
    (placed : Placed place waiting state.pending) :
    ∃ emissions remaining, Placed (place + 1) remaining next.pending ∧
      next.emitted = (emissions.map (·.token)).reverse ++ state.emitted ∧
      (emissions.Pairwise fun a b => a.le b = true) ∧ (∀ e ∈ emissions, e.time = place) ∧
      ∀ ts, (due place waiting (t :: ts)).Perm (emissions ++ due (place + 1) remaining ts) := by
  have nested := fed.stacked stacked
  cases fed with
  | number isNumber =>
    exact ⟨[{ token := t, place := place, time := place }], waiting, placed.succ, rfl,
      List.pairwise_singleton _ _, by simp, due_number isNumber place waiting⟩
  | operator isOperator =>
    -- What makes way is emitted now, and the operator waits on top of the rest.
    rw [← List.takeWhile_append_dropWhile (p := (·.yieldsTo t)) (l := state.pending)] at placed
    obtain ⟨gone, kept, rfl, placedGone, placedKept⟩ := placed.of_append
    have yields := placedGone.forall_mem fun u hu => Token.yields_of_mem_takeWhile isOperator hu
    -- Those that stay bind less tightly, as far as they are in the group of the operator.
    have stays := nested.lt_of_mem_takeWhile (Token.not_of_isOperator isOperator).2.1
    rw [← placedKept.tokens] at stays
    refine ⟨emittedAt place gone, (t, place) :: kept, placedKept.cons t, ?_,
      placedGone.pairwise_emittedAt place, time_of_mem_emittedAt,
      due_operator isOperator yields stays⟩
    rw [map_token_emittedAt, placedGone.tokens]
    rfl
  | opening isOpening =>
    refine ⟨[], (t, place) :: waiting, placed.cons t, rfl, .nil, by simp, fun ts => ?_⟩
    rw [due_opening isOpening]
    exact List.Perm.refl _
  | @closing inside outside paren isClosing isInside isOpening pending =>
    -- The group is emitted now, and its parenthesis is dropped.
    rw [pending] at placed
    obtain ⟨gone, kept, rfl, placedGone, placedKept⟩ := placed.of_append
    obtain ⟨i, outer, rfl, placedOuter⟩ := placedKept.of_cons
    refine ⟨emittedAt place gone, outer, placedOuter.succ, ?_,
      placedGone.pairwise_emittedAt place, time_of_mem_emittedAt, fun ts => ?_⟩
    · rw [map_token_emittedAt, placedGone.tokens]
    · rw [due_closing isClosing (placedGone.forall_mem isInside) isOpening]

/-- From any state on, the rest of a result is what is due, in order. -/
theorem scheduled_of_feedAll {ts : List Token} {state final : Conversion} {result : List Token}
    {place : Nat} {waiting : List (Token × Nat)} (stacked : Stacked state.pending)
    (placed : Placed place waiting state.pending) (run : state.feedAll ts = .ok final)
    (ending : final.finish = .ok result) :
    ∃ emissions, Scheduled place (due place waiting ts) emissions ∧
      result = state.emitted.reverse ++ emissions.map (·.token) := by
  induction ts generalizing state place waiting with
  | nil =>
    rw [feedAll_nil, Except.ok.injEq] at run
    subst run
    -- The end sends everything away that still waits.
    obtain ⟨closed, rfl⟩ := finish_eq_ok_iff.1 ending
    refine ⟨emittedAt place waiting, ⟨?_, placed.pairwise_emittedAt place, ?_⟩, ?_⟩
    · rw [due, held_nil (placed.forall_mem closed), emissionsFrom, List.append_nil]
    · exact fun e he => (time_of_mem_emittedAt e he).ge
    · rw [map_token_emittedAt, placed.tokens]
  | cons t ts ih =>
    obtain ⟨next, fed, rest⟩ := feedAll_cons_eq_ok_iff.1 run
    obtain ⟨emissions, remaining, placedNext, emitted, ordered, now, perm⟩ :=
      fed.emits stacked placed
    -- What the other tokens emit comes behind that, since it is emitted at later places.
    obtain ⟨more, scheduled, rfl⟩ := ih (fed.stacked stacked) placedNext rest
    exact ⟨emissions ++ more, scheduled.prepend ordered now (perm ts), by simp [emitted]⟩

end Conversion

/-- A conversion gives the numbers and operators in the order of their times, each of them once, and
the numbers in the order in which they stood. -/
theorem convert_eq_emissionOrder {ts result : List Token} (converts : convert ts = .ok result) :
    result = emissionOrder ts ∧ result.Perm (ts.filter Token.isTerm) ∧
      result.filter Token.isNumber = ts.filter Token.isNumber := by
  refine ⟨?_, perm_of_convert converts, filter_isNumber_of_convert converts⟩
  obtain ⟨final, run, ending⟩ := Conversion.convert_eq_ok_iff.1 converts
  obtain ⟨emissions, scheduled, rfl⟩ :=
    Conversion.scheduled_of_feedAll .nil ⟨rfl, .nil, by simp⟩ run ending
  exact map_token_eq_emissionOrder scheduled.perm scheduled.ordered

/-- The order of `-(2*)3`, which is no expression: the product goes at the parenthesis behind it,
and the difference at the end. -/
theorem convert_eq_emissionOrder_unary :
    let minus : Token := { kind := .operator .sub, text := "-", position := some 0 }
    let opening : Token := { kind := .leftParen, text := "(", position := some 1 }
    let two : Token := { kind := .number .integer, text := "2", position := some 2 }
    let times : Token := { kind := .operator .mul, text := "*", position := some 3 }
    let closing : Token := { kind := .rightParen, text := ")", position := some 4 }
    let three : Token := { kind := .number .integer, text := "3", position := some 5 }
    convert [minus, opening, two, times, closing, three] = .ok [two, times, three, minus] ∧
      [two, times, three, minus] =
        emissionOrder [minus, opening, two, times, closing, three] :=
  ⟨by decide, (convert_eq_emissionOrder (by decide)).1⟩

end ReversePolish
