import ReversePolish.Proofs.Handover
import ReversePolish.Proofs.Layout

/-!
# Reading reverse Polish notation back

An expression in reverse Polish notation is shown as the texts of its tokens with a separator
between them. Where the separator is layout, scanning the line that is shown gives these tokens
back, at the places that they have in it: kind and text of each are told by the text alone.

- `Token.bare`: a token without its origin;
- `Scan.tokensFrom_intercalate`: lexemes with layout between them are scanned one by one;
- `mapError_trace_map_bare`: an evaluation does not depend on the origin of the tokens;
- `exists_render_eq`: the line that is shown, cut at one of its tokens;
- `tokens_render`: the line that is shown, scanned again.
-/

namespace ReversePolish

/-- The token without its origin: its kind and its text. -/
def Token.bare (t : Token) : Token where
  kind := t.kind
  text := t.text

/-- Whether a token is a number or an operator is told by its kind. -/
theorem Token.isTerm_bare (t : Token) : t.bare.isTerm = t.isTerm := rfl

/-! ## Lexemes with layout between them -/

namespace Scan

variable {mode : Mode}

/-- The tokens without their origin, as they stand behind `position` characters with `gap`
characters between each two of them. -/
def placed (gap position : Nat) : List Token → List Token
  | [] => []
  | t :: ts =>
    { t.bare with position := some position } :: placed gap (position + t.text.length + gap) ts

theorem map_bare_placed (gap position : Nat) (ts : List Token) :
    (placed gap position ts).map Token.bare = ts.map Token.bare := by
  induction ts generalizing position with
  | nil => rfl
  | cons t ts ih =>
    rw [placed, List.map_cons, List.map_cons, ih]
    rfl

/-- Before each token stand the texts of those before it, each with the gap behind it. -/
theorem position_of_placed {gap : List Char} {position : Nat} {ts before after : List Token}
    {t : Token} (split : placed gap.length position ts = before ++ t :: after) :
    t.position =
      some ((position + (before.flatMap (·.text.toList ++ gap)).length : Nat) : Int) := by
  induction ts generalizing position before with
  | nil => simp [placed] at split
  | cons u ts ih =>
    rw [placed, eq_comm, List.append_eq_cons_iff] at split
    rcases split with ⟨rfl, same⟩ | ⟨between, rfl, others⟩
    · cases same
      simp
    · rw [ih others, List.flatMap_cons, List.length_append, List.length_append,
        String.length_toList, ← Nat.add_assoc, ← Nat.add_assoc]
      rfl

/-- A lexeme that is not invalid gives its token again, wherever it stands in front of what carries
no number on. -/
theorem tokensFrom_lexeme {place : Nat} {t : Token} (isLexeme : IsLexeme place t)
    (valid : t.kind ≠ .invalid) {rest : List Char} (stop : StopsNumber rest) (position : Nat) :
    tokensFrom mode position (t.text.toList ++ rest) =
      (tokensFrom mode (position + t.text.length) rest).map
        ({ t.bare with position := some position } :: ·) := by
  cases isLexeme with
  | @number cs number =>
    rw [text_numberToken, tokensFrom_number number (stop.ends cs)]
    simp [numberToken, Token.bare]
  | @symbol c kind symbol =>
    simp only [symbolToken, String.toList_ofList, List.singleton_append, String.length_ofList,
      List.length_singleton]
    rw [tokensFrom_symbol symbol]
    rfl
  | invalid => exact absurd rfl valid

/-- Lexemes with layout between them are scanned one by one. -/
theorem tokensFrom_intercalate {gap : List Char} (skipped : ∀ c ∈ gap, mode.skips c = true)
    (notEmpty : gap ≠ []) {ts : List Token}
    (lexemes : ∀ t ∈ ts, (∃ place, IsLexeme place t) ∧ t.kind ≠ .invalid) (position : Nat) :
    tokensFrom mode position (gap.intercalate (ts.map (·.text.toList))) =
      .ok (placed gap.length position ts) := by
  induction ts generalizing position with
  | nil =>
    rw [List.map_nil, List.intercalate_nil, tokensFrom]
    rfl
  | cons t ts ih =>
    obtain ⟨⟨place, isLexeme⟩, valid⟩ := lexemes t (by simp)
    cases ts with
    | nil =>
      -- Behind the last lexeme nothing follows.
      rw [List.map_cons, List.map_nil, List.intercalate_singleton, ← List.append_nil t.text.toList,
        tokensFrom_lexeme isLexeme valid .nil, tokensFrom]
      rfl
    | cons u us =>
      -- Behind any other one stands the gap, which is not empty.
      have stop : StopsNumber
          (gap ++ gap.intercalate (u.text.toList :: us.map (·.text.toList))) := by
        obtain ⟨c, more, rfl⟩ := List.exists_cons_of_ne_nil notEmpty
        exact .layout (isLayout_of_skips (skipped c (by simp))) _
      have others := ih (fun v hv => lexemes v (List.mem_cons_of_mem _ hv))
        (position + t.text.length + gap.length)
      rw [List.map_cons] at others
      rw [List.map_cons, List.map_cons, List.intercalate_cons_cons, List.append_assoc,
        tokensFrom_lexeme isLexeme valid stop, tokensFrom_gap skipped, others]
      rfl

end Scan

/-! ## Evaluation without origins -/

/-- Two runs that meet the same faults, up to what is said of them, do so with the same
continuation. -/
theorem mapError_bind_congr {α β ε δ : Type} {x y : Except ε α} {f h : α → Except ε β} {g : ε → δ}
    (first : x.mapError g = y.mapError g) (rest : ∀ a, (f a).mapError g = (h a).mapError g) :
    (x.bind f).mapError g = (y.bind h).mapError g := by
  cases x <;> cases y <;> simp_all [Except.mapError, Except.bind]

namespace Evaluation

/-- Of a number or an operator only kind and text matter. -/
theorem mapError_feed_bare (state : Evaluation) {t : Token} (isTerm : t.isTerm = true) :
    (state.feed t.bare).mapError Fault.diagnosis = (state.feed t).mapError Fault.diagnosis := by
  rcases Token.kind_of_isTerm isTerm with ⟨spelling, kind⟩ | ⟨op, kind⟩
  · simp only [feed, Token.bare, kind]
    cases Numeral.read? t.text <;> rfl
  · simp only [feed, Token.bare, kind, operate]
    split <;> rfl

theorem mapError_feedAll_map_bare (state : Evaluation) {ts : List Token}
    (terms : ∀ t ∈ ts, t.isTerm = true) :
    (state.feedAll (ts.map Token.bare)).mapError Fault.diagnosis =
      (state.feedAll ts).mapError Fault.diagnosis := by
  induction ts generalizing state with
  | nil => rfl
  | cons t ts ih =>
    rw [List.map_cons, feedAll_cons, feedAll_cons]
    apply mapError_bind_congr (state.mapError_feed_bare (terms t List.mem_cons_self))
    intro next
    exact ih next fun u hu => terms u (List.mem_cons_of_mem _ hu)

end Evaluation

theorem openingFault?_map_bare {ts : List Token} (terms : ∀ t ∈ ts, t.isTerm = true) :
    (openingFault? (ts.map Token.bare)).map Fault.diagnosis =
      (openingFault? ts).map Fault.diagnosis := by
  cases ts with
  | nil => rfl
  | cons t ts =>
    rcases Token.kind_of_isTerm (terms t List.mem_cons_self) with ⟨spelling, kind⟩ | ⟨op, kind⟩
    · simp only [List.map_cons, openingFault?, Token.bare, kind]
    · simp only [List.map_cons, openingFault?, Token.bare, kind]
      rfl

/-- An evaluation of numbers and operators depends on their kinds and texts alone. -/
theorem mapError_trace_map_bare {ts : List Token} (terms : ∀ t ∈ ts, t.isTerm = true) :
    (trace (ts.map Token.bare)).mapError Fault.diagnosis =
      (trace ts).mapError Fault.diagnosis := by
  have opening := openingFault?_map_bare terms
  -- Either both begin with a fault, or neither does and both go on.
  rw [trace, trace]
  cases given : openingFault? ts with
  | none =>
    rw [given, Option.map_none, Option.map_eq_none_iff] at opening
    rw [opening]
    exact mapError_bind_congr (Evaluation.start.mapError_feedAll_map_bare terms) fun _ => rfl
  | some fault =>
    rw [given, Option.map_some, Option.map_eq_some_iff] at opening
    obtain ⟨other, bare, same⟩ := opening
    rw [bare]
    exact congrArg Except.error same

/-- The values of two lists of numbers and operators that agree but for their origin are the same,
or else what is said of their faults. -/
theorem mapError_evaluate_congr {ts us : List Token} (terms : ∀ t ∈ ts, t.isTerm = true)
    (same : us.map Token.bare = ts.map Token.bare) :
    (evaluate us).mapError Fault.diagnosis = (evaluate ts).mapError Fault.diagnosis := by
  have others : ∀ u ∈ us, u.isTerm = true := by
    -- Each of them is, without its origin, one of the others.
    intro u hu
    have bare := List.mem_map_of_mem (f := Token.bare) hu
    rw [same] at bare
    obtain ⟨t, ht, equal⟩ := List.mem_map.1 bare
    rw [← u.isTerm_bare, ← equal, t.isTerm_bare]
    exact terms t ht
  rw [evaluate_eq_map_trace, evaluate_eq_map_trace, mapError_map, mapError_map,
    ← mapError_trace_map_bare others, same, mapError_trace_map_bare terms]

/-! ## The line that is shown -/

/-- A line of texts with gaps between them, cut at one of them. -/
theorem exists_intercalate_eq (gap : List Char) (before : List Token) (t : Token)
    (after : List Token) :
    ∃ rest, gap.intercalate ((before ++ t :: after).map (·.text.toList)) =
      before.flatMap (·.text.toList ++ gap) ++ t.text.toList ++ rest := by
  induction before with
  | nil =>
    rw [List.nil_append, List.map_cons, List.flatMap_nil, List.nil_append]
    by_cases last : after.map (·.text.toList) = []
    · exact ⟨[], by rw [last, List.intercalate_singleton, List.append_nil]⟩
    · exact ⟨_, by rw [List.intercalate_cons_of_ne_nil last, List.append_assoc]⟩
  | cons u before ih =>
    obtain ⟨rest, line⟩ := ih
    have more : (before ++ t :: after).map (·.text.toList) ≠ [] := by simp
    refine ⟨rest, ?_⟩
    rw [List.cons_append, List.map_cons, List.intercalate_cons_of_ne_nil more, line,
      List.flatMap_cons]
    simp only [List.append_assoc]

/-- What is shown are the texts with the separator between them. -/
theorem toList_render (sep : String) (polish : List Token) :
    (render sep (.ok polish)).toList = sep.toList.intercalate (polish.map (·.text.toList)) := by
  rw [render, String.toList_intercalate, List.map_map]
  rfl

/-- What is shown of an expression in reverse Polish notation is scanned to its tokens again. -/
theorem tokens_render_of_layout {mode : Scan.Mode} {text sep : String} {polish : List Token}
    (converts : toPolish mode text = .ok polish) (notEmpty : sep ≠ "")
    (layout : ∀ c ∈ sep.toList, c ∈ Text.layoutChars) (strict : Bool) :
    Scan.tokens { skipLayout := true, strict } (render sep (toPolish mode text)) =
      .ok (Scan.placed sep.length 0 polish) := by
  have gap : sep.toList ≠ [] := by simpa using notEmpty
  have skipped : ∀ c ∈ sep.toList, ({ skipLayout := true, strict } : Scan.Mode).skips c = true := by
    intro c hc
    exact Text.isLayout_iff_mem.2 (layout c hc)
  have lexemes : ∀ t ∈ polish, (∃ place, Scan.IsLexeme place t) ∧ t.kind ≠ .invalid := by
    intro t ht
    obtain ⟨isLexeme, isTerm⟩ := exists_isLexeme_of_toPolish converts ht
    exact ⟨isLexeme, Token.ne_invalid_of_isTerm isTerm⟩
  rw [Scan.tokens, converts, toList_render, Scan.tokensFrom_intercalate skipped gap lexemes,
    String.length_toList]

/-- Tokens with the texts that are shown stand where the line is cut at them. -/
theorem exists_render_eq (sep : String) {polish before after : List Token} {t : Token}
    (same : (before ++ t :: after).map Token.bare = polish.map Token.bare) :
    ∃ rest, (render sep (.ok polish)).toList =
      before.flatMap (·.text.toList ++ sep.toList) ++ t.text.toList ++ rest := by
  have texts : (before ++ t :: after).map (·.text.toList) = polish.map (·.text.toList) := by
    have shown := congrArg (List.map fun u : Token => u.text.toList) same
    rw [List.map_map, List.map_map] at shown
    exact shown
  rw [toList_render, ← texts]
  exact exists_intercalate_eq sep.toList before t after

/-- The line that shows an expression in reverse Polish notation with layout between its tokens can
be scanned again, strictly or not, as long as layout is passed over. It gives tokens of the same
kinds and texts in the same order, each at the place where its text stands in the line. So they
evaluate like the ones that were shown, and two expressions that are shown alike have tokens of the
same kinds and texts. -/
theorem tokens_render {mode : Scan.Mode} {text sep : String} {polish : List Token}
    (converts : toPolish mode text = .ok polish) (notEmpty : sep ≠ "")
    (layout : ∀ c ∈ sep.toList, c ∈ Text.layoutChars) (strict : Bool) :
    ∃ reread,
      Scan.tokens { skipLayout := true, strict } (render sep (toPolish mode text)) = .ok reread ∧
      reread.map Token.bare = polish.map Token.bare ∧
      (∀ before t after, reread = before ++ t :: after → ∃ rest,
        (render sep (toPolish mode text)).toList =
            before.flatMap (·.text.toList ++ sep.toList) ++ t.text.toList ++ rest ∧
          t.position = some ((before.flatMap (·.text.toList ++ sep.toList)).length : Int)) ∧
      (evaluate reread).mapError Fault.diagnosis = (evaluate polish).mapError Fault.diagnosis ∧
      ∀ otherMode otherText otherSep otherPolish,
        toPolish otherMode otherText = .ok otherPolish → otherSep ≠ "" →
        (∀ c ∈ otherSep.toList, c ∈ Text.layoutChars) →
        render otherSep (toPolish otherMode otherText) = render sep (toPolish mode text) →
        otherPolish.map Token.bare = polish.map Token.bare := by
  have scans := tokens_render_of_layout converts notEmpty layout strict
  have same := Scan.map_bare_placed sep.length 0 polish
  refine ⟨Scan.placed sep.length 0 polish, scans, same, fun before t after split => ?_, ?_, ?_⟩
  · rw [split] at same
    obtain ⟨rest, line⟩ := exists_render_eq sep same
    rw [← String.length_toList] at split
    refine ⟨rest, by rw [converts, line], ?_⟩
    rw [Scan.position_of_placed split, Nat.zero_add]
  · exact mapError_evaluate_congr (fun t ht => (exists_isLexeme_of_toPolish converts ht).2) same
  · intro otherMode otherText otherSep otherPolish otherConverts otherNotEmpty otherLayout shown
    -- The same line is scanned in both cases.
    have otherScans :=
      tokens_render_of_layout otherConverts otherNotEmpty otherLayout strict
    rw [shown, scans] at otherScans
    rw [← Scan.map_bare_placed otherSep.length 0 otherPolish, ← Except.ok.inj otherScans, same]

/-- The separator may be longer than one character, and none of it a space. -/
theorem tokens_render_difference :
    ∃ reread, Scan.tokens { skipLayout := true, strict := true }
        (render "\n\t" (toPolish {} "1.5-20")) = .ok reread ∧
      reread.map Token.bare =
        [{ kind := .number .float, text := "1.5" }, { kind := .number .integer, text := "20" },
          { kind := .operator .sub, text := "-" }] := by
  have converts : toPolish {} "1.5-20" = .ok
      [{ kind := .number .float, text := "1.5", position := some 0 },
        { kind := .number .integer, text := "20", position := some 4 },
        { kind := .operator .sub, text := "-", position := some 3 }] := by decide +kernel
  have notEmpty : "\n\t" ≠ "" := by decide
  have layout : ∀ c ∈ "\n\t".toList, c ∈ Text.layoutChars := by
    intro c hc
    have either : c = '\n' ∨ c = '\t' := by simpa using hc
    rcases either with rfl | rfl
    · exact Text.isLayout_iff_mem.1 rfl
    · exact Text.isLayout_iff_mem.1 rfl
  obtain ⟨reread, scans, same, -⟩ := tokens_render converts notEmpty layout true
  exact ⟨reread, scans, same⟩

end ReversePolish
