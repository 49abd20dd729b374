import ReversePolish.Proofs.Decomposition
import ReversePolish.Proofs.Resumption

/-!
# Layout

What passing over layout does to the tokens of a text. Without it each layout character gives an
invalid token of its own; with it that token is left out, and nothing else changes.

- `Text.isLayout_iff_mem`: the six layout characters;
- `Scan.tokensFrom_skipping`: passing over layout is leaving out its tokens;
- `Scan.textOf_filter_isLayout`: of the text the layout is left out, and no more;
- `Cursor.drains_skipping`: this holds from every place of a text on, and layout parts the lexemes
  on its two sides.
-/

namespace ReversePolish

/-! ## Layout characters and their tokens -/

/-- The layout characters: space, tab, carriage return, line feed, form feed and vertical tab. -/
def Text.layoutChars : List Char :=
  [' ', '\t', '\r', '\n', '\x0C', '\x0B']

theorem Text.isLayout_iff_mem {c : Char} : isLayout c = true ↔ c ∈ layoutChars := by
  -- Both sides are about the code point of the character.
  have codes : c ∈ layoutChars ↔ c.toNat ∈ layoutChars.map Char.toNat := by
    rw [List.mem_map_of_injective fun a b same => Char.toNat_inj.1 same]
  rw [codes]
  simp only [isLayout, layoutChars, Bool.or_eq_true, Bool.and_eq_true, decide_eq_true_eq,
    List.map_cons, List.map_nil, List.mem_cons, List.not_mem_nil, or_false]
  change _ ↔ c.toNat = 32 ∨ c.toNat = 9 ∨ c.toNat = 13 ∨ c.toNat = 10 ∨ c.toNat = 12 ∨ c.toNat = 11
  omega

/-- The token is invalid, and its text is a layout character. -/
def Token.isLayout (t : Token) : Bool :=
  t.kind = .invalid && Text.layoutChars.any fun c => t.text.toList = [c]

theorem Token.exists_of_isLayout {t : Token} (layout : t.isLayout = true) :
    ∃ c ∈ Text.layoutChars, t.text.toList = [c] := by
  simp only [isLayout, Bool.and_eq_true, List.any_eq_true, decide_eq_true_eq] at layout
  exact layout.2

theorem Token.isLayout_of_ne {t : Token} (valid : t.kind ≠ .invalid) : t.isLayout = false := by
  simp [isLayout, valid]

namespace Scan

theorem isLayout_invalidToken (position : Nat) (c : Char) :
    (invalidToken position c).isLayout = Text.isLayout c := by
  rw [Bool.eq_iff_iff, Text.isLayout_iff_mem]
  simp [Token.isLayout, invalidToken]

/-! ## Scanning with and without layout -/

/-- The mode in which layout is passed over. -/
def Mode.skipping : Mode where
  skipLayout := true

/-- A layout character begins no lexeme. -/
theorem not_lexeme_of_isLayout {c : Char} (layout : Text.isLayout c = true) :
    c.isDigit = false ∧ Kind.ofSymbol? c = none := by
  constructor
  · by_contra digit
    rw [Text.isLayout_of_isDigit (by simpa using digit)] at layout
    cases layout
  · by_contra symbol
    obtain ⟨kind, symbol⟩ := Option.ne_none_iff_exists'.1 symbol
    rw [(plain_of_ofSymbol? symbol).2.2] at layout
    cases layout

/-- Passing over layout gives the tokens that are there without, but for those of the layout. -/
theorem tokensFrom_skipping (position : Nat) (cs : List Char) :
    tokensFrom .skipping position cs =
      (tokensFrom {} position cs).map fun ts => ts.filter fun t => !t.isLayout := by
  -- By the recursion of scanning: what is skipped there is a token here.
  fun_induction tokensFrom .skipping position cs with
  | case1 position =>
    rw [tokensFrom]
    rfl
  | case2 position c cs skipped ih =>
    -- A layout character gives an invalid token, and that is left out.
    have layout : Text.isLayout c = true := skipped
    obtain ⟨notDigit, noSymbol⟩ := not_lexeme_of_isLayout layout
    rw [ih, tokensFrom_invalid rfl notDigit noSymbol rfl]
    cases tokensFrom {} (position + 1) cs with
    | error fault => rfl
    | ok ts => simp [Except.map, isLayout_invalidToken, layout]
  | case3 position c cs kept fault refused =>
    exact absurd refused (tokenOf_ne_error rfl position c cs fault)
  | case4 position c cs kept token taken ih =>
    -- Any other lexeme gives the same token, which is not left out.
    have same : tokenOf {} position c (splitLexeme c cs).1 = .ok token ∧
        token.isLayout = false := by
      rcases tokenOf_cases position c cs with ⟨t, valid, all⟩ | ⟨split, all⟩
      · rw [all] at taken
        cases taken
        exact ⟨all {}, Token.isLayout_of_ne valid⟩
      · rw [split, all] at taken
        cases taken
        have notLayout : Text.isLayout c = false := by simpa [Mode.skips, Mode.skipping] using kept
        exact ⟨by rw [split, all]; rfl, by rw [isLayout_invalidToken, notLayout]⟩
    rw [ih, tokensFrom, if_neg (by simp [Mode.skips]), same.1]
    dsimp only
    cases tokensFrom {} (position + (splitLexeme c cs).1.length) (splitLexeme c cs).2 with
    | error fault => rfl
    | ok ts => simp [Except.map, same.2]

/-! ## The text of the tokens -/

/-- The layout in the text of a lexeme is the whole of it or nothing. -/
theorem IsLexeme.filter_text {position : Nat} {t : Token} (h : IsLexeme position t) :
    t.text.toList.filter (fun c => !Text.isLayout c) =
      if t.isLayout then [] else t.text.toList := by
  cases h with
  | @number cs number =>
    have valid : (numberToken position cs).isLayout = false :=
      Token.isLayout_of_ne (by simp [numberToken])
    rw [valid, if_neg Bool.false_ne_true, List.filter_eq_self, text_numberToken]
    -- Digits and the point are no layout.
    intro c hc
    rcases Lexeme.isDigit_or_point_of_mem number hc with digit | rfl
    · rw [Text.isLayout_of_isDigit digit]
      rfl
    · rfl
  | @symbol c kind symbol =>
    have valid : (symbolToken position c kind).isLayout = false := by
      refine Token.isLayout_of_ne ?_
      rintro rfl
      unfold Kind.ofSymbol? at symbol
      split at symbol <;> cases symbol
    rw [valid]
    simp [symbolToken, (plain_of_ofSymbol? symbol).2.2]
  | @invalid c =>
    rw [isLayout_invalidToken]
    by_cases layout : Text.isLayout c = true <;> simp [invalidToken, layout]

theorem textOf_cons (t : Token) (ts : List Token) :
    textOf (t :: ts) = t.text.toList ++ textOf ts :=
  List.flatMap_cons

/-- What is left of a text without the tokens of its layout is the text without its layout. -/
theorem textOf_filter_isLayout {position : Nat} {cs : List Char} {ts : List Token}
    (cut : Decomposition position cs ts) :
    textOf (ts.filter fun t => !t.isLayout) = cs.filter fun c => !Text.isLayout c := by
  have texts : ∀ t ∈ ts, t.text.toList.filter (fun c => !Text.isLayout c) =
      if t.isLayout then [] else t.text.toList := by
    intro t ht
    obtain ⟨place, isLexeme⟩ := cut.exists_isLexeme ht
    exact isLexeme.filter_text
  rw [← cut.text]
  clear cut
  induction ts with
  | nil => rfl
  | cons t ts ih =>
    have others := ih fun u hu => texts u (by simp [hu])
    rw [textOf_cons, List.filter_append, texts t (by simp), ← others]
    by_cases layout : t.isLayout = true
    · rw [List.filter_cons_of_neg (by simp [layout]), if_pos layout, List.nil_append]
    · rw [List.filter_cons_of_pos (by simp [layout]), if_neg layout, textOf_cons]

/-- Layout parts the lexemes before it from those behind it. -/
theorem tokensFrom_skipping_append {c : Char} (layout : Text.isLayout c = true) (position : Nat)
    (before after : List Char) :
    tokensFrom .skipping position (before ++ c :: after) =
      (tokensFrom .skipping position before).bind fun first =>
        (tokensFrom .skipping (position + before.length + 1) after).map (first ++ ·) := by
  have skipped : Mode.skipping.skips c = true := layout
  rw [tokensFrom_append (.inr (StopsNumber.layout layout after))]
  -- The layout itself only moves the place.
  have moved : tokensFrom .skipping (position + before.length) (c :: after) =
      tokensFrom .skipping (position + before.length + 1) after := by
    rw [tokensFrom, if_pos skipped]
  rw [moved]

end Scan

/-! ## From any place on -/

namespace Cursor

/-- From every place of a text on, the tokens with layout passed over are those without, but for the
invalid tokens of the six layout characters. So the text that they make up lacks its layout and
nothing else; layout parts what stands before it from what stands behind it, be it inside a run of
digits or beside a point; and without layout there is no difference. -/
theorem drains_skipping (cursor : Cursor) :
    ∃ ts us, us = ts.filter (fun t => !t.isLayout) ∧
      (cursor.tokens {} = .ok ts ∧ Drains {} cursor ts) ∧
      (cursor.tokens .skipping = .ok us ∧ Drains .skipping cursor us) ∧
      Scan.textOf us = cursor.remaining.filter (fun c => c ∉ Text.layoutChars) ∧
      (∀ before c after, cursor.remaining = before ++ c :: after → c ∈ Text.layoutChars →
        ∃ first second, us = first ++ second ∧
          Scan.tokensFrom .skipping cursor.position before = .ok first ∧
          Scan.tokensFrom .skipping (cursor.position + before.length + 1) after = .ok second) ∧
      ((∀ c ∈ cursor.remaining, c ∉ Text.layoutChars) → us = ts) := by
  obtain ⟨ts, cut⟩ := Scan.exists_decomposition cursor.position cursor.remaining
  have kept : cursor.tokens {} = .ok ts := Scan.tokensFrom_of_decomposition cut
  have skipped : cursor.tokens .skipping = .ok (ts.filter fun t => !t.isLayout) := by
    rw [tokens] at kept ⊢
    rw [Scan.tokensFrom_skipping, kept]
    rfl
  refine ⟨ts, ts.filter fun t => !t.isLayout, rfl, ⟨kept, tokens_eq_ok_iff_drains.1 kept⟩,
    ⟨skipped, tokens_eq_ok_iff_drains.1 skipped⟩, ?_, ?_, ?_⟩
  · rw [Scan.textOf_filter_isLayout cut]
    refine List.filter_congr fun c _ => ?_
    rw [Bool.eq_iff_iff]
    simp [← Text.isLayout_iff_mem]
  · intro before c after split layout
    rw [tokens, split, Scan.tokensFrom_skipping_append (Text.isLayout_iff_mem.2 layout),
      bind_eq_ok_iff] at skipped
    obtain ⟨first, front, rest⟩ := skipped
    obtain ⟨second, back, same⟩ := map_eq_ok_iff.1 rest
    exact ⟨first, second, same.symm, front, back⟩
  · intro none
    -- A layout token would stand for a layout character of the text.
    refine List.filter_eq_self.2 fun t ht => ?_
    by_contra layout
    obtain ⟨c, hc, text⟩ := Token.exists_of_isLayout (by simpa using layout)
    refine none c ?_ hc
    rw [← cut.text, Scan.textOf, List.mem_flatMap]
    exact ⟨t, ht, by simp [text]⟩

example : (Scan.tokens .skipping "1 2.\t5").toOption.map (·.map (·.text)) =
    some ["1", "2", ".", "5"] := by
  decide +kernel

end Cursor

end ReversePolish
