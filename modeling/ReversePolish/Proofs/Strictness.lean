import ReversePolish.Calculation
import ReversePolish.Proofs.Nesting
import ReversePolish.Proofs.Scanning

/-!
# Strict and lenient scanning

A strict mode refuses an unrecognized character at once. A lenient mode makes an invalid token of
it, and leaves it to the conversion to refuse that. By then the conversion may have met another
fault: a right parenthesis further in front that closes no group.

- `Scan.exists_tokensFrom_leniently`: what a strict mode makes of the tokens of a lenient one;
- `faultless_iff_not_hasUnmatched`: without invalid tokens a fault is a right parenthesis that
  matches no left one;
- `convert_of_firstInvalid`: which of the two faults the conversion meets;
- `ModesCoincide`, `ModesRefuse`: how the two modes go together without and with an unrecognized
  character;
- `strictly_accepts_iff_leniently`: both modes accept the same expressions, with the same outcome,
  and how their faults differ.
-/

namespace ReversePolish

namespace Scan

/-! ## Tokens of both modes -/

/-- The mode in which an unrecognized character is refused. -/
def Mode.strictly (mode : Mode) : Mode :=
  { mode with strict := true }

/-- The mode in which an unrecognized character gives an invalid token. -/
def Mode.leniently (mode : Mode) : Mode :=
  { mode with strict := false }

/-- What a strict mode makes of the tokens of a lenient one: the same tokens if none of them is
invalid, and the fault of the first one that is otherwise. -/
inductive Strictly : List Token → Except Fault (List Token) → Prop
  | same {ts : List Token} (valid : ∀ t ∈ ts, t.kind ≠ .invalid) : Strictly ts (.ok ts)
  | refused {before after : List Token} {position : Nat} {c : Char}
      (valid : ∀ t ∈ before, t.kind ≠ .invalid) :
      Strictly (before ++ invalidToken position c :: after)
        (.error (.unrecognizedCharacter c position))

/-- A token that is not invalid may stand in front. -/
theorem Strictly.cons {t : Token} {ts : List Token} {outcome : Except Fault (List Token)}
    (valid : t.kind ≠ .invalid) (h : Strictly ts outcome) :
    Strictly (t :: ts) (outcome.map (t :: ·)) := by
  cases h with
  | same others => exact .same (List.forall_mem_cons.2 ⟨valid, others⟩)
  | refused others =>
    rw [← List.cons_append]
    exact .refused (List.forall_mem_cons.2 ⟨valid, others⟩)

/-- A lenient mode always gives tokens, and a strict one goes along with it up to the first invalid
token. -/
theorem exists_tokensFrom_leniently (mode : Mode) (position : Nat) (cs : List Char) :
    ∃ ts, tokensFrom mode.leniently position cs = .ok ts ∧
      Strictly ts (tokensFrom mode.strictly position cs) := by
  -- By the recursion of scanning: nothing is refused, and what is skipped is so in both modes.
  fun_induction tokensFrom mode.leniently position cs with
  | case1 position =>
    rw [tokensFrom]
    exact ⟨[], rfl, .same (by simp)⟩
  | case2 position c cs skipped ih =>
    have both : mode.strictly.skips c = true := skipped
    rw [tokensFrom, if_pos both]
    exact ih
  | case3 position c cs kept fault refused =>
    exact absurd refused (tokenOf_ne_error rfl position c cs fault)
  | case4 position c cs kept token taken ih =>
    obtain ⟨ts, scans, strictly⟩ := ih
    have both : ¬ mode.strictly.skips c = true := kept
    rw [scans, tokensFrom, if_neg both]
    refine ⟨token :: ts, rfl, ?_⟩
    rcases tokenOf_cases position c cs with ⟨t, valid, all⟩ | ⟨split, all⟩
    · rw [all] at taken
      cases taken
      rw [all]
      exact strictly.cons valid
    · -- Here the strict mode stops.
      rw [split, all] at taken
      cases taken
      have none : ∀ u ∈ ([] : List Token), u.kind ≠ .invalid := by simp
      rw [split, all]
      exact .refused none

/-- The token is the first invalid one of the list, and the tokens `before` stand in front of it. -/
def FirstInvalid (ts before : List Token) (t : Token) : Prop :=
  ∃ after, ts = before ++ t :: after ∧ t.kind = .invalid ∧ ∀ u ∈ before, u.kind ≠ .invalid

end Scan

/-! ## Right parentheses without a left one -/

/-- Behind the tokens a group is open: they end in a left parenthesis and what stands inside its
group, which is never less deep than its beginning, and in the end as deep. -/
def OpensGroup (ts : List Token) : Prop :=
  ∃ outside opening inside, ts = outside ++ opening :: inside ∧ opening.kind = .leftParen ∧
    nesting inside = 0 ∧ ∀ front, front <+: inside → 0 ≤ nesting front

/-- Among the tokens is a right parenthesis that no left one in front of it matches. -/
def HasUnmatched (ts : List Token) : Prop :=
  ∃ before closing after, ts = before ++ closing :: after ∧ closing.kind = .rightParen ∧
    ¬ OpensGroup before

/-- A right parenthesis finds the group that it closes exactly if one is open. -/
theorem opensGroup_iff {ts parens : List Token} (run : nestAll [] ts = .ok parens) :
    OpensGroup ts ↔ parens ≠ [] := by
  constructor
  · rintro ⟨outside, opening, inside, rfl, isOpening, closed, -⟩
    -- What is outside the group is not negatively deep.
    have whole := run
    rw [nestAll_append, bind_eq_ok_iff] at whole
    obtain ⟨outer, before, -⟩ := whole
    have depth := (unclosed_of_nest before).nesting_eq
    rw [ne_eq, ← nesting_eq_zero_iff run, nesting_append, nesting_cons, nesting_opening isOpening]
    omega
  · intro notNil
    have unclosed := unclosed_of_nest run
    cases unclosed with
    | balanced balanced => exact absurd rfl notNil
    | @opened outer before inside paren _ isOpening balanced =>
      exact ⟨before, paren, inside, rfl, isOpening, balanced.nesting_eq_zero,
        fun front isPrefix => balanced.nesting_nonneg isPrefix⟩

/-- Without invalid tokens a fault is a right parenthesis that no left one matches. -/
theorem faultless_iff_not_hasUnmatched {ts : List Token} (valid : ∀ t ∈ ts, t.kind ≠ .invalid) :
    Faultless ts ↔ ¬ HasUnmatched ts := by
  constructor
  · rintro faultless ⟨before, closing, after, rfl, isClosing, unmatched⟩
    obtain ⟨parens, run⟩ := exists_nestAll_iff_faultless.2 faultless
    rw [nestAll_append, bind_eq_ok_iff] at run
    obtain ⟨outer, front, -⟩ := run
    -- Where the parenthesis stands no group is open, so that it is a fault.
    rw [opensGroup_iff front, not_not] at unmatched
    exact faultless before closing after rfl
      (.inr ⟨isClosing, (nesting_eq_zero_iff front).2 unmatched⟩)
  · intro matched
    rcases faultless_or_firstFault ts with faultless | ⟨t, before, after, rfl, first, isFault⟩
    · exact faultless
    · rcases isFault with invalid | ⟨isClosing, zero⟩
      · exact absurd invalid (valid t (by simp))
      · obtain ⟨parens, front⟩ := exists_nestAll_iff_faultless.2 first
        refine absurd ⟨before, t, after, rfl, isClosing, ?_⟩ matched
        rw [opensGroup_iff front, not_not]
        exact (nesting_eq_zero_iff front).1 zero

/-! ## What the conversion meets first -/

/-- The conversion meets the first invalid token, unless a right parenthesis in front of it matches
no left one. -/
theorem convert_of_firstInvalid {ts before : List Token} {t : Token}
    (first : Scan.FirstInvalid ts before t) :
    ∃ fault, convert ts = .error fault ∧
      (¬ HasUnmatched before → fault = .unsupported t) ∧
      (HasUnmatched before → ∃ paren, fault = .unmatched paren) := by
  obtain ⟨after, rfl, invalid, valid⟩ := first
  have noFault := faultless_iff_not_hasUnmatched valid
  rcases faultless_or_firstFault before with faultless | ⟨u, front, between, rfl, clean, isFault⟩
  · have isFirst : FirstFault (before ++ t :: after) t :=
      ⟨before, after, rfl, faultless, .inl invalid⟩
    refine ⟨.unsupported t, (convert_of_firstFault isFirst).1 invalid, fun _ => rfl, fun has => ?_⟩
    exact absurd has (noFault.1 faultless)
  · have isFirst : FirstFault (front ++ u :: between ++ t :: after) u :=
      ⟨front, between ++ t :: after, by simp, clean, isFault⟩
    have isClosing : u.kind = .rightParen := by
      rcases isFault with invalid | ⟨isClosing, -⟩
      · exact absurd invalid (valid u (by simp))
      · exact isClosing
    refine ⟨.unmatched u, (convert_of_firstFault isFirst).2 isClosing, fun matched => ?_,
      fun _ => ⟨u, rfl⟩⟩
    exact absurd isFault (noFault.2 matched front u between rfl)

theorem append_ne_empty {s : String} (h : s ≠ "") (t : String) : s ++ t ≠ "" := by
  intro empty
  exact h (String.append_eq_empty_iff.1 empty).1

/-- What is said of the token of an unrecognized character. -/
theorem objection_invalidToken (position : Nat) (c : Char) :
    (Scan.invalidToken position c).objection = unrecognizedText c position := by
  have first : "unrecognized character " ≠ "" := by decide
  have notEmpty : unrecognizedText c position ≠ "" :=
    append_ne_empty (append_ne_empty (append_ne_empty first _) _) _
  rw [Token.objection]
  split
  · next absent => cases absent
  · next empty =>
    exact absurd (Option.some.inj empty) notEmpty
  · next message _ present => exact (Option.some.inj present).symm

/-! ## Both modes -/

/-- A fault of the scan is that of the conversion. -/
theorem toPolish_of_tokens_eq_error {mode : Scan.Mode} {text : String} {fault : Fault}
    (refused : Scan.tokens mode text = .error fault) : toPolish mode text = .error fault := by
  rw [toPolish, refused]
  rfl

/-- A fault of the conversion is that of the calculation. -/
theorem calculate_of_toPolish_eq_error {mode : Scan.Mode} {text : String} {fault : Fault}
    (refused : toPolish mode text = .error fault) : calculate mode text = .error fault := by
  rw [calculate, refused]
  rfl

/-- Where every character is recognized, the modes do not differ: `ts` are the tokens in both. -/
structure ModesCoincide (mode : Scan.Mode) (text : String) (ts : List Token) : Prop where
  tokens : Scan.tokens mode.strictly text = .ok ts
  polish : toPolish mode.strictly text = toPolish mode.leniently text
  result : calculate mode.strictly text = calculate mode.leniently text

/-- The outcome is a fault of the given class and wording. -/
def FaultIs {α : Type} (outcome : Except Fault α) (diagnosis : Diagnosis) : Prop :=
  outcome.mapError Fault.diagnosis = .error diagnosis

/-- Both modes refuse an expression with an unrecognized character. The strict mode reports it by
the message of the first invalid token of the lenient mode, in front of which stand the tokens
`before`. The lenient mode reports it as a detail after the general message, unless a right
parenthesis in front of it matches no left one: then it reports unbalanced parentheses. -/
structure ModesRefuse (mode : Scan.Mode) (text : String) (before : List Token)
    (message : String) (diagnosis : Diagnosis) : Prop where
  strictTokens : FaultIs (Scan.tokens mode.strictly text) { code := .unrecognizedToken, message }
  strictPolish : FaultIs (toPolish mode.strictly text) { code := .unrecognizedToken, message }
  strictResult : FaultIs (calculate mode.strictly text) { code := .unrecognizedToken, message }
  lenientPolish : FaultIs (toPolish mode.leniently text) diagnosis
  lenientResult : FaultIs (calculate mode.leniently text) diagnosis
  cases : diagnosis =
      { code := .unrecognizedToken, message := "invalid expression: " ++ message } ∨
    diagnosis.code = .unbalancedParentheses
  unbalanced : diagnosis.code = .unbalancedParentheses ↔ HasUnmatched before

theorem modesRefuse_of_tokens {mode : Scan.Mode} {text : String} {before after : List Token}
    {position : Nat} {c : Char} (valid : ∀ t ∈ before, t.kind ≠ .invalid)
    (scans : Scan.tokens mode.leniently text =
      .ok (before ++ Scan.invalidToken position c :: after))
    (strict : Scan.tokens mode.strictly text = .error (.unrecognizedCharacter c position)) :
    ∃ diagnosis, ModesRefuse mode text before (unrecognizedText c position) diagnosis := by
  have first : Scan.FirstInvalid (before ++ Scan.invalidToken position c :: after) before
      (Scan.invalidToken position c) := ⟨after, rfl, rfl, valid⟩
  obtain ⟨fault, converts, named, unmatched⟩ := convert_of_firstInvalid first
  -- Both refuse, the strict mode already while scanning.
  have strictPolish := toPolish_of_tokens_eq_error strict
  have polish : toPolish mode.leniently text = .error fault := by
    rw [toPolish, scans]
    exact converts
  refine ⟨fault.diagnosis, ?_, ?_, ?_, ?_, ?_, ?_, ?_⟩
  · rw [FaultIs, strict]
    rfl
  · rw [FaultIs, strictPolish]
    rfl
  · rw [FaultIs, calculate_of_toPolish_eq_error strictPolish]
    rfl
  · rw [FaultIs, polish]
    rfl
  · rw [FaultIs, calculate_of_toPolish_eq_error polish]
    rfl
  -- Which fault the lenient mode meets is a matter of the parentheses in front.
  all_goals by_cases has : HasUnmatched before
  · obtain ⟨paren, rfl⟩ := unmatched has
    exact .inr rfl
  · rw [named has, Fault.diagnosis, message_unsupported, objection_invalidToken]
    exact .inl rfl
  · obtain ⟨paren, rfl⟩ := unmatched has
    exact ⟨fun _ => has, fun _ => rfl⟩
  · rw [named has]
    refine ⟨fun absurd => ?_, fun yes => absurd yes has⟩
    cases absurd

/-- Strict and lenient modes accept the same expressions, with the same outcome, and without an
unrecognized character they do not differ at all. With one both refuse, each in its own words. -/
theorem strictly_accepts_iff_leniently (mode : Scan.Mode) (text : String) :
    ∃ ts, Scan.tokens mode.leniently text = .ok ts ∧
      ((∃ fault, Scan.tokens mode.strictly text = .error fault) ↔ ∃ t ∈ ts, t.kind = .invalid) ∧
      ((∀ t ∈ ts, t.kind ≠ .invalid) → ModesCoincide mode text ts) ∧
      (∀ polish,
        toPolish mode.strictly text = .ok polish ↔ toPolish mode.leniently text = .ok polish) ∧
      (∀ result,
        calculate mode.strictly text = .ok result ↔ calculate mode.leniently text = .ok result) ∧
      ((∃ t ∈ ts, t.kind = .invalid) →
        ∃ before t message diagnosis, Scan.FirstInvalid ts before t ∧ t.message = some message ∧
          ModesRefuse mode text before message diagnosis) := by
  obtain ⟨ts, scans, strictly⟩ := Scan.exists_tokensFrom_leniently mode 0 text.toList
  rw [← Scan.tokens] at scans strictly
  refine ⟨ts, scans, ?_⟩
  generalize strict : Scan.tokens mode.strictly text = outcome at strictly
  cases strictly with
  | same valid =>
    have polish : toPolish mode.strictly text = toPolish mode.leniently text := by
      rw [toPolish, toPolish, strict, scans]
    have result : calculate mode.strictly text = calculate mode.leniently text := by
      rw [calculate, calculate, polish]
    have none : ¬ ∃ t ∈ ts, t.kind = .invalid := by
      rintro ⟨t, ht, invalid⟩
      exact valid t ht invalid
    refine ⟨⟨?_, fun some => absurd some none⟩, fun _ => ⟨strict, polish, result⟩,
      fun _ => by rw [polish], fun _ => by rw [result], fun some => absurd some none⟩
    rintro ⟨fault, absurd⟩
    cases absurd
  | @refused before after position c valid =>
    have some : ∃ t ∈ before ++ Scan.invalidToken position c :: after, t.kind = .invalid :=
      ⟨_, List.mem_append_right _ List.mem_cons_self, rfl⟩
    obtain ⟨diagnosis, refuses⟩ := modesRefuse_of_tokens valid scans strict
    -- A mode that gives a fault gives no result.
    have noResult : ∀ {α : Type} {outcome : Except Fault α} {diagnosis : Diagnosis} {a : α},
        FaultIs outcome diagnosis → outcome ≠ .ok a := by
      rintro α outcome diagnosis a faulty rfl
      cases faulty
    refine ⟨⟨fun _ => some, fun _ => ⟨_, rfl⟩⟩, fun none => ?_,
      fun polish => iff_of_false (noResult refuses.strictPolish) (noResult refuses.lenientPolish),
      fun result => iff_of_false (noResult refuses.strictResult) (noResult refuses.lenientResult),
      fun _ => ⟨before, _, _, diagnosis, ⟨after, rfl, rfl, valid⟩, rfl, refuses⟩⟩
    obtain ⟨t, ht, invalid⟩ := some
    exact absurd invalid (none t ht)

example : (toPolish {} "1)?").mapError Fault.code = .error .unbalancedParentheses ∧
    (toPolish { strict := true } "1)?").mapError Fault.code = .error .unrecognizedToken := by
  decide +kernel

end ReversePolish
