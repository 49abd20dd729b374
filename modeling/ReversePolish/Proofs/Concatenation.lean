import ReversePolish.Proofs.Displacement
import ReversePolish.Proofs.Resumption
import ReversePolish.Proofs.Strictness

/-!
# Texts put together

Two texts that are put together have the tokens of the one and, further on, those of the other, as
long as no number goes on from the one into the other. It is enough that the first text ends, or the
second one begins, in a character that is neither a digit nor a point.

- `Scan.tokensFrom_of_tokens_eq_ok`, `Scan.tokensFrom_of_tokens_eq_error`: the tokens of a text that
  stands behind another one, or what is said of its fault;
- `Scan.tokens_append`: scanning the one text, and then the other;
- `Scan.tokens_concatenation`: what comes of this in lenient and in strict modes.
-/

namespace ReversePolish.Scan

variable {mode : Mode}

/-! ## Behind another text -/

/-- A text that is scanned gives its tokens further on, where another text stands before it. -/
theorem tokensFrom_of_tokens_eq_ok {s : String} {ts : List Token} (scans : tokens mode s = .ok ts)
    (distance : Nat) : tokensFrom mode distance s.toList = .ok (ts.map (Token.shift distance)) := by
  have shifted := @tokensFrom_shift mode 0 distance s.toList
  rw [← tokens, scans, Nat.zero_add] at shifted
  cases further : tokensFrom mode distance s.toList with
  | error fault =>
    rw [further] at shifted
    cases shifted
  | ok us =>
    rw [further] at shifted
    exact congrArg Except.ok (Except.ok.inj shifted)

/-- A text that is refused is refused there as well, with its fault further on. -/
theorem tokensFrom_of_tokens_eq_error {s : String} {fault : Fault}
    (refused : tokens mode s = .error fault) (distance : Nat) :
    ∃ moved, tokensFrom mode distance s.toList = .error moved ∧
      moved.diagnosis = fault.diagnosis.shift distance := by
  have shifted := @tokensFrom_shift mode 0 distance s.toList
  rw [← tokens, refused, Nat.zero_add] at shifted
  cases further : tokensFrom mode distance s.toList with
  | error moved =>
    rw [further] at shifted
    exact ⟨moved, rfl, Except.error.inj shifted⟩
  | ok us =>
    rw [further] at shifted
    cases shifted

/-! ## Two texts -/

/-- One text is scanned after the other. -/
theorem tokens_append {first second : String} (apart : Apart first.toList second.toList) :
    tokens mode (first ++ second) =
      (tokens mode first).bind fun ts =>
        (tokensFrom mode first.length second.toList).map (ts ++ ·) := by
  rw [tokens, String.toList_append, tokensFrom_append apart, Nat.zero_add, String.length_toList]
  rfl

/-- If both texts are scanned, so are they together. -/
theorem tokens_append_of_ok {first second : String} (apart : Apart first.toList second.toList)
    {ts us : List Token} (one : tokens mode first = .ok ts) (other : tokens mode second = .ok us) :
    tokens mode (first ++ second) = .ok (ts ++ us.map (Token.shift first.length)) := by
  rw [tokens_append apart, one]
  change (tokensFrom mode first.length second.toList).map _ = _
  rw [tokensFrom_of_tokens_eq_ok other]
  rfl

/-- The fault of the first text comes first. -/
theorem tokens_append_of_error {first second : String} (apart : Apart first.toList second.toList)
    {fault : Fault} (refused : tokens mode first = .error fault) :
    tokens mode (first ++ second) = .error fault := by
  rw [tokens_append apart, refused]
  rfl

/-- The fault of the second text comes where the first one has none. -/
theorem exists_tokens_append_of_ok_of_error {first second : String}
    (apart : Apart first.toList second.toList) {ts : List Token} {fault : Fault}
    (one : tokens mode first = .ok ts) (refused : tokens mode second = .error fault) :
    ∃ moved, tokens mode (first ++ second) = .error moved ∧
      moved.diagnosis = fault.diagnosis.shift first.length := by
  obtain ⟨moved, further, said⟩ := tokensFrom_of_tokens_eq_error refused first.length
  refine ⟨moved, ?_, said⟩
  rw [tokens_append apart, one]
  change (tokensFrom mode first.length second.toList).map _ = _
  rw [further]
  rfl

/-- Together the texts are refused if one of them is. -/
theorem exists_tokens_append_eq_error_iff {first second : String}
    (apart : Apart first.toList second.toList) :
    (∃ fault, tokens mode (first ++ second) = .error fault) ↔
      (∃ fault, tokens mode first = .error fault) ∨ ∃ fault, tokens mode second = .error fault := by
  cases one : tokens mode first with
  | error fault =>
    rw [tokens_append_of_error apart one]
    exact ⟨.inl, fun _ => ⟨fault, rfl⟩⟩
  | ok ts =>
    cases other : tokens mode second with
    | error fault =>
      obtain ⟨moved, refused, -⟩ := exists_tokens_append_of_ok_of_error apart one other
      rw [refused]
      exact ⟨fun _ => .inr ⟨fault, rfl⟩, fun _ => ⟨moved, rfl⟩⟩
    | ok us =>
      rw [tokens_append_of_ok apart one other]
      simp

/-- An empty text is apart from any other. -/
theorem apart_of_cases {first second : String}
    (boundary : first = "" ∨ second = "" ∨ ClosesNumber first.toList ∨
      StopsNumber second.toList) : Apart first.toList second.toList := by
  rcases boundary with rfl | rfl | closes | stops
  · exact .inl (by simp [ClosesNumber])
  · exact .inr (by simp [StopsNumber])
  · exact .inl closes
  · exact .inr stops

/-- Two texts between which no number goes on are scanned together as they are scanned alone, with
layout passed over or not. In a lenient mode the tokens of the first text are followed by those of
the second one, further on by the length of the first. A strict mode refuses the whole exactly if it
refuses one of the two, and it reports the fault of the first text, or else that of the second one
further on; where it refuses neither, it gives the tokens of both. -/
theorem tokens_concatenation {first second : String}
    (boundary : first = "" ∨ second = "" ∨ ClosesNumber first.toList ∨
      StopsNumber second.toList) (mode : Mode) :
    (∃ ts us, tokens mode.leniently first = .ok ts ∧ tokens mode.leniently second = .ok us ∧
        tokens mode.leniently (first ++ second) =
          .ok (ts ++ us.map (Token.shift first.length))) ∧
      ((∃ fault, tokens mode.strictly (first ++ second) = .error fault) ↔
        (∃ fault, tokens mode.strictly first = .error fault) ∨
          ∃ fault, tokens mode.strictly second = .error fault) ∧
      (∀ fault, tokens mode.strictly first = .error fault →
        tokens mode.strictly (first ++ second) = .error fault) ∧
      (∀ ts fault, tokens mode.strictly first = .ok ts →
        tokens mode.strictly second = .error fault →
        (tokens mode.strictly (first ++ second)).mapError Fault.diagnosis =
          .error (fault.diagnosis.shift first.length)) ∧
      ∀ ts us, tokens mode.strictly first = .ok ts → tokens mode.strictly second = .ok us →
        tokens mode.strictly (first ++ second) = .ok (ts ++ us.map (Token.shift first.length)) := by
  have apart := apart_of_cases boundary
  obtain ⟨ts, one, -⟩ := exists_tokensFrom_leniently mode 0 first.toList
  obtain ⟨us, other, -⟩ := exists_tokensFrom_leniently mode 0 second.toList
  refine ⟨⟨ts, us, one, other, tokens_append_of_ok apart one other⟩,
    exists_tokens_append_eq_error_iff apart, fun fault => tokens_append_of_error apart,
    fun ts fault scans refused => ?_, fun ts us => tokens_append_of_ok apart⟩
  obtain ⟨moved, whole, said⟩ := exists_tokens_append_of_ok_of_error apart scans refused
  rw [whole]
  exact congrArg Except.error said

/-- A number that is cut at its point is one token as a whole, and three in its parts. -/
example : (tokens {} ("1" ++ ".5")).map List.length = .ok 1 ∧
    (tokens {} "1").map List.length = .ok 1 ∧ (tokens {} ".5").map List.length = .ok 2 := by
  decide +kernel

/-- The second text may begin with a point and a digit behind it, if the first one ends in a space:
the number of the first text does not go on. -/
theorem tokens_concatenation_point :
    ClosesNumber "12 ".toList ∧
      ∃ ts us, tokens { skipLayout := true } "12 " = .ok ts ∧
        tokens { skipLayout := true } ".5" = .ok us ∧
        tokens { skipLayout := true } ("12 " ++ ".5") = .ok (ts ++ us.map (Token.shift 3)) := by
  have closes : ClosesNumber "12 ".toList := by
    intro c hc
    obtain rfl : ' ' = c := by simpa using hc
    decide
  exact ⟨closes, (tokens_concatenation (.inr (.inr (.inl closes))) { skipLayout := true }).1⟩

end ReversePolish.Scan
