import Mathlib.Data.List.DropRight
import ReversePolish.Proofs.Pending
import ReversePolish.Scan

/-!
# The same text at another place

What stands before a text does not change how it is scanned. It only moves the places: those of the
tokens, and those that messages quote at their end.

- `Text.raiseLastNumber`: a text with the number at its end raised;
- `Token.shift`, `Diagnosis.shift`: a token, or what is said of a fault, further on;
- `Scan.tokensFrom_shift`: the tokens of a text further on.
-/

namespace ReversePolish

/-! ## Numbers that messages quote -/

namespace Text

/-- The text with the number at its end raised by the given amount. -/
def raiseLastNumber (amount : Nat) (s : String) : String :=
  String.ofList (s.toList.rdropWhile Char.isDigit) ++
    toString (Nat.ofDigitChars 10 (s.toList.rtakeWhile Char.isDigit) 0 + amount)

/-- A number that stands behind something else is raised as a whole. -/
theorem raiseLastNumber_append {lead : String}
    (notDigit : ∀ c ∈ lead.toList.getLast?, c.isDigit = false) (n amount : Nat) :
    raiseLastNumber amount (lead ++ toString n) = lead ++ toString (n + amount) := by
  have chars : (lead ++ toString n).toList = lead.toList ++ Nat.toDigits 10 n := by
    rw [String.toList_append, Nat.toString_eq_ofList_toDigits, String.toList_ofList]
  have digits : ∀ c ∈ (Nat.toDigits 10 n).reverse, c.isDigit = true := by
    intro c hc
    exact Nat.isDigit_of_mem_toDigits (by decide) (by decide) (List.mem_reverse.1 hc)
  -- Read from its end, the text is the digits of the number and then something that is no digit.
  have stop : lead.toList.reverse.dropWhile Char.isDigit = lead.toList.reverse ∧
      lead.toList.reverse.takeWhile Char.isDigit = [] := by
    rw [← List.head?_reverse] at notDigit
    cases back : lead.toList.reverse with
    | nil => exact ⟨rfl, rfl⟩
    | cons c rest =>
      have none : ¬ c.isDigit = true := by simp [notDigit c (by rw [back]; rfl)]
      exact ⟨List.dropWhile_cons_of_neg none, List.takeWhile_cons_of_neg none⟩
  rw [raiseLastNumber, chars, List.rdropWhile, List.rtakeWhile, List.reverse_append,
    List.dropWhile_append_of_pos digits, List.takeWhile_append_of_pos digits, stop.1, stop.2,
    List.append_nil, List.reverse_reverse, List.reverse_reverse, String.ofList_toList,
    Nat.ofDigitChars_ten_toDigits]

end Text

/-! ## Tokens and faults further on -/

/-- The token, further on by the given distance. -/
def Token.shift (distance : Nat) (t : Token) : Token :=
  { t with
    message := t.message.map (Text.raiseLastNumber distance)
    position := t.position.map (· + distance) }

/-- What is said of a fault, for the same fault further on by the given distance. -/
def Diagnosis.shift (distance : Nat) (diagnosis : Diagnosis) : Diagnosis :=
  { diagnosis with message := Text.raiseLastNumber distance diagnosis.message }

namespace Scan

variable {mode : Mode}

/-- What is said of an unrecognized character quotes its place. -/
theorem unrecognizedText_add (c : Char) (position distance : Nat) :
    unrecognizedText c (position + distance) =
      Text.raiseLastNumber distance (unrecognizedText c position) := by
  have notDigit : ∀ d ∈ ("unrecognized character " ++ Text.quoted (String.singleton c) ++
      " at position ").toList.getLast?, d.isDigit = false := by
    intro d hd
    have space : " at position ".toList.getLast? = some ' ' := by decide
    rw [String.toList_append, List.getLast?_append, space] at hd
    obtain rfl : ' ' = d := by simpa using hd
    rfl
  exact (Text.raiseLastNumber_append notDigit position distance).symm

/-- A lexeme that gives a token gives the same token further on. -/
theorem tokenOf_shift_of_ok {position : Nat} {c : Char} {lexeme : List Char} {t : Token}
    (taken : tokenOf mode position c lexeme = .ok t) (distance : Nat) :
    tokenOf mode (position + distance) c lexeme = .ok (t.shift distance) := by
  rw [tokenOf] at taken ⊢
  cases known : kindOf? c lexeme with
  | some kind =>
    rw [known] at taken
    cases taken
    rfl
  | none =>
    rw [known] at taken
    dsimp only at taken ⊢
    by_cases strict : mode.strict = true
    · rw [if_pos strict] at taken
      cases taken
    · rw [if_neg strict] at taken ⊢
      cases taken
      rw [unrecognizedText_add]
      rfl

/-- A character that is refused is refused further on. -/
theorem tokenOf_shift_of_error {position : Nat} {c : Char} {lexeme : List Char} {fault : Fault}
    (refused : tokenOf mode position c lexeme = .error fault) (distance : Nat) :
    ∃ moved, tokenOf mode (position + distance) c lexeme = .error moved ∧
      moved.diagnosis = fault.diagnosis.shift distance := by
  rw [tokenOf] at refused ⊢
  cases known : kindOf? c lexeme with
  | some kind =>
    rw [known] at refused
    cases refused
  | none =>
    rw [known] at refused
    dsimp only at refused ⊢
    by_cases strict : mode.strict = true
    · rw [if_pos strict] at refused ⊢
      cases refused
      refine ⟨_, rfl, ?_⟩
      rw [Fault.diagnosis, Fault.message, unrecognizedText_add]
      rfl
    · rw [if_neg strict] at refused
      cases refused

/-- The tokens of a text further on are its tokens further on, and so it is with what is said of a
character that is refused. -/
theorem tokensFrom_shift (position distance : Nat) (cs : List Char) :
    (tokensFrom mode (position + distance) cs).mapError Fault.diagnosis =
      ((tokensFrom mode position cs).map (List.map (Token.shift distance))).mapError
        fun fault => fault.diagnosis.shift distance := by
  -- By the recursion of scanning, in which the place is only handed on.
  fun_induction tokensFrom mode position cs with
  | case1 position =>
    rw [tokensFrom]
    rfl
  | case2 position c cs skipped ih =>
    rw [tokensFrom, if_pos skipped, Nat.add_right_comm, ih]
  | case3 position c cs kept fault refused =>
    obtain ⟨moved, further, said⟩ := tokenOf_shift_of_error refused distance
    rw [tokensFrom, if_neg kept, further]
    exact congrArg Except.error said
  | case4 position c cs kept token taken ih =>
    rw [tokensFrom, if_neg kept, tokenOf_shift_of_ok taken distance]
    dsimp only
    rw [Nat.add_right_comm]
    -- The first token is moved like the others.
    rw [mapError_map, ih]
    cases tokensFrom mode (position + (splitLexeme c cs).1.length) (splitLexeme c cs).2 <;> rfl

end Scan

end ReversePolish
