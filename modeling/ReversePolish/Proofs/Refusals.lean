import ReversePolish.Proofs.Handover
import ReversePolish.Proofs.Obstacles

/-!
# Refusals

A token that was put together by hand may have a text that does not fit its kind. Conversion and
evaluation go by the kind and take no notice; only a result that is handed on is refused. This
module says which results these are, and what is said of them: every ill-formed token of the result
is named at its index in it, and no other.

- `Token.Offends`, `Token.ListsOffenders`: the ill-formed tokens of a list, and the complaints about
  them;
- `Token.listsOffenders_complaints`: the complaints about a list are of this sort;
- `exists_convertChecked_eq_error_iff`, `exists_convertOrSentinelChecked_eq_error_iff`: which
  conversions are refused;
- `exists_traceChecked_eq_ok_error_iff`: which evaluations are refused;
- `ConversionChecked`, `EvaluationChecked`: what the two hand on;
- `checked_refuses_offenders`: so it is for every list of tokens.
-/

namespace ReversePolish

/-! ## Complaints about a list -/

namespace Token

/-- The token of the list with the given index is ill-formed. -/
def Offends (ts : List Token) (index : Nat) : Prop :=
  ∃ t, ts[index]? = some t ∧ ¬ t.WellFormed

/-- The complaint names the token with the given index in the list called `name`, and says what is
wrong with it. -/
def Names (name : String) (ts : List Token) (index : Nat) (complaint : Complaint) : Prop :=
  ∃ t fault, ts[index]? = some t ∧ t.lexemeFault? = some fault ∧
    complaint = { place := [.field name, .item index], violation := .rule fault.message }

/-- The complaints name the ill-formed tokens of the list called `name`, each of them once and in
increasing order of their indices. -/
def ListsOffenders (name : String) (ts : List Token) (complaints : List Complaint) : Prop :=
  ∃ indices : List Nat, indices.Pairwise (· < ·) ∧ (∀ index, index ∈ indices ↔ Offends ts index) ∧
    List.Forall₂ (Names name ts) indices complaints

theorem offends_append_cons_iff {front rest : List Token} {t : Token} :
    Offends (front ++ t :: rest) front.length ↔ ¬ t.WellFormed := by
  simp [Offends]

/-- The complaints about the end of a list name the ill-formed tokens in it. -/
theorem exists_indices_complaintsFrom (name : String) (front ts : List Token) :
    ∃ indices : List Nat, indices.Pairwise (· < ·) ∧
      (∀ index, index ∈ indices ↔ front.length ≤ index ∧ Offends (front ++ ts) index) ∧
      List.Forall₂ (Names name (front ++ ts)) indices
        (complaintsFrom name front.length ts) := by
  -- On the end of the list: its first token goes over to the front.
  induction ts generalizing front with
  | nil =>
    refine ⟨[], .nil, fun index => ?_, .nil⟩
    simp only [List.not_mem_nil, false_iff, not_and]
    rintro beyond ⟨t, found, -⟩
    rw [List.append_nil, List.getElem?_eq_none beyond] at found
    cases found
  | cons t ts ih =>
    obtain ⟨indices, increasing, members, named⟩ := ih (front ++ [t])
    rw [List.append_assoc, List.singleton_append] at members named
    rw [List.length_append, List.length_singleton] at members named
    -- An index in the end is that of its first token or comes behind it.
    have least : ∀ index, front.length ≤ index ↔
        index = front.length ∨ front.length + 1 ≤ index := by omega
    cases offence : t.lexemeFault? with
    | none =>
      have fits : ¬ Offends (front ++ t :: ts) front.length := by
        rw [offends_append_cons_iff, not_not]
        exact offence
      refine ⟨indices, increasing, fun index => ?_, ?_⟩
      · rw [members, least]
        constructor
        · rintro ⟨behind, offends⟩
          exact ⟨.inr behind, offends⟩
        · rintro ⟨rfl | behind, offends⟩
          · exact absurd offends fits
          · exact ⟨behind, offends⟩
      · rw [complaintsFrom, offence]
        exact named
    | some fault =>
      have offends : Offends (front ++ t :: ts) front.length := by
        rw [offends_append_cons_iff, WellFormed, offence]
        exact Option.some_ne_none fault
      refine ⟨front.length :: indices, ?_, fun index => ?_, ?_⟩
      · refine List.pairwise_cons.2 ⟨fun index hindex => ?_, increasing⟩
        exact ((members index).1 hindex).1
      · rw [List.mem_cons, members, least]
        constructor
        · rintro (rfl | ⟨behind, other⟩)
          · exact ⟨.inl rfl, offends⟩
          · exact ⟨.inr behind, other⟩
        · rintro ⟨rfl | behind, other⟩
          · exact .inl rfl
          · exact .inr ⟨behind, other⟩
      · rw [complaintsFrom, offence]
        exact .cons ⟨t, fault, by simp, offence, rfl⟩ named

/-- The complaints about a list name its ill-formed tokens. -/
theorem listsOffenders_complaints (name : String) (ts : List Token) :
    ListsOffenders name ts (complaints name ts) := by
  obtain ⟨indices, increasing, members, named⟩ := exists_indices_complaintsFrom name [] ts
  refine ⟨indices, increasing, fun index => ?_, named⟩
  rw [members]
  exact and_iff_right (Nat.zero_le index)

/-- A list is refused with the complaints about its ill-formed tokens. -/
theorem listsOffenders_of_checkAll {name : String} {ts : List Token} {complaints : List Complaint}
    (refused : checkAll name ts = .error complaints) : ListsOffenders name ts complaints := by
  have lists := listsOffenders_complaints name ts
  rw [checkAll] at refused
  split at refused
  · cases refused
  · next found => exact Except.error.inj refused ▸ lists

/-- A list of well-formed tokens passes, and no other list does. -/
theorem checkAll_eq_ok_iff {name : String} {ts us : List Token} :
    checkAll name ts = .ok us ↔ us = ts ∧ ∀ t ∈ ts, t.WellFormed := by
  rw [← complaintsFrom_eq_nil_iff name 0, ← complaints, checkAll]
  split
  · next none => simp [none, eq_comm]
  · next some =>
    refine iff_of_false (fun passes => ?_) fun found => some found.2
    cases passes

theorem exists_checkAll_eq_error_iff {name : String} {ts : List Token} :
    (∃ complaints, checkAll name ts = .error complaints) ↔ ∃ t ∈ ts, ¬ t.WellFormed := by
  cases checked : checkAll name ts with
  | ok us =>
    have wellFormed := (checkAll_eq_ok_iff.1 checked).2
    constructor
    · rintro ⟨complaints, absurd⟩
      cases absurd
    · rintro ⟨t, ht, ill⟩
      exact absurd (wellFormed t ht) ill
  | error complaints =>
    refine ⟨fun _ => ?_, fun _ => ⟨complaints, rfl⟩⟩
    by_contra none
    have wellFormed : ∀ t ∈ ts, t.WellFormed := by simpa using none
    rw [checkAll_of_wellFormed wellFormed] at checked
    cases checked

end Token

/-! ## Conversions -/

/-- The ill-formed tokens of a result are the ill-formed numbers and operators of the expression. -/
theorem exists_not_wellFormed_iff_of_convert {ts result : List Token}
    (converts : convert ts = .ok result) :
    (∃ t ∈ result, ¬ t.WellFormed) ↔ ∃ t ∈ ts, t.isTerm = true ∧ ¬ t.WellFormed := by
  have members : ∀ t, t ∈ result ↔ t ∈ ts ∧ t.isTerm = true := fun t =>
    (perm_of_convert converts).mem_iff.trans List.mem_filter
  simp only [members, and_assoc]

/-- A conversion is refused if it has a result, and this result has an ill-formed token. -/
theorem convertChecked_eq_error_iff {ts : List Token} {complaints : List Complaint} :
    convertChecked ts = .error complaints ↔
      ∃ result, convert ts = .ok result ∧ Token.checkAll "tokens" result = .error complaints := by
  rw [convertChecked]
  cases convert ts with
  | error fault => simp
  | ok result => simp [map_eq_error_iff]

theorem exists_convertChecked_eq_error_iff {ts : List Token} :
    (∃ complaints, convertChecked ts = .error complaints) ↔
      (∃ result, convert ts = .ok result) ∧ ∃ t ∈ ts, t.isTerm = true ∧ ¬ t.WellFormed := by
  constructor
  · rintro ⟨complaints, refused⟩
    obtain ⟨result, converts, found⟩ := convertChecked_eq_error_iff.1 refused
    rw [← exists_not_wellFormed_iff_of_convert converts]
    exact ⟨⟨result, converts⟩, Token.exists_checkAll_eq_error_iff.1 ⟨complaints, found⟩⟩
  · rintro ⟨⟨result, converts⟩, offender⟩
    rw [← exists_not_wellFormed_iff_of_convert converts] at offender
    obtain ⟨complaints, found⟩ : ∃ complaints, Token.checkAll "tokens" result = .error complaints :=
      Token.exists_checkAll_eq_error_iff.2 offender
    exact ⟨complaints, convertChecked_eq_error_iff.2 ⟨result, converts, found⟩⟩

/-- The result or the stand-in for it is refused in the same way. -/
theorem convertOrSentinelChecked_eq_error_iff {ts : List Token} {complaints : List Complaint} :
    convertOrSentinelChecked ts = .error complaints ↔ convertChecked ts = .error complaints := by
  rw [convertOrSentinelChecked, map_eq_error_iff]

/-- A fault of the conversion is told, whatever its tokens are. -/
theorem convertChecked_of_error {ts : List Token} {fault : Fault}
    (refused : convert ts = .error fault) :
    convertChecked ts = .ok (.error fault) ∧
      convertOrSentinelChecked ts = .ok [Token.sentinel] := by
  rw [convertOrSentinelChecked, convertChecked, refused]
  exact ⟨rfl, rfl⟩

/-- Of a conversion only numbers and operators have to be well formed. -/
theorem convertChecked_of_forall_isTerm {ts : List Token}
    (wellFormed : ∀ t ∈ ts, t.isTerm = true → t.WellFormed) :
    convertChecked ts = .ok (convert ts) ∧
      convertOrSentinelChecked ts = .ok (convertOrSentinel ts) := by
  have checked : convertChecked ts = .ok (convert ts) := by
    rw [convertChecked]
    cases converts : convert ts with
    | error fault => rfl
    | ok result =>
      have kept : ∀ t ∈ result, t.WellFormed := by
        intro t ht
        obtain ⟨given, isTerm⟩ := mem_of_convert converts ht
        exact wellFormed t given isTerm
      dsimp only
      rw [Token.checkAll_of_wellFormed kept]
      rfl
  refine ⟨checked, ?_⟩
  rw [convertOrSentinelChecked, checked, convertOrSentinel]
  cases convert ts <;> rfl

/-! ## Evaluations -/

/-- An evaluation with its steps has a result that is handed on if it has a value and all tokens are
well formed. -/
theorem traceChecked_eq_ok_ok_iff {ts : List Token} {result : Trace} :
    traceChecked ts = .ok (.ok result) ↔ trace ts = .ok result ∧ ∀ t ∈ ts, t.WellFormed := by
  rw [traceChecked, map_eq_ok_iff]
  constructor
  · rintro ⟨found, traced, handed⟩
    obtain ⟨us, checked, rfl⟩ := map_eq_ok_iff.1 handed
    exact ⟨traced, (Token.checkAll_eq_ok_iff.1 checked).2⟩
  · rintro ⟨traced, wellFormed⟩
    refine ⟨result, traced, ?_⟩
    rw [Token.checkAll_of_wellFormed wellFormed]
    rfl

/-- An evaluation that has a value is refused with the complaints about the list. -/
theorem traceChecked_eq_ok_error_iff {ts : List Token} {complaints : List Complaint} :
    traceChecked ts = .ok (.error complaints) ↔
      (∃ v, evaluate ts = .ok v) ∧ Token.checkAll "postfix" ts = .error complaints := by
  rw [traceChecked, evaluate_eq_map_trace]
  cases trace ts with
  | error fault => simp [Except.map]
  | ok result =>
    change Except.ok (Except.map _ _) = _ ↔ (∃ v, Except.ok result.value = .ok v) ∧ _
    rw [Except.ok.injEq, map_eq_error_iff]
    exact (and_iff_right ⟨result.value, rfl⟩).symm

theorem exists_traceChecked_eq_ok_error_iff {ts : List Token} :
    (∃ complaints, traceChecked ts = .ok (.error complaints)) ↔
      (∃ v, evaluate ts = .ok v) ∧ ∃ t ∈ ts, ¬ t.WellFormed := by
  simp only [traceChecked_eq_ok_error_iff, exists_and_left, Token.exists_checkAll_eq_error_iff]

/-! ## Results that are handed on -/

/-- What a conversion hands on. It is refused exactly if it succeeds and one of the numbers and
operators given is ill-formed; a fault is told whatever the tokens are, and ill-formed parentheses
are never noticed. -/
structure ConversionChecked (ts : List Token) : Prop where
  refused : (∃ complaints, convertChecked ts = .error complaints) ↔
    (∃ result, convert ts = .ok result) ∧ ∃ t ∈ ts, t.isTerm = true ∧ ¬ t.WellFormed
  /-- The stand-in for a fault changes nothing of what is refused. -/
  sentinel : ∀ complaints, convertOrSentinelChecked ts = .error complaints ↔
    convertChecked ts = .error complaints
  /-- The complaints are about the result, and so in its order. -/
  listed : ∀ complaints result, convertChecked ts = .error complaints →
    convert ts = .ok result → Token.ListsOffenders "tokens" result complaints
  fault : ∀ fault, convert ts = .error fault → convertChecked ts = .ok (.error fault) ∧
    convertOrSentinelChecked ts = .ok [Token.sentinel]
  parentheses : (∀ t ∈ ts, t.isTerm = true → t.WellFormed) →
    convertChecked ts = .ok (convert ts) ∧
      convertOrSentinelChecked ts = .ok (convertOrSentinel ts)

/-- What an evaluation hands on. Without its steps it ends with a value or with a fault of the
expression. With them it ends with the same faults; where there is a value, this is handed on if all
tokens given are well formed, and refused otherwise. -/
structure EvaluationChecked (ts : List Token) : Prop where
  ends : (∃ v, evaluate ts = .ok v) ∨
    ∃ fault, evaluate ts = .error fault ∧ traceChecked ts = .error fault
  /-- With the value goes the list itself, which passes. -/
  handed : ∀ v, (∃ result, traceChecked ts = .ok (.ok result) ∧ result.value = v ∧
      Token.checkAll "postfix" ts = .ok ts) ↔
    evaluate ts = .ok v ∧ ∀ t ∈ ts, t.WellFormed
  faults : ∀ fault, traceChecked ts = .error fault ↔ evaluate ts = .error fault
  refused : (∃ complaints, traceChecked ts = .ok (.error complaints)) ↔
    (∃ v, evaluate ts = .ok v) ∧ ∃ t ∈ ts, ¬ t.WellFormed
  listed : ∀ complaints, traceChecked ts = .ok (.error complaints) →
    Token.ListsOffenders "postfix" ts complaints

theorem conversionChecked (ts : List Token) : ConversionChecked ts where
  refused := exists_convertChecked_eq_error_iff
  sentinel _ := convertOrSentinelChecked_eq_error_iff
  listed := by
    intro complaints result refused converts
    obtain ⟨found, same, listed⟩ := convertChecked_eq_error_iff.1 refused
    rw [converts] at same
    cases same
    exact Token.listsOffenders_of_checkAll listed
  fault _ := convertChecked_of_error
  parentheses := convertChecked_of_forall_isTerm

theorem evaluationChecked (ts : List Token) : EvaluationChecked ts where
  ends := by
    cases evaluates : evaluate ts with
    | ok v => exact .inl ⟨v, rfl⟩
    | error fault => exact .inr ⟨fault, rfl, traceChecked_eq_error_iff.2 evaluates⟩
  handed := by
    intro v
    rw [evaluate_eq_map_trace, map_eq_ok_iff]
    constructor
    · rintro ⟨result, handed, value, -⟩
      obtain ⟨traced, wellFormed⟩ := traceChecked_eq_ok_ok_iff.1 handed
      exact ⟨⟨result, traced, value⟩, wellFormed⟩
    · rintro ⟨⟨result, traced, value⟩, wellFormed⟩
      exact ⟨result, traceChecked_eq_ok_ok_iff.2 ⟨traced, wellFormed⟩, value,
        Token.checkAll_of_wellFormed wellFormed "postfix"⟩
  faults _ := traceChecked_eq_error_iff
  refused := exists_traceChecked_eq_ok_error_iff
  listed := by
    intro complaints refused
    exact Token.listsOffenders_of_checkAll (traceChecked_eq_ok_error_iff.1 refused).2

/-- Ill-formed tokens are stopped where a result is handed on, and nowhere else: in the result of a
conversion and in the list that is handed on with a value. -/
theorem checked_refuses_offenders (ts : List Token) :
    ConversionChecked ts ∧ EvaluationChecked ts :=
  ⟨conversionChecked ts, evaluationChecked ts⟩

example :
    convertChecked [{ kind := .operator .add, text := "plus" },
        { kind := .number .float, text := "1e3" }] =
      .error
        [{ place := [.field "tokens", .item 0], violation := .rule "Niepoprawna liczba: '1e3'" },
          { place := [.field "tokens", .item 1],
            violation := .rule "Lexem 'plus' nie pasuje do ADD" }] := by
  decide +kernel

end ReversePolish
