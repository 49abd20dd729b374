import Mathlib.Data.List.TakeWhile
import ReversePolish.Command.Run

/-!
# Expressions line by line

Expressions may be written into a text, one on a line. There may be padding around each of them,
blank lines anywhere, and each line may end in its own way; the last one need not end at all. What
counts as a blank and what ends a line are two sets of characters that overlap: the two characters
that end lines are blanks as well, but many a blank separates lines elsewhere and does not here.

- `Command.IsPlain`: an expression that can be written on a line;
- `Command.Spells`: the texts that expressions may be written as;
- `Command.expressionsOf_spells`: the expressions are read back from each of them.
-/

namespace ReversePolish

namespace Text

/-! ## Padding -/

variable {p : Char → Bool} {gap : List Char}

theorem trimBy_append_of_forall (all : ∀ c ∈ gap, p c = true) (cs : List Char) :
    trimBy p (gap ++ cs) = trimBy p cs := by
  rw [trimBy, trimBy, List.dropWhile_append_of_pos all]

theorem trimBy_append_forall (all : ∀ c ∈ gap, p c = true) (cs : List Char) :
    trimBy p (cs ++ gap) = trimBy p cs := by
  rw [trimBy, trimBy, List.dropWhile_append]
  split
  · -- All of it is cut off from the front.
    next none =>
    rw [List.isEmpty_iff.1 none, List.dropWhile_eq_nil_iff.2 all]
  · rw [List.reverse_append, List.dropWhile_append_of_pos (by simpa using all)]

/-- A text that is trimmed is what is left of it with blanks around. -/
theorem trimBy_padded {before after : List Char} {s : String} (trimmed : trim s = s)
    (front : ∀ c ∈ before, isBlank c = true) (back : ∀ c ∈ after, isBlank c = true) :
    trimBy isBlank (before ++ s.toList ++ after) = s.toList := by
  rw [trimBy_append_forall back, trimBy_append_of_forall front, ← toList_trim, trimmed]

/-! ## Lines -/

/-- The characters do not end a line. -/
def OneLine (cs : List Char) : Prop :=
  ∀ c ∈ cs, c ≠ '\n' ∧ c ≠ '\r'

instance (cs : List Char) : Decidable (OneLine cs) :=
  decidable_of_iff (cs.all (fun c => c ≠ '\n' && c ≠ '\r') = true) (by simp [OneLine])

/-- The ends that a line may have. -/
inductive LineEnd where
  | lineFeed
  | carriageReturn
  /-- A carriage return with a line feed behind it. -/
  | both
  deriving DecidableEq, Repr

/-- The characters of the end of a line. -/
def LineEnd.chars : LineEnd → List Char
  | .lineFeed => ['\n']
  | .carriageReturn => ['\r']
  | .both => ['\r', '\n']

/-- A line goes in front of what stands before the first end. -/
theorem linesOf_append_of_nil {line cs : List Char} (oneLine : OneLine line)
    {others : List (List Char)} (ends : linesOf cs = [] :: others) :
    linesOf (line ++ cs) = line :: others := by
  induction line with
  | nil => exact ends
  | cons c line ih =>
    rw [OneLine, List.forall_mem_cons] at oneLine
    obtain ⟨⟨notFeed, notReturn⟩, oneLine⟩ := oneLine
    rw [List.cons_append, linesOf]
    · simp [notFeed, notReturn, ih oneLine]
    · intro rest same
      exact absurd same notReturn

theorem linesOf_of_oneLine {line : List Char} (oneLine : OneLine line) : linesOf line = [line] := by
  have none : linesOf [] = [[]] := rfl
  have alone := linesOf_append_of_nil oneLine none
  rwa [List.append_nil] at alone

/-- Behind the end of a line the others follow. Only a carriage return and a line feed behind it,
each meant to end a line, are taken for one end. -/
theorem linesOf_lineEnd_append (lineEnd : LineEnd) (rest : List Char) :
    linesOf (lineEnd.chars ++ rest) = [] :: linesOf rest ∨
      linesOf (lineEnd.chars ++ rest) = linesOf rest ∧
        ∃ others, linesOf rest = [] :: others := by
  cases lineEnd with
  | lineFeed => exact .inl (by simp [LineEnd.chars, linesOf])
  | both => exact .inl (by simp [LineEnd.chars, linesOf])
  | carriageReturn =>
    rcases rest with _ | ⟨c, rest⟩
    · exact .inl (by simp [LineEnd.chars, linesOf])
    · by_cases feed : c = '\n'
      · subst feed
        exact .inr (by simp [LineEnd.chars, linesOf])
      · refine .inl ?_
        rw [LineEnd.chars, List.singleton_append, linesOf]
        · simp
        · intro more _ same
          exact feed (List.cons.inj same).1

end Text

namespace Command

open Text

/-! ## Expressions on lines -/

/-- An expression that means the same in a file, at the input and on a command line: it is a line
without blanks at its ends, and does not look like an option. -/
structure IsPlain (expression : String) : Prop where
  notEmpty : expression ≠ ""
  oneLine : OneLine expression.toList
  trimmed : trim expression = expression
  noDash : expression.toList.head? ≠ some '-'

instance (expression : String) : Decidable (IsPlain expression) :=
  decidable_of_iff
    (expression ≠ "" ∧ OneLine expression.toList ∧ trim expression = expression ∧
      expression.toList.head? ≠ some '-')
    ⟨fun ⟨notEmpty, oneLine, trimmed, noDash⟩ => ⟨notEmpty, oneLine, trimmed, noDash⟩,
      fun plain => ⟨plain.notEmpty, plain.oneLine, plain.trimmed, plain.noDash⟩⟩

/-- Blanks that do not end a line. -/
def IsPadding (gap : List Char) : Prop :=
  (∀ c ∈ gap, isBlank c = true) ∧ OneLine gap

instance (gap : List Char) : Decidable (IsPadding gap) :=
  decidable_of_iff (gap.all isBlank = true ∧ OneLine gap) (and_congr_left' List.all_eq_true)

/-- A line with an expression on it, or with none. -/
inductive Row : List Char → List String → Prop
  | blank {gap : List Char} (padding : IsPadding gap) : Row gap []
  | expression {before after : List Char} (expression : String) (front : IsPadding before)
      (back : IsPadding after) : Row (before ++ expression.toList ++ after) [expression]

/-- The texts that expressions may be written as, one on a line. The last line has no end; what ends
in the end of a line has an empty last line. -/
inductive Spells : List Char → List String → Prop
  | last {line : List Char} {expressions : List String} (row : Row line expressions) :
      Spells line expressions
  | line {line rest : List Char} {expressions others : List String} (row : Row line expressions)
      (lineEnd : LineEnd) (more : Spells rest others) :
      Spells (line ++ (lineEnd.chars ++ rest)) (expressions ++ others)

/-- The expressions on the lines. -/
def expressionsOn (lines : List (List Char)) : List String :=
  (lines.map fun line => String.ofList (trimBy isBlank line)).filter (· ≠ "")

theorem expressionsOf_eq (contents : String) :
    expressionsOf contents = expressionsOn (linesOf contents.toList) := by
  rw [expressionsOf, Text.lines, List.map_map, expressionsOn]
  refine congrArg (List.filter _) (List.map_congr_left fun line _ => ?_)
  rw [Function.comp_apply, trim, String.toList_ofList]

theorem expressionsOn_cons (line : List Char) (lines : List (List Char)) :
    expressionsOn (line :: lines) = expressionsOn [line] ++ expressionsOn lines := by
  rw [expressionsOn, expressionsOn, expressionsOn, ← List.filter_append, ← List.map_append,
    List.singleton_append]

/-- A text has the expressions of its first line and then those of the others. -/
theorem expressionsOn_linesOf_append {line : List Char} (oneLine : OneLine line)
    (lineEnd : LineEnd) (rest : List Char) :
    expressionsOn (linesOf (line ++ (lineEnd.chars ++ rest))) =
      expressionsOn [line] ++ expressionsOn (linesOf rest) := by
  rcases linesOf_lineEnd_append lineEnd rest with ends | ⟨same, others, ends⟩
  · rw [linesOf_append_of_nil oneLine ends, expressionsOn_cons]
  · -- The empty line that is lost has no expression.
    have none : expressionsOn [[]] = [] := by decide
    rw [linesOf_append_of_nil oneLine (same.trans ends), ends, expressionsOn_cons,
      expressionsOn_cons [], none, List.nil_append]

theorem Row.oneLine {line : List Char} {expressions : List String} (row : Row line expressions)
    (plain : ∀ expression ∈ expressions, IsPlain expression) : OneLine line := by
  cases row with
  | blank padding => exact padding.2
  | @expression before after expression front back =>
    have inside := (plain expression (List.mem_singleton_self _)).oneLine
    intro c hc
    rcases List.mem_append.1 hc with hc | hc
    · rcases List.mem_append.1 hc with hc | hc
      · exact front.2 c hc
      · exact inside c hc
    · exact back.2 c hc

theorem Row.expressionsOn {line : List Char} {expressions : List String}
    (row : Row line expressions) (plain : ∀ expression ∈ expressions, IsPlain expression) :
    expressionsOn [line] = expressions := by
  cases row with
  | blank padding =>
    have nothing := trimBy_append_forall padding.1 []
    rw [List.nil_append] at nothing
    rw [Command.expressionsOn, List.map_singleton, nothing]
    rfl
  | @expression before after expression front back =>
    have isPlain := plain expression (List.mem_singleton_self _)
    have left := trimBy_padded isPlain.trimmed front.1 back.1
    rw [Command.expressionsOn, List.map_singleton, left]
    simp [isPlain.notEmpty]

/-- From each text that they may be written as, the expressions are read back. -/
theorem expressionsOf_spells {contents : String} {expressions : List String}
    (spells : Spells contents.toList expressions)
    (plain : ∀ expression ∈ expressions, IsPlain expression) :
    expressionsOf contents = expressions := by
  rw [expressionsOf_eq]
  generalize contents.toList = cs at spells
  induction spells with
  | last row => rw [linesOf_of_oneLine (row.oneLine plain), row.expressionsOn plain]
  | line row lineEnd _ ih =>
    rw [List.forall_mem_append] at plain
    rw [expressionsOn_linesOf_append (row.oneLine plain.1), row.expressionsOn plain.1, ih plain.2]

end Command

end ReversePolish
