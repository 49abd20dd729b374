/-!
# Lines

A line ends at a line feed, at a carriage return, or at the two together. Other line separators of
Unicode stay inside a line.
-/

namespace ReversePolish.Text

/-- The lines of a text, without their ends. A text that ends in a line end has an empty last
line. -/
def linesOf : List Char → List (List Char)
  | [] => [[]]
  | '\r' :: '\n' :: rest => [] :: linesOf rest
  | c :: rest =>
    if c = '\n' ∨ c = '\r' then [] :: linesOf rest
    else
      match linesOf rest with
      | [] => [[c]]
      | line :: lines => (c :: line) :: lines

/-- The lines of a text, without their ends. -/
def lines (s : String) : List String :=
  (linesOf s.toList).map String.ofList

end ReversePolish.Text
