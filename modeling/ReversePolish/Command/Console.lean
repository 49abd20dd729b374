import ReversePolish.Command.Run

/-!
# Consoles

Headings and tables are not written by a run itself. They are handed to a console, which draws them,
and which may refuse: it takes what stands between square brackets for a mark, and the texts in a
heading or in the cells of a table are handed to it as they are. A run that has something refused
breaks off there, so that neither what would have been shown behind it nor an exit code follows.

How a console draws is not modelled. It is a parameter of what is shown in the end, and what may be
relied on of it is told by `Console.DrawsUnmarked`.

## Main definitions

* `Console`: what a console draws, and what it refuses.
* `Console.DrawsUnmarked`: a table without marks is drawn.
* `Console.perform`: what is shown of an outcome, and how the run really ends.
-/

namespace ReversePolish.Command

/-- What a console draws. It refuses all else. -/
structure Console where
  drawsHeading : String → Bool
  drawsTable : Table → Bool

namespace Console

/-- The console that knows no marks, and draws everything as it is. -/
def plain : Console where
  drawsHeading _ := true
  drawsTable _ := true

/-- The console that refuses all that could hold a mark, but for titles and heads. -/
def wary : Console where
  drawsHeading text := decide ('[' ∉ text.toList)
  drawsTable table := table.rows.all fun row => row.all fun cell => decide ('[' ∉ cell.toList)

/-- The console draws a table that no mark can spoil. Only a mark that closes another one can, and
it begins with a slash: there is none in a title without slashes, and none in a head or a cell
without square brackets that open. -/
structure DrawsUnmarked (console : Console) : Prop where
  table : ∀ table : Table, '/' ∉ table.title.toList →
    (∀ head ∈ table.columns, '[' ∉ head.toList) →
    (∀ row ∈ table.rows, ∀ cell ∈ row, '[' ∉ cell.toList) → console.drawsTable table = true

theorem drawsUnmarked_wary : wary.DrawsUnmarked where
  table table _ _ cells := by
    simpa [wary] using cells

/-- Whether something is shown. Lines of text are written as they are, without the console. -/
def shows (console : Console) : Shown → Bool
  | .lines _ => true
  | .heading text => console.drawsHeading text
  | .table table => console.drawsTable table

end Console

/-- How a run ends at a console. -/
inductive Finale where
  /-- It comes to its own end. -/
  | ended (ending : Ending)
  /-- It breaks off, since the console refuses what it was to show. -/
  | refused (shown : Shown)
  deriving DecidableEq, Repr

/-- What is seen of a run. -/
structure Performance where
  /-- What is shown, in order. -/
  shown : List Shown
  /-- What is written beside it. -/
  remarks : String
  /-- How the run ends. -/
  finale : Finale
  deriving DecidableEq, Repr

/-- What is seen of a run at a console. All remarks are made before anything is shown. -/
def Console.perform (console : Console) (outcome : Outcome) : Performance where
  shown := outcome.shown.takeWhile console.shows
  remarks := outcome.remarks
  finale :=
    match outcome.shown.dropWhile console.shows with
    | [] => .ended outcome.ending
    | first :: _ => .refused first

end ReversePolish.Command
