import Pipescript.Text.Basic

/-!
# Lines

Only a line feed ends a line, and every line keeps its terminator, so the lines of a text put
together again are the text.  A text that ends in a line feed has no empty line behind it.
-/

namespace Pipescript

namespace Text

/-- The lines of a text, terminators included. -/
def toLines : Text → List Text
  | [] => []
  | c :: rest =>
      if c = '\n' then
        [c] :: toLines rest
      else
        match toLines rest with
        | [] => [[c]]
        | line :: lines => (c :: line) :: lines

/-- The byte offset of a column in a line; columns behind the end stand for the end. -/
def columnOffset (line : Text) (column : Nat) : Nat :=
  utf8Size (line.take column)

theorem flatten_toLines (text : Text) : text.toLines.flatten = text := by
  induction text with
  | nil => rfl
  | cons c rest inductionHypothesis =>
      rw [toLines]
      split
      · simp [inductionHypothesis]
      · cases lines : toLines rest with
        | nil => simp_all
        | cons line later => simp_all

end Text

end Pipescript
