import Pipescript.Script.Assignment
import Pipescript.Script.EnvironmentMacro
import Pipescript.Script.GateColon

/-!
# Plain scripts

A script without its pipeline notation, as the host language reads it.  Rows and columns stay, so a
place in the plain text is the same place in the script.
-/

namespace Pipescript

/-- A plain text with what was replaced to get it. -/
structure PlainScript where
  text : Text
  /-- The rows on which an assignment or an arrow was replaced. -/
  changedRows : RowSet
  arrows : List Arrow
  deriving DecidableEq

namespace PlainScript

/-- Replace environment macros, then assignments, then arrows. -/
def ofScript (script : Text) : PlainScript :=
  let (assigned, rows) := withoutAssignments (withoutMacros script)
  let (text, arrows) := withoutArrows assigned
  ⟨text, rows.insertAll (arrows.map Arrow.row), arrows⟩

end PlainScript

end Pipescript
