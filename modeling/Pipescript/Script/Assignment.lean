import Pipescript.Script.RowSet
import Pipescript.Text.Lines

/-!
# Module assignments

`name::Module()` names a module as it is made.  For the host language the double colon becomes an
equals sign and a blank.
-/

namespace Pipescript

/-- Replace the double colons of a row, from left to right. -/
def withoutDoubleColons : Text → Text
  | ':' :: ':' :: rest => '=' :: ' ' :: withoutDoubleColons rest
  | c :: rest => c :: withoutDoubleColons rest
  | [] => []

/-- The numbers of the rows that hold a double colon, the first row having number `row`. -/
def assignmentRows (row : Nat) : List Text → List Nat
  | [] => []
  | line :: lines =>
      if Text.includes [':', ':'] line then row :: assignmentRows (row + 1) lines
      else assignmentRows (row + 1) lines

/-- Replace the double colons of a script and tell on which rows. -/
def withoutAssignments (script : Text) : Text × RowSet :=
  let lines := script.toLines
  ((lines.map withoutDoubleColons).flatten, RowSet.ofList (assignmentRows 0 lines))

end Pipescript
