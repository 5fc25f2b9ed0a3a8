import Pipescript.Text.Digits

/-!
# Tables of characters

A character property with many values is given by a table: a text of rows between blanks and line
breaks.  A row is an interval of code points in hexadecimal digits, such as `41-5A`, or a single
code point, and behind an equals sign the note that the table has on them.  The rows of a table are
in ascending order, so a search may stop at the first row that starts above the code point.
-/

namespace Pipescript

/-- A row of a table. -/
structure CharRow where
  low : Nat
  high : Nat
  note : Text
  deriving DecidableEq, Repr

/-- The rows of a table, in ascending order. -/
abbrev CharTable := List CharRow

/-- The number that hexadecimal digits stand for. -/
def hexNumber (digits : Text) : Nat :=
  (digitsValue? 16 digits).getD 0

namespace CharRow

def ofText (row : Text) : CharRow :=
  let interval := row.takeWhile (· != '=')
  let low := interval.takeWhile (· != '-')
  let high := (interval.dropWhile (· != '-')).drop 1
  ⟨hexNumber low, hexNumber (if high.isEmpty then low else high), row.drop (interval.length + 1)⟩

/-- The code points that the note lists, in hexadecimal digits between commas. -/
def points (row : CharRow) : List Nat :=
  if row.note.isEmpty then [] else (splitAt ',' row.note).map hexNumber

end CharRow

namespace CharTable

def ofText (table : String) : CharTable :=
  let spaced := table.toList.map fun c => if c = '\n' then ' ' else c
  ((splitAt ' ' spaced).filter (!·.isEmpty)).map CharRow.ofText

/-- The row that has the code point in its interval. -/
def row? (point : Nat) : CharTable → Option CharRow
  | [] => none
  | row :: later =>
      if point < row.low then none
      else if point ≤ row.high then some row
      else row? point later

/-- Whether some row has the character in its interval. -/
def covers (table : CharTable) (c : Char) : Bool :=
  (table.row? c.toNat).isSome

/-- The note on a character; there is none on characters outside all intervals. -/
def note (table : CharTable) (c : Char) : Text :=
  match table.row? c.toNat with
  | some row => row.note
  | none => []

end CharTable

end Pipescript
