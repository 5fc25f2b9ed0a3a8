import Pipescript.Text.Lines

/-!
# Line index

A line index holds a text with the byte offsets at which its rows start.  The row behind a final
line feed counts, so a text has one row more than it has line feeds.  Positions of an editor are a
row and a column; the index turns them into byte offsets and back.
-/

namespace Pipescript

/-- A text with the byte offsets at which its rows start. -/
structure LineIndex where
  text : Text
  starts : List Nat
  deriving DecidableEq, Repr

namespace LineIndex

/-- The offsets just behind the line feeds of a text that begins at `offset`. -/
def startsAfter (offset : Nat) : Text → List Nat
  | [] => []
  | c :: rest =>
      if c = '\n' then
        (offset + c.utf8Size) :: startsAfter (offset + c.utf8Size) rest
      else
        startsAfter (offset + c.utf8Size) rest

def ofText (text : Text) : LineIndex :=
  ⟨text, 0 :: startsAfter 0 text⟩

/-- The number of rows. -/
def rowCount (index : LineIndex) : Nat :=
  index.starts.length

/-- A row with its terminator. -/
def row? (index : LineIndex) (row : Nat) : Option Text := do
  let start ← index.starts[row]?
  let stop := index.starts[row + 1]?.getD index.text.utf8Size
  index.text.slice? start stop

/-- A row without its line feed and the carriage returns before it. -/
def content? (index : LineIndex) (row : Nat) : Option Text :=
  (index.row? row).map fun line =>
    ((line.reverse.dropWhile (· == '\n')).dropWhile (· == '\r')).reverse

/-- The byte offset of a row and a column.  A column behind the content of the row stands for the
end of the content; a row behind the last has no offset. -/
def offsetAt? (index : LineIndex) (row column : Nat) : Option Nat := do
  let start ← index.starts[row]?
  let content ← index.content? row
  return start + content.columnOffset column

/-- How many starts come at or before an offset, if at least `low` and at most `high` of them do.
Starts ascend, so the one in the middle leaves one half of the range. -/
def countUpTo (starts : List Nat) (offset low high : Nat) : Nat :=
  if low < high then
    let middle := (low + high) / 2
    if starts.getD middle 0 ≤ offset then countUpTo starts offset (middle + 1) high
    else countUpTo starts offset low middle
  else
    low
termination_by high - low

/-- The last row that starts at or before a byte offset. -/
def rowAt (index : LineIndex) (offset : Nat) : Nat :=
  countUpTo index.starts offset 0 index.rowCount - 1

/-- The row and the column of a byte offset.  An offset inside a character or behind the text has
none. -/
def placeAt? (index : LineIndex) (offset : Nat) : Option (Nat × Nat) := do
  if offset ≤ index.text.utf8Size then
    let row := index.rowAt offset
    let start ← index.starts[row]?
    let before ← index.text.slice? start offset
    return (row, before.length)
  else
    none

end LineIndex

end Pipescript
