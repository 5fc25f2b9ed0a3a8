import Pipescript.Script.Lexeme

/-!
# Indentation

The open blocks of a script are given by the columns of their first rows, the innermost block
first.  The outermost block starts at column zero and is always open, so it is not listed.
-/

namespace Pipescript

/-- The column that a margin reaches.  A tabulator goes to the next multiple of eight and a form
feed back to zero. -/
def marginColumn (margin : Text) : Nat :=
  margin.foldl advance 0
where
  advance (column : Nat) (c : Char) : Nat :=
    if c = '\t' then (column / 8 + 1) * 8
    else if c = '\x0c' then 0
    else column + 1

/-- The columns of the open blocks, innermost first, without the outermost column zero. -/
abbrev OpenBlocks := List Nat

namespace OpenBlocks

/-- The column of the innermost open block. -/
def current (blocks : OpenBlocks) : Nat :=
  blocks.headD 0

/-- Whether some open block starts at a column. -/
def startsAt (blocks : OpenBlocks) (column : Nat) : Bool :=
  column == 0 || blocks.contains column

end OpenBlocks

/-- What the first column of a row does to the open blocks. -/
inductive BlockStep where
  | same
  | deeper
  /-- So many blocks end. -/
  | outward (count : Nat)
  | inconsistent
  deriving DecidableEq, Repr

namespace OpenBlocks

/-- Compare a row that starts at a column with the open blocks. -/
def step (blocks : OpenBlocks) (column : Nat) : BlockStep :=
  if blocks.current < column then .deeper
  else if column = blocks.current then .same
  else if blocks.startsAt column then .outward (blocks.takeWhile (column < ·)).length
  else .inconsistent

/-- The open blocks from a row on that starts at a column. -/
def enter (blocks : OpenBlocks) (column : Nat) : OpenBlocks :=
  if blocks.current < column then column :: blocks
  else blocks.dropWhile (column < ·)

end OpenBlocks

end Pipescript
