import Pipescript.Script.Token
import Pipescript.Text.Lines

/-!
# Arrows

An arrow joins two modules of a pipeline.  The host language has no such operator, so the script is
cut at its arrows, and the segments between them are put together again with a statement separator
of the same width.
-/

namespace Pipescript

/-- The place at which an arrow starts, row and column counted from zero. -/
structure Arrow where
  row : Nat
  column : Nat
  deriving DecidableEq, Repr

def arrowText : Text :=
  ['-', '>']

/-- What stands in place of an arrow for the host language. -/
def separatorText : Text :=
  [';', ' ']

namespace Arrow

/-- Earlier rows come first, and within a row smaller columns. -/
def precedes (left right : Arrow) : Bool :=
  left.row < right.row || (left.row == right.row && left.column ≤ right.column)

/-- Put an arrow at its place among arrows in ascending order, unless it is there already. -/
def insertSorted (arrow : Arrow) : List Arrow → List Arrow
  | [] => [arrow]
  | first :: later =>
      if arrow = first then first :: later
      else if arrow.precedes first then arrow :: first :: later
      else first :: insertSorted arrow later

/-- Arrows in ascending order, each of them once. -/
def sort (arrows : List Arrow) : List Arrow :=
  arrows.foldr insertSorted []

/-- Whether a token is a minus sign directly before the given one. -/
def isMinusBefore (token before : Token) : Bool :=
  before.isOperator ['-'] && before.row == token.row && before.column + 1 == token.column

/-- The arrows among tokens, of which the first follows `before?`.  An arrow is one operator, or a
minus sign and a greater-than sign with nothing between them. -/
def findFrom (before? : Option Token) : List Token → List Arrow
  | [] => []
  | token :: later =>
      let found : Option Arrow :=
        if token.isOperator arrowText then
          some ⟨token.row - 1, token.column⟩
        else if token.isOperator ['>'] then
          (before?.filter (isMinusBefore token)).map fun before =>
            ⟨token.row - 1, before.column⟩
        else
          none
      found.toList ++ findFrom (some token) later

/-- The arrows among the tokens of a script. -/
def find (tokens : List Token) : List Arrow :=
  findFrom none tokens

end Arrow

/-- The pieces of a text that was cut at least zero times: the piece before the first cut, and the
pieces that each follow a cut. -/
structure Pieces where
  first : Text
  later : List Text
  deriving DecidableEq, Repr

namespace Pieces

def toList (pieces : Pieces) : List Text :=
  pieces.first :: pieces.later

/-- Put a text before all pieces. -/
def prepend (text : Text) (pieces : Pieces) : Pieces :=
  { pieces with first := text ++ pieces.first }

/-- Cut once more, leaving `text` before the cut. -/
def cut (text : Text) (pieces : Pieces) : Pieces :=
  ⟨text, pieces.toList⟩

end Pieces

/-- Cut a row at columns in ascending order, leaving out two characters at each, and let the rest of
the row run into what is behind it.  The characters before `start` are gone already: a cut among
them is made at `start`, and none of them is left out twice. -/
def cutRow (line : Text) (behind : Pieces) (start : Nat) : List Nat → Pieces
  | [] => behind.prepend (line.drop start)
  | column :: columns =>
      let stop := max column start
      (cutRow line behind (max (column + arrowText.length) stop) columns).cut
        ((line.take stop).drop start)

/-- Cut the rows of a script, of which the first has number `row`, at arrows in ascending order.
Arrows behind the last row cut off empty segments. -/
def cutRows (row : Nat) (arrows : List Arrow) : List Text → Pieces
  | [] => ⟨[], arrows.map fun _ => []⟩
  | line :: lines =>
      let here := arrows.takeWhile (·.row ≤ row)
      let below := arrows.dropWhile (·.row ≤ row)
      cutRow line (cutRows (row + 1) below lines) 0 (here.map Arrow.column)

/-- The segments of a script between its arrows. -/
def segments (script : Text) (arrows : List Arrow) : List Text :=
  (cutRows 0 arrows script.toLines).toList

end Pipescript
