import Pipescript.Domain.MappingTable
import Pipescript.Domain.PlainTable

/-!
# Mapping

However a domain name is typed, it is read in small letters and plain characters.
-/

namespace Pipescript

/-- What a row writes for one of its code points.  A single character is moved by as much as the
code point is behind the start of the interval. -/
def CharRow.image (row : CharRow) (point : Nat) : Text :=
  match row.points with
  | [target] => [Char.ofNat (target + (point - row.low))]
  | targets => targets.map Char.ofNat

/-- What is written for a character. -/
def mappedChar (c : Char) : Text :=
  match mappedChars.row? c.toNat with
  | some row => row.image c.toNat
  | none => [c]

/-- A text in plain characters.  Characters that no domain name may hold are left as they are. -/
def mapped (text : Text) : Text :=
  text.flatMap mappedChar

/-- Whether a domain name may hold a character as it is. -/
def isPlain (c : Char) : Bool :=
  plainChars.covers c

end Pipescript
