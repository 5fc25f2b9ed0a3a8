import Pipescript.Uri.Basic

/-!
# Positions

Places in documents as an editor names them: lines and characters count from zero and fit 32 bits.
-/

namespace Pipescript

structure Position where
  line : Nat
  character : Nat
  deriving DecidableEq, Repr

/-- The last line that a position can name. -/
def largestLine : Nat :=
  UInt32.size - 1

structure Range where
  start : Position
  stop : Position
  deriving DecidableEq, Repr

structure Location where
  uri : Uri
  range : Range
  deriving DecidableEq, Repr

/-- A highlighted range with the number of its kind. -/
structure Highlight where
  range : Range
  kind : Option Nat
  deriving DecidableEq, Repr

/-- What a linter has to say about a range.  `severity` is the number of the severity. -/
structure Diagnostic where
  range : Range
  source : Option Text
  message : Text
  severity : Option Nat
  deriving DecidableEq, Repr

end Pipescript
