import Pipescript.Gate.Expression
import Pipescript.Script.Arrow
import Pipescript.Script.Scan

/-!
# Gate colons

In `a:1 -> 2:b` the numbers are gates: the text between a colon and the arrow.  For the host
language the colon becomes a comma.  Only the colon of the nearest gate on each side of an arrow is
changed, and each segment between arrows is looked at by itself.
-/

namespace Pipescript

/-- The text that was passed on the way from an arrow, the character passed last coming first, as it
reads from left to right. -/
def GateSide.passedText (side : GateSide) (passed : Text) : Text :=
  match side with
  | .output => passed
  | .input => passed.reverse

/-- Walk away from an arrow to the first colon with a gate between the arrow and it.  What has been
passed and what is still ahead are given in the order of the walk.  A colon with nothing but blanks
passed before it ends the walk. -/
def walkToGate (side : GateSide) (passed : Text) : Text → Option (Text × Text)
  | [] => none
  | c :: ahead =>
      if c = ':' then
        if passed.all isBlank then none
        else if isGate side (side.passedText passed) then some (passed, ahead)
        else walkToGate side (c :: passed) ahead
      else
        walkToGate side (c :: passed) ahead

/-- Turn the colon of the output gate at the end of a segment, if it has one, into a comma. -/
def sealOutputGate (segment : Text) : Text :=
  match walkToGate .output [] segment.reverse with
  | some (passed, ahead) => ahead.reverse ++ ',' :: passed
  | none => segment

/-- Turn the colon of the input gate at the start of a segment, if it has one, into a comma. -/
def sealInputGate (segment : Text) : Text :=
  match walkToGate .input [] segment with
  | some (passed, ahead) => passed.reverse ++ ',' :: ahead
  | none => segment

/-- Seal the gates beside one arrow: the output gate of the segment before it, then the input gate of
the segment behind it. -/
def sealBeside (segments : List Text) (arrow : Nat) : List Text :=
  (segments.modify arrow sealOutputGate).modify (arrow + 1) sealInputGate

/-- Seal the gates of the segments of a script, arrow by arrow. -/
def sealGates (segments : List Text) : List Text :=
  (List.range (segments.length - 1)).foldl sealBeside segments

/-- Put segments together with the statement separator between them. -/
def joinSegments (segments : List Text) : Text :=
  separatorText.intercalate segments

/-- Replace the arrows of a script, sealing the gates beside them. -/
def withoutArrows (script : Text) : Text × List Arrow :=
  let arrows := Arrow.sort (Arrow.find (scan script).tokens)
  if arrows.isEmpty then (script, [])
  else (joinSegments (sealGates (segments script arrows)), arrows)

end Pipescript
