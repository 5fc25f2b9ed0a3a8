import Pipescript.Domain.Label

/-!
# Domain names

A domain name may be typed in any script.  It is written in ASCII characters: those of each label
that has no others, and the written form of each other label.
-/

namespace Pipescript

/-- The written form of a domain name, if it is one. -/
def writtenDomain? (name : Text) : Option Text := do
  let labels ← (splitAt '.' (composed (mapped name))).mapM Label.ofMapped?
  let goesBothWays := labels.any Label.hasRightToLeft
  if labels.all fun label =>
      label.isAllowed && (!goesBothWays || label.areDirectionsAllowed) then
    some (joinWith ['.'] (labels.map Label.written))
  else
    none

end Pipescript
