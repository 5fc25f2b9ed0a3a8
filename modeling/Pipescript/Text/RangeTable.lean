/-!
# Tables of code point intervals

A character property is given by the intervals of code points that have it.  The intervals of a
table are in ascending order, so a search may stop at the first interval that starts above the
code point.
-/

namespace Pipescript

/-- Closed intervals of code points, in ascending order. -/
abbrev RangeTable := List (Nat × Nat)

namespace RangeTable

/-- Whether some interval of the table contains the code point. -/
def covers : RangeTable → Nat → Bool
  | [], _ => false
  | (low, high) :: later, point =>
      if point < low then false
      else if point ≤ high then true
      else covers later point

end RangeTable

end Pipescript
