import Pipescript.Text.RangeTable

/-!
# Blanks

The property `White_Space` of Unicode 17.0, as an ascending table of code point intervals.
-/

namespace Pipescript

def blankRanges : RangeTable :=
  [(0x9, 0xD), (0x20, 0x20), (0x85, 0x85), (0xA0, 0xA0), (0x1680, 0x1680), (0x2000, 0x200A),
    (0x2028, 0x2029), (0x202F, 0x202F), (0x205F, 0x205F), (0x3000, 0x3000)]

/-- Whether a character is a blank, which trimming removes. -/
def isBlank (c : Char) : Bool :=
  blankRanges.covers c.toNat

end Pipescript
