import Pipescript.Domain.Composition
import Pipescript.Domain.Mapping
import Pipescript.Domain.Punycode

/-!
# Labels

The labels of a domain name stand between its full stops.  A label with other than ASCII characters
has a written form in ASCII, which begins with a mark of its own.  Not every label may be used: a
joiner needs neighbours that it joins, and characters from right to left only go together with
some others.
-/

namespace Pipescript

/-- What lies between two full stops of a domain name. -/
abbrev Label := Text

namespace Label

/-- How the written form of a label begins. -/
def writtenMark : Text :=
  "xn--".toList

/-- How many characters a label may have that is not ASCII. -/
def longestLabel : Nat :=
  1000

/-- How many characters a written form may have behind its mark. -/
def longestWritten : Nat :=
  2000

def isAscii (label : Label) : Bool :=
  label.all (·.toNat < 128)

/-! ## Joiners -/

/-- The combining class of marks that take the vowel from a consonant. -/
def viramaClass : Nat :=
  9

/-- Whether a character joins to the nearest one of some characters, as its joining type tells.
Characters that joining passes over do not count. -/
def joins (types : List Char) (near : Text) : Bool :=
  match near.dropWhile fun c => joiningTypes.note c == ['T'] with
  | c :: _ => types.any fun joiningType => joiningTypes.note c == [joiningType]
  | [] => false

/-- Whether a joiner may stand between the characters before it, the nearest first, and those behind
it.  After a virama either joiner may stand; elsewhere only the joiner that keeps apart, between
characters that would join. -/
def isJoinerAllowed (joiner : Char) (before behind : Text) : Bool :=
  match before with
  | [] => false
  | previous :: _ =>
      combiningClass previous = viramaClass ||
        (joiner = '\u200c' && joins ['L', 'D'] before && joins ['R', 'D'] behind)

/-- The joiner that keeps characters apart and the one that joins them. -/
def joiners : List Char :=
  ['\u200c', '\u200d']

/-- Whether all joiners of a text may stand where they are, behind the characters before it, the
nearest first. -/
def areJoinersAllowed (before : Text) : Text → Bool
  | [] => true
  | c :: rest =>
      (!joiners.contains c || isJoinerAllowed c before rest) &&
        areJoinersAllowed (c :: before) rest

/-! ## Directions -/

/-- Whether a character has one of the directions.  Those without a note go from left to right. -/
def hasDirection (allowed : List Char) (c : Char) : Bool :=
  allowed.contains ((directions.note c).headD 'L')

/-- Whether a label has characters that go from right to left. -/
def hasRightToLeft (label : Label) : Bool :=
  label.any (hasDirection ['R', 'A'])

/-- Whether the last character of a label that is no mark has one of the directions. -/
def endsIn (allowed : List Char) (label : Label) : Bool :=
  (label.reverse.dropWhile (hasDirection ['M'])).head?.any (hasDirection allowed)

/-- Whether the directions in a label go together.  It must begin in the direction in which it goes
on, end in it or in a number, and hold numbers of one kind only if it goes from right to left. -/
def areDirectionsAllowed (label : Label) : Bool :=
  match label with
  | [] => true
  | first :: rest =>
      if hasDirection ['L'] first then
        rest.all (hasDirection ['L', 'E', 'N', 'M']) && endsIn ['L', 'E'] label
      else
        hasDirection ['R'] first && rest.all (hasDirection ['R', 'A', 'E', 'N', 'M']) &&
          endsIn ['R', 'A', 'E'] label &&
          !(label.any (hasDirection ['A']) && label.any (hasDirection ['E']))

/-! ## Reading and writing -/

/-- The label that a part of a mapped domain name stands for. -/
def ofMapped? (part : Text) : Option Label :=
  if writtenMark.isPrefixOf part then
    let written := part.drop writtenMark.length
    if longestWritten < written.length || !isAscii written then none else Punycode.decode? written
  else
    some part

/-- Whether a label may be used in a domain name that goes from left to right. -/
def isAllowed (label : Label) : Bool :=
  label.all isPlain && composed label == label &&
    (isAscii label || label.length ≤ longestLabel) &&
    !label.head?.any combiningMarks.covers && areJoinersAllowed [] label

/-- The written form of a label. -/
def written (label : Label) : Text :=
  if isAscii label then label else writtenMark ++ Punycode.encode label

end Label

end Pipescript
