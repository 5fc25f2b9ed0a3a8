import Pipescript.Domain.ClassTable
import Pipescript.Domain.CompositeTable

/-!
# Canonical composition

Canonically equivalent texts of plain characters have one composed form: all composites are taken
apart, marks are sorted by their combining classes, and then characters are put together again from
the left.
-/

namespace Pipescript

/-- The combining class of a character. -/
def combiningClass (c : Char) : Nat :=
  (digitsValue? 10 (combiningClasses.note c)).getD 0

/-- A character that is equivalent to two others. -/
structure Composite where
  whole : Char
  first : Char
  second : Char
  deriving DecidableEq, Repr

/-- The composites that are no Hangul syllables. -/
def composites : List Composite :=
  compositeChars.filterMap fun row =>
    match row.points with
    | [first, second] => some ⟨.ofNat row.low, .ofNat first, .ofNat second⟩
    | _ => none

/-! ## Hangul -/

namespace Hangul

/-- The first syllable.  Syllables are ordered by their leading consonants, then by their vowels,
and then by their trailing consonants, of which there may be none. -/
def firstSyllable : Nat := 0xAC00

def firstLeading : Nat := 0x1100

def leadingCount : Nat := 19

def firstVowel : Nat := 0x1161

def vowelCount : Nat := 21

/-- The place before the first trailing consonant stands for none. -/
def noTrailing : Nat := 0x11A7

def trailingCount : Nat := 28

/-- The two parts of a syllable: a syllable without its trailing consonant and that consonant, or a
leading consonant and a vowel. -/
def split? (c : Char) : Option (Char × Char) :=
  let index := c.toNat - firstSyllable
  if c.toNat < firstSyllable || leadingCount * vowelCount * trailingCount ≤ index then none
  else
    let trailing := index % trailingCount
    if trailing = 0 then
      let pair := index / trailingCount
      some (.ofNat (firstLeading + pair / vowelCount), .ofNat (firstVowel + pair % vowelCount))
    else
      some (.ofNat (c.toNat - trailing), .ofNat (noTrailing + trailing))

/-- The syllable that two parts make up. -/
def join? (first second : Char) : Option Char :=
  let leading := first.toNat - firstLeading
  let vowel := second.toNat - firstVowel
  let index := first.toNat - firstSyllable
  let trailing := second.toNat - noTrailing
  if firstLeading ≤ first.toNat && leading < leadingCount &&
      firstVowel ≤ second.toNat && vowel < vowelCount then
    some (.ofNat (firstSyllable + (leading * vowelCount + vowel) * trailingCount))
  else if firstSyllable ≤ first.toNat && index < leadingCount * vowelCount * trailingCount &&
      index % trailingCount == 0 && noTrailing < second.toNat && trailing < trailingCount then
    some (.ofNat (first.toNat + trailing))
  else
    none

end Hangul

/-! ## Taking apart and putting together -/

namespace Composite

/-- The two characters that a character is equivalent to. -/
def split? (c : Char) : Option (Char × Char) :=
  match composites.find? (·.whole == c) with
  | some composite => some (composite.first, composite.second)
  | none => Hangul.split? c

/-- The character that is equivalent to two others. -/
def join? (first second : Char) : Option Char :=
  let isTwo (composite : Composite) : Bool :=
    composite.first == first && composite.second == second
  match composites.find? isTwo with
  | some composite => some composite.whole
  | none => Hangul.join? first second

/-- How many characters may follow the first one that a composite is made of. -/
def longest : Nat := 2

end Composite

/-- The characters that a composite is made of, with no more than so many behind the first. -/
def decomposeChar : Nat → Char → Text
  | 0, c => [c]
  | depth + 1, c =>
      match Composite.split? c with
      | some (first, second) => decomposeChar depth first ++ [second]
      | none => [c]

/-- Put a mark in front of a text behind the marks of lower classes. -/
def insertMark (mark : Char) : Text → Text
  | [] => [mark]
  | c :: rest =>
      if combiningClass c ≠ 0 ∧ combiningClass c < combiningClass mark then
        c :: insertMark mark rest
      else
        mark :: c :: rest

/-- Sort marks that follow each other by their classes. -/
def sortMarks : Text → Text
  | [] => []
  | c :: rest =>
      if combiningClass c = 0 then c :: sortMarks rest else insertMark c (sortMarks rest)

/-- Put a text together behind a character and marks that do not go with it.  A mark goes with the
character unless a mark of the same or a higher class stands between them. -/
def composeBehind (first : Char) (marks : Text) : Text → Text
  | [] => first :: marks
  | c :: rest =>
      let isNext := marks.getLast?.all (combiningClass · < combiningClass c)
      match if isNext then Composite.join? first c else none with
      | some whole => composeBehind whole marks rest
      | none =>
          if combiningClass c = 0 then first :: marks ++ composeBehind c [] rest
          else composeBehind first (marks ++ [c]) rest

/-- The composed form of a text. -/
def composed (text : Text) : Text :=
  match sortMarks (text.flatMap (decomposeChar Composite.longest)) with
  | [] => []
  | first :: rest => composeBehind first [] rest

end Pipescript
