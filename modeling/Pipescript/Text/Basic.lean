import Pipescript.Text.Alphabetic
import Pipescript.Text.Blank
import Pipescript.Text.Numeric
import Pipescript.Text.Recent
import Pipescript.Text.WordMark

/-!
# Text

A text is its list of characters.  Columns count characters; offsets count the bytes of the UTF-8
form.  The cuts at a byte offset give nothing when the offset falls inside a character or behind
the end of the text.
-/

namespace Pipescript

/-- A text, character by character. -/
abbrev Text := List Char

/-- Whether a character may continue a name: a letter, a number or an underscore. -/
def continuesName (c : Char) : Bool :=
  isAlphabetic c || isNumeric c || c == '_'

/-- Whether a character may begin a name: a letter or an underscore. -/
def startsName (c : Char) : Bool :=
  isAlphabetic c || c == '_'

/-- Whether a character belongs to a word.  Unlike a name, a word may hold combining marks, of the
numbers only decimal digits, and no recent characters. -/
def isWordChar (c : Char) : Bool :=
  !isRecent c && (isAlphabetic c || isWordMark c)

/-- The parts between separators; there is one more of them than there are separators. -/
def splitAt {alpha : Type} [DecidableEq alpha] (separator : alpha) :
    List alpha → List (List alpha)
  | [] => [[]]
  | c :: rest =>
      if c = separator then
        [] :: splitAt separator rest
      else
        match splitAt separator rest with
        | [] => [[c]]
        | part :: parts => (c :: part) :: parts

/-- The text with a separator between every two parts. -/
def joinWith (separator : Text) (parts : List Text) : Text :=
  (parts.intersperse separator).flatten

namespace Text

/-- The number of bytes of the UTF-8 form. -/
def utf8Size : Text → Nat
  | [] => 0
  | c :: rest => c.utf8Size + utf8Size rest

/-- Remove the blanks at both ends. -/
def trim (text : Text) : Text :=
  ((text.dropWhile isBlank).reverse.dropWhile isBlank).reverse

/-- Whether `part` occurs somewhere in the text. -/
def includes (part : Text) : Text → Bool
  | [] => part.isEmpty
  | c :: rest => part.isPrefixOf (c :: rest) || includes part rest

/-- The first characters, `size` bytes in all. -/
def takeBytes? : Nat → Text → Option Text
  | 0, _ => some []
  | _ + 1, [] => none
  | size + 1, c :: rest =>
      if c.utf8Size ≤ size + 1 then
        (takeBytes? (size + 1 - c.utf8Size) rest).map (c :: ·)
      else
        none

/-- The text behind its first `size` bytes. -/
def dropBytes? : Nat → Text → Option Text
  | 0, text => some text
  | _ + 1, [] => none
  | size + 1, c :: rest =>
      if c.utf8Size ≤ size + 1 then
        dropBytes? (size + 1 - c.utf8Size) rest
      else
        none

/-- The text between two byte offsets. -/
def slice? (start stop : Nat) (text : Text) : Option Text :=
  (text.dropBytes? start).bind (takeBytes? (stop - start))

@[simp]
theorem utf8Size_nil : utf8Size [] = 0 := rfl

@[simp]
theorem utf8Size_cons (c : Char) (rest : Text) :
    utf8Size (c :: rest) = c.utf8Size + utf8Size rest := rfl

@[simp]
theorem utf8Size_append (left right : Text) :
    utf8Size (left ++ right) = utf8Size left + utf8Size right := by
  induction left with
  | nil => simp
  | cons c rest inductionHypothesis =>
      simp only [List.cons_append, utf8Size_cons, inductionHypothesis]
      omega

/-- Taking as many bytes as a text in front has gives back that text. -/
theorem takeBytes?_append (left right : Text) :
    takeBytes? (utf8Size left) (left ++ right) = some left := by
  induction left with
  | nil => simp [takeBytes?]
  | cons c rest inductionHypothesis =>
      have positive := Char.utf8Size_pos c
      obtain ⟨size, sizeEq⟩ : ∃ size, utf8Size (c :: rest) = size + 1 :=
        ⟨utf8Size (c :: rest) - 1, by simp only [utf8Size_cons]; omega⟩
      have remaining : size + 1 - c.utf8Size = utf8Size rest := by
        simp only [utf8Size_cons] at sizeEq
        omega
      have fits : c.utf8Size ≤ size + 1 := by
        simp only [utf8Size_cons] at sizeEq
        omega
      simp [sizeEq, takeBytes?, fits, remaining, inductionHypothesis]

/-- Dropping as many bytes as a text in front has leaves what follows it. -/
theorem dropBytes?_append (left right : Text) :
    dropBytes? (utf8Size left) (left ++ right) = some right := by
  induction left with
  | nil => simp [dropBytes?]
  | cons c rest inductionHypothesis =>
      have positive := Char.utf8Size_pos c
      obtain ⟨size, sizeEq⟩ : ∃ size, utf8Size (c :: rest) = size + 1 :=
        ⟨utf8Size (c :: rest) - 1, by simp only [utf8Size_cons]; omega⟩
      have remaining : size + 1 - c.utf8Size = utf8Size rest := by
        simp only [utf8Size_cons] at sizeEq
        omega
      have fits : c.utf8Size ≤ size + 1 := by
        simp only [utf8Size_cons] at sizeEq
        omega
      simp [sizeEq, dropBytes?, fits, remaining, inductionHypothesis]

end Text

end Pipescript
