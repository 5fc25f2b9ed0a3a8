import Pipescript.Text.Basic

/-!
# Punycode

A text is written in letters, digits and hyphens as its ASCII characters, a hyphen, and the
insertions of its other characters in ascending order.  An insertion is a number: how often a place
in the growing text was passed on the way from the place of the insertion before, going through all
places once for every code point.  Numbers are written with the lowest digit first, and how large
the last digit may be follows from the numbers before.
-/

namespace Pipescript

namespace Punycode

/-- The number of digits: 26 letters, then the ten decimal digits. -/
def base : Nat := 36

/-- The code point from which insertions are counted. -/
def firstPoint : Nat := 128

/-- The bias of the first number. -/
def firstBias : Nat := 72

/-- The numbers of a decoded text are below this bound. -/
def bound : Nat := UInt32.size

def digitChar (digit : Nat) : Char :=
  if digit < 26 then Char.ofNat ('a'.toNat + digit) else Char.ofNat ('0'.toNat + (digit - 26))

def digit? (c : Char) : Option Nat :=
  if 'a' ≤ c && c ≤ 'z' then some (c.toNat - 'a'.toNat)
  else if 'A' ≤ c && c ≤ 'Z' then some (c.toNat - 'A'.toNat)
  else if '0' ≤ c && c ≤ '9' then some (c.toNat - '0'.toNat + 26)
  else none

/-- Digits below the threshold of their place end a number. -/
def threshold (place bias : Nat) : Nat :=
  min 26 (max 1 (base * (place + 1) - bias))

theorem threshold_pos (place bias : Nat) : 1 ≤ threshold place bias := by
  simp only [threshold]
  omega

theorem threshold_le (place bias : Nat) : threshold place bias ≤ 26 := by
  simp only [threshold]
  omega

/-- How often a number can be divided by the weight of a place until it is small, and what is left
of it. -/
def reduce (number : Nat) : Nat × Nat :=
  if 455 < number then
    let (times, left) := reduce (number / 35)
    (times + 1, left)
  else
    (0, number)
termination_by number
decreasing_by omega

/-- The bias of the next number, behind the number that made the text `size` characters long. -/
def adapt (number size : Nat) (isFirst : Bool) : Nat :=
  let damped := if isFirst then number / 700 else number / 2
  let (times, left) := reduce (damped + damped / size)
  base * times + base * left / (left + 38)

/-! ## Numbers -/

/-- The digits of a number from a place on. -/
def numberText (bias place number : Nat) : Text :=
  let threshold := threshold place bias
  if number < threshold then [digitChar number]
  else
    digitChar (threshold + (number - threshold) % (base - threshold)) ::
      numberText bias (place + 1) ((number - threshold) / (base - threshold))
termination_by number
decreasing_by
  have positive := threshold_pos place bias
  have small := threshold_le place bias
  have divided := Nat.div_le_self (number - Punycode.threshold place bias)
    (base - Punycode.threshold place bias)
  simp only [threshold] at *
  omega

/-- The number in front of a text, read from a place with its weight on, and the text behind it. -/
def takeNumber? (bias place weight number : Nat) : Text → Option (Nat × Text)
  | [] => none
  | c :: rest => do
      let digit ← digit? c
      let longer := number + digit * weight
      let threshold := threshold place bias
      if bound ≤ longer then none
      else if digit < threshold then some (longer, rest)
      else if bound ≤ weight * (base - threshold) then none
      else takeNumber? bias (place + 1) (weight * (base - threshold)) longer rest

theorem length_of_takeNumber?
    {bias place weight number : Nat} {text : Text} {found : Nat × Text}
    (taken : takeNumber? bias place weight number text = some found) :
    found.2.length < text.length := by
  induction text generalizing place weight number with
  | nil => simp [takeNumber?] at taken
  | cons c rest inductionHypothesis =>
      rw [takeNumber?] at taken
      cases digit : digit? c with
      | none => simp [digit] at taken
      | some value =>
          simp only [digit, Option.bind_eq_bind, Option.bind_some] at taken
          split at taken
          · simp at taken
          · split at taken
            · simp only [Option.some.injEq] at taken
              simp [← taken]
            · split at taken
              · simp at taken
              · have shorter := inductionHypothesis taken
                simp only [List.length_cons]
                omega

/-! ## Insertions -/

/-- A character and the place in the text before it where it is inserted. -/
structure Insertion where
  point : Nat
  place : Nat
  deriving DecidableEq, Repr

/-- The insertions that make a text out of its ASCII characters, in ascending order. -/
def insertions (text : Text) : List Insertion :=
  let wide := (text.zipIdx.filter (firstPoint ≤ ·.1.toNat)).mergeSort fun left right =>
    left.1.toNat ≤ right.1.toNat
  wide.map fun (c, index) => ⟨c.toNat, ((text.take index).filter (· ≤ c)).length⟩

/-- The numbers of insertions into a text of a length, behind a code point and the place behind the
insertion before. -/
def insertionsText (bias point place size : Nat) (isFirst : Bool) : List Insertion → Text
  | [] => []
  | insertion :: later =>
      let number := (insertion.point - point) * (size + 1) + insertion.place - place
      numberText bias 0 number ++
        insertionsText (adapt number (size + 1) isFirst) insertion.point (insertion.place + 1)
          (size + 1) false later

/-- The written form of a text. -/
def encode (text : Text) : Text :=
  let ascii := text.filter (·.toNat < firstPoint)
  ascii ++ (if ascii.isEmpty then [] else ['-']) ++
    insertionsText firstBias firstPoint 0 ascii.length true (insertions text)

/-- Insert the characters whose numbers a text holds. -/
def insertAll? (bias point place : Nat) (written numbers : Text) : Option Text :=
  match numbers with
  | [] => some written
  | c :: rest =>
      match _taken : takeNumber? bias 0 1 place (c :: rest) with
      | none => none
      | some (number, behind) =>
          let size := written.length + 1
          let inserted := point + number / size
          if inserted.isValidChar then
            insertAll? (adapt (number - place) size (place == 0)) inserted (number % size + 1)
              (written.insertIdx (number % size) (Char.ofNat inserted)) behind
          else
            none
termination_by numbers.length
decreasing_by
  exact length_of_takeNumber? _taken

/-- The text that a written form stands for, with its ASCII letters small.  The last hyphen ends the
ASCII characters, of which there must be some then, and there must be insertions. -/
def decode? (written : Text) : Option Text :=
  let numbers := (written.reverse.takeWhile (· != '-')).reverse
  let before := written.take (written.length - numbers.length)
  if numbers.isEmpty || before.length = 1 then none
  else insertAll? firstBias firstPoint 0 (before.dropLast.map Char.toLower) numbers

end Punycode

end Pipescript
