import Pipescript.Text.Basic

/-!
# Digits

The digits of numbers.  Only the ASCII digits count, and in number literals an underscore may stand
anywhere among them.
-/

namespace Pipescript

/-- A decimal digit or an underscore. -/
def isDigitOrUnderscore (c : Char) : Bool :=
  c.isDigit || c == '_'

/-- The value of a digit in bases up to sixteen. -/
def digitValue? (c : Char) : Option Nat :=
  if c.isDigit then some (c.toNat - '0'.toNat)
  else if 'a' ≤ c && c ≤ 'f' then some (c.toNat - 'a'.toNat + 10)
  else if 'A' ≤ c && c ≤ 'F' then some (c.toNat - 'A'.toNat + 10)
  else none

/-- Whether a character is a digit of the given base. -/
def isDigitOf (base : Nat) (c : Char) : Bool :=
  (digitValue? c).any (· < base)

/-- The number that digits of a base stand for, if all characters are such digits.  No digits stand
for zero. -/
def digitsValue? (base : Nat) (digits : Text) : Option Nat :=
  digits.foldlM (fun value c =>
    (digitValue? c).bind fun digit => if digit < base then some (value * base + digit) else none) 0

/-- The base that the second character of a literal such as `0x1f` announces. -/
def announcedBase? (c : Char) : Option Nat :=
  if c == 'x' || c == 'X' then some 16
  else if c == 'o' || c == 'O' then some 8
  else if c == 'b' || c == 'B' then some 2
  else none

namespace Text

/-- The digits and the fraction in front of a text, such as `12.5` in `12.5e3`. -/
def decimalPart (text : Text) : Text :=
  let whole := text.takeWhile isDigitOrUnderscore
  match text.dropWhile isDigitOrUnderscore with
  | '.' :: fraction => whole ++ '.' :: fraction.takeWhile isDigitOrUnderscore
  | _ => whole

/-- The exponent mark in front of a text with its sign, such as `e-` in `e-3`. -/
def exponentMark? : Text → Option Text
  | mark :: rest =>
      if mark == 'e' || mark == 'E' then
        match rest with
        | sign :: _ => if sign == '+' || sign == '-' then some [mark, sign] else some [mark]
        | [] => some [mark]
      else
        none
  | [] => none

/-- The mark of an imaginary number in front of a text. -/
def imaginaryMark : Text → Text
  | mark :: _ => if mark == 'j' || mark == 'J' then [mark] else []
  | [] => []

theorem decimalPart_isPrefix (text : Text) : text.decimalPart <+: text := by
  have parts := List.takeWhile_append_dropWhile (p := isDigitOrUnderscore) (l := text)
  unfold decimalPart
  split
  · next fraction dropped =>
      rw [dropped] at parts
      conv => rhs; rw [← parts]
      exact (List.prefix_append_right_inj _).2
        ((List.prefix_cons_inj _).2 (List.takeWhile_prefix _))
  · exact List.takeWhile_prefix _

theorem exponentMark?_isPrefix
    {text mark : Text}
    (found : text.exponentMark? = some mark) :
    mark <+: text := by
  unfold exponentMark? at found
  split at found
  · split at found
    · split at found
      · split at found
        · next sign rest _ =>
            obtain rfl := Option.some.inj found
            exact ⟨rest, rfl⟩
        · next first _ rest _ =>
            obtain rfl := Option.some.inj found
            exact ⟨_, rfl⟩
      · obtain rfl := Option.some.inj found
        exact List.prefix_rfl
    · simp at found
  · simp at found

theorem imaginaryMark_isPrefix (text : Text) : text.imaginaryMark <+: text := by
  unfold imaginaryMark
  split
  · next mark rest =>
      split
      · exact ⟨rest, rfl⟩
      · exact List.nil_prefix
  · exact List.nil_prefix

end Text

end Pipescript
