import Pipescript.Decimal.Binary
import Pipescript.Text.Basic

/-!
# Shortest decimals

The shortest decimal of a floating-point number has the fewest digits among those that are nearer to
the number than to any other, and lies nearest to it among those.  Comparisons are made between
natural numbers, so they are exact.  The text of a number is this decimal, in positional notation
unless that takes too many zeros.
-/

namespace Pipescript

/-- A decimal `digits * 10 ^ exponent`. -/
structure DecimalDigits where
  digits : Nat
  exponent : Int
  deriving DecidableEq, Repr

/-- A positive number with the interval of numbers that round to it, all over one denominator. -/
structure RoundingInterval where
  value : Nat
  low : Nat
  high : Nat
  denominator : Nat
  /-- Whether the ends belong to the interval. -/
  closed : Bool
  deriving DecidableEq, Repr

namespace RoundingInterval

/-- The interval of a finite positive number.  Below a power of two the gap to the next number is
half as wide.  A number with an even significand wins the ties at both ends. -/
def ofBinary (number : Binary64) : RoundingInterval :=
  let significand := number.significand
  let below := if number.fractionBits = 0 && 1 < number.exponentBits then 1 else 2
  let scale := Nat.pow 2 (number.power - 1075)
  { value := 4 * significand * scale
    low := (4 * significand - below) * scale
    high := (4 * significand + 2) * scale
    denominator := 4 * Nat.pow 2 (1075 - number.power)
    closed := significand % 2 == 0 }

/-- A decimal as numerator and denominator. -/
def fraction (decimal : DecimalDigits) : Nat × Nat :=
  (decimal.digits * Nat.pow 10 decimal.exponent.toNat, Nat.pow 10 (-decimal.exponent).toNat)

/-- Whether a decimal rounds to the number. -/
def covers (interval : RoundingInterval) (decimal : DecimalDigits) : Bool :=
  let (numerator, denominator) := fraction decimal
  let tested := numerator * interval.denominator
  let low := interval.low * denominator
  let high := interval.high * denominator
  if interval.closed then low ≤ tested && tested ≤ high else low < tested && tested < high

/-- The power of ten of the leading digit. -/
def leadingPower (interval : RoundingInterval) : Int :=
  if interval.denominator ≤ interval.value then
    (Nat.toDigits 10 (interval.value / interval.denominator)).length - 1
  else
    let missing := (List.range 400).find? fun count =>
      interval.denominator ≤ interval.value * Nat.pow 10 count
    Int.negOfNat (missing.getD 0)

/-- The better of the two decimals next to the number that have `count` digits, if one of them
rounds to it.  The upper one may be the next power of ten, which takes the next exponent.  Halfway
between both the even one is taken. -/
def withDigits? (interval : RoundingInterval) (count : Nat) : Option DecimalDigits :=
  let exponent := interval.leadingPower - (count - 1 : Nat)
  let numerator := interval.value * Nat.pow 10 (-exponent).toNat
  let denominator := interval.denominator * Nat.pow 10 exponent.toNat
  let lower : DecimalDigits := ⟨numerator / denominator, exponent⟩
  let upper : DecimalDigits :=
    if numerator / denominator + 1 = Nat.pow 10 count then
      ⟨Nat.pow 10 (count - 1), exponent + 1⟩
    else ⟨numerator / denominator + 1, exponent⟩
  let remainder := numerator % denominator
  match interval.covers lower, interval.covers upper with
  | true, true =>
      if 2 * remainder = denominator then
        some (if lower.digits % 2 = 0 then lower else upper)
      else
        some (if 2 * remainder < denominator then lower else upper)
  | true, false => some lower
  | false, true => some upper
  | false, false => none

/-- The shortest decimal of the number.  Seventeen digits are always enough. -/
def shortest (interval : RoundingInterval) : DecimalDigits :=
  ((List.range' 1 17).findSome? interval.withDigits?).getD ⟨0, 0⟩

end RoundingInterval

/-- When a decimal is written with an exponent. -/
structure DecimalNotation where
  /-- How many digits may stand before the point. -/
  mostWhole : Int
  /-- How many zeros may stand between the point and the first digit. -/
  mostZeros : Int
  /-- Whether an exponent above zero has a plus sign. -/
  writesPlus : Bool
  deriving DecidableEq, Repr

namespace DecimalNotation

/-- The text of a decimal, with at least one digit on both sides of a point.  Before an exponent
stand one digit and, if there are more, the point and the others. -/
def text (style : DecimalNotation) (decimal : DecimalDigits) : Text :=
  let digits := Nat.toDigits 10 decimal.digits
  let whole := decimal.exponent + digits.length
  if 0 ≤ decimal.exponent && whole ≤ style.mostWhole then
    digits ++ List.replicate decimal.exponent.toNat '0' ++ ['.', '0']
  else if 0 < whole && whole ≤ style.mostWhole then
    digits.take whole.toNat ++ '.' :: digits.drop whole.toNat
  else if whole ≤ 0 && -whole ≤ style.mostZeros then
    ['0', '.'] ++ List.replicate (-whole).toNat '0' ++ digits
  else
    let sign := if whole ≤ 0 then ['-'] else if style.writesPlus then ['+'] else []
    let exponent := 'e' :: sign ++ Nat.toDigits 10 (whole - 1).natAbs
    match digits with
    | [digit] => digit :: exponent
    | digit :: later => digit :: '.' :: later ++ exponent
    | [] => []

end DecimalNotation

namespace Binary64

/-- Numbers are positional up to sixteen digits before the point and four zeros behind it.  Other
numbers have an exponent, always with its sign. -/
def style : DecimalNotation where
  mostWhole := 16
  mostZeros := 4
  writesPlus := true

/-- The text of a finite number. -/
def text (number : Binary64) : Text :=
  let size :=
    if number.significand = 0 then ['0', '.', '0']
    else style.text (RoundingInterval.ofBinary number).shortest
  if number.isNegative then '-' :: size else size

end Binary64

end Pipescript
