/-!
# Binary floating-point numbers

A finite floating-point number of double width is a sign, a significand and a power of two.  The
text of a number is read here as such a number, from the digits that fit a significand of 64 bits
and a power of ten.
-/

namespace Pipescript

/-- A floating-point number by its 64 bits. -/
structure Binary64 where
  bits : UInt64
  deriving DecidableEq, Repr

namespace Binary64

def isNegative (number : Binary64) : Bool :=
  number.bits >>> 63 == 1

def exponentBits (number : Binary64) : Nat :=
  ((number.bits >>> 52) &&& 0x7FF).toNat

def fractionBits (number : Binary64) : Nat :=
  (number.bits &&& 0xFFFFFFFFFFFFF).toNat

/-- The significand `m` of a finite number `m * 2 ^ (power - 1075)`. -/
def significand (number : Binary64) : Nat :=
  if number.exponentBits = 0 then number.fractionBits else number.fractionBits + 0x10000000000000

/-- The power of two of a finite number, plus 1075. -/
def power (number : Binary64) : Nat :=
  max number.exponentBits 1

/-- The largest power of ten that is a floating-point number. -/
def largestPower : Nat :=
  308

/-- The floating-point number nearest to a power of ten. -/
def powerOfTen (exponent : Nat) : Float :=
  Float.ofScientific 1 false exponent

/-- Multiply by a power of ten.  There is no result if it is too large. -/
def scaleUp (value : Float) (exponent : Nat) : Option Float :=
  if exponent ≤ largestPower then
    let scaled := value * powerOfTen exponent
    if scaled.isInf then none else some scaled
  else if value == 0 then
    some value
  else
    none

/-- Divide by a power of ten, in steps that are floating-point numbers themselves. -/
def scaleDown (value : Float) (exponent : Nat) : Float :=
  if exponent ≤ largestPower then value / powerOfTen exponent
  else if value == 0 then value
  else scaleDown (value / powerOfTen largestPower) (exponent - largestPower)
termination_by exponent
decreasing_by
  simp only [largestPower] at *
  omega

/-- The number with a sign, a significand below `2 ^ 64` and a power of ten.  The significand is
rounded to a floating-point number first and then scaled.  There is no result if it is too large. -/
def ofDecimal? (negative : Bool) (significand : Nat) (exponent : Int) : Option Binary64 :=
  let whole := significand.toUInt64.toFloat
  let scaled :=
    if 0 ≤ exponent then scaleUp whole exponent.toNat
    else some (scaleDown whole (-exponent).toNat)
  scaled.map fun value => ⟨(if negative then -value else value).toBits⟩

/-- Zero with a sign. -/
def zero (negative : Bool) : Binary64 :=
  ⟨if negative then 0x8000000000000000 else 0⟩

end Binary64

end Pipescript
