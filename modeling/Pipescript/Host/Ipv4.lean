import Pipescript.Text.Digits

/-!
# Addresses of four bytes

An address may be written with fewer than four numbers; the last one then stands for all bytes that
are left.  In normal form each byte is a decimal number of its own.
-/

namespace Pipescript

structure Ipv4Address where
  value : UInt32
  deriving DecidableEq, Repr

namespace Ipv4Address

/-- The bytes, the highest first. -/
def bytes (address : Ipv4Address) : List Nat :=
  [24, 16, 8, 0].map fun shift => (address.value.toNat >>> shift) % 256

def text (address : Ipv4Address) : Text :=
  joinWith ['.'] (address.bytes.map (Nat.toDigits 10))

/-- The number that a part of an address stands for.  It is hexadecimal behind `0x`, where no digits
stand for zero, octal behind another zero, and decimal otherwise. -/
def part? (part : Text) : Option Nat :=
  match part with
  | [] => none
  | '0' :: 'x' :: digits => digitsValue? 16 digits
  | '0' :: 'X' :: digits => digitsValue? 16 digits
  | '0' :: digit :: digits => digitsValue? 8 (digit :: digits)
  | digits => digitsValue? 10 digits

/-- The address of one to four numbers. -/
def ofNumbers? (numbers : List Nat) : Option Ipv4Address :=
  match numbers.getLast? with
  | none => none
  | some last =>
      let first := numbers.dropLast
      if first.length < 4 && first.all (· < 256) && last < Nat.pow 256 (4 - first.length) then
        let upper := first.foldl (fun value byte => 256 * value + byte) 0
        some ⟨UInt32.ofNat (upper * Nat.pow 256 (4 - first.length) + last)⟩
      else
        none

/-- The parts of a host name between its full stops.  One full stop may end the name. -/
def parts (name : Text) : List Text :=
  let all := splitAt '.' name
  if all.getLast? == some [] then all.dropLast else all

/-- Whether a host name can only be an address: its last part is a number, or at least made of
decimal digits. -/
def isNamedBy (name : Text) : Bool :=
  (parts name).getLast?.any fun last =>
    (!last.isEmpty && last.all Char.isDigit) || (part? last).isSome

/-- The address that a host name gives. -/
def ofName? (name : Text) : Option Ipv4Address :=
  ((parts name).mapM part?).bind ofNumbers?

/-- The address of four decimal numbers, none of them with a zero in front. -/
def ofDotted? (text : Text) : Option Ipv4Address :=
  let parts := splitAt '.' text
  let isPlain (part : Text) : Bool := part == ['0'] || (part.head?.any (· != '0'))
  if parts.length = 4 && parts.all isPlain then (parts.mapM (digitsValue? 10)).bind ofNumbers?
  else none

end Ipv4Address

end Pipescript
