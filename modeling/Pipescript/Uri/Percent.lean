import Pipescript.Text.Digits
import Pipescript.Text.Utf8

/-!
# Percent encoding

A byte that must not stand in a part of an URI is written as a percent sign and two hexadecimal
digits.  Of a text the UTF-8 bytes are written in this way, all bytes of a character that is not
ASCII among them.
-/

namespace Pipescript

/-- A percent sign and the two digits of a byte, in upper case. -/
def percentByte (byte : UInt8) : Text :=
  ['%', hexDigit (byte.toNat / 16), hexDigit (byte.toNat % 16)]
where
  hexDigit (value : Nat) : Char :=
    (Nat.digitChar value).toUpper

/-- Encode the bytes that must not stand as the character with their number. -/
def percentEncodeBytes (isReserved : Char → Bool) (bytes : List UInt8) : Text :=
  bytes.flatMap fun byte =>
    let c := Char.ofNat byte.toNat
    if isReserved c then percentByte byte else [c]

/-- Encode what must not stand in a text.  All characters outside ASCII must be reserved. -/
def percentEncode (isReserved : Char → Bool) (text : Text) : Text :=
  percentEncodeBytes isReserved text.utf8Bytes

/-- The bytes of a text with its encoded bytes decoded.  A percent sign without two digits stands
for itself. -/
def percentDecode : Text → List UInt8
  | '%' :: high :: low :: rest =>
      match digitValue? high, digitValue? low with
      | some high, some low => UInt8.ofNat (high * 16 + low) :: percentDecode rest
      | _, _ => String.utf8EncodeChar '%' ++ percentDecode (high :: low :: rest)
  | c :: rest => String.utf8EncodeChar c ++ percentDecode rest
  | [] => []

/-- Controls and everything outside ASCII. -/
def isControlOrWide (c : Char) : Bool :=
  c.toNat < 0x20 || 0x7F ≤ c.toNat

/-- What is encoded in a fragment. -/
def isReservedInFragment (c : Char) : Bool :=
  isControlOrWide c || [' ', '"', '<', '>', '\x60'].contains c

/-- What is encoded in a query.  Schemes of the web also encode the apostrophe. -/
def isReservedInQuery (special : Bool) (c : Char) : Bool :=
  isControlOrWide c || [' ', '"', '#', '<', '>'].contains c || (special && c == '\'')

/-- What is encoded in a path. -/
def isReservedInPath (c : Char) : Bool :=
  isReservedInFragment c || ['#', '?', '\x7b', '\x7d'].contains c

/-- What is encoded in a user name and a password. -/
def isReservedInUser (c : Char) : Bool :=
  isReservedInPath c || ['/', ':', ';', '=', '@', '[', '\\', ']', '^', '|'].contains c

/-- What is encoded in a component of a file path. -/
def isReservedInComponent (c : Char) : Bool :=
  isReservedInPath c || ['%', '/', '\\'].contains c

end Pipescript
