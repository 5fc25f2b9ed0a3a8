import Pipescript.Gzip.Inflate

/-!
# Gzip members

A gzip member is compressed data between a header and a trailer.  The trailer holds a check sum and
the size of the data, and what follows it does not matter.
-/

namespace Pipescript

/-- Add a byte to a cyclic check sum. -/
def checkSumStep (sum : UInt32) (byte : UInt8) : UInt32 :=
  (List.range 8).foldl
    (fun (register : UInt32) _ =>
      if register &&& 1 == 1 then (register >>> 1) ^^^ 0xEDB88320 else register >>> 1)
    (sum ^^^ byte.toUInt32)

/-- The cyclic check sum of bytes. -/
def checkSum (bytes : List UInt8) : UInt32 :=
  bytes.foldl checkSumStep 0xFFFFFFFF ^^^ 0xFFFFFFFF

/-- A number written in four bytes, lowest byte first. -/
def littleEndian (bytes : List UInt8) : Nat :=
  bytes.foldr (fun byte value => byte.toNat + 256 * value) 0

namespace GzipHeader

/-- How many bytes a text in a header may have. -/
def longestText : Nat :=
  65535

/-- Skip a text, which ends in a zero byte. -/
def skipText? (bytes : List UInt8) : Option (List UInt8) :=
  if longestText < (bytes.takeWhile (· != 0)).length then none
  else (bytes.dropWhile (· != 0)).tail?

/-- Skip a field that begins with its size. -/
def skipExtra? (bytes : List UInt8) : Option (List UInt8) :=
  let size := littleEndian (bytes.take 2)
  if 2 + size ≤ bytes.length then some (bytes.drop (2 + size)) else none

/-- Skip the check sum of the header, which must be right. -/
def skipCheckSum? (header bytes : List UInt8) : Option (List UInt8) :=
  let read := header.take (header.length - bytes.length)
  if (bytes.take 2).length = 2 &&
      littleEndian (bytes.take 2) == (checkSum read).toNat % 65536 then
    some (bytes.drop 2)
  else
    none

/-- The bytes behind a header. -/
def skip? (bytes : List UInt8) : Option (List UInt8) :=
  match bytes with
  | 0x1F :: 0x8B :: 8 :: flags :: _ :: _ :: _ :: _ :: _ :: _ :: rest => do
      let has (place : Nat) : Bool := flags.toNat.testBit place
      if has 5 || has 6 || has 7 then none
      let rest ← if has 2 then skipExtra? rest else some rest
      let rest ← if has 3 then skipText? rest else some rest
      let rest ← if has 4 then skipText? rest else some rest
      if has 1 then skipCheckSum? bytes rest else some rest
  | _ => none

end GzipHeader

/-- The data of the gzip member in front of bytes. -/
def gunzip? (bytes : List UInt8) : Option (List UInt8) := do
  let body ← GzipHeader.skip? bytes
  let (written, behind) ← inflateBlocks? #[] (bitsOf body)
  let trailer := bytesOf (behind.take 64)
  let data := written.toList
  if trailer.length = 8 &&
      littleEndian (trailer.take 4) == (checkSum data).toNat &&
      littleEndian (trailer.drop 4) == data.length % UInt32.size then
    some data
  else
    none

end Pipescript
