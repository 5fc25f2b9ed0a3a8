import Pipescript.Gzip.Prefix

/-!
# Compressed data

Compressed data is a stream of bits, read from the lowest bit of each byte on.  It is made of
blocks: plain bytes, or symbols in prefix codes that stand for bytes and for repetitions of what was
written before.
-/

namespace Pipescript

/-- The bits of bytes, lowest bit first. -/
def bitsOf (bytes : List UInt8) : List Bool :=
  bytes.flatMap fun byte => (List.range 8).map fun place => byte.toNat.testBit place

/-- The number whose bits are given, lowest bit first. -/
def numberOf : List Bool → Nat
  | [] => 0
  | bit :: later => bit.toNat + 2 * numberOf later

/-- A number of so many bits, and the bits behind it. -/
def takeNumber? (size : Nat) (bits : List Bool) : Option (Nat × List Bool) :=
  if (bits.take size).length = size then some (numberOf (bits.take size), bits.drop size) else none

/-- The bytes that bits make up. -/
def bytesOf : List Bool → List UInt8
  | a :: b :: c :: d :: e :: f :: g :: h :: later =>
      UInt8.ofNat (numberOf [a, b, c, d, e, f, g, h]) :: bytesOf later
  | _ => []

/-- Write `count` bytes again from a distance back. -/
def repeatBack (distance : Nat) : Nat → Array UInt8 → Option (Array UInt8)
  | 0, written => some written
  | count + 1, written =>
      if distance ≤ written.size then
        match written[written.size - distance]? with
        | some byte => repeatBack distance count (written.push byte)
        | none => none
      else
        none

/-- The smallest repetition of each length symbol, and how many bits are added to it. -/
def lengthBases : List (Nat × Nat) :=
  [(3, 0), (4, 0), (5, 0), (6, 0), (7, 0), (8, 0), (9, 0), (10, 0), (11, 1), (13, 1), (15, 1),
    (17, 1), (19, 2), (23, 2), (27, 2), (31, 2), (35, 3), (43, 3), (51, 3), (59, 3), (67, 4),
    (83, 4), (99, 4), (115, 4), (131, 5), (163, 5), (195, 5), (227, 5), (258, 0)]

/-- The smallest distance of each distance symbol, and how many bits are added to it. -/
def distanceBases : List (Nat × Nat) :=
  [(1, 0), (2, 0), (3, 0), (4, 0), (5, 1), (7, 1), (9, 2), (13, 2), (17, 3), (25, 3), (33, 4),
    (49, 4), (65, 5), (97, 5), (129, 6), (193, 6), (257, 7), (385, 7), (513, 8), (769, 8),
    (1025, 9), (1537, 9), (2049, 10), (3073, 10), (4097, 11), (6145, 11), (8193, 12), (12289, 12),
    (16385, 13), (24577, 13)]

/-- The codes of a block. -/
structure BlockCodes where
  literals : PrefixCode
  distances : PrefixCode

/-- The codes of blocks that bring none of their own. -/
def fixedCodes? : Option BlockCodes := do
  let literals ← PrefixCode.ofLengths?
    (List.replicate 144 8 ++ List.replicate 112 9 ++ List.replicate 24 7 ++ List.replicate 8 8)
  let distances ← PrefixCode.ofLengths? (List.replicate 32 5)
  return ⟨literals, distances⟩

/-- The order in which the lengths of the codes for code lengths are written. -/
def lengthOrder : List Nat :=
  [16, 17, 18, 0, 8, 7, 9, 6, 10, 5, 11, 4, 12, 3, 13, 2, 14, 1, 15]

/-- Numbers of three bits. -/
def takeTriples? : Nat → List Bool → Option (List Nat × List Bool)
  | 0, bits => some ([], bits)
  | count + 1, bits => do
      let (first, rest) ← takeNumber? 3 bits
      let (later, behind) ← takeTriples? count rest
      return (first :: later, behind)

/-- Code lengths written in a prefix code, `count` of them, behind those read already.  Symbols
above fifteen repeat a length. -/
def takeLengths? (code : PrefixCode) (count : Nat) (read : List Nat) (bits : List Bool) :
    Option (List Nat × List Bool) :=
  if read.length = count then some (read, bits)
  else
    match bits with
    | [] => none
    | bit :: rest => do
        let (symbol, size) ← code.decode? (bit :: rest)
        let behind := rest.drop (size - 1)
        if symbol ≤ 15 then takeLengths? code count (read ++ [symbol]) behind
        else
          let (repeated, extra, base) ←
            if symbol = 16 then read.getLast?.map fun last => (last, 2, 3)
            else if symbol = 17 then some (0, 3, 3)
            else some (0, 7, 11)
          if (behind.take extra).length = extra then
            let times := base + numberOf (behind.take extra)
            if read.length + times ≤ count then
              takeLengths? code count (read ++ List.replicate times repeated) (behind.drop extra)
            else
              none
          else
            none
termination_by bits.length
decreasing_by
  all_goals simp only [List.length_cons, List.length_drop]
  all_goals omega

/-- How many literal and length symbols a block may give codes to. -/
def mostLiterals : Nat :=
  286

/-- How many distance symbols a block may give codes to. -/
def mostDistances : Nat :=
  30

/-- The codes that a block brings in front of its symbols.  The code that their lengths are written
in must be complete. -/
def takeCodes? (bits : List Bool) : Option (BlockCodes × List Bool) := do
  let (literalCount, bits) ← takeNumber? 5 bits
  let (distanceCount, bits) ← takeNumber? 5 bits
  let (lengthCount, bits) ← takeNumber? 4 bits
  let (triples, bits) ← takeTriples? (lengthCount + 4) bits
  let written := lengthOrder.zip triples
  let lengthCode ← PrefixCode.ofLengths?
    ((List.range 19).map fun symbol => (written.lookup symbol).getD 0)
  let literalCount := literalCount + 257
  let distanceCount := distanceCount + 1
  if mostLiterals < literalCount || mostDistances < distanceCount then none
  if !lengthCode.isComplete then none
  let (lengths, bits) ← takeLengths? lengthCode (literalCount + distanceCount) [] bits
  let literals ← PrefixCode.ofLengths? (lengths.take literalCount)
  let distances ← PrefixCode.ofLengths? (lengths.drop literalCount)
  return (⟨literals, distances⟩, bits)

/-- Write what the symbols of a block stand for, up to the symbol that ends it. -/
def inflateSymbols? (codes : BlockCodes) (written : Array UInt8) (bits : List Bool) :
    Option (Array UInt8 × List Bool) :=
  match bits with
  | [] => none
  | bit :: rest => do
      let (symbol, size) ← codes.literals.decode? (bit :: rest)
      let behind := rest.drop (size - 1)
      if symbol < 256 then
        inflateSymbols? codes (written.push (UInt8.ofNat symbol)) behind
      else if symbol = 256 then
        some (written, behind)
      else
        let (base, extra) ← lengthBases[symbol - 257]?
        if (behind.take extra).length < extra then none
        let length := base + numberOf (behind.take extra)
        let (distanceSymbol, distanceSize) ← codes.distances.decode? (behind.drop extra)
        let behindCode := (behind.drop extra).drop distanceSize
        let (distanceBase, distanceExtra) ← distanceBases[distanceSymbol]?
        if (behindCode.take distanceExtra).length < distanceExtra then none
        let distance := distanceBase + numberOf (behindCode.take distanceExtra)
        let longer ← repeatBack distance length written
        inflateSymbols? codes longer (behindCode.drop distanceExtra)
termination_by bits.length
decreasing_by
  all_goals simp only [List.length_cons, List.length_drop]
  all_goals omega

/-- Write the bytes of a plain block.  It starts at the next whole byte with its size, written
twice: as it is, and with all bits turned around. -/
def inflatePlain? (written : Array UInt8) (bits : List Bool) :
    Option (Array UInt8 × List Bool) := do
  let (size, bits) ← takeNumber? 16 (bits.drop (bits.length % 8))
  let (turned, bits) ← takeNumber? 16 bits
  if size + turned ≠ 65535 then none
  let plain := bits.take (8 * size)
  if plain.length < 8 * size then none
  return (written ++ (bytesOf plain).toArray, bits.drop (8 * size))

/-- Write one block behind its first three bits. -/
def inflateBlock? (kind : Nat) (written : Array UInt8) (bits : List Bool) :
    Option (Array UInt8 × List Bool) := do
  match kind with
  | 0 => inflatePlain? written bits
  | 1 => inflateSymbols? (← fixedCodes?) written bits
  | 2 => do
      let (codes, bits) ← takeCodes? bits
      inflateSymbols? codes written bits
  | _ => none

/-- Write blocks up to the last one.  What is behind it starts at the next whole byte. -/
def inflateBlocks? (written : Array UInt8) : List Bool → Option (Array UInt8 × List Bool)
  | final :: low :: high :: rest => do
      let (longer, behind) ← inflateBlock? (numberOf [low, high]) written rest
      if final then
        return (longer, behind.drop (behind.length % 8))
      else if behind.length ≤ rest.length then
        inflateBlocks? longer behind
      else
        none
  | _ => none
termination_by bits => bits.length
decreasing_by
  simp only [List.length_cons]
  omega

end Pipescript
