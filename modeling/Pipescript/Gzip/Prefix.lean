/-!
# Prefix codes

A canonical prefix code is given by the length of each symbol's code: codes of one length are
consecutive in the order of the symbols, and shorter codes come first.  Length zero stands for a
symbol without a code.
-/

namespace Pipescript

/-- The longest code. -/
def longestCode : Nat :=
  15

/-- A canonical prefix code. -/
structure PrefixCode where
  /-- How many symbols have a code of each length, from length one on. -/
  counts : List Nat
  /-- The symbols that have a code, in the order of their codes. -/
  symbols : List Nat
  deriving DecidableEq, Repr

namespace PrefixCode

/-- The share of all bit strings of length `longestCode` that the codes take. -/
def space : Nat → List Nat → Nat
  | _, [] => 0
  | length, count :: later => count * Nat.pow 2 (longestCode - length) + space (length + 1) later

/-- Whether the codes leave no long bit string over and take none twice. -/
def isComplete (code : PrefixCode) : Bool :=
  space 1 code.counts == Nat.pow 2 longestCode

/-- Whether there is no code at all, or a single one of one bit. -/
def isTrivial (code : PrefixCode) : Bool :=
  code.symbols.length ≤ 1 && code.counts.headD 0 == code.symbols.length

/-- The code with the given lengths.  Only a trivial code need not be complete. -/
def ofLengths? (lengths : List Nat) : Option PrefixCode :=
  let ofLength (length : Nat) : List Nat :=
    (lengths.zipIdx.filter (·.1 == length)).map Prod.snd
  let symbols := (List.range' 1 longestCode).map ofLength
  let code : PrefixCode := ⟨symbols.map List.length, symbols.flatten⟩
  if code.isComplete || code.isTrivial then some code else none

/-- The index of the symbol whose code begins the bits, and how many bits the code has.  `code` are
the bits read so far, `first` is the first code of their length and `index` the number of symbols
with shorter codes. -/
def find? (code first index : Nat) : List Nat → List Bool → Option (Nat × Nat)
  | [], _ => none
  | _, [] => none
  | count :: counts, bit :: bits =>
      let read := 2 * code + bit.toNat
      let start := 2 * first
      if read < start + count then
        some (index + (read - start), 1)
      else
        (find? read (start + count) (index + count) counts bits).map fun (found, size) =>
          (found, size + 1)

/-- The symbol whose code begins the bits, and how many bits the code has. -/
def decode? (code : PrefixCode) (bits : List Bool) : Option (Nat × Nat) := do
  let (index, size) ← find? 0 0 0 code.counts bits
  let symbol ← code.symbols[index]?
  return (symbol, size)

end PrefixCode

end Pipescript
