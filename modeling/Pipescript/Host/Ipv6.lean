import Pipescript.Host.Ipv4

/-!
# Addresses of eight groups

An address is written in eight groups of up to four hexadecimal digits, the last two of which may be
written as an address of four bytes.  Two colons stand for one or more groups that are zero.  In
normal form they stand for the longest run of at least two such groups.
-/

namespace Pipescript

structure Ipv6Address where
  groups : List Nat
  length_eq : groups.length = 8 := by decide
  deriving DecidableEq, Repr

namespace Ipv6Address

/-! ## Reading -/

/-- What is before and behind the first two colons that follow each other. -/
def splitGap? : Text → Option (Text × Text)
  | ':' :: ':' :: rest => some ([], rest)
  | c :: rest => (splitGap? rest).map fun (before, behind) => (c :: before, behind)
  | [] => none

/-- A group of one to four hexadecimal digits. -/
def group? (digits : Text) : Option Nat :=
  if digits.isEmpty || 4 < digits.length then none else digitsValue? 16 digits

/-- Groups between colons.  The last may be an address of four bytes if nothing follows. -/
def groups? (isEnd : Bool) (text : Text) : Option (List Nat) :=
  if text.isEmpty then some []
  else do
    let parts := splitAt ':' text
    let last := parts.getLastD []
    let first ← parts.dropLast.mapM group?
    if isEnd && last.contains '.' then
      let tail ← Ipv4Address.ofDotted? last
      return first ++ [tail.value.toNat / 65536, tail.value.toNat % 65536]
    else
      return first ++ [← group? last]

def ofGroups? (groups : List Nat) : Option Ipv6Address :=
  if length_eq : groups.length = 8 then some ⟨groups, length_eq⟩ else none

/-- The address that a text gives. -/
def ofText? (text : Text) : Option Ipv6Address :=
  match splitGap? text with
  | none => (groups? true text).bind ofGroups?
  | some (before, behind) => do
      let upper ← groups? false before
      let lower ← groups? true behind
      let missing := 8 - (upper.length + lower.length)
      if missing = 0 then none
      else ofGroups? (upper ++ List.replicate missing 0 ++ lower)

/-! ## Writing -/

/-- How many groups from an index on are zero. -/
def zerosAt (groups : List Nat) (index : Nat) : Nat :=
  ((groups.drop index).takeWhile (· == 0)).length

/-- Where the longest run of zeros starts, the first of several. -/
def longestZeros (groups : List Nat) : Nat :=
  (List.range groups.length).foldl
    (fun best index => if zerosAt groups best < zerosAt groups index then index else best) 0

def groupsText (groups : List Nat) : Text :=
  joinWith [':'] (groups.map (Nat.toDigits 16))

def text (address : Ipv6Address) : Text :=
  let start := longestZeros address.groups
  let size := zerosAt address.groups start
  if size < 2 then groupsText address.groups
  else
    groupsText (address.groups.take start) ++ [':', ':'] ++
      groupsText (address.groups.drop (start + size))

end Ipv6Address

end Pipescript
