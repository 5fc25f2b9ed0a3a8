import Pipescript.Decimal.Binary
import Pipescript.Text.Basic

/-!
# JSON values

Whole numbers that fit 64 bits are kept exactly; all other numbers are floating-point numbers.
-/

namespace Pipescript

inductive JsonNumber where
  /-- A whole number below `2 ^ 64`. -/
  | natural (value : Nat)
  /-- The whole number `-value`, with `value` at least one and at most `2 ^ 63`. -/
  | negative (value : Nat)
  | float (value : Binary64)
  deriving DecidableEq, Repr

/-- A JSON value.  Members of an object are kept in the order and number in which they were
written. -/
inductive Json where
  | null
  | bool (value : Bool)
  | number (value : JsonNumber)
  | text (value : Text)
  | list (items : List Json)
  | object (members : List (Text × Json))
  deriving Repr

instance : Inhabited Json := ⟨.null⟩

namespace Json

/-- The member with a key.  Of several the last one counts. -/
def get? (value : Json) (key : Text) : Option Json :=
  match value with
  | .object members => (members.reverse.find? (·.1 == key)).map Prod.snd
  | _ => none

/-- Whether two texts are in the order of their UTF-8 bytes, which is that of their code points. -/
def keyPrecedes : Text → Text → Bool
  | [], _ => true
  | _ :: _, [] => false
  | left :: lefts, right :: rights =>
      left.toNat < right.toNat || (left == right && keyPrecedes lefts rights)

/-- Put a member at the place of its key among members with ascending keys, replacing a member with
the same key. -/
def insertMember (key : Text) (value : Json) : List (Text × Json) → List (Text × Json)
  | [] => [(key, value)]
  | (first, held) :: later =>
      if key = first then (key, value) :: later
      else if keyPrecedes key first then (key, value) :: (first, held) :: later
      else (first, held) :: insertMember key value later

/-- The members by ascending keys.  Of several members with one key the last one counts. -/
def sortMembers (members : List (Text × Json)) : List (Text × Json) :=
  members.foldl (fun sorted member => insertMember member.1 member.2 sorted) []

end Json

end Pipescript
