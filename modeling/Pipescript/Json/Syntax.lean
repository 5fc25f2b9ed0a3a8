import Pipescript.Json.Value
import Pipescript.Text.Digits
import Pipescript.Text.Utf8

/-!
# JSON texts

A JSON text is read in two steps.  First its syntax: which values its bytes hold, with strings and
numbers as they are written, to any depth.  Then the values that somebody wants to keep: their
strings must be UTF-8 and hold no lone surrogate, their numbers must be finite, and they may be
nested only so deep.  A value that nobody keeps is thus held to less.

All signs of the syntax are ASCII characters, so it is read from the text that has one character for
each byte.
-/

namespace Pipescript

/-- A byte of a string, or a UTF-16 unit given by an escape. -/
inductive StringUnit where
  | byte (value : UInt8)
  | code (value : Nat)
  deriving DecidableEq, Repr

/-- A number as it is written: digits before and behind the point, and an exponent with its sign. -/
structure NumberLiteral where
  negative : Bool
  whole : Text
  fraction : Text
  exponent : Option (Bool × Text)
  deriving DecidableEq, Repr

/-- The syntax of a JSON text. -/
inductive JsonSyntax where
  | null
  | bool (value : Bool)
  | number (literal : NumberLiteral)
  | text (units : List StringUnit)
  | list (items : List JsonSyntax)
  | object (members : List (List StringUnit × JsonSyntax))
  deriving Repr

instance : Inhabited JsonSyntax := ⟨.null⟩

inductive JsonToken where
  | openList
  | closeList
  | openObject
  | closeObject
  | colon
  | comma
  | scalar (value : JsonSyntax)
  deriving Repr

/-! ## Tokens -/

/-- The character that a backslash and a letter stand for. -/
def escapedChar? (c : Char) : Option Char :=
  match c with
  | '"' => some '"'
  | '\\' => some '\\'
  | '/' => some '/'
  | 'b' => some '\x08'
  | 'f' => some '\x0c'
  | 'n' => some '\n'
  | 'r' => some '\r'
  | 't' => some '\t'
  | _ => none

/-- The unit of a character that stands for a byte. -/
def StringUnit.ofChar (c : Char) : StringUnit :=
  .byte (UInt8.ofNat c.toNat)

/-- The units of a string behind its opening quote, and how many characters they and the closing
quote take. -/
def stringUnits? : Text → Option (List StringUnit × Nat)
  | [] => none
  | '"' :: _ => some ([], 1)
  | '\\' :: 'u' :: a :: b :: c :: d :: rest => do
      let code ← digitsValue? 16 [a, b, c, d]
      let (units, size) ← stringUnits? rest
      return (.code code :: units, size + 6)
  | '\\' :: c :: rest => do
      let plain ← escapedChar? c
      let (units, size) ← stringUnits? rest
      return (.ofChar plain :: units, size + 2)
  | c :: rest =>
      if c.toNat < 0x20 || c = '\\' then
        none
      else do
        let (units, size) ← stringUnits? rest
        return (.ofChar c :: units, size + 1)

/-- The number in front of a text, and how many characters it takes.  A whole part starts with a
zero only if that is all of it; a point and an exponent mark need digits behind them. -/
def numberLiteral? (text : Text) : Option (NumberLiteral × Nat) := do
  let negative := text.head? == some '-'
  let unsigned := if negative then text.drop 1 else text
  let whole := unsigned.takeWhile Char.isDigit
  if whole.isEmpty || (whole.head? == some '0' && 1 < whole.length) then none
  let afterWhole := unsigned.drop whole.length
  let hasPoint := afterWhole.head? == some '.'
  let fraction := if hasPoint then (afterWhole.drop 1).takeWhile Char.isDigit else []
  if hasPoint && fraction.isEmpty then none
  let afterFraction := if hasPoint then afterWhole.drop (fraction.length + 1) else afterWhole
  let size := text.length - afterFraction.length
  if afterFraction.head? == some 'e' || afterFraction.head? == some 'E' then
    let afterMark := afterFraction.drop 1
    let signed := afterMark.head? == some '-' || afterMark.head? == some '+'
    let digits := (if signed then afterMark.drop 1 else afterMark).takeWhile Char.isDigit
    if digits.isEmpty then none
    else
      return (⟨negative, whole, fraction, some (afterMark.head? == some '-', digits)⟩,
        size + 1 + (if signed then 1 else 0) + digits.length)
  else
    return (⟨negative, whole, fraction, none⟩, size)

namespace JsonToken

/-- The token in front of a text that starts with `c`, and how many characters it takes. -/
def first? (c : Char) (rest : Text) : Option (JsonToken × Nat) :=
  match c with
  | '[' => some (openList, 1)
  | ']' => some (closeList, 1)
  | '\x7b' => some (openObject, 1)
  | '\x7d' => some (closeObject, 1)
  | ':' => some (colon, 1)
  | ',' => some (comma, 1)
  | '"' => (stringUnits? rest).map fun (units, size) => (scalar (.text units), size + 1)
  | _ =>
      if "null".toList.isPrefixOf (c :: rest) then some (scalar .null, 4)
      else if "true".toList.isPrefixOf (c :: rest) then some (scalar (.bool true), 4)
      else if "false".toList.isPrefixOf (c :: rest) then some (scalar (.bool false), 5)
      else (numberLiteral? (c :: rest)).map fun (literal, size) => (scalar (.number literal), size)

end JsonToken

/-- Whether a character may stand between tokens. -/
def isJsonBlank (c : Char) : Bool :=
  c == ' ' || c == '\t' || c == '\n' || c == '\r'

/-- The tokens of a JSON text. -/
def jsonTokens? : Text → Option (List JsonToken)
  | [] => some []
  | c :: rest =>
      if isJsonBlank c then
        jsonTokens? rest
      else
        match JsonToken.first? c rest with
        | none => none
        | some (token, size) => (jsonTokens? (rest.drop (size - 1))).map (token :: ·)
termination_by text => text.length
decreasing_by
  all_goals simp only [List.length_cons, List.length_drop]
  all_goals omega

/-! ## Nesting -/

/-- A list or an object whose end has not been read, with what has been read of it, last part
first. -/
inductive JsonFrame where
  | list (before : List JsonSyntax)
  | object (before : List (List StringUnit × JsonSyntax)) (key : List StringUnit)

/-- What the text has to go on with. -/
inductive JsonState where
  | value
  /-- The first item of a list, or its end. -/
  | firstItem
  /-- A key, or right behind the opening brace the end of the object. -/
  | key (before : List (List StringUnit × JsonSyntax))
  | colon (before : List (List StringUnit × JsonSyntax)) (key : List StringUnit)
  /-- Whatever may follow a value. -/
  | behind (value : JsonSyntax)

namespace JsonState

/-- Read tokens inside the given frames, the innermost frame first. -/
def read? : JsonState → List JsonFrame → List JsonToken → Option JsonSyntax
  | .behind item, [], [] => some item
  | _, _, [] => none
  | .firstItem, .list before :: frames, .closeList :: later =>
      read? (.behind (.list before)) frames later
  | .firstItem, frames, .openList :: later
  | .value, frames, .openList :: later => read? .firstItem (.list [] :: frames) later
  | .firstItem, frames, .openObject :: later
  | .value, frames, .openObject :: later => read? (.key []) frames later
  | .firstItem, frames, .scalar item :: later
  | .value, frames, .scalar item :: later => read? (.behind item) frames later
  | .key [], frames, .closeObject :: later => read? (.behind (.object [])) frames later
  | .key before, frames, .scalar (.text name) :: later => read? (.colon before name) frames later
  | .colon before name, frames, .colon :: later =>
      read? .value (.object before name :: frames) later
  | .behind item, .list before :: frames, .comma :: later =>
      read? .value (.list (item :: before) :: frames) later
  | .behind item, .list before :: frames, .closeList :: later =>
      read? (.behind (.list (item :: before).reverse)) frames later
  | .behind item, .object before name :: frames, .comma :: later =>
      read? (.key ((name, item) :: before)) frames later
  | .behind item, .object before name :: frames, .closeObject :: later =>
      read? (.behind (.object ((name, item) :: before).reverse)) frames later
  | _, _, _ => none

end JsonState

/-- The syntax of bytes that hold one JSON value and nothing else. -/
def JsonSyntax.ofBytes? (bytes : List UInt8) : Option JsonSyntax :=
  (jsonTokens? (.ofBytes bytes)).bind (JsonState.value.read? [])

/-! ## Values to keep -/

/-- The character that a high and a low surrogate stand for. -/
def joinSurrogates (high low : Nat) : Char :=
  Char.ofNat (0x10000 + (high - 0xD800) * 0x400 + (low - 0xDC00))

/-- The bytes that string units stand for.  Two surrogates in the right order make one character; a
lone surrogate is none. -/
def unitsBytes? : List StringUnit → Option (List UInt8)
  | [] => some []
  | .byte value :: rest => (unitsBytes? rest).map (value :: ·)
  | .code high :: .code low :: rest =>
      if 0xD800 ≤ high && high < 0xDC00 then
        if 0xDC00 ≤ low && low < 0xE000 then
          (unitsBytes? rest).map (String.utf8EncodeChar (joinSurrogates high low) ++ ·)
        else
          none
      else if 0xDC00 ≤ high && high < 0xE000 then none
      else (unitsBytes? (.code low :: rest)).map (String.utf8EncodeChar (Char.ofNat high) ++ ·)
  | .code value :: rest =>
      if 0xD800 ≤ value && value < 0xE000 then none
      else (unitsBytes? rest).map (String.utf8EncodeChar (Char.ofNat value) ++ ·)

/-- The text that string units stand for. -/
def unitsText? (units : List StringUnit) : Option Text :=
  (unitsBytes? units).bind Text.ofUtf8?

/-- Add digits to a significand as long as it stays below `2 ^ 64`; what is left behind are the
digits from the first that does not fit. -/
def absorbDigits (significand : Nat) : Text → Nat × Text
  | [] => (significand, [])
  | digit :: rest =>
      let next := significand * 10 + (digit.toNat - '0'.toNat)
      if next < UInt64.size then absorbDigits next rest else (significand, digit :: rest)

namespace NumberLiteral

/-- The number that a literal stands for.  Digits that do not fit the significand count only by
their places. -/
def value? (literal : NumberLiteral) : Option JsonNumber :=
  let (whole, wholeLeft) := absorbDigits 0 literal.whole
  let (significand, fractionLeft) := absorbDigits whole literal.fraction
  let places : Int := wholeLeft.length - (literal.fraction.length - fractionLeft.length : Nat)
  match literal.exponent with
  | some (negative, digits) =>
      let size := digits.foldl (fun size digit => size * 10 + (digit.toNat - '0'.toNat)) 0
      if size < UInt32.size / 2 then
        let exponent := if negative then places - size else places + size
        (Binary64.ofDecimal? literal.negative significand exponent).map .float
      else if negative || significand = 0 then
        some (.float (.zero literal.negative))
      else
        none
  | none =>
      if literal.fraction.isEmpty && wholeLeft.isEmpty then
        if !literal.negative then some (.natural significand)
        else if 0 < significand && significand ≤ UInt64.size / 2 then some (.negative significand)
        else (Binary64.ofDecimal? true significand 0).map .float
      else
        (Binary64.ofDecimal? literal.negative significand places).map .float

end NumberLiteral

/-- How deep lists and objects may be nested in a value that is kept. -/
def deepestNesting : Nat :=
  127

mutual

/-- The value of a syntax inside so many lists and objects. -/
def JsonSyntax.value? (depth : Nat) : JsonSyntax → Option Json
  | .null => some .null
  | .bool value => some (.bool value)
  | .number literal => literal.value?.map .number
  | .text units => (unitsText? units).map .text
  | .list items =>
      if depth < deepestNesting then
        (JsonSyntax.items? (depth + 1) items).map .list
      else
        none
  | .object members =>
      if depth < deepestNesting then
        (JsonSyntax.members? (depth + 1) members).map .object
      else
        none

def JsonSyntax.items? (depth : Nat) : List JsonSyntax → Option (List Json)
  | [] => some []
  | item :: later => do
      let value ← item.value? depth
      let values ← JsonSyntax.items? depth later
      return value :: values

def JsonSyntax.members? (depth : Nat) :
    List (List StringUnit × JsonSyntax) → Option (List (Text × Json))
  | [] => some []
  | (key, item) :: later => do
      let text ← unitsText? key
      let value ← item.value? depth
      let values ← JsonSyntax.members? depth later
      return (text, value) :: values

end

/-- The JSON value that a text holds. -/
def Json.ofText? (text : Text) : Option Json :=
  (JsonSyntax.ofBytes? text.utf8Bytes).bind (JsonSyntax.value? 0)

end Pipescript
