import Pipescript.Gate.Token

/-!
# Gate expressions

A gate is numbered by a small arithmetic expression: operands with signs in front, joined by
arithmetic operators.  An operand is a number, adjacent strings, a name or an expression in
parentheses, followed by any attributes, subscripts and calls.  It is read by recursive descent, with
one function for each level of the grammar.  A function returns the tokens behind its phrase, and
that these are fewer than before it is what makes the descent end.
-/

namespace Pipescript

/-- Names that the host language keeps for itself and that are no operands. -/
def hostKeywords : List Text :=
  ["and", "as", "assert", "async", "await", "break", "class", "continue", "def", "del", "elif",
    "else", "except", "finally", "for", "from", "global", "if", "import", "in", "is", "lambda",
    "nonlocal", "not", "or", "pass", "raise", "return", "try", "while", "with",
    "yield"].map String.toList

namespace GateOperator

/-- Whether an operator is a sign, which also joins the products of a sum. -/
def isSign : GateOperator → Bool
  | plus | minus => true
  | _ => false

/-- Whether an operator joins the factors of a product. -/
def isFactorSign : GateOperator → Bool
  | times | divide | floorDivide | modulo => true
  | _ => false

end GateOperator

/-- The tokens behind a phrase. -/
abbrev GateRest (tokens : List GateToken) : Type :=
  { rest : List GateToken // rest.length < tokens.length }

/-- The tokens behind what may be no phrase at all. -/
abbrev GateTail (tokens : List GateToken) : Type :=
  { rest : List GateToken // rest.length ≤ tokens.length }

namespace GateReader

/-- A fault that shows at the first of the tokens, or at the end of the text if there is none. -/
def faultAt (stop : Nat) (tokens : List GateToken) (fault : GateFault) : GateError :=
  ⟨(tokens.head?.map GateToken.offset).getD stop, fault⟩

/-- The tokens behind an operator, if one of those wanted comes first. -/
def skip? (wanted : GateOperator → Bool) : (tokens : List GateToken) → Option (GateRest tokens)
  | ⟨.operator sign, _⟩ :: later => if wanted sign then some ⟨later, Nat.lt_succ_self _⟩ else none
  | _ => none

/-- The tokens behind an operator that has to come. -/
def expect (stop : Nat) (sign : GateOperator) (tokens : List GateToken) :
    Except GateError (GateRest tokens) :=
  match skip? (· == sign) tokens with
  | some rest => .ok rest
  | none => .error (faultAt stop tokens (.missing sign))

/-- The tokens behind the name of an attribute.  Any name will do. -/
def attributeName (stop : Nat) : (tokens : List GateToken) → Except GateError (GateRest tokens)
  | ⟨.name _, _⟩ :: later => .ok ⟨later, Nat.lt_succ_self _⟩
  | tokens => .error (faultAt stop tokens .missingAttribute)

/-- The tokens behind the name under which an argument is passed, if it has one. -/
def skipArgumentName : (tokens : List GateToken) → GateTail tokens
  | ⟨.name _, _⟩ :: ⟨.operator .assign, _⟩ :: later =>
      ⟨later, Nat.le_succ_of_le (Nat.le_succ _)⟩
  | tokens => ⟨tokens, Nat.le_refl _⟩

section Descent

variable (stop : Nat)

mutual

/-- A product, and any number of signs with products behind them. -/
def sum (tokens : List GateToken) : Except GateError (GateRest tokens) := do
  let ⟨behind, _⟩ ← product tokens
  let ⟨rest, _⟩ ← summands behind
  return ⟨rest, by omega⟩
termination_by (tokens.length, 5)

def summands (tokens : List GateToken) : Except GateError (GateTail tokens) :=
  match skip? GateOperator.isSign tokens with
  | some ⟨next, _⟩ => do
      let ⟨behind, _⟩ ← product next
      let ⟨rest, _⟩ ← summands behind
      return ⟨rest, by omega⟩
  | none => .ok ⟨tokens, Nat.le_refl _⟩
termination_by (tokens.length, 0)

/-- A signed operand, and any number of factor signs with signed operands behind them. -/
def product (tokens : List GateToken) : Except GateError (GateRest tokens) := do
  let ⟨behind, _⟩ ← signed tokens
  let ⟨rest, _⟩ ← factors behind
  return ⟨rest, by omega⟩
termination_by (tokens.length, 4)

def factors (tokens : List GateToken) : Except GateError (GateTail tokens) :=
  match skip? GateOperator.isFactorSign tokens with
  | some ⟨next, _⟩ => do
      let ⟨behind, _⟩ ← signed next
      let ⟨rest, _⟩ ← factors behind
      return ⟨rest, by omega⟩
  | none => .ok ⟨tokens, Nat.le_refl _⟩
termination_by (tokens.length, 0)

/-- A power with any number of signs before it. -/
def signed (tokens : List GateToken) : Except GateError (GateRest tokens) :=
  match skip? GateOperator.isSign tokens with
  | some ⟨later, _⟩ => do
      let ⟨rest, _⟩ ← signed later
      return ⟨rest, by omega⟩
  | none => power tokens
termination_by (tokens.length, 3)

/-- An operand, perhaps raised to a signed operand. -/
def power (tokens : List GateToken) : Except GateError (GateRest tokens) := do
  let ⟨behind, _⟩ ← operand tokens
  match skip? (· == .power) behind with
  | some ⟨exponent, _⟩ => do
      let ⟨rest, _⟩ ← signed exponent
      return ⟨rest, by omega⟩
  | none => return ⟨behind, by assumption⟩
termination_by (tokens.length, 2)

/-- An atom with attributes, subscripts and calls. -/
def operand (tokens : List GateToken) : Except GateError (GateRest tokens) := do
  let ⟨behind, _⟩ ← atom tokens
  let ⟨rest, _⟩ ← trailers behind
  return ⟨rest, by omega⟩
termination_by (tokens.length, 1)

def trailers (tokens : List GateToken) : Except GateError (GateTail tokens) :=
  match skip? (· == .dot) tokens with
  | some ⟨name, _⟩ => do
      let ⟨behind, _⟩ ← attributeName stop name
      let ⟨rest, _⟩ ← trailers behind
      return ⟨rest, by omega⟩
  | none =>
      match skip? (· == .openBracket) tokens with
      | some ⟨index, _⟩ => do
          let ⟨behind, _⟩ ← sum index
          let ⟨closed, _⟩ ← expect stop .closeBracket behind
          let ⟨rest, _⟩ ← trailers closed
          return ⟨rest, by omega⟩
      | none =>
          match skip? (· == .openParen) tokens with
          | some ⟨passed, _⟩ => do
              let ⟨closed, _⟩ ← call passed
              let ⟨rest, _⟩ ← trailers closed
              return ⟨rest, by omega⟩
          | none => .ok ⟨tokens, Nat.le_refl _⟩
termination_by (tokens.length, 0)

/-- What stands behind the opening parenthesis of a call: perhaps arguments, and the closing one. -/
def call (tokens : List GateToken) : Except GateError (GateRest tokens) :=
  match skip? (· == .closeParen) tokens with
  | some rest => .ok rest
  | none => do
      let ⟨behind, _⟩ ← arguments tokens
      let ⟨rest, _⟩ ← expect stop .closeParen behind
      return ⟨rest, by omega⟩
termination_by (tokens.length, 8)

/-- An argument, any number of commas with arguments behind them, and perhaps a last comma. -/
def arguments (tokens : List GateToken) : Except GateError (GateRest tokens) := do
  let ⟨behind, _⟩ ← argument tokens
  let ⟨rest, _⟩ ← moreArguments behind
  return ⟨rest, by omega⟩
termination_by (tokens.length, 7)

def moreArguments (tokens : List GateToken) : Except GateError (GateTail tokens) :=
  match skip? (· == .comma) tokens with
  | some ⟨next, _⟩ =>
      if (skip? (· == .closeParen) next).isSome then .ok ⟨next, by omega⟩
      else do
        let ⟨behind, _⟩ ← argument next
        let ⟨rest, _⟩ ← moreArguments behind
        return ⟨rest, by omega⟩
  | none => .ok ⟨tokens, Nat.le_refl _⟩
termination_by (tokens.length, 0)

/-- A sum, with or without a name for it. -/
def argument (tokens : List GateToken) : Except GateError (GateRest tokens) := do
  let ⟨unnamed, noLonger⟩ := skipArgumentName tokens
  let ⟨rest, _⟩ ← sum unnamed
  return ⟨rest, by omega⟩
termination_by (tokens.length, 6)
decreasing_by exact Prod.Lex.right' _ noLonger (by decide)

/-- A number, adjacent strings, a name or a sum in parentheses. -/
def atom (tokens : List GateToken) : Except GateError (GateRest tokens) :=
  match tokens with
  | ⟨.number, _⟩ :: later => .ok ⟨later, Nat.lt_succ_self _⟩
  | ⟨.string, _⟩ :: later =>
      .ok ⟨later.dropWhile (·.kind == .string),
        Nat.lt_succ_of_le (List.dropWhile_sublist _).length_le⟩
  | ⟨.name text, offset⟩ :: later =>
      if hostKeywords.contains text then .error ⟨offset, .keyword text⟩
      else .ok ⟨later, Nat.lt_succ_self _⟩
  | ⟨.operator .openParen, _⟩ :: later => do
      let ⟨behind, _⟩ ← sum later
      let ⟨rest, _⟩ ← expect stop .closeParen behind
      return ⟨rest, by simp only [List.length_cons]; omega⟩
  | tokens => .error (faultAt stop tokens .missingOperand)
termination_by (tokens.length, 0)

end

end Descent

/-- Read a sum to the end, which is at the offset `stop`.  Line breaks may come before the end. -/
def read (stop : Nat) (tokens : List GateToken) : Except GateError Unit := do
  let ⟨behind, _⟩ ← sum stop tokens
  let rest := behind.dropWhile (·.kind == .lineBreak)
  if rest.isEmpty then return ()
  else throw (faultAt stop rest .trailingInput)

end GateReader

/-- Check that a text is a gate expression, line breaks behind it allowed. -/
def checkGate (text : Text) : Except GateError Unit :=
  match gatePieces 0 text with
  | .error error => .error error
  | .ok pieces => GateReader.read text.utf8Size (gateTokens 0 0 pieces)

def isGateText (text : Text) : Bool :=
  (checkGate text).isOk

/-- The side of an arrow on which a gate stands. -/
inductive GateSide where
  /-- The gate through which the module before the arrow sends. -/
  | output
  /-- The gate through which the module behind the arrow receives. -/
  | input
  deriving DecidableEq, Repr

namespace GateSide

/-- What is put before and behind a candidate to see that it holds together as an operand. -/
def probe : GateSide → Text × Text
  | output => (['1', '*'], ['+', '1'])
  | input => (['1', '+'], ['*', '1'])

end GateSide

/-- Remove the blanks at both ends and the backslashes that join the text to a following row. -/
def stripJoints (text : Text) : Text :=
  ((text.dropWhile isBlank).reverse.dropWhile fun c => isBlank c || c == '\\').reverse

/-- Whether a candidate next to an arrow numbers a gate: it must be a gate expression both in
parentheses and between the operands of the probe. -/
def isGate (side : GateSide) (candidate : Text) : Bool :=
  let stripped := stripJoints candidate
  !stripped.isEmpty &&
    isGateText ('(' :: stripped ++ [')']) &&
    isGateText (side.probe.1 ++ candidate ++ side.probe.2)

end Pipescript
