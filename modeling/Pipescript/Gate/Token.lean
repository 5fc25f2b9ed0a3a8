import Pipescript.Script.Lexeme

/-!
# Tokens of gate expressions

A gate expression is read on its own, as one text that may span several lines.  It is cut into
pieces, from which the tokens are those that are neither blank, comment nor joint; line breaks count
only outside brackets.  Offsets count bytes.
-/

namespace Pipescript

inductive GateOperator where
  | power
  | floorDivide
  | plus
  | minus
  | times
  | divide
  | modulo
  | openParen
  | closeParen
  | openBracket
  | closeBracket
  | dot
  | comma
  | assign
  deriving DecidableEq, Repr

namespace GateOperator

/-- All operators, longer ones first. -/
def all : List GateOperator :=
  [power, floorDivide, plus, minus, times, divide, modulo, openParen, closeParen, openBracket,
    closeBracket, dot, comma, assign]

def text : GateOperator → Text
  | power => ['*', '*']
  | floorDivide => ['/', '/']
  | plus => ['+']
  | minus => ['-']
  | times => ['*']
  | divide => ['/']
  | modulo => ['%']
  | openParen => ['(']
  | closeParen => [')']
  | openBracket => ['[']
  | closeBracket => [']']
  | dot => ['.']
  | comma => [',']
  | assign => ['=']

/-- The longest operator in front of a text. -/
def first? (rest : Text) : Option GateOperator :=
  all.find? (·.text.isPrefixOf rest)

/-- The bracket depth behind an operator.  Only parentheses and brackets count. -/
def depthAfter (operator : GateOperator) (depth : Nat) : Nat :=
  match operator with
  | openParen | openBracket => depth + 1
  | closeParen | closeBracket => depth - 1
  | _ => depth

end GateOperator

/-- What a token of a gate expression is. -/
inductive GateTokenKind where
  | number
  | string
  | name (text : Text)
  | operator (sign : GateOperator)
  | lineBreak
  deriving DecidableEq, Repr

structure GateToken where
  kind : GateTokenKind
  offset : Nat
  deriving DecidableEq, Repr

/-- Why a text is no gate expression. -/
inductive GateFault where
  | brokenJoint
  | unclosedString
  | badNumber
  | badExponent
  | unexpectedCharacter (c : Char)
  | trailingInput
  | missingAttribute
  | missingOperand
  | keyword (name : Text)
  | missing (operator : GateOperator)
  deriving DecidableEq, Repr

namespace GateFault

def message : GateFault → String
  | brokenJoint => "unexpected character after line continuation"
  | unclosedString => "unterminated string literal"
  | badNumber => "invalid number literal"
  | badExponent => "invalid exponent"
  | unexpectedCharacter c => s!"unexpected character '{c}'"
  | trailingInput => "unexpected trailing input"
  | missingAttribute => "expected attribute name after '.'"
  | missingOperand => "expected expression"
  | keyword name => s!"keyword '{String.ofList name}' is not an expression"
  | missing operator => s!"expected '{String.ofList operator.text}'"

end GateFault

/-- A fault with the byte offset at which it shows. -/
structure GateError where
  offset : Nat
  fault : GateFault
  deriving DecidableEq, Repr

namespace GateError

def message (error : GateError) : String :=
  s!"offset {error.offset}: {error.fault.message}"

end GateError

/-- A piece of a gate expression. -/
inductive GatePiece where
  | blank (text : Text)
  | comment (text : Text)
  | joint (text : Text)
  | lineBreak (c : Char)
  | number (text : Text)
  | string (text : Text)
  | name (text : Text)
  | operator (sign : GateOperator)
  deriving DecidableEq, Repr

namespace GatePiece

def text : GatePiece → Text
  | blank text | comment text | joint text | number text | string text | name text => text
  | lineBreak c => [c]
  | .operator sign => sign.text

end GatePiece

/-- The part of a text inside a single-quoted literal, closing mark included.  A line break that no
backslash takes along ends the search. -/
def closedOnLine? (mark : Char) : Text → Option Text
  | [] => none
  | [c] => if c ≠ '\\' ∧ c = mark then some [c] else none
  | c :: next :: rest =>
      if c = '\\' then
        (closedOnLine? mark rest).map fun inside => c :: next :: inside
      else if isLineBreakChar c then
        none
      else if c = mark then
        some [c]
      else
        (closedOnLine? mark (next :: rest)).map (c :: ·)

namespace GatePiece

/-- The literal whose quote opens with `mark` before `rest`, after the given letters. -/
def ofQuote (letters : Text) (mark : Char) (rest : Text) : Option GatePiece :=
  let quote := Quote.opening mark rest
  let inside :=
    if quote.triple then quote.closed? (rest.drop 2) else closedOnLine? mark rest
  inside.map fun inside => string (letters ++ quote.text ++ inside)

/-- The number literal in front of a text that starts with a digit, or with a point and a digit.
It must have digits of its base, digits behind an exponent mark, and nothing directly behind it that
would continue a name. -/
def ofNumber (text : Text) : Except GateFault GatePiece :=
  match text with
  | '0' :: mark :: rest =>
      match announcedBase? mark with
      | some base =>
          let digits := rest.takeWhile fun c => isDigitOf base c || c == '_'
          if digits.isEmpty then .error .badNumber
          else bounded ('0' :: mark :: digits)
      | none => decimal
  | _ => decimal
where
  bounded (literal : Text) : Except GateFault GatePiece :=
    if (text.drop literal.length).head?.any continuesName then .error .badNumber
    else .ok (number literal)
  decimal : Except GateFault GatePiece :=
    let mantissa := text.decimalPart
    let exponent := exponentPart (text.drop mantissa.length)
    if exponent.isEmpty && (Text.exponentMark? (text.drop mantissa.length)).isSome then
      .error .badExponent
    else
      let suffix := Text.imaginaryMark (text.drop (mantissa.length + exponent.length))
      bounded (mantissa ++ exponent ++ suffix)

/-- The piece in front of a text that starts with `c`. -/
def first (c : Char) (rest : Text) : Except GateFault GatePiece :=
  if isMarginChar c then
    .ok (blank [c])
  else if c = '#' then
    .ok (comment (c :: rest.takeWhile (· != '\n')))
  else if c = '\\' then
    if ['\n'].isPrefixOf rest then .ok (joint ['\\', '\n'])
    else if ['\r', '\n'].isPrefixOf rest then .ok (joint ['\\', '\r', '\n'])
    else .error .brokenJoint
  else if isLineBreakChar c then
    .ok (lineBreak c)
  else if startsNumber c rest then
    ofNumber (c :: rest)
  else if isQuoteMark c then
    match ofQuote [] c rest with
    | some piece => .ok piece
    | none => .error .unclosedString
  else if startsName c then
    let word := c :: rest.takeWhile continuesName
    match rest.dropWhile continuesName with
    | mark :: after =>
        if isQuoteMark mark && isStringLetters word then
          match ofQuote word mark after with
          | some piece => .ok piece
          | none => .error .unclosedString
        else
          .ok (name word)
    | [] => .ok (name word)
  else
    match GateOperator.first? (c :: rest) with
    | some sign => .ok (.operator sign)
    | none => .error (.unexpectedCharacter c)

end GatePiece

/-- Where the fault of the literal in front of a text shows: at its opening quote, or at its first
character. -/
def GateFault.shift (fault : GateFault) (text : Text) : Nat :=
  match fault with
  | unclosedString => Text.utf8Size (text.takeWhile continuesName)
  | _ => 0

/-- The pieces of a text. -/
def gatePieces (offset : Nat) : Text → Except GateError (List GatePiece)
  | [] => .ok []
  | c :: rest =>
      match GatePiece.first c rest with
      | .error fault => .error ⟨offset + fault.shift (c :: rest), fault⟩
      | .ok piece =>
          match gatePieces (offset + piece.text.utf8Size) (rest.drop (piece.text.length - 1)) with
          | .error error => .error error
          | .ok pieces => .ok (piece :: pieces)
termination_by text => text.length
decreasing_by
  simp only [List.length_drop, List.length_cons]
  omega

/-- The tokens among pieces that begin at an offset, inside so many brackets. -/
def gateTokens (offset depth : Nat) : List GatePiece → List GateToken
  | [] => []
  | piece :: later =>
      let behind := offset + piece.text.utf8Size
      match piece with
      | .blank _ | .comment _ | .joint _ => gateTokens behind depth later
      | .lineBreak _ =>
          if depth = 0 then ⟨.lineBreak, offset⟩ :: gateTokens behind depth later
          else gateTokens behind depth later
      | .number _ => ⟨.number, offset⟩ :: gateTokens behind depth later
      | .string _ => ⟨.string, offset⟩ :: gateTokens behind depth later
      | .name text => ⟨.name text, offset⟩ :: gateTokens behind depth later
      | .operator sign =>
          ⟨.operator sign, offset⟩ :: gateTokens behind (sign.depthAfter depth) later

end Pipescript
