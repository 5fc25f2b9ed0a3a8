import Pipescript.Script.Quote
import Pipescript.Text.Digits

/-!
# Lexemes of a line

A line is cut, from left to right, into lexemes: blanks, comments, literals, names, operators, the
line end, and a backslash that joins the line to the next one.  Nothing is skipped, so the lexemes
put together again are the line.
-/

namespace Pipescript

/-- What a lexeme is. -/
inductive LexemeKind where
  | blank
  | comment
  | lineEnd
  | joint
  | number
  | string
  | name
  | operator
  /-- A character that begins nothing, or the opening of a literal that its line leaves open. -/
  | stray
  /-- The rest of the line, inside a literal that a later line may close. -/
  | openString (quote : Quote)
  deriving DecidableEq, Repr

structure Lexeme where
  kind : LexemeKind
  text : Text
  deriving DecidableEq, Repr

/-- The operators, longer ones first. -/
def operators : List Text :=
  ["**=", "//=", ">>=", "<<=", "...",
    "->", "**", "//", ">>", "<<", "<=", ">=", "==", "!=", "+=", "-=", "*=", "/=", "%=", "&=",
    "|=", "^=", "@=", ":=",
    "+", "-", "*", "/", "%", "&", "|", "^", "~", "<", ">", "(", ")", "[", "]", "\x7b", "\x7d", ",",
    ":", ";", ".", "=", "@"].map String.toList

/-- The longest operator in front of a text. -/
def operator? (text : Text) : Option Text :=
  operators.find? (·.isPrefixOf text)

/-- Whether a character leaves its column without content. -/
def isMarginChar (c : Char) : Bool :=
  c == ' ' || c == '\t' || c == '\x0c'

def isLineBreakChar (c : Char) : Bool :=
  c == '\r' || c == '\n'

/-- Whether nothing but a line end is left. -/
def isLineEnd (rest : Text) : Bool :=
  rest == ['\n'] || rest == ['\r', '\n'] || rest == ['\r']

/-- Whether a line ends in a backslash and a line feed, with or without a carriage return. -/
def endsInJoint (line : Text) : Bool :=
  ['\\', '\n'].isSuffixOf line || ['\\', '\r', '\n'].isSuffixOf line

/-- The exponent in front of a text.  A mark without a digit behind it is no exponent. -/
def exponentPart (text : Text) : Text :=
  match text.exponentMark? with
  | none => []
  | some mark =>
      match text.drop mark.length with
      | digit :: rest =>
          if digit.isDigit then mark ++ digit :: rest.takeWhile isDigitOrUnderscore else []
      | [] => []

/-- The number literal in front of a text that starts with a digit, or with a point and a digit.
After `0x` and its like any letters and digits follow. -/
def numberLiteral (text : Text) : Text :=
  match text with
  | '0' :: mark :: rest =>
      if (announcedBase? mark).isSome then
        '0' :: mark :: rest.takeWhile fun c => c.isAlphanum || c == '_'
      else
        decimal text
  | _ => decimal text
where
  decimal (text : Text) : Text :=
    let mantissa := text.decimalPart
    let exponent := exponentPart (text.drop mantissa.length)
    let suffix := Text.imaginaryMark (text.drop (mantissa.length + exponent.length))
    mantissa ++ exponent ++ suffix

/-- Whether a number starts with the character `c` before `rest`. -/
def startsNumber (c : Char) (rest : Text) : Bool :=
  c.isDigit || (c == '.' && rest.head?.any Char.isDigit)

namespace Lexeme

/-- The literal whose quote opens with `mark` before `rest`, after the given letters.  A literal
that its line does not close stays open if its quote is triple or the line ends in a joint;
otherwise its opening alone is a stray. -/
def ofQuote (letters : Text) (mark : Char) (rest : Text) : Lexeme :=
  let quote := Quote.opening mark rest
  match quote.closed? ((mark :: rest).drop quote.text.length) with
  | some inside => ⟨.string, letters ++ quote.text ++ inside⟩
  | none =>
      if quote.triple || endsInJoint rest then
        ⟨.openString quote, letters ++ mark :: rest⟩
      else
        ⟨.stray, letters ++ [mark]⟩

/-- The lexeme in front of a line that starts with `c`. -/
def first (c : Char) (rest : Text) : Lexeme :=
  if isMarginChar c then
    ⟨.blank, [c]⟩
  else if c = '#' then
    ⟨.comment, c :: rest.takeWhile (!isLineBreakChar ·)⟩
  else if isLineBreakChar c then
    ⟨.lineEnd, c :: rest⟩
  else if c = '\\' then
    if isLineEnd rest then ⟨.joint, c :: rest⟩ else ⟨.stray, [c]⟩
  else if isQuoteMark c then
    ofQuote [] c rest
  else if startsNumber c rest then
    ⟨.number, numberLiteral (c :: rest)⟩
  else if startsName c then
    let name := c :: rest.takeWhile continuesName
    match rest.dropWhile continuesName with
    | mark :: after =>
        if isQuoteMark mark && isStringLetters name then
          ofQuote name mark after
        else
          ⟨.name, name⟩
    | [] => ⟨.name, name⟩
  else
    match operator? (c :: rest) with
    | some operator => ⟨.operator, operator⟩
    | none => ⟨.stray, [c]⟩

end Lexeme

/-- The lexemes of a line. -/
def lexemes : Text → List Lexeme
  | [] => []
  | c :: rest =>
      let lexeme := Lexeme.first c rest
      lexeme :: lexemes (rest.drop (lexeme.text.length - 1))
termination_by line => line.length
decreasing_by
  simp only [List.length_drop, List.length_cons]
  omega

end Pipescript
