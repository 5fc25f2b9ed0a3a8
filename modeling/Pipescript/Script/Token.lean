import Pipescript.Text.Basic

/-!
# Tokens

A token is a piece of a script with its place.  Rows of tokens count from one and columns from
zero.
-/

namespace Pipescript

/-- What a token is. -/
inductive TokenKind where
  | name
  | number
  | string
  | operator
  | comment
  /-- A line end that ends a statement. -/
  | newline
  /-- A line end that ends no statement: on a blank line, behind a comment alone on its line, or
  inside brackets. -/
  | lineBreak
  | indent
  | dedent
  /-- A piece that belongs to no statement. -/
  | stray
  | endMarker
  deriving DecidableEq, Repr

structure Token where
  kind : TokenKind
  text : Text
  row : Nat
  column : Nat
  deriving DecidableEq, Repr

namespace Token

/-- Whether a token is the given operator. -/
def isOperator (token : Token) (text : Text) : Bool :=
  token.kind == .operator && token.text == text

end Token

/-- Why a script could not be scanned to its end. -/
inductive ScanError where
  /-- The text ends inside the literal that starts at a row and a column. -/
  | openString (row column : Nat)
  /-- The text ends inside brackets or behind a joined line. -/
  | openStatement (row : Nat)
  /-- A row is indented less than the rows before it, to a column at which no block starts. -/
  | inconsistentDedent (row : Nat)
  deriving DecidableEq, Repr

namespace ScanError

def message : ScanError → String
  | openString row column => s!"EOF in multi-line string starting at {row}:{column}"
  | openStatement row => s!"EOF in multi-line statement at line {row}"
  | inconsistentDedent row =>
      s!"unindent does not match any outer indentation level at line {row}"

end ScanError

end Pipescript
