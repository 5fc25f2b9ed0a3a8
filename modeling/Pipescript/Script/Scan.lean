import Pipescript.Script.Indentation
import Pipescript.Script.Token
import Pipescript.Text.Lines

/-!
# Scanning

A script is scanned row by row.  From one row to the next go the open blocks, the number of open
brackets, and what the row leaves unfinished: a joined line or an open literal.  A scan stops early
only at an inconsistent indentation; all other anomalies become stray tokens.  The tokens up to an
error are kept.
-/

namespace Pipescript

/-- A literal that the rows so far leave open. -/
structure OpenLiteral where
  quote : Quote
  text : Text
  row : Nat
  column : Nat
  deriving DecidableEq, Repr

/-- What a row leaves unfinished. -/
inductive Carry where
  | nothing
  | joint
  | literal (opened : OpenLiteral)
  deriving DecidableEq, Repr

/-- What a scan knows between two rows. -/
structure ScanState where
  blocks : OpenBlocks
  depth : Nat
  carry : Carry
  deriving DecidableEq, Repr

/-- The tokens of a script, and the error that ended the scan, if any. -/
structure Scan where
  tokens : List Token
  error : Option ScanError
  deriving DecidableEq, Repr

namespace Scan

def isComplete (scan : Scan) : Bool :=
  scan.error.isNone

/-- Put tokens before those of a scan. -/
def prepend (tokens : List Token) (scan : Scan) : Scan :=
  { scan with tokens := tokens ++ scan.tokens }

end Scan

/-- The bracket depth behind an operator.  A closing bracket without an opening one is ignored. -/
def depthAfter (operator : Text) (depth : Nat) : Nat :=
  if operator == ['('] || operator == ['['] || operator == ['{'] then depth + 1
  else if operator == [')'] || operator == [']'] || operator == ['}'] then depth - 1
  else depth

/-- The tokens of a row, the bracket depth behind it and what it leaves unfinished. -/
structure Placed where
  tokens : List Token
  depth : Nat
  carry : Carry
  deriving DecidableEq, Repr

/-- Turn lexemes into tokens, the first of them at the given column. -/
def place (row : Nat) : Nat → Nat → List Lexeme → Placed
  | _, depth, [] => ⟨[], depth, .nothing⟩
  | column, depth, ⟨kind, text⟩ :: later =>
      let behind := column + text.length
      let emit (kind : TokenKind) (depthBehind : Nat) : Placed :=
        let rest := place row behind depthBehind later
        { rest with tokens := ⟨kind, text, row, column⟩ :: rest.tokens }
      match kind with
      | .blank => place row behind depth later
      | .comment => emit .comment depth
      | .lineEnd => emit (if depth = 0 then .newline else .lineBreak) depth
      | .number => emit .number depth
      | .string => emit .string depth
      | .name => emit .name depth
      | .operator => emit .operator (depthAfter text depth)
      | .stray => emit .stray depth
      | .joint => ⟨[], depth, .joint⟩
      | .openString quote => ⟨[], depth, .literal ⟨quote, text, row, column⟩⟩

namespace ScanState

def start : ScanState :=
  ⟨[], 0, .nothing⟩

/-- Scan the rest of a row from a column on. -/
def scanRest (state : ScanState) (row column : Nat) (rest : Text) : List Token × ScanState :=
  let placed := place row column state.depth (lexemes rest)
  (placed.tokens, { state with depth := placed.depth, carry := placed.carry })

/-- Scan a row that may begin a statement.  Its margin tells which blocks it opens or ends, unless
the row is blank or holds a comment alone. -/
def scanFresh (state : ScanState) (row : Nat) (line : Text) :
    Except ScanError (List Token × ScanState) :=
  let margin := line.takeWhile isMarginChar
  let rest := line.drop margin.length
  match rest with
  | [] => .ok ([], state)
  | c :: _ =>
      if c == '#' || isLineBreakChar c then
        let comment := rest.takeWhile (!isLineBreakChar ·)
        let lineEnd := rest.drop comment.length
        .ok
          ((if comment.isEmpty then []
            else [⟨.comment, comment, row, margin.length⟩]) ++
            (if lineEnd.isEmpty then []
            else [⟨.lineBreak, lineEnd, row, margin.length + comment.length⟩]),
            state)
      else
        let column := marginColumn margin
        let (tokens, next) :=
          { state with blocks := state.blocks.enter column }.scanRest row margin.length rest
        match state.blocks.step column with
        | .same => .ok (tokens, next)
        | .deeper => .ok (⟨.indent, margin, row, 0⟩ :: tokens, next)
        | .outward count =>
            .ok (List.replicate count ⟨.dedent, [], row, margin.length⟩ ++ tokens, next)
        | .inconsistent => .error (.inconsistentDedent row)

/-- Scan a row on which a literal of an earlier row goes on.  A literal with a single quote that
the row neither closes nor joins to the next one becomes a stray with the whole row. -/
def scanLiteral (state : ScanState) (opened : OpenLiteral) (row : Nat) (line : Text) :
    List Token × ScanState :=
  match opened.quote.closed? line with
  | some inside =>
      let (tokens, next) := state.scanRest row inside.length (line.drop inside.length)
      (⟨.string, opened.text ++ inside, opened.row, opened.column⟩ :: tokens, next)
  | none =>
      let text := opened.text ++ line
      if opened.quote.triple || endsInJoint line then
        ([], { state with carry := .literal { opened with text := text } })
      else
        ([⟨.stray, text, opened.row, opened.column⟩], { state with carry := .nothing })

/-- Scan one row. -/
def scanRow (state : ScanState) (row : Nat) (line : Text) :
    Except ScanError (List Token × ScanState) :=
  match state.carry with
  | .literal opened => .ok (state.scanLiteral opened row line)
  | .joint => .ok (state.scanRest row 0 line)
  | .nothing =>
      if state.depth = 0 then state.scanFresh row line
      else .ok (state.scanRest row 0 line)

/-- Whether the last row lacks the line end that would end its statement. -/
def lacksNewline (lastLine : Text) : Bool :=
  match lastLine.getLast? with
  | none => false
  | some c => !isLineBreakChar c && lastLine.trim.head? != some '#'

/-- The end of a script of `rows` rows: the last statement and all open blocks end. -/
def finish (state : ScanState) (rows : Nat) (lastLine : Text) : Scan :=
  match state.carry with
  | .literal opened => ⟨[], some (.openString opened.row opened.column)⟩
  | .joint => ⟨[], some (.openStatement rows)⟩
  | .nothing =>
      if state.depth = 0 then
        ⟨(if lacksNewline lastLine then [⟨.newline, [], rows, lastLine.length⟩] else []) ++
          List.replicate state.blocks.length ⟨.dedent, [], rows + 1, 0⟩ ++
          [⟨.endMarker, [], rows + 1, 0⟩],
          none⟩
      else
        ⟨[], some (.openStatement rows)⟩

/-- Scan the rows behind the first `rows` ones, of which the last is `lastLine`. -/
def scanRows (state : ScanState) (rows : Nat) (lastLine : Text) : List Text → Scan
  | [] => state.finish rows lastLine
  | line :: lines =>
      match state.scanRow (rows + 1) line with
      | .error error => ⟨[], some error⟩
      | .ok (tokens, next) => (next.scanRows (rows + 1) line lines).prepend tokens

end ScanState

/-- Scan a whole script. -/
def scan (script : Text) : Scan :=
  ScanState.start.scanRows 0 [] script.toLines

end Pipescript
