import Pipescript.Editor.Position
import Pipescript.Files.FileTree

/-!
# The header line

The backend reads a pipeline script behind a header line that imports the modules.  The line is put
before scripts that do not start with it, and then every row of the backend's text is one further
down than the same row of the script.  Positions are moved by that much whenever they pass from one
side to the other, and a position on the header line has no counterpart in the script.
-/

namespace Pipescript

/-- The line that imports all modules. -/
def headerLine : Text :=
  "from pyls_bess.bess_doc.globals import *".toList

/-- How file names of pipeline scripts end. -/
def scriptExtension : Text :=
  ".bess".toList

/-- Whether a URI leads to a pipeline script.  Only its path counts. -/
def isScriptUri (uri : Uri) : Bool :=
  scriptExtension.isSuffixOf uri.path

/-- Whether a text starts with the header line. -/
def startsWithHeader (script : Text) : Bool :=
  headerLine.isPrefixOf script

/-- Put the header line before a script that does not start with it, and tell whether it was put
there. -/
def withHeader (script : Text) : Text × Bool :=
  if startsWithHeader script then (script, false)
  else (headerLine ++ '\n' :: script, true)

/-- Why a position cannot be moved. -/
inductive ShiftError where
  /-- The line is the last one a position can name. -/
  | lastLine
  deriving DecidableEq, Repr

namespace ShiftError

def message : ShiftError → String
  | lastLine => "attempt to add with overflow"

end ShiftError

/-- How rows differ between a document and the text that the backend reads. -/
structure LineShift where
  addsHeader : Bool := false
  deriving DecidableEq, Repr

namespace LineShift

/-- The shift of a document that the backend reads as it is. -/
def identity : LineShift where
  addsHeader := false

/-- The number of lines before the document. -/
def delta (shift : LineShift) : Nat :=
  if shift.addsHeader then 1 else 0

/-- From the document to the backend. -/
def apply (shift : LineShift) (position : Position) : Except ShiftError Position :=
  if position.line + shift.delta ≤ largestLine then
    .ok { position with line := position.line + shift.delta }
  else
    .error .lastLine

/-- From the backend to the document. -/
def undo? (shift : LineShift) (position : Position) : Option Position :=
  if shift.delta ≤ position.line then
    some { position with line := position.line - shift.delta }
  else
    none

/-- A range with both ends moved. -/
def undoRange? (shift : LineShift) (range : Range) : Option Range := do
  let start ← shift.undo? range.start
  let stop ← shift.undo? range.stop
  return ⟨start, stop⟩

/-- A location with its range moved. -/
def undoLocation? (shift : LineShift) (location : Location) : Option Location := do
  let range ← shift.undoRange? location.range
  return { location with range := range }

/-- The bytes of the first line, without its line feed and a carriage return before it. -/
def firstLine (bytes : List UInt8) : List UInt8 :=
  let line := bytes.takeWhile (· != 10)
  if line.length < bytes.length && line.getLast? == some 13 then line.dropLast else line

/-- Whether the file of a URI is there and has the header line as its first line. -/
def fileHasHeader (surroundings : Surroundings) (uri : Uri) : Bool :=
  match (uri.filePath?).bind surroundings.bytes? with
  | some bytes => ((Text.ofUtf8? (firstLine bytes)).map startsWithHeader).getD false
  | none => false

/-- The shift that the backend saw for a file that is not open.  A script that cannot be read counts
as one without the header line. -/
def ofFile (surroundings : Surroundings) (uri : Uri) : LineShift :=
  if isScriptUri uri then ⟨!fileHasHeader surroundings uri⟩ else identity

end LineShift

end Pipescript
