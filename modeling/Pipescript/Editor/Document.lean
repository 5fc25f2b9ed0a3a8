import Pipescript.Editor.Header
import Pipescript.Script.PlainScript
import Pipescript.Text.LineIndex

/-!
# Documents

A document is the text that a user edits.  Of a pipeline script the backend reads a view, which is
made when it is first asked for and kept until the next edit.  Edits always go into the user's own
text.
-/

namespace Pipescript

/-- A script as the backend reads it: behind the header line and without pipeline notation.  Rows
and arrows are those of this text. -/
structure ScriptView where
  text : Text
  shift : LineShift
  changedRows : RowSet
  arrows : List Arrow
  deriving DecidableEq

namespace ScriptView

def ofScript (script : Text) : ScriptView :=
  let (text, addsHeader) := withHeader script
  let plain := PlainScript.ofScript text
  ⟨plain.text, ⟨addsHeader⟩, plain.changedRows, plain.arrows⟩

end ScriptView

/-- Which text of a document is asked for. -/
inductive TextUse where
  /-- The text that the backend reads. -/
  | analysis
  /-- The text that edits change. -/
  | edit
  deriving DecidableEq, Repr

structure Document where
  uri : Uri
  text : Text
  version : Option Int
  /-- The view, if it has been asked for since the last edit. -/
  kept : Option ScriptView
  deriving DecidableEq

/-- An edit of a document: the text that replaces a range, or the whole text. -/
structure Edit where
  range : Option Range
  text : Text
  deriving DecidableEq, Repr

/-- The byte offset of a position.  A position behind the last row stands for the end. -/
def Position.offsetIn (position : Position) (index : LineIndex) : Nat :=
  (index.offsetAt? position.line position.character).getD index.text.utf8Size

/-- A text with a range replaced.  A range that ends before it starts is empty. -/
def Range.replaceIn (range : Range) (text replacement : Text) : Text :=
  let index := LineIndex.ofText text
  let start := range.start.offsetIn index
  let stop := max (range.stop.offsetIn index) start
  (text.takeBytes? start).getD text ++ replacement ++ (text.dropBytes? stop).getD []

namespace Document

/-- A document that was just opened. -/
def ofText (uri : Uri) (text : Text) (version : Option Int) : Document :=
  ⟨uri, text, version, none⟩

def isScript (document : Document) : Bool :=
  isScriptUri document.uri

/-- The view of a script, the kept one if there is one. -/
def view? (document : Document) : Option ScriptView :=
  if document.isScript then
    some (document.kept.getD (ScriptView.ofScript document.text))
  else
    none

/-- The document after its view was asked for. -/
def keep (document : Document) : Document :=
  { document with kept := document.view? }

/-- The text of a document for a use. -/
def source (document : Document) (use : TextUse) : Text :=
  match use, document.view? with
  | .analysis, some view => view.text
  | _, _ => document.text

/-- How rows differ between the document and the text that the backend reads. -/
def shift (document : Document) : LineShift :=
  match document.view? with
  | some view => view.shift
  | none => .identity

/-- The document behind an edit.  Without a new version it keeps the one it has. -/
def edit (document : Document) (change : Edit) (version : Option Int) : Document :=
  let source := document.source .edit
  { document with
    text :=
      match change.range with
      | none => change.text
      | some range => range.replaceIn source change.text
    version := version.or document.version
    kept := none }

end Document

end Pipescript
