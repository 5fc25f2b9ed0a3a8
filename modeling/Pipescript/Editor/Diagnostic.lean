import Pipescript.Editor.Document

/-!
# Diagnostics of scripts

Some diagnostics exist only because the backend does not read the script as it was written: those
about the style of a row on which an assignment or an arrow was replaced, and those about the import
in the header line.  They are dropped, and the genuine ones are moved to the rows of the document.
-/

namespace Pipescript

/-- The linter that complains about style. -/
def styleLinter : Text :=
  "pycodestyle".toList

/-- The codes of complaints about style that replacing pipeline notation may cause. -/
def styleCodes : List Text :=
  ["E203", "E225", "E231", "E702"].map String.toList

/-- The linter that complains about names. -/
def nameLinter : Text :=
  "pyflakes".toList

/-- What complaints about the imported names say. -/
def importMessages : List Text :=
  ["import *' used; unable to detect undefined names",
    "may be undefined, or defined from star imports"].map String.toList

/-- Whether a message begins with a code as a word of its own. -/
def beginsWithCode (message code : Text) : Bool :=
  code.isPrefixOf message && !(message.drop code.length).head?.any isWordChar

namespace Diagnostic

/-- Whether a diagnostic is a complaint about style that replacing pipeline notation may cause. -/
def isAboutNotation (diagnostic : Diagnostic) : Bool :=
  diagnostic.source == some styleLinter &&
    styleCodes.any (beginsWithCode diagnostic.message)

/-- Whether a diagnostic is a complaint about the import in the header line. -/
def isAboutHeader (diagnostic : Diagnostic) : Bool :=
  diagnostic.source == some nameLinter &&
    importMessages.any (Text.includes · diagnostic.message)

/-- Whether a diagnostic of the backend says something about the script itself. -/
def isGenuine (diagnostic : Diagnostic) (view : ScriptView) : Bool :=
  !diagnostic.isAboutHeader &&
    !(view.changedRows.contains diagnostic.range.start.line && diagnostic.isAboutNotation)

end Diagnostic

/-- The genuine diagnostics with the rows of the document, those on the header line left out. -/
def genuineDiagnostics (view : ScriptView) (diagnostics : List Diagnostic) : List Diagnostic :=
  (diagnostics.filter (·.isGenuine view)).filterMap fun diagnostic =>
    (view.shift.undoRange? diagnostic.range).map fun range =>
      { diagnostic with range := range }

end Pipescript
