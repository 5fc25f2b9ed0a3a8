import Pipescript.Backend.Notice
import Pipescript.Backend.Settings
import Pipescript.Editor.Diagnostic
import Pipescript.Schema.SearchResult
import Pipescript.Schema.Source

/-!
# The wrapped backend

A backend analyses documents of the host language.  The wrapper lets it read pipeline scripts, too:
positions are moved once on their way to the backend, and what comes back is moved once on its way
to the user.  What the backend fails at is an empty result, for the user loses nothing else by it.

A backend may remember what it was asked, so its operations pass a state on.
-/

namespace Pipescript

/-- A failure of a backend, in its own words. -/
structure BackendFailure where
  reason : Text
  deriving DecidableEq, Repr

def BackendFailure.message (error : BackendFailure) : Text :=
  "backend error: ".toList ++ error.reason

/-- What a backend is started with. -/
structure StartRequest where
  root : Path
  settings : Json

/-- A backend with states of type `sigma`. -/
structure Backend (sigma : Type) where
  settings : sigma → Json
  sourceRoots : sigma → Document → List Path
  start : sigma → StartRequest → Except BackendFailure Unit × sigma
  lint : sigma → Document → Except BackendFailure (List Diagnostic) × sigma
  definitions : sigma → Document → Position → Except BackendFailure (List Location) × sigma
  references : sigma → Document → Position → Bool → Except BackendFailure (List Location) × sigma
  highlights : sigma → Document → Position → Except BackendFailure (List Highlight) × sigma

/-- What the wrapper knows, together with the state of the backend in it. -/
structure Wrapper (sigma : Type) where
  inner : sigma
  schema : SchemaSource
  settings : Settings := {}
  sourceDirectory : Path := []
  noticeDelay : Nat := usualDelay

/-- The result of an operation, where a failure counts as nothing found. -/
def foundOnly {alpha : Type} (result : Except BackendFailure (List alpha)) : List alpha :=
  match result with
  | .ok found => found
  | .error _ => []

/-- Move a location that was found from a document into the rows of its own document. -/
def returnLocation? (surroundings : Surroundings) (document : Document) (location : Location) :
    Option Location :=
  let shift :=
    if location.uri = document.uri then document.shift
    else LineShift.ofFile surroundings location.uri
  shift.undoLocation? location

namespace Wrapper

variable {sigma : Type}

/-- A notice about a problem. -/
def problem (wrapper : Wrapper sigma) (message : Text) : Notice :=
  ⟨wrapper.noticeDelay, .error, message⟩

/-- The settings that the backend offers, with a section for the wrapper. -/
def editorSettings (backend : Backend sigma) (wrapper : Wrapper sigma) : Json :=
  Settings.withSection (backend.settings wrapper.inner)

/-- Read the settings, find the source directory, compare versions, and start the backend.  A
problem is told by a notice and does not keep the backend from starting. -/
def start (backend : Backend sigma) (wrapper : Wrapper sigma) (surroundings : Surroundings)
    (request : StartRequest) : Except BackendFailure Unit × List Notice × Wrapper sigma :=
  let read := Settings.ofEditor request.settings
  let (settings, settingsNotices) := match read with
    | .ok settings => (settings, [])
    | .error error => ({}, [wrapper.problem error.message.toList])
  let (directory, directoryNotices) := match settings.sourcePath surroundings with
    | .ok directory => (directory, [])
    | .error error => (request.root, [wrapper.problem error.message.toList])
  let (schema?, schema) := wrapper.schema.get surroundings
  let sourcesProblem? := sourcesNotice? surroundings directory (schema?.map Schema.version)
  let versionNotices := (sourcesProblem?.map wrapper.problem).toList
  let (result, inner) := backend.start wrapper.inner request
  (result, settingsNotices ++ directoryNotices ++ versionNotices,
    { wrapper with
      inner := inner
      schema := schema
      settings := settings
      sourceDirectory := directory })

/-- The directories in which imports of a document are looked for. -/
def sourceRoots (backend : Backend sigma) (wrapper : Wrapper sigma) (document : Document) :
    List Path :=
  wrapper.sourceDirectory :: backend.sourceRoots wrapper.inner document

/-- The diagnostics of a document.  Those of a host document are the backend's own. -/
def lint (backend : Backend sigma) (wrapper : Wrapper sigma) (document : Document) :
    Except BackendFailure (List Diagnostic) × Wrapper sigma :=
  let (result, inner) := backend.lint wrapper.inner document
  let answer := match document.view? with
    | none => result
    | some view => .ok (genuineDiagnostics view (foundOnly result))
  (answer, { wrapper with inner := inner })

/-- Bring locations that the backend found back to the user, with what the schema adds to them. -/
def returnLocations (wrapper : Wrapper sigma) (surroundings : Surroundings) (kind : SearchKind)
    (document : Document) (found : List Location) : List Location × Wrapper sigma :=
  let locations := found.filterMap (returnLocation? surroundings document)
  let (schema?, schema) := wrapper.schema.get surroundings
  let context : SearchContext :=
    { schema := schema?.getD .empty
      schemaUri := wrapper.schema.documentUri?
      schemaDirectory := wrapper.schema.directory
      sourceDirectory := wrapper.sourceDirectory }
  (listPlaces context locations (wrapper.settings.categories kind),
    { wrapper with schema := schema })

/-- Where the symbol at a position is defined. -/
def definitions (backend : Backend sigma) (wrapper : Wrapper sigma) (surroundings : Surroundings)
    (document : Document) (position : Position) :
    Except ShiftError (List Location × Wrapper sigma) := do
  let moved ← document.shift.apply position
  let (result, inner) := backend.definitions wrapper.inner document moved
  return { wrapper with inner := inner }.returnLocations surroundings .definitions document
    (foundOnly result)

/-- Where the symbol at a position is used, and declared if that is asked for. -/
def references (backend : Backend sigma) (wrapper : Wrapper sigma) (surroundings : Surroundings)
    (document : Document) (position : Position) (withDeclaration : Bool) :
    Except ShiftError (List Location × Wrapper sigma) := do
  let moved ← document.shift.apply position
  let (result, inner) := backend.references wrapper.inner document moved withDeclaration
  return { wrapper with inner := inner }.returnLocations surroundings .references document
    (foundOnly result)

/-- The ranges of the document to highlight for the symbol at a position. -/
def highlights (backend : Backend sigma) (wrapper : Wrapper sigma) (document : Document)
    (position : Position) : Except ShiftError (List Highlight × Wrapper sigma) := do
  let moved ← document.shift.apply position
  let (result, inner) := backend.highlights wrapper.inner document moved
  let found := (foundOnly result).filterMap fun highlight =>
    (document.shift.undoRange? highlight.range).map fun range =>
      { highlight with range := range }
  return (found, { wrapper with inner := inner })

end Wrapper

end Pipescript
