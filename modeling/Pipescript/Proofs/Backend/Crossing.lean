import Pipescript.Backend.Wrapper
import Pipescript.Proofs.Editor.DocumentRun

/-!
# Crossing the boundary once

Each operation of the wrapper puts one question to the backend, about a position that was moved once,
and moves once what the backend finds.  Found ranges keep their order; one that lies on a header line
which the document does not have is left out, and sent to the backend again a range is the one that
was found.  What the backend fails at is the same as nothing found.
-/

namespace Pipescript

variable {sigma alpha : Type}

/-! ## Questions -/

/-- A question that is put to a backend. -/
inductive BackendCall where
  | lint (document : Document)
  | definitions (document : Document) (position : Position)
  | references (document : Document) (position : Position) (withDeclaration : Bool)
  | highlights (document : Document) (position : Position)
  deriving DecidableEq

/-- The answer to a question, with the question behind those asked before. -/
def recordAnswer (calls : List BackendCall) (call : BackendCall) (answer : alpha × sigma) :
    alpha × List BackendCall × sigma :=
  (answer.1, calls ++ [call], answer.2)

/-- A backend that writes down which questions it is asked. -/
def Backend.recorded (backend : Backend sigma) : Backend (List BackendCall × sigma) where
  settings state := backend.settings state.2
  sourceRoots state document := backend.sourceRoots state.2 document
  start state request :=
    let (result, next) := backend.start state.2 request
    (result, state.1, next)
  lint state document :=
    recordAnswer state.1 (.lint document) (backend.lint state.2 document)
  definitions state document position :=
    recordAnswer state.1 (.definitions document position)
      (backend.definitions state.2 document position)
  references state document position withDeclaration :=
    recordAnswer state.1 (.references document position withDeclaration)
      (backend.references state.2 document position withDeclaration)
  highlights state document position :=
    recordAnswer state.1 (.highlights document position)
      (backend.highlights state.2 document position)

/-! ## Rows in front of a document -/

/-- The number of rows that the backend reads in front of a document: a header line in front of a
script that does not start with one. -/
def Document.headerRows (document : Document) : Nat :=
  if document.isScript ∧ startsWithHeader document.text = false then 1 else 0

theorem Document.delta_shift
    {document : Document}
    (coherent : document.IsCoherent) :
    document.shift.delta = document.headerRows := by
  rw [shift_of_isCoherent coherent, headerRows]
  cases document.isScript with
  | false => rfl
  | true =>
      cases headed : startsWithHeader document.text with
      | false => simp [ScriptView.ofScript, withHeader, headed, LineShift.delta]
      | true => simp [ScriptView.ofScript, withHeader, headed, LineShift.delta]

/-- The number of rows that the backend reads in front of a file. -/
def headerRowsOf (surroundings : Surroundings) (document : Document) (uri : Uri) : Nat :=
  if uri = document.uri then document.headerRows else (LineShift.ofFile surroundings uri).delta

/-- A position some rows further down. -/
def Position.lower (rows : Nat) (position : Position) : Position :=
  { position with line := position.line + rows }

namespace Range

/-- Whether an end of a range lies on one of the first rows. -/
def touchesFirst (rows : Nat) (range : Range) : Bool :=
  range.start.line < rows || range.stop.line < rows

/-- A range some rows further up. -/
def raise (rows : Nat) (range : Range) : Range :=
  ⟨{ range.start with line := range.start.line - rows },
    { range.stop with line := range.stop.line - rows }⟩

/-- Whether a range can be named by an editor. -/
def IsNameable (range : Range) : Prop :=
  range.start.line ≤ largestLine ∧ range.stop.line ≤ largestLine

end Range

namespace LineShift

theorem delta_le_one (shift : LineShift) : shift.delta ≤ 1 := by
  unfold delta
  split <;> omega

theorem apply_of_lt
    {position : Position}
    (notLast : position.line < largestLine)
    (shift : LineShift) :
    shift.apply position = .ok (position.lower shift.delta) := by
  have atMost := shift.delta_le_one
  unfold apply
  rw [if_pos (by omega)]
  rfl

theorem undoRange?_eq (shift : LineShift) (range : Range) :
    shift.undoRange? range =
      if range.touchesFirst shift.delta then none else some (range.raise shift.delta) := by
  unfold undoRange? undo? Range.touchesFirst
  by_cases startBelow : shift.delta ≤ range.start.line
  · by_cases stopBelow : shift.delta ≤ range.stop.line
    · simp [startBelow, stopBelow, Nat.not_lt.2, Range.raise]
    · simp [startBelow, stopBelow, Nat.lt_of_not_le]
  · simp [startBelow, Nat.lt_of_not_le]

/-- A range that was moved back is moved to where it was found. -/
theorem apply_raise
    {shift : LineShift} {range : Range}
    (nameable : range.IsNameable)
    (below : range.touchesFirst shift.delta = false) :
    shift.apply (range.raise shift.delta).start = .ok range.start ∧
      shift.apply (range.raise shift.delta).stop = .ok range.stop := by
  obtain ⟨startBelow, stopBelow⟩ :
      shift.delta ≤ range.start.line ∧ shift.delta ≤ range.stop.line := by
    simpa [Range.touchesFirst] using below
  have startBack := Nat.sub_add_cancel startBelow
  have stopBack := Nat.sub_add_cancel stopBelow
  unfold apply Range.raise
  simp [startBack, stopBack, nameable.1, nameable.2]

end LineShift

/-! ## What comes back -/

/-- Locations that the backend found, as the user sees them. -/
def returnedLocations (surroundings : Surroundings) (document : Document)
    (found : List Location) : List Location :=
  let rows (location : Location) := headerRowsOf surroundings document location.uri
  (found.filter fun location => !location.range.touchesFirst (rows location)).map fun location =>
    { location with range := location.range.raise (rows location) }

/-- Highlights that the backend found, as the user sees them. -/
def returnedHighlights (document : Document) (found : List Highlight) : List Highlight :=
  (found.filter fun highlight => !highlight.range.touchesFirst document.headerRows).map
    fun highlight => { highlight with range := highlight.range.raise document.headerRows }

theorem filterMap_eq_map_filter {beta : Type} (isLeftOut : alpha → Bool) (moved : alpha → beta)
    (items : List alpha) :
    items.filterMap (fun item => if isLeftOut item then none else some (moved item)) =
      (items.filter fun item => !isLeftOut item).map moved := by
  rw [← List.filterMap_eq_map, List.filterMap_filter]
  congr 1
  funext item
  cases isLeftOut item <;> rfl

theorem delta_returnShift
    {document : Document}
    (coherent : document.IsCoherent)
    (surroundings : Surroundings) (uri : Uri) :
    (if uri = document.uri then document.shift else LineShift.ofFile surroundings uri).delta =
      headerRowsOf surroundings document uri := by
  unfold headerRowsOf
  split
  · exact document.delta_shift coherent
  · rfl

theorem filterMap_returnLocation?
    {document : Document}
    (coherent : document.IsCoherent)
    (surroundings : Surroundings) (found : List Location) :
    found.filterMap (returnLocation? surroundings document) =
      returnedLocations surroundings document found := by
  rw [returnedLocations, ← filterMap_eq_map_filter]
  congr 1
  funext location
  -- The document itself may differ from its file, so its own shift counts for it.
  unfold returnLocation? LineShift.undoLocation?
  dsimp only
  rw [LineShift.undoRange?_eq, delta_returnShift coherent]
  split <;> rfl

theorem filterMap_returnHighlight?
    {document : Document}
    (coherent : document.IsCoherent)
    (found : List Highlight) :
    (found.filterMap fun highlight =>
        (document.shift.undoRange? highlight.range).map fun range =>
          { highlight with range := range }) =
      returnedHighlights document found := by
  rw [returnedHighlights, ← filterMap_eq_map_filter]
  congr 1
  funext highlight
  rw [LineShift.undoRange?_eq, document.delta_shift coherent]
  split <;> rfl

/-! ## Operations -/

/-- Whether an operation puts one question to the backend and shows what came of it.  A failure shows
the same as nothing found. -/
def AsksOnce (wrapper : Wrapper (List BackendCall × sigma)) (call : BackendCall)
    (answer : Except BackendFailure (List alpha) × sigma) (schema : SchemaSource)
    (shown : List alpha → List alpha)
    (outcome : Except ShiftError (List alpha × Wrapper (List BackendCall × sigma))) : Prop :=
  let behind : Wrapper (List BackendCall × sigma) :=
    { wrapper with inner := (wrapper.inner.1 ++ [call], answer.2), schema := schema }
  match answer.1 with
  | .ok found => outcome = .ok (shown found, behind)
  | .error _ => outcome = .ok (shown [], behind)

theorem asksOnce_of_foundOnly
    {wrapper : Wrapper (List BackendCall × sigma)} {call : BackendCall}
    {answer : Except BackendFailure (List alpha) × sigma} {schema : SchemaSource}
    {shown : List alpha → List alpha}
    {outcome : Except ShiftError (List alpha × Wrapper (List BackendCall × sigma))}
    (shows : outcome = .ok (shown (foundOnly answer.1),
      { wrapper with inner := (wrapper.inner.1 ++ [call], answer.2), schema := schema })) :
    AsksOnce wrapper call answer schema shown outcome := by
  obtain ⟨result, state⟩ := answer
  cases result with
  | ok found => exact shows
  | error failure => exact shows

namespace Wrapper

/-- What is known where locations are sorted into categories. -/
def searchContext (wrapper : Wrapper sigma) (surroundings : Surroundings) : SearchContext where
  schema := ((wrapper.schema.get surroundings).1).getD .empty
  schemaUri := wrapper.schema.documentUri?
  schemaDirectory := wrapper.schema.directory
  sourceDirectory := wrapper.sourceDirectory

theorem asksOnce_returnLocations
    {document : Document}
    (coherent : document.IsCoherent)
    (wrapper : Wrapper (List BackendCall × sigma)) (surroundings : Surroundings)
    (kind : SearchKind) (call : BackendCall)
    (answer : Except BackendFailure (List Location) × sigma) :
    AsksOnce wrapper call answer (wrapper.schema.get surroundings).2
      (fun found => listPlaces (wrapper.searchContext surroundings)
        (returnedLocations surroundings document found) (wrapper.settings.categories kind))
      (.ok ({ wrapper with inner := (wrapper.inner.1 ++ [call], answer.2) }.returnLocations
        surroundings kind document (foundOnly answer.1))) := by
  refine asksOnce_of_foundOnly (congrArg Except.ok ?_)
  unfold returnLocations
  dsimp only
  rw [filterMap_returnLocation? coherent]
  rfl

/-- A position and what is found for it cross the boundary once, each in its direction.

The backend is asked once, about the position as many rows further down as it reads in front of the
document.  What it finds comes back in its order, and as many rows further up; what lies on a header
line is left out, and what is sent to the backend again is where it was found.  Diagnostics of a
document of the host language do not change. -/
theorem crosses_once
    (backend : Backend sigma) (wrapper : Wrapper (List BackendCall × sigma))
    (surroundings : Surroundings)
    {document : Document}
    (coherent : document.IsCoherent)
    {position : Position}
    (notLast : position.line < largestLine)
    (withDeclaration : Bool) :
    let asked := position.lower document.headerRows
    let state := wrapper.inner.2
    let context := wrapper.searchContext surroundings
    AsksOnce wrapper (.definitions document asked) (backend.definitions state document asked)
        (wrapper.schema.get surroundings).2
        (fun found => listPlaces context (returnedLocations surroundings document found)
          (wrapper.settings.categories .definitions))
        (definitions backend.recorded wrapper surroundings document position) ∧
      AsksOnce wrapper (.references document asked withDeclaration)
        (backend.references state document asked withDeclaration)
        (wrapper.schema.get surroundings).2
        (fun found => listPlaces context (returnedLocations surroundings document found)
          (wrapper.settings.categories .references))
        (references backend.recorded wrapper surroundings document position withDeclaration) ∧
      AsksOnce wrapper (.highlights document asked) (backend.highlights state document asked)
        wrapper.schema (returnedHighlights document)
        (highlights backend.recorded wrapper document position) ∧
      (∀ location : Location, location.range.IsNameable →
        let rows := headerRowsOf surroundings document location.uri
        let shift := if location.uri = document.uri then document.shift
          else LineShift.ofFile surroundings location.uri
        location.range.touchesFirst rows = false →
          shift.apply (location.range.raise rows).start = .ok location.range.start ∧
            shift.apply (location.range.raise rows).stop = .ok location.range.stop) ∧
      (document.isScript = false →
        lint backend.recorded wrapper document =
          ((backend.lint state document).1,
            { wrapper with
              inner := (wrapper.inner.1 ++ [.lint document],
                (backend.lint state document).2) })) := by
  intro asked state context
  have moved : document.shift.apply position = .ok asked := by
    rw [LineShift.apply_of_lt notLast, document.delta_shift coherent]
  refine ⟨?_, ?_, ?_, ?_, ?_⟩
  · have answered := asksOnce_returnLocations coherent wrapper surroundings .definitions
      (.definitions document asked) (backend.definitions state document asked)
    unfold definitions
    rw [moved]
    exact answered
  · have answered := asksOnce_returnLocations coherent wrapper surroundings .references
      (.references document asked withDeclaration)
      (backend.references state document asked withDeclaration)
    unfold references
    rw [moved]
    exact answered
  · refine asksOnce_of_foundOnly ?_
    unfold highlights
    rw [moved, ← filterMap_returnHighlight? coherent]
    rfl
  · intro location nameable rows shift below
    have sameRows : shift.delta = rows := delta_returnShift coherent surroundings location.uri
    rw [← sameRows] at below ⊢
    exact LineShift.apply_raise nameable below
  · intro host
    have noView : document.view? = none := by
      rw [Document.view?_of_isCoherent coherent, host]
      rfl
    unfold lint
    rw [noView]
    rfl

/-- The URI of a path that needs no escapes. -/
def uriOfPath (path : String) : Uri :=
  ⟨"file".toList, some .nobody, path.toList, none, none⟩

/-- The start of a row of a file. -/
def rowStart (path : String) (row : Nat) : Location :=
  ⟨uriOfPath path, ⟨⟨row, 0⟩, ⟨row, 0⟩⟩⟩

/-- Places in a script, on the header line in front of it, in another script and in a document of the
host language. -/
def fourPlaces : List Location :=
  [rowStart "/work/a.bess" 1, rowStart "/work/a.bess" 0, rowStart "/work/b.bess" 3,
    rowStart "/work/c.py" 0]

/-- A backend that finds the four places wherever it is asked for definitions, and fails at all
else. -/
def fourPlacesBackend : Backend Unit where
  settings _ := .null
  sourceRoots _ _ := []
  start state _ := (.ok (), state)
  lint state _ := (.error ⟨[]⟩, state)
  definitions state _ _ := (.ok fourPlaces, state)
  references state _ _ _ := (.error ⟨[]⟩, state)
  highlights state _ _ := (.error ⟨[]⟩, state)

/-- The second row of the backend is the first one of a script without a header line. -/
theorem crosses_once_fourPlaces :
    let document := Document.ofText (uriOfPath "/work/a.bess") "a -> b\n".toList none
    let position : Position := ⟨0, 5⟩
    let wrapper : Wrapper (List BackendCall × Unit) :=
      { inner := ([], ()), schema := .ofSchema [] .empty }
    let surroundings : Surroundings := ⟨.empty, ⟨[Path.slash], none⟩, none⟩
    let asked : BackendCall := .definitions document ⟨1, 5⟩
    document.IsCoherent ∧ position.line < largestLine ∧
      definitions fourPlacesBackend.recorded wrapper surroundings document position =
        .ok ([rowStart "/work/a.bess" 0, rowStart "/work/b.bess" 2, rowStart "/work/c.py" 0],
          { wrapper with inner := ([asked], ()) }) := by
  intro document position wrapper surroundings asked
  have coherent : document.IsCoherent := Document.isCoherent_ofText _ _ _
  have notLast : position.line < largestLine := by decide
  have shown : listPlaces (wrapper.searchContext surroundings)
      (returnedLocations surroundings document fourPlaces) [.project, .nativeDefinition] =
        [rowStart "/work/a.bess" 0, rowStart "/work/b.bess" 2, rowStart "/work/c.py" 0] := by
    decide +kernel
  have answered := (crosses_once fourPlacesBackend wrapper surroundings coherent notLast false).1
  exact ⟨coherent, notLast, answered.trans (congrArg Except.ok (Prod.ext shown rfl))⟩

end Wrapper

end Pipescript
