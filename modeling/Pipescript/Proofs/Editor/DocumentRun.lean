import Pipescript.Editor.Document

/-!
# Runs of edits and readings

The view of a script is kept from one reading to the next, and an edit drops it.  So a kept view is
always the view of the text that the document has, and all readings are those of that text.  An edit
goes into the text itself: what a document becomes is decided by its edits alone, however they are
mixed with readings.
-/

namespace Pipescript

/-- What may happen to an open document: an edit, perhaps with a version, or a reading. -/
inductive DocumentStep where
  | edit (change : Edit) (version : Option Int)
  | readView
  | readSource (use : TextUse)
  | readShift
  deriving DecidableEq, Repr

/-- The edit of a step that is one. -/
def DocumentStep.edit? : DocumentStep → Option (Edit × Option Int)
  | edit change version => some (change, version)
  | readView | readSource _ | readShift => none

/-- The text that an edit makes of another one. -/
def Edit.applyTo (change : Edit) (text : Text) : Text :=
  match change.range with
  | none => change.text
  | some range => range.replaceIn text change.text

/-- A text behind edits. -/
def editedText (text : Text) (edits : List (Edit × Option Int)) : Text :=
  edits.foldl (fun text made => made.1.applyTo text) text

/-- A version behind edits: the last one that came with an edit, if there is any. -/
def latestVersion (version : Option Int) (edits : List (Edit × Option Int)) : Option Int :=
  ((edits.filterMap Prod.snd).getLast?).or version

namespace Document

/-- A document behind a step.  Whoever asks for a text or for the shift asks for the view on the way,
and so does an edit for the text that it changes. -/
def perform (document : Document) : DocumentStep → Document
  | .edit change version => document.keep.edit change version
  | .readView | .readSource _ | .readShift => document.keep

/-- A document behind several steps. -/
def run (document : Document) (steps : List DocumentStep) : Document :=
  steps.foldl perform document

/-- Whether a kept view is the view of the text. -/
def IsCoherent (document : Document) : Prop :=
  ∀ view, document.kept = some view → view = ScriptView.ofScript document.text

/-! ## Readings of coherent documents -/

section Readings

variable {document : Document}

theorem view?_of_isCoherent
    (coherent : document.IsCoherent) :
    document.view? =
      if document.isScript then some (ScriptView.ofScript document.text) else none := by
  unfold view?
  split
  · cases kept : document.kept with
    | none => rfl
    | some view => rw [coherent view kept]; rfl
  · rfl

theorem source_edit (document : Document) : document.source .edit = document.text := by
  unfold source
  cases document.view? <;> rfl

theorem source_analysis_of_isCoherent
    (coherent : document.IsCoherent) :
    document.source .analysis =
      if document.isScript then (ScriptView.ofScript document.text).text else document.text := by
  unfold source
  rw [view?_of_isCoherent coherent]
  cases document.isScript <;> rfl

theorem shift_of_isCoherent
    (coherent : document.IsCoherent) :
    document.shift =
      if document.isScript then (ScriptView.ofScript document.text).shift else .identity := by
  unfold shift
  rw [view?_of_isCoherent coherent]
  cases document.isScript <;> rfl

end Readings

/-! ## One step -/

section Steps

variable {document : Document}

theorem isCoherent_ofText (uri : Uri) (text : Text) (version : Option Int) :
    (ofText uri text version).IsCoherent := by
  intro view kept
  cases kept

theorem isCoherent_keep
    (coherent : document.IsCoherent) :
    document.keep.IsCoherent := by
  intro view kept
  have shown : document.view? = some view := kept
  rw [view?_of_isCoherent coherent] at shown
  split at shown
  · exact (Option.some.inj shown).symm
  · cases shown

theorem isCoherent_edit (change : Edit) (version : Option Int) :
    (document.edit change version).IsCoherent := by
  intro view kept
  cases kept

theorem isCoherent_perform
    (coherent : document.IsCoherent)
    (step : DocumentStep) :
    (document.perform step).IsCoherent := by
  cases step with
  | edit change version => exact isCoherent_edit change version
  | readView | readSource use | readShift => exact isCoherent_keep coherent

theorem text_edit (change : Edit) (version : Option Int) :
    (document.edit change version).text = change.applyTo document.text := by
  obtain ⟨range?, text⟩ := change
  cases range? with
  | none => rfl
  | some range => exact congrArg (range.replaceIn · text) document.source_edit

end Steps

/-! ## Runs -/

theorem isCoherent_run
    {document : Document}
    (coherent : document.IsCoherent)
    (steps : List DocumentStep) :
    (document.run steps).IsCoherent := by
  induction steps generalizing document with
  | nil => exact coherent
  | cons step steps inductionHypothesis =>
      exact inductionHypothesis (isCoherent_perform coherent step)

theorem uri_run (document : Document) (steps : List DocumentStep) :
    (document.run steps).uri = document.uri := by
  induction steps generalizing document with
  | nil => rfl
  | cons step steps inductionHypothesis =>
      have sameUri : (document.perform step).uri = document.uri := by cases step <;> rfl
      exact (inductionHypothesis (document.perform step)).trans sameUri

theorem text_run (document : Document) (steps : List DocumentStep) :
    (document.run steps).text = editedText document.text (steps.filterMap DocumentStep.edit?) := by
  induction steps generalizing document with
  | nil => rfl
  | cons step steps inductionHypothesis =>
      refine (inductionHypothesis (document.perform step)).trans ?_
      cases step with
      | edit change version => exact congrArg (editedText · _) (text_edit change version)
      | readView | readSource use | readShift => rfl

theorem latestVersion_cons (version : Option Int) (made : Edit × Option Int)
    (edits : List (Edit × Option Int)) :
    latestVersion version (made :: edits) = latestVersion (made.2.or version) edits := by
  obtain ⟨change, given⟩ := made
  unfold latestVersion
  cases given with
  | none => rfl
  | some number =>
      have listed : ((change, some number) :: edits).filterMap Prod.snd =
          number :: edits.filterMap Prod.snd := rfl
      rw [listed, List.getLast?_cons]
      cases (edits.filterMap Prod.snd).getLast? <;> rfl

theorem version_run (document : Document) (steps : List DocumentStep) :
    (document.run steps).version =
      latestVersion document.version (steps.filterMap DocumentStep.edit?) := by
  induction steps generalizing document with
  | nil => rfl
  | cons step steps inductionHypothesis =>
      refine (inductionHypothesis (document.perform step)).trans ?_
      cases step with
      | edit change version =>
          exact (latestVersion_cons document.version (change, version) _).symm
      | readView | readSource use | readShift => rfl

/-- Behind every run the text to edit is the document's own, a script is read as the view of that
text, and a document of the host language as it is.  The text and the version are what the edits
make of those that the document was opened with. -/
theorem run_readings (uri : Uri) (text : Text) (version : Option Int)
    (steps : List DocumentStep) :
    let document := (ofText uri text version).run steps
    let edits := steps.filterMap DocumentStep.edit?
    document.text = editedText text edits ∧
      document.version = latestVersion version edits ∧
      document.source .edit = document.text ∧
      if isScriptUri uri then
        document.view? = some (ScriptView.ofScript document.text) ∧
          document.source .analysis = (ScriptView.ofScript document.text).text ∧
          document.shift = (ScriptView.ofScript document.text).shift
      else
        document.view? = none ∧
          document.source .analysis = document.text ∧
          document.shift = .identity := by
  intro document edits
  have coherent : document.IsCoherent := isCoherent_run (isCoherent_ofText uri text version) steps
  have sameKind : document.isScript = isScriptUri uri := congrArg isScriptUri (uri_run _ steps)
  have view := view?_of_isCoherent coherent
  have source := source_analysis_of_isCoherent coherent
  have shift := shift_of_isCoherent coherent
  rw [sameKind] at view source shift
  refine ⟨text_run _ steps, version_run _ steps, source_edit document, ?_⟩
  cases script : isScriptUri uri with
  | true =>
      rw [script] at view source shift
      exact ⟨view, source, shift⟩
  | false =>
      rw [script] at view source shift
      exact ⟨view, source, shift⟩

end Document

end Pipescript
