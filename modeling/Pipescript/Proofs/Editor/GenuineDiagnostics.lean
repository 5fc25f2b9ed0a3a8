import Mathlib.Data.List.Forall2
import Pipescript.Editor.Diagnostic
import Pipescript.Proofs.Backend.Crossing
import Pipescript.Proofs.Editor.HeaderShift

/-!
# Which diagnostics are shown

A diagnostic of the backend is left out for one of three reasons: it complains of the import in the
header line, it complains of the style of a row on which something was replaced, or an end of its
range lies on a header line that the script does not have.  All others are shown in their order, each
with its range moved to the rows of the script and nothing else changed.
-/

namespace Pipescript

theorem Text.includes_iff (part text : Text) : Text.includes part text ↔ part <:+: text := by
  induction text with
  | nil => rw [includes, List.isEmpty_iff, List.infix_nil]
  | cons c rest inductionHypothesis =>
      rw [includes, Bool.or_eq_true, List.isPrefixOf_iff_prefix, inductionHypothesis,
        List.infix_cons_iff]

/-- Whether a message is a code and then a text that does not go on with the word. -/
def IsAfterCode (message code rest : Text) : Prop :=
  message = code ++ rest ∧ ∀ c, rest.head? = some c → isWordChar c = false

theorem beginsWithCode_iff (message code : Text) :
    beginsWithCode message code ↔ ∃ rest, IsAfterCode message code rest := by
  have ends (rest : Text) : (!rest.head?.any isWordChar) = true ↔
      ∀ c, rest.head? = some c → isWordChar c = false := by
    cases rest <;> simp
  unfold beginsWithCode IsAfterCode
  rw [Bool.and_eq_true, List.isPrefixOf_iff_prefix, ends]
  constructor
  · rintro ⟨⟨rest, rfl⟩, noWord⟩
    rw [List.drop_left] at noWord
    exact ⟨rest, rfl, noWord⟩
  · rintro ⟨rest, rfl, noWord⟩
    rw [List.drop_left]
    exact ⟨List.prefix_append _ _, noWord⟩

namespace Diagnostic

/-- The reasons for which a diagnostic of the text that the backend reads for a script is left
out. -/
inductive IsLeftOut (script : Text) (diagnostic : Diagnostic) : Prop
  | aboutImport
      {part : Text} :
      diagnostic.source = some "pyflakes".toList →
      part = "import *' used; unable to detect undefined names".toList ∨
        part = "may be undefined, or defined from star imports".toList →
      part <:+: diagnostic.message →
      IsLeftOut script diagnostic
  | aboutNotation
      {code rest : Text} :
      diagnostic.source = some "pycodestyle".toList →
      diagnostic.range.start.line ∈ (ScriptView.ofScript script).changedRows →
      code ∈ ["E203".toList, "E225".toList, "E231".toList, "E702".toList] →
      IsAfterCode diagnostic.message code rest →
      IsLeftOut script diagnostic
  | onHeaderLine :
      ¬ headerLine <+: script →
      diagnostic.range.start.line = 0 ∨ diagnostic.range.stop.line = 0 →
      IsLeftOut script diagnostic

theorem isAboutHeader_iff (diagnostic : Diagnostic) :
    diagnostic.isAboutHeader ↔
      diagnostic.source = some "pyflakes".toList ∧
        ∃ part, (part = "import *' used; unable to detect undefined names".toList ∨
          part = "may be undefined, or defined from star imports".toList) ∧
          part <:+: diagnostic.message := by
  unfold isAboutHeader importMessages nameLinter
  simp only [Bool.and_eq_true, beq_iff_eq, List.any_eq_true, Text.includes_iff, List.map_cons,
    List.map_nil, List.mem_cons, List.not_mem_nil, or_false]

theorem isAboutNotation_iff (diagnostic : Diagnostic) :
    diagnostic.isAboutNotation ↔
      diagnostic.source = some "pycodestyle".toList ∧
        ∃ code ∈ ["E203".toList, "E225".toList, "E231".toList, "E702".toList],
          ∃ rest, IsAfterCode diagnostic.message code rest := by
  unfold isAboutNotation styleCodes styleLinter
  simp only [Bool.and_eq_true, beq_iff_eq, List.any_eq_true, beginsWithCode_iff, List.map_cons,
    List.map_nil]

end Diagnostic

namespace ScriptView

/-- The header line is put before a script that does not start with it. -/
theorem delta_shift_ofScript (script : Text) :
    (ofScript script).shift.delta = if headerLine <+: script then 0 else 1 := by
  unfold ofScript withHeader startsWithHeader
  by_cases headed : headerLine <+: script
  · rw [if_pos headed, if_pos (List.isPrefixOf_iff_prefix.2 headed)]
    rfl
  · rw [if_neg headed, if_neg fun found => headed (List.isPrefixOf_iff_prefix.1 found)]
    rfl

theorem touchesFirst_iff (script : Text) (range : Range) :
    range.touchesFirst (ofScript script).shift.delta ↔
      ¬ headerLine <+: script ∧ (range.start.line = 0 ∨ range.stop.line = 0) := by
  unfold Range.touchesFirst
  rw [delta_shift_ofScript, Bool.or_eq_true, decide_eq_true_eq, decide_eq_true_eq]
  by_cases headed : headerLine <+: script
  · simp [headed]
  · simp [headed]

end ScriptView

namespace Diagnostic

/-- A diagnostic is left out because it is not genuine or because of its range. -/
theorem isLeftOut_iff (script : Text) (diagnostic : Diagnostic) :
    diagnostic.IsLeftOut script ↔
      diagnostic.isGenuine (ScriptView.ofScript script) = false ∨
        diagnostic.range.touchesFirst (ScriptView.ofScript script).shift.delta := by
  have changed : (ScriptView.ofScript script).changedRows.contains diagnostic.range.start.line ↔
      diagnostic.range.start.line ∈ (ScriptView.ofScript script).changedRows :=
    List.contains_iff_mem
  rw [ScriptView.touchesFirst_iff]
  unfold isGenuine
  rw [Bool.and_eq_false_iff, Bool.not_eq_false', Bool.not_eq_false', Bool.and_eq_true, changed,
    isAboutHeader_iff, isAboutNotation_iff]
  constructor
  · rintro (⟨linter, part, inside⟩ | ⟨linter, row, code, begins⟩ | ⟨noHeader, first⟩)
    · exact .inl (.inl ⟨linter, _, part, inside⟩)
    · exact .inl (.inr ⟨row, linter, _, code, _, begins⟩)
    · exact .inr ⟨noHeader, first⟩
  · rintro ((⟨linter, _, part, inside⟩ | ⟨row, linter, _, code, _, begins⟩) | ⟨noHeader, first⟩)
    · exact .aboutImport linter part inside
    · exact .aboutNotation linter row code begins
    · exact .onHeaderLine noHeader first

instance (script : Text) : DecidablePred (IsLeftOut script) := fun diagnostic =>
  decidable_of_iff _ (isLeftOut_iff script diagnostic).symm

end Diagnostic

/-- The diagnostics that are shown are those that are not left out. -/
theorem genuineDiagnostics_eq_map (script : Text) (diagnostics : List Diagnostic) :
    let view := ScriptView.ofScript script
    genuineDiagnostics view diagnostics =
      (diagnostics.filter (¬ ·.IsLeftOut script)).map fun diagnostic =>
        { diagnostic with range := diagnostic.range.raise view.shift.delta } := by
  intro view
  have moved (diagnostic : Diagnostic) :
      ((view.shift.undoRange? diagnostic.range).map fun range =>
          { diagnostic with range := range }) =
        if diagnostic.range.touchesFirst view.shift.delta then none
        else some { diagnostic with range := diagnostic.range.raise view.shift.delta } := by
    rw [LineShift.undoRange?_eq]
    split <;> rfl
  have stays (diagnostic : Diagnostic) :
      (!diagnostic.range.touchesFirst view.shift.delta && diagnostic.isGenuine view) =
        decide (¬ diagnostic.IsLeftOut script) := by
    rw [Bool.eq_iff_iff, decide_eq_true_eq, Diagnostic.isLeftOut_iff]
    simp [view, and_comm]
  unfold genuineDiagnostics
  simp only [moved]
  rw [filterMap_eq_map_filter, List.filter_filter]
  simp only [stays]

/-- Of the diagnostics of the backend those are shown that are not left out, in their order.  Nothing
but the range of one changes, and sent to the backend again the range is the one that was found. -/
theorem genuineDiagnostics_ofScript
    {diagnostics : List Diagnostic}
    (nameable : ∀ diagnostic ∈ diagnostics, diagnostic.range.IsNameable)
    (script : Text) :
    let view := ScriptView.ofScript script
    List.Forall₂
      (fun found shown : Diagnostic =>
        shown = { found with range := shown.range } ∧
          view.shift.apply shown.range.start = .ok found.range.start ∧
          view.shift.apply shown.range.stop = .ok found.range.stop)
      (diagnostics.filter (¬ ·.IsLeftOut script)) (genuineDiagnostics view diagnostics) := by
  intro view
  rw [genuineDiagnostics_eq_map, List.forall₂_map_right_iff, List.forall₂_same]
  intro diagnostic member
  obtain ⟨found, stays⟩ := List.mem_filter.1 member
  have below : diagnostic.range.touchesFirst view.shift.delta = false := by
    rw [decide_eq_true_eq, Diagnostic.isLeftOut_iff, not_or] at stays
    exact Bool.eq_false_iff.2 stays.2
  exact ⟨rfl, LineShift.apply_raise (nameable diagnostic found) below⟩

/-- An assignment, an arrow and a row of the host language. -/
def threeRows : Text :=
  "q::Queue()\nsrc -> q\nx = 1\n".toList

/-- A complaint about the start of a row. -/
def complaint (row : Nat) (source message : String) : Diagnostic :=
  ⟨⟨⟨row, 0⟩, ⟨row, 2⟩⟩, some source.toList, message.toList, none⟩

/-- The last two of these are about the script itself. -/
def fiveComplaints : List Diagnostic :=
  [complaint 0 "pycodestyle" "E501 line too long",
    complaint 1 "pycodestyle" "E225 missing whitespace around operator",
    complaint 2 "pyflakes" "'q' may be undefined, or defined from star imports: globals",
    complaint 2 "pycodestyle" "E7021 multiple statements",
    complaint 3 "pycodestyle" "E225 missing whitespace around operator"]

theorem genuineDiagnostics_ofScript_fiveComplaints :
    (∀ diagnostic ∈ fiveComplaints, diagnostic.range.IsNameable) ∧
      List.Forall₂
        (fun found shown : Diagnostic =>
          shown = { found with range := shown.range } ∧
            (LineShift.mk true).apply shown.range.start = .ok found.range.start ∧
            (LineShift.mk true).apply shown.range.stop = .ok found.range.stop)
        (fiveComplaints.drop 3)
        (genuineDiagnostics (ScriptView.ofScript threeRows) fiveComplaints) := by
  have nameable : ∀ diagnostic ∈ fiveComplaints, diagnostic.range.IsNameable := by
    unfold Range.IsNameable
    decide
  have plainRows : (PlainScript.ofScript threeRows).changedRows.rows = [0, 1] := by cbv
  have rows : (ScriptView.ofScript threeRows).changedRows.rows = [1, 2] := by
    have lowered := (PlainScript.ofScript_headerRow_append threeRows).2.2
    rwa [plainRows] at lowered
  have stays (diagnostic : Diagnostic) :
      decide (¬ diagnostic.IsLeftOut threeRows) =
        (!diagnostic.range.touchesFirst 1 && !diagnostic.isAboutHeader &&
          !([1, 2].contains diagnostic.range.start.line && diagnostic.isAboutNotation)) := by
    rw [← rows, Bool.eq_iff_iff, decide_eq_true_eq, Diagnostic.isLeftOut_iff, not_or,
      Bool.not_eq_false, Bool.and_assoc, Bool.and_eq_true, and_comm, Bool.not_eq_true']
    exact and_congr (Bool.not_eq_true _).to_iff Iff.rfl
  have kept : fiveComplaints.filter (¬ ·.IsLeftOut threeRows) = fiveComplaints.drop 3 := by
    simp only [stays]
    decide +kernel
  have shown := genuineDiagnostics_ofScript nameable threeRows
  rw [kept] at shown
  exact ⟨nameable, shown⟩

end Pipescript
