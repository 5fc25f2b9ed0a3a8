import Pipescript.Proofs.Editor.HeaderShift
import Pipescript.Proofs.Script.Idempotence

/-!
# Views of views

The view of a script is plain and starts with the header line.  So the view of that text is the same
text, with no row moved and nothing replaced.
-/

namespace Pipescript

theorem startsWithHeader_withHeader (script : Text) : startsWithHeader (withHeader script).1 := by
  unfold withHeader
  split
  · next headed => exact headed
  · exact List.isPrefixOf_iff_prefix.2 (List.prefix_append _ _)

/-- The header line holds no pipeline notation, so it stays in front. -/
theorem startsWithHeader_ofScript
    {script : Text}
    (headed : startsWithHeader script) :
    startsWithHeader (PlainScript.ofScript script).text := by
  have noDollar : '$' ∉ headerLine := by decide
  have noColon : ':' ∉ headerLine := by decide
  have noAssignment : ∀ c ∈ headerLine, ∀ d, AssignmentChange c d → d = c := by
    intro c member d change
    rcases change with same | ⟨rfl, -⟩
    · exact same
    · exact absurd member noColon
  have noArrow : ∀ c ∈ headerLine, ∀ d, ArrowChange c d → d = c := by
    intro c member d change
    have noMinus : '-' ∉ headerLine := by decide
    have noGreater : '>' ∉ headerLine := by decide
    rcases change with same | ⟨rfl, -⟩ | ⟨rfl, -⟩ | ⟨rfl, -⟩
    · exact same
    · exact absurd member noMinus
    · exact absurd member noGreater
    · exact absurd member noColon
  unfold startsWithHeader at headed ⊢
  rw [List.isPrefixOf_iff_prefix] at headed ⊢
  obtain ⟨rest, rfl⟩ := headed
  rw [PlainScript.text_ofScript]
  have behindMacros : headerLine <+: withoutMacros (headerLine ++ rest) := by
    rw [withoutMacros_append noDollar]
    exact List.prefix_append _ _
  have behindAssignments := Text.isPrefix_of_forall₂ noAssignment (forall₂_withoutAssignments _)
    behindMacros
  exact Text.isPrefix_of_forall₂ noArrow (forall₂_withoutArrows _) behindAssignments

/-- The view of a plain script behind the header line is the script. -/
theorem ScriptView.ofScript_of_isPlain
    {script : Text}
    (headed : startsWithHeader script)
    (plain : IsPlain script) :
    ofScript script = ⟨script, ⟨false⟩, .empty, []⟩ := by
  unfold ofScript
  rw [withHeader, if_pos headed]
  dsimp only
  rw [PlainScript.ofScript_of_isPlain plain]

/-- Making a script plain again changes nothing and finds nothing to replace.  The same holds of
views, and to the text of a view the header line is not added again. -/
theorem ScriptView.ofScript_idempotent (script : Text) :
    PlainScript.ofScript (PlainScript.ofScript script).text =
        ⟨(PlainScript.ofScript script).text, .empty, []⟩ ∧
      ofScript (ofScript script).text = ⟨(ofScript script).text, ⟨false⟩, .empty, []⟩ := by
  have plain := PlainScript.isPlain_text_ofScript script
  have viewPlain : IsPlain (ofScript script).text :=
    PlainScript.isPlain_text_ofScript (withHeader script).1
  have headed : startsWithHeader (ofScript script).text :=
    startsWithHeader_ofScript (startsWithHeader_withHeader script)
  exact ⟨PlainScript.ofScript_of_isPlain plain, ofScript_of_isPlain headed viewPlain⟩

end Pipescript
