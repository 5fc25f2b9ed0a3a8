import Mathlib
import Pipescript.Proofs.Script.Layout

/-!
# Changed rows

A plain script keeps the set of rows on which an assignment or an arrow was replaced.  The colons of
gates may stand on other rows than their arrows, behind a joint or in brackets, and such a row
changes without being in the set.  Apart from those rows the set is exact.
-/

namespace Pipescript

/-! ## Where arrows are replaced -/

/-- Between stretches nothing changes but the arrows and the colons of gates. -/
theorem colon_or_arrow_of_changed
    {stretches edited : List Text}
    (pairs : List.Forall₂ OnlySealsColons stretches edited)
    {place : Arrow} {index : Nat} {c d : Char}
    (here : (arrowText.intercalate stretches)[index]? = some c)
    (changed : (separatorText.intercalate edited)[index]? = some d)
    (different : c ≠ d) :
    (c = ':' ∧ d = ',') ∨
      ∃ arrow ∈ place.between stretches,
        arrow.row = (place.behind ((arrowText.intercalate stretches).take index)).row := by
  induction pairs generalizing place index with
  | nil => simp at here
  | @cons first editedFirst later editedLater head tail inductionHypothesis =>
      have sameLength : editedFirst.length = first.length := head.length_eq.symm
      have inFirst : first[index]? = some c → editedFirst[index]? = some d →
          c = ':' ∧ d = ',' := by
        intro firstHere editedHere
        have kept := Text.rel_getElem?_of_forall₂ head index
        rw [firstHere, editedHere] at kept
        cases kept with
        | some kept => exact kept.resolve_left fun same => different same.symm
      cases tail with
      | nil => exact .inl (inFirst (by simpa using here) (by simpa using changed))
      | @cons second editedSecond others editedOthers next rest =>
          rw [List.intercalate_cons_cons, List.append_assoc] at here changed ⊢
          by_cases inside : index < first.length
          · rw [List.getElem?_append_left inside] at here
            rw [List.getElem?_append_left (sameLength ▸ inside)] at changed
            exact .inl (inFirst here changed)
          rw [List.getElem?_append_right (by omega)] at here changed
          rw [List.take_append, List.take_of_length_le (by omega)]
          obtain ⟨offset, rfl⟩ : ∃ offset, index = first.length + offset :=
            ⟨index - first.length, by omega⟩
          rw [Nat.add_sub_cancel_left] at here ⊢
          rw [sameLength, Nat.add_sub_cancel_left] at changed
          have atArrow : ∀ taken : Text, '\n' ∉ taken →
              ∃ arrow ∈ place.between (first :: second :: others),
                arrow.row = (place.behind (first ++ taken)).row := by
            intro taken noFeed
            refine ⟨place.behind first, List.mem_cons_self, ?_⟩
            rw [Arrow.behind_append, Arrow.behind_of_noFeed noFeed]
          match offset, here, changed with
          | 0, _, _ => exact .inr (atArrow _ (by simp))
          | 1, _, _ => exact .inr (atArrow _ (by simp [arrowText]))
          | offset + 2, here, changed =>
              have shorter : (arrowText ++ arrowText.intercalate (second :: others)).take
                  (offset + 2) =
                  arrowText ++ (arrowText.intercalate (second :: others)).take offset := rfl
              rw [shorter, Arrow.behind_append, Arrow.behind_append]
              rcases @inductionHypothesis ((place.behind first).behind arrowText) offset here changed
                with comma | ⟨arrow, member, sameRow⟩
              · exact .inl comma
              · exact .inr ⟨arrow, List.mem_cons_of_mem _ member, sameRow⟩

/-- Where the last pass changes a character, a colon becomes a comma or an arrow is on the row. -/
theorem colon_or_arrow_of_withoutArrows
    {script : Text} {row column : Nat} {c d : Char}
    (here : script.charAt? row column = some c)
    (changed : (withoutArrows script).1.charAt? row column = some d)
    (different : c ≠ d) :
    (c = ':' ∧ d = ',') ∨ row ∈ (withoutArrows script).2.map Arrow.row := by
  obtain ⟨index, atIndex, place⟩ := Text.exists_index_of_charAt? here
  have pairs := forall₂_withoutArrows script
  have changedAt : (withoutArrows script).1[index]? = some d := by
    have kept := Text.rel_getElem?_of_forall₂ pairs index
    rw [atIndex] at kept
    cases found : (withoutArrows script).1[index]? with
    | none => rw [found] at kept; cases kept
    | some e =>
        have samePlace := Arrow.behind_of_forall₂ arrowChange_keepsFeeds
          (List.forall₂_take index pairs) Arrow.start
        have standing := Text.charAt?_of_index found
        rw [samePlace, place, changed] at standing
        exact standing.symm
  obtain ⟨joined, places⟩ := segments_withoutArrows script
  rw [text_withoutArrows, joinSegments] at changedAt
  rw [← joined] at atIndex
  rcases @colon_or_arrow_of_changed _ _ (forall₂_sealGates _) Arrow.start index c d atIndex changedAt
    different with comma | ⟨arrow, member, sameRow⟩
  · exact .inl comma
  · rw [places] at member
    rw [joined, place] at sameRow
    exact .inr (List.mem_map.2 ⟨arrow, member, sameRow⟩)

/-! ## Rows that differ -/

namespace PlainScript

variable {script : Text} {row : Nat}

theorem mem_changedRows :
    row ∈ (ofScript script).changedRows ↔
      row ∈ (ofScript script).arrows.map Arrow.row ∨
        row ∈ (withoutAssignments (withoutMacros script)).2 := by
  rw [changedRows_ofScript, RowSet.mem_insertAll]

/-- On every changed row the plain text differs from the script without its macros. -/
theorem row_ne_of_mem_changedRows
    (member : row ∈ (ofScript script).changedRows) :
    (ofScript script).text.toLines[row]? ≠ (withoutMacros script).toLines[row]? := by
  intro same
  rcases mem_changedRows.1 member with arrowRow | assignmentRow
  · rw [arrows_ofScript] at arrowRow
    obtain ⟨arrow, arrowMember, rfl⟩ := List.mem_map.1 arrowRow
    obtain ⟨⟨minus, -⟩, semicolon, -⟩ := standsIn_withoutArrows arrowMember
    have before : (withoutMacros script).charAt? arrow.row arrow.column = some ';' := by
      rw [← Text.charAt?_eq_of_row_eq same]
      exact semicolon
    have kept := Text.related_of_charAt? assignmentChange_keepsFeeds
      (forall₂_withoutAssignments (withoutMacros script)) before minus
    simp [AssignmentChange] at kept
  · obtain ⟨line, here, holds⟩ := mem_rows_withoutAssignments.1 assignmentRow
    obtain ⟨column, colon, equals⟩ := exists_changed_of_includes holds
    have before : (withoutMacros script).charAt? row column = some ':' :=
      Text.charAt?_eq_some_iff.2 ⟨line, here, colon⟩
    have between :
        (withoutAssignments (withoutMacros script)).1.charAt? row column = some '=' := by
      refine Text.charAt?_eq_some_iff.2 ⟨withoutDoubleColons line, ?_, equals⟩
      rw [toLines_withoutAssignments, List.getElem?_map, here]
      rfl
    have behind : (ofScript script).text.charAt? row column = some ':' := by
      rw [Text.charAt?_eq_of_row_eq same, before]
    have kept := Text.related_of_charAt? arrowChange_keepsFeeds
      (forall₂_withoutArrows (withoutAssignments (withoutMacros script)).1) between behind
    simp [ArrowChange] at kept

/-- A row that differs is a changed row, or a colon on it became a comma. -/
theorem mem_changedRows_or_comma_of_row_ne
    (different :
      (ofScript script).text.toLines[row]? ≠ (withoutMacros script).toLines[row]?) :
    row ∈ (ofScript script).changedRows ∨
      ∃ column, (withoutMacros script).charAt? row column = some ':' ∧
        (ofScript script).text.charAt? row column = some ',' := by
  rw [mem_changedRows]
  by_cases assignmentRow : row ∈ (withoutAssignments (withoutMacros script)).2
  · exact .inl (.inr assignmentRow)
  have sameRow : (withoutAssignments (withoutMacros script)).1.toLines[row]? =
      (withoutMacros script).toLines[row]? := by
    rw [toLines_withoutAssignments, List.getElem?_map]
    cases here : (withoutMacros script).toLines[row]? with
    | none => rfl
    | some line =>
        have none : Text.includes [':', ':'] line = false := by
          refine Bool.eq_false_iff.2 fun holds => assignmentRow ?_
          exact mem_rows_withoutAssignments.2 ⟨line, here, holds⟩
        rw [Option.map_some, withoutDoubleColons_of_not_includes none]
  rw [← sameRow] at different
  obtain ⟨column, c, d, before, after, unequal⟩ :=
    Text.exists_changed_of_ne arrowChange_keepsFeeds (forall₂_withoutArrows _) different
  rcases colon_or_arrow_of_withoutArrows before after unequal with ⟨rfl, rfl⟩ | arrowRow
  · exact .inr ⟨column, (Text.charAt?_eq_of_row_eq sameRow column).symm.trans before, after⟩
  · exact .inl (.inl arrowRow)

/-- The set of changed rows is exact just when each colon that becomes a comma stands on one of
them. -/
theorem changedRows_exact_iff (script : Text) :
    (∀ row, row ∈ (ofScript script).changedRows ↔
        (ofScript script).text.toLines[row]? ≠ (withoutMacros script).toLines[row]?) ↔
      ∀ row column, (withoutMacros script).charAt? row column = some ':' →
        (ofScript script).text.charAt? row column = some ',' →
          row ∈ (ofScript script).changedRows := by
  constructor
  · intro exactRows row column colon comma
    refine (exactRows row).2 fun same => ?_
    rw [Text.charAt?_eq_of_row_eq same, colon] at comma
    simp at comma
  · intro noOtherRow row
    refine ⟨row_ne_of_mem_changedRows, fun different => ?_⟩
    rcases mem_changedRows_or_comma_of_row_ne different with member | ⟨column, colon, comma⟩
    · exact member
    · exact noOtherRow row column colon comma

/-- A gate before a joint. -/
def jointGateScript : Text :=
  "a:0 \\\n  -> b\n".toList

theorem text_ofScript_jointGate :
    (ofScript jointGateScript).text = "a,0 \\\n  ;  b\n".toList := by
  cbv

theorem rows_ofScript_jointGate : (ofScript jointGateScript).changedRows.rows = [1] := by
  cbv

theorem withoutMacros_jointGate : withoutMacros jointGateScript = jointGateScript := by
  cbv

/-- The row of the colon changes, but only the row of the arrow is kept. -/
theorem changedRows_misses_jointGate :
    ¬ ∀ row, row ∈ (ofScript jointGateScript).changedRows ↔
      (ofScript jointGateScript).text.toLines[row]? ≠
        (withoutMacros jointGateScript).toLines[row]? := by
  intro exactRows
  rw [text_ofScript_jointGate, withoutMacros_jointGate] at exactRows
  have member : 0 ∈ (ofScript jointGateScript).changedRows.rows := (exactRows 0).2 (by decide)
  rw [rows_ofScript_jointGate] at member
  exact absurd member (by decide)

end PlainScript

end Pipescript
