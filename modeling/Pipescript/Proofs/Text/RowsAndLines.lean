import Pipescript.Proofs.Text.LineIndex

/-!
# Rows and lines

Rewriters cut a text into its lines; edits find a row in a table of row starts.  Both number the
characters of a text alike.  The only difference is an empty row that the table has behind a final
line feed, and in an empty text, where there is no line.
-/

namespace Pipescript

namespace Text

/-- The first rows together are what stands above the next one. -/
theorem flatten_map_lineAt (text : Text) (count : Nat) :
    ((List.range count).map text.lineAt).flatten = text.above count := by
  induction count with
  | zero => rfl
  | succ count inductionHypothesis =>
      rw [List.range_succ, List.map_append, List.flatten_append, inductionHypothesis,
        ← above_append_lineAt]
      simp

end Text

open Text

namespace LineIndex

variable {text : Text} {row : Nat}

theorem row?_of_rowCount_le
    (behindAll : (ofText text).rowCount ≤ row) :
    (ofText text).row? row = none := by
  rw [rowCount_ofText] at behindAll
  unfold row?
  rw [starts_ofText, if_neg (by omega)]
  rfl

theorem rowCount_eq_length_toLines (text : Text) :
    (ofText text).rowCount =
      if text.HasEmptyLastRow then text.toLines.length + 1 else text.toLines.length := by
  rw [rowCount_ofText, length_toLines]
  split <;> rfl

/-- A row that has a line is this line. -/
theorem row?_eq_getElem_toLines
    (inside : row < text.toLines.length) :
    (ofText text).row? row = some text.toLines[row] := by
  have counted : row < (ofText text).rowCount := by
    rw [rowCount_eq_length_toLines]
    split <;> omega
  rw [row?_ofText counted, lineAt, List.getD_eq_getElem _ _ inside]

theorem row?_length_toLines (text : Text) :
    (ofText text).row? text.toLines.length =
      if text.HasEmptyLastRow then some [] else none := by
  have rowCount := rowCount_eq_length_toLines text
  split
  · next emptyRow =>
      rw [if_pos emptyRow] at rowCount
      rw [row?_ofText (by omega), lineAt, List.getD_eq_default _ _ (Nat.le_refl _)]
  · next noRow =>
      rw [if_neg noRow] at rowCount
      exact row?_of_rowCount_le (Nat.le_of_eq rowCount)

/-- All rows are there, and put together they are the text. -/
theorem exists_rows (text : Text) :
    ∃ rows : List Text,
      (List.range (ofText text).rowCount).map (ofText text).row? = rows.map some ∧
        rows.flatten = text := by
  refine ⟨(List.range (ofText text).rowCount).map text.lineAt, ?_, ?_⟩
  · rw [List.map_map]
    refine List.map_congr_left fun row member => ?_
    exact row?_ofText (List.mem_range.1 member)
  · rw [flatten_map_lineAt]
    exact above_of_count_lt (by rw [rowCount_ofText]; omega)

/-- The rows of an index are the lines of its text, with an empty row behind them if the text is
empty or ends in a line feed, and put together either of them are the text. -/
theorem rows_agree_toLines (text : Text) :
    let index := ofText text
    let lines := text.toLines
    (∀ row : Fin lines.length, index.row? row = some lines[row]) ∧
      index.rowCount = (if text.HasEmptyLastRow then lines.length + 1 else lines.length) ∧
      index.row? lines.length = (if text.HasEmptyLastRow then some [] else none) ∧
      (∃ rows : List Text,
        (List.range index.rowCount).map index.row? = rows.map some ∧ rows.flatten = text) ∧
      lines.flatten = text :=
  ⟨fun row => row?_eq_getElem_toLines row.isLt, rowCount_eq_length_toLines text,
    row?_length_toLines text, exists_rows text, flatten_toLines text⟩

end LineIndex

end Pipescript
