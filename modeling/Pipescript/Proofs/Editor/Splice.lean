import Pipescript.Proofs.Editor.DocumentRun
import Pipescript.Proofs.Text.LineIndex

/-!
# Edits are splices of characters

An editor names the ends of an edited range by row and column, and the text is cut at byte offsets.
Each end is the size of what stands before some character, so the cuts are between characters and
inside the text, and an edit puts its text between the characters before the one end and those from
the other end on.
-/

namespace Pipescript

open Text

/-- The number of characters before a position: those of the lines above, and on its row as many as
its column says, but not more than the content of the row has.  A position behind the last row
stands for the end. -/
def Position.indexIn (position : Position) (text : Text) : Nat :=
  let index := LineIndex.ofText text
  if position.line < index.rowCount then
    (text.above position.line).length +
      min position.character ((index.content? position.line).getD []).length
  else
    text.length

section Positions

variable {position : Position} {text : Text}

/-- What stands before a position on a row: the lines above it, and the front of its content. -/
theorem take_indexIn_of_counted
    {content : Text}
    (counted : position.line < (LineIndex.ofText text).rowCount)
    (isContent : (LineIndex.ofText text).content? position.line = some content)
    (inLine : content <+: text.lineAt position.line) :
    text.take (position.indexIn text) =
      text.above position.line ++ content.take position.character := by
  have isFront : text.above position.line ++ content.take position.character <+: text := by
    refine List.IsPrefix.trans ?_ (above_isPrefix text (position.line + 1))
    rw [← above_append_lineAt]
    exact (List.prefix_append_right_inj _).2 ((List.take_prefix _ _).trans inLine)
  have count : position.indexIn text =
      (text.above position.line ++ content.take position.character).length := by
    unfold Position.indexIn
    rw [if_pos counted, isContent, Option.getD_some, List.length_append, List.length_take]
  rw [count]
  exact (List.prefix_iff_eq_take.1 isFront).symm

/-- The offset of a position is the size of what stands before it. -/
theorem offsetIn_ofText (position : Position) (text : Text) :
    position.offsetIn (.ofText text) = utf8Size (text.take (position.indexIn text)) := by
  unfold Position.offsetIn
  by_cases counted : position.line < (LineIndex.ofText text).rowCount
  · obtain ⟨content, isContent, inLine⟩ := LineIndex.exists_content?_ofText counted
    rw [LineIndex.offsetAt?_ofText counted isContent, Option.getD_some,
      take_indexIn_of_counted counted isContent inLine]
  · rw [LineIndex.offsetAt?_of_rowCount_le (Nat.le_of_not_lt counted), Option.getD_none,
      Position.indexIn, if_neg counted, List.take_length]
    rfl

end Positions

namespace Range

variable (range : Range) (text : Text)

/-- Both cuts of a range are between characters of the text. -/
theorem cuts_ofText :
    let start := range.start.indexIn text
    let stop := range.stop.indexIn text
    let index := LineIndex.ofText text
    text.takeBytes? (range.start.offsetIn index) = some (text.take start) ∧
      text.dropBytes? (max (range.stop.offsetIn index) (range.start.offsetIn index)) =
        some (text.drop (max start stop)) := by
  intro start stop index
  have later : max (range.stop.offsetIn index) (range.start.offsetIn index) =
      utf8Size (text.take (max start stop)) := by
    rw [offsetIn_ofText, offsetIn_ofText, Nat.max_comm start stop]
    exact (monotone_utf8Size_take text).map_max.symm
  rw [later, offsetIn_ofText]
  exact ⟨takeBytes?_take text start, dropBytes?_take text (max start stop)⟩

theorem replaceIn_eq_splice (replacement : Text) :
    range.replaceIn text replacement =
      text.take (range.start.indexIn text) ++ replacement ++
        text.drop (max (range.start.indexIn text) (range.stop.indexIn text)) := by
  obtain ⟨front, behind⟩ := range.cuts_ofText text
  unfold replaceIn
  dsimp only
  rw [front, behind, Option.getD_some, Option.getD_some]

end Range

/-- An edit of a range keeps the characters before the start of the range and those from its end on,
and from its start on if it ends before that.  All cuts that are made for it are between characters
of the text: those that show the rows and those at the ends of the range.  An edit without a range
replaces the whole text. -/
theorem Document.edit_splices (document : Document) (change : Edit) (version : Option Int) :
    let text := document.text
    let index := LineIndex.ofText text
    (document.edit change version).text =
        (match change.range with
        | none => change.text
        | some range =>
            let start := range.start.indexIn text
            let stop := range.stop.indexIn text
            text.take start ++ change.text ++ text.drop (max start stop)) ∧
      (∀ row < index.rowCount, (index.row? row).isSome) ∧
      ∀ range : Range,
        (text.takeBytes? (range.start.offsetIn index)).isSome ∧
        (text.dropBytes?
          (max (range.stop.offsetIn index) (range.start.offsetIn index))).isSome := by
  intro text index
  refine ⟨?_, fun row counted => ?_, fun range => ?_⟩
  · rw [text_edit]
    unfold Edit.applyTo
    cases change.range with
    | none => rfl
    | some range => exact range.replaceIn_eq_splice text change.text
  · rw [LineIndex.row?_ofText counted]
    rfl
  · obtain ⟨front, behind⟩ := range.cuts_ofText text
    rw [front, behind]
    exact ⟨rfl, rfl⟩

/-- The columns of a row count characters, and none stands in its line end. -/
example :
    Range.replaceIn ⟨⟨0, 1⟩, ⟨1, 9⟩⟩ "äö\r\nüß\r\nc".toList ['x'] = "äx\r\nc".toList := by
  cbv

end Pipescript
