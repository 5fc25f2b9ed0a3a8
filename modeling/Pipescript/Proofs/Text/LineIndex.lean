import Mathlib.Data.List.GetD
import Mathlib.Order.MinMax
import Pipescript.Proofs.Text.Lines
import Pipescript.Text.LineIndex

/-!
# Rows of a line index

A line index counts the line feeds of its text, where `toLines` cuts the text.  Both number the rows
alike: a row starts behind the lines above it, and it is the line of its number, or empty if it is
the one behind a final line feed.  So every cut that the index makes is between two characters.
-/

namespace Pipescript

namespace Text

/-! ## How many lines there are -/

/-- Whether an empty row comes behind the lines of a text. -/
def HasEmptyLastRow (text : Text) : Prop :=
  text = [] ∨ text.getLast? = some '\n'

instance (text : Text) : Decidable text.HasEmptyLastRow :=
  inferInstanceAs (Decidable (_ ∨ _))

theorem not_hasEmptyLastRow_of_noFeed
    {line : Text}
    (notEmpty : line ≠ [])
    (noFeed : '\n' ∉ line) :
    ¬ line.HasEmptyLastRow := by
  rintro (nothing | ends)
  · exact notEmpty nothing
  · exact noFeed (List.mem_of_getLast? ends)

theorem hasEmptyLastRow_append_feed (front rest : Text) :
    HasEmptyLastRow (front ++ '\n' :: rest) ↔ rest.HasEmptyLastRow := by
  cases rest with
  | nil => simp [HasEmptyLastRow]
  | cons c rest => simp [HasEmptyLastRow, List.getLast?_append]

theorem count_append_feed
    {front : Text}
    (noFeed : '\n' ∉ front)
    (rest : Text) :
    (front ++ '\n' :: rest).count '\n' = rest.count '\n' + 1 := by
  rw [List.count_append, List.count_eq_zero_of_not_mem noFeed, List.count_cons_self, Nat.zero_add]

theorem length_toLines (text : Text) :
    text.toLines.length =
      if text.HasEmptyLastRow then text.count '\n' else text.count '\n' + 1 := by
  induction text using lineInduction with
  | empty => rfl
  | last line notEmpty noFeed =>
      rw [toLines_of_noFeed notEmpty noFeed, List.count_eq_zero_of_not_mem noFeed,
        if_neg (not_hasEmptyLastRow_of_noFeed notEmpty noFeed)]
      rfl
  | line front rest noFeed inductionHypothesis =>
      rw [toLines_append_feed noFeed, List.length_cons, inductionHypothesis,
        count_append_feed noFeed]
      simp only [hasEmptyLastRow_append_feed]
      split <;> rfl

/-! ## What stands above a row -/

/-- The lines above a row. -/
def above (text : Text) (row : Nat) : Text :=
  (text.toLines.take row).flatten

/-- A line, or nothing where there is none. -/
def lineAt (text : Text) (row : Nat) : Text :=
  text.toLines.getD row []

theorem above_append_lineAt (text : Text) (row : Nat) :
    text.above row ++ text.lineAt row = text.above (row + 1) := by
  unfold above lineAt
  by_cases inside : row < text.toLines.length
  · rw [List.getD_eq_getElem _ _ inside, List.take_succ_eq_append_getElem inside,
      List.flatten_append, List.flatten_singleton]
  · have behindAll := Nat.le_of_not_lt inside
    rw [List.getD_eq_default _ _ behindAll, List.append_nil, List.take_of_length_le behindAll,
      List.take_of_length_le (Nat.le_succ_of_le behindAll)]

theorem above_isPrefix (text : Text) (row : Nat) : text.above row <+: text := by
  refine ⟨(text.toLines.drop row).flatten, ?_⟩
  rw [above, ← List.flatten_append, List.take_append_drop, flatten_toLines]

/-- Behind the last row there is nothing more. -/
theorem above_of_count_lt
    {text : Text} {row : Nat}
    (behindAll : text.count '\n' < row) :
    text.above row = text := by
  have allLines : text.toLines.length ≤ row := by
    rw [length_toLines]
    split <;> omega
  rw [above, List.take_of_length_le allLines, flatten_toLines]

/-! ## Cuts between characters -/

/-- A cut with more characters before it has more bytes before it. -/
theorem monotone_utf8Size_take (text : Text) :
    Monotone fun count => utf8Size (text.take count) := by
  intro earlier later ordered
  obtain ⟨more, parts⟩ := List.take_prefix_take_left (l := text) ordered
  show utf8Size (text.take earlier) ≤ utf8Size (text.take later)
  rw [← parts, utf8Size_append]
  exact Nat.le_add_right _ _

theorem takeBytes?_take (text : Text) (count : Nat) :
    text.takeBytes? (utf8Size (text.take count)) = some (text.take count) := by
  have parts := takeBytes?_append (text.take count) (text.drop count)
  rwa [List.take_append_drop] at parts

theorem dropBytes?_take (text : Text) (count : Nat) :
    text.dropBytes? (utf8Size (text.take count)) = some (text.drop count) := by
  have parts := dropBytes?_append (text.take count) (text.drop count)
  rwa [List.take_append_drop] at parts

/-- What stands between the ends of two texts of which one is in front of the other. -/
theorem slice?_append (front middle rest : Text) :
    slice? (utf8Size front) (utf8Size (front ++ middle)) (front ++ middle ++ rest) =
      some middle := by
  rw [slice?, List.append_assoc, dropBytes?_append, Option.bind_some, utf8Size_append,
    Nat.add_sub_cancel_left, takeBytes?_append]

end Text

open Text

namespace LineIndex

/-! ## Where rows start -/

theorem startsAfter_of_noFeed
    {text : Text}
    (noFeed : '\n' ∉ text)
    (offset : Nat) :
    startsAfter offset text = [] := by
  induction text generalizing offset with
  | nil => rfl
  | cons c rest inductionHypothesis =>
      obtain ⟨notFeed, restNoFeed⟩ : ¬ c = '\n' ∧ '\n' ∉ rest := by
        simpa [eq_comm] using noFeed
      rw [startsAfter, if_neg notFeed, inductionHypothesis restNoFeed]

theorem startsAfter_append_feed
    {front : Text}
    (noFeed : '\n' ∉ front)
    (offset : Nat) (rest : Text) :
    startsAfter offset (front ++ '\n' :: rest) =
      (offset + utf8Size (front ++ ['\n'])) ::
        startsAfter (offset + utf8Size (front ++ ['\n'])) rest := by
  induction front generalizing offset with
  | nil => rfl
  | cons c front inductionHypothesis =>
      obtain ⟨notFeed, frontNoFeed⟩ : ¬ c = '\n' ∧ '\n' ∉ front := by
        simpa [eq_comm] using noFeed
      rw [List.cons_append, startsAfter, if_neg notFeed, inductionHypothesis frontNoFeed,
        List.cons_append, utf8Size_cons, Nat.add_assoc]

/-- A row starts behind the lines above it. -/
theorem getElem?_starts (offset : Nat) (text : Text) (row : Nat) :
    (offset :: startsAfter offset text)[row]? =
      if row ≤ text.count '\n' then some (offset + utf8Size (text.above row)) else none := by
  induction text using lineInduction generalizing offset row with
  | empty => cases row <;> rfl
  | last line _ noFeed =>
      rw [startsAfter_of_noFeed noFeed, List.count_eq_zero_of_not_mem noFeed]
      cases row <;> rfl
  | line front rest noFeed inductionHypothesis =>
      rw [startsAfter_append_feed noFeed, count_append_feed noFeed]
      cases row with
      | zero => rfl
      | succ row =>
          rw [List.getElem?_cons_succ, inductionHypothesis]
          unfold above
          rw [toLines_append_feed noFeed, List.take_succ_cons, List.flatten_cons,
            utf8Size_append _ (List.flatten _), Nat.add_assoc]
          exact if_congr (by omega) rfl rfl

theorem starts_ofText (text : Text) (row : Nat) :
    (ofText text).starts[row]? =
      if row ≤ text.count '\n' then some (utf8Size (text.above row)) else none := by
  have found := getElem?_starts 0 text row
  rwa [Nat.zero_add] at found

theorem length_startsAfter (offset : Nat) (text : Text) :
    (startsAfter offset text).length = text.count '\n' := by
  induction text generalizing offset with
  | nil => rfl
  | cons c rest inductionHypothesis =>
      by_cases feed : c = '\n'
      · rw [startsAfter, if_pos feed, feed, List.count_cons_self, List.length_cons,
          inductionHypothesis]
      · rw [startsAfter, if_neg feed, List.count_cons_of_ne feed, inductionHypothesis]

/-- A text has one row more than it has line feeds. -/
theorem rowCount_ofText (text : Text) : (ofText text).rowCount = text.count '\n' + 1 := by
  rw [rowCount, ofText, List.length_cons, length_startsAfter]

/-! ## Rows and columns -/

section Rows

variable {text : Text} {row : Nat}

/-- The rows of an index are the lines of its text. -/
theorem row?_ofText
    (counted : row < (ofText text).rowCount) :
    (ofText text).row? row = some (text.lineAt row) := by
  rw [rowCount_ofText] at counted
  have stop : ((ofText text).starts[row + 1]?.getD (ofText text).text.utf8Size) =
      utf8Size (text.above (row + 1)) := by
    rw [starts_ofText]
    split
    · rfl
    · next last =>
        rw [above_of_count_lt (Nat.lt_of_not_le last)]
        rfl
  obtain ⟨below, parts⟩ := above_isPrefix text (row + 1)
  have whole := slice?_append (text.above row) (text.lineAt row) below
  rw [above_append_lineAt, parts] at whole
  unfold row?
  rw [stop, starts_ofText, if_pos (Nat.lt_succ_iff.1 counted)]
  exact whole

/-- The content of a row is what its line begins with. -/
theorem exists_content?_ofText
    (counted : row < (ofText text).rowCount) :
    ∃ content, (ofText text).content? row = some content ∧ content <+: text.lineAt row := by
  refine ⟨_, by rw [content?, row?_ofText counted, Option.map_some], ?_⟩
  rw [← List.reverse_suffix, List.reverse_reverse]
  exact (List.dropWhile_suffix _).trans (List.dropWhile_suffix _)

/-- The offset of a place in a row is the size of what stands above the row and before the place. -/
theorem offsetAt?_ofText
    {content : Text}
    (counted : row < (ofText text).rowCount)
    (isContent : (ofText text).content? row = some content)
    (column : Nat) :
    (ofText text).offsetAt? row column =
      some (utf8Size (text.above row ++ content.take column)) := by
  rw [rowCount_ofText] at counted
  unfold offsetAt?
  rw [starts_ofText, if_pos (Nat.lt_succ_iff.1 counted), isContent, utf8Size_append]
  rfl

theorem offsetAt?_of_rowCount_le
    (behindAll : (ofText text).rowCount ≤ row)
    (column : Nat) :
    (ofText text).offsetAt? row column = none := by
  rw [rowCount_ofText] at behindAll
  unfold offsetAt?
  rw [starts_ofText, if_neg (by omega)]
  rfl

end Rows

end LineIndex

end Pipescript
