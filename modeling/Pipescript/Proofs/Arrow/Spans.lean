import Pipescript.Proofs.Arrow.GateEdit
import Pipescript.Proofs.Text.LineIndex

/-!
# Segments leave out spans

A script can be cut at any places in ascending order, also where no arrow stands: they may overlap,
repeat, or lie behind the end of a row or of the script.  The segments are what is left of the
script when the two characters at each place are taken out, shared ones once.  All cuts are made at
byte offsets between characters.
-/

namespace Pipescript

open Text

/-! ## Cuts at byte offsets -/

/-- Cut a row like `cutRow`, with a byte offset for the characters that are gone already.  A cut
inside a character, or behind the end of the row, gives nothing. -/
def cutRowAtBytes? (line : Text) (behind : Pieces) (start : Nat) : List Nat → Option Pieces
  | [] => (line.slice? start line.utf8Size).map behind.prepend
  | column :: columns => do
      let stop := max (line.columnOffset column) start
      let before ← line.slice? start stop
      let next := max (line.columnOffset (column + arrowText.length)) stop
      let later ← cutRowAtBytes? line behind next columns
      return later.cut before

/-- Cut rows like `cutRows`, at byte offsets. -/
def cutRowsAtBytes? (row : Nat) (arrows : List Arrow) : List Text → Option Pieces
  | [] => some ⟨[], arrows.map fun _ => []⟩
  | line :: lines => do
      let here := arrows.takeWhile (·.row ≤ row)
      let below := arrows.dropWhile (·.row ≤ row)
      let behind ← cutRowsAtBytes? (row + 1) below lines
      cutRowAtBytes? line behind 0 (here.map Arrow.column)

/-- The segments of a script between its arrows, cut at byte offsets. -/
def segmentsAtBytes? (script : Text) (arrows : List Arrow) : Option (List Text) :=
  (cutRowsAtBytes? 0 arrows script.toLines).map Pieces.toList

theorem slice?_columnOffset
    {start stop : Nat}
    (ordered : start ≤ stop)
    (line : Text) :
    line.slice? (line.columnOffset start) (line.columnOffset stop) =
      some ((line.take stop).drop start) := by
  have front : (line.take stop).take start = line.take start := by
    rw [List.take_take, Nat.min_eq_left ordered]
  have found := slice?_append (line.take start) ((line.take stop).drop start) (line.drop stop)
  rwa [← front, List.take_append_drop, front, List.take_append_drop] at found

theorem max_columnOffset (line : Text) (left right : Nat) :
    max (line.columnOffset left) (line.columnOffset right) = line.columnOffset (max left right) :=
  (monotone_utf8Size_take line).map_max.symm

/-- Every cut of a row is between characters. -/
theorem cutRowAtBytes?_eq (line : Text) (behind : Pieces) (start : Nat) (columns : List Nat) :
    cutRowAtBytes? line behind (line.columnOffset start) columns =
      some (cutRow line behind start columns) := by
  induction columns generalizing start with
  | nil =>
      have rest := slice?_columnOffset (Nat.le_max_right line.length start) line
      have all : line.take (max line.length start) = line :=
        List.take_of_length_le (Nat.le_max_left _ _)
      rw [columnOffset, columnOffset, all] at rest
      rw [cutRowAtBytes?, columnOffset, rest]
      rfl
  | cons column columns inductionHypothesis =>
      rw [cutRowAtBytes?]
      simp only [max_columnOffset, slice?_columnOffset (Nat.le_max_right column start) line,
        inductionHypothesis, Option.bind_eq_bind, Option.bind_some]
      rfl

theorem cutRowsAtBytes?_eq (row : Nat) (arrows : List Arrow) (lines : List Text) :
    cutRowsAtBytes? row arrows lines = some (cutRows row arrows lines) := by
  induction lines generalizing row arrows with
  | nil => rfl
  | cons line lines inductionHypothesis =>
      have fromStart := cutRowAtBytes?_eq line
        (cutRows (row + 1) (arrows.dropWhile (·.row ≤ row)) lines) 0
        ((arrows.takeWhile (·.row ≤ row)).map Arrow.column)
      rw [cutRowsAtBytes?, inductionHypothesis]
      exact fromStart

theorem segmentsAtBytes?_eq (script : Text) (arrows : List Arrow) :
    segmentsAtBytes? script arrows = some (segments script arrows) := by
  rw [segmentsAtBytes?, cutRowsAtBytes?_eq]
  rfl

/-! ## What arrows take up -/

/-- Whether a place takes up a column of a row: it is the column, or the one before it. -/
def Arrow.takesUp (arrow : Arrow) (row column : Nat) : Bool :=
  arrow.row == row && (arrow.column == column || arrow.column + 1 == column)

/-- A row without some of its columns. -/
def Text.withoutColumns (taken : Nat → Bool) (line : Text) : Text :=
  (line.zipIdx.filter fun entry => !taken entry.2).map Prod.fst

/-- The rows of a script, of which the first has a number, without what arrows take up. -/
def rowsWithoutSpans (arrows : List Arrow) (row : Nat) (lines : List Text) : Text :=
  (lines.zipIdx row).flatMap fun entry =>
    entry.1.withoutColumns fun column => arrows.any (·.takesUp entry.2 column)

/-- A script without the characters that arrows take up, line feeds among them. -/
def Text.withoutSpans (arrows : List Arrow) (script : Text) : Text :=
  rowsWithoutSpans arrows 0 script.toLines

/-- Whether a column is taken up by one of the arrows of its row. -/
def isTaken (columns : List Nat) (column : Nat) : Bool :=
  columns.any fun arrowColumn => arrowColumn == column || arrowColumn + 1 == column

theorem isTaken_iff {columns : List Nat} {column : Nat} :
    isTaken columns column ↔
      ∃ taking ∈ columns, taking = column ∨ taking + 1 = column := by
  simp [isTaken]

theorem flatten_toList_prepend (text : Text) (pieces : Pieces) :
    (pieces.prepend text).toList.flatten = text ++ pieces.toList.flatten := by
  simp [Pieces.prepend, Pieces.toList]

theorem flatten_toList_cut (text : Text) (pieces : Pieces) :
    (pieces.cut text).toList.flatten = text ++ pieces.toList.flatten := by
  simp [Pieces.cut, Pieces.toList]

/-- The entries of a stretch of a row bear the columns of the stretch. -/
theorem column_of_mem_stretch
    {line : Text} {start stop : Nat} {entry : Char × Nat}
    (member : entry ∈ (line.zipIdx.take stop).drop start) :
    start ≤ entry.2 ∧ entry.2 < stop := by
  obtain ⟨index, here⟩ := List.mem_iff_getElem?.1 member
  rw [List.getElem?_drop, List.getElem?_take] at here
  split at here
  · rw [List.getElem?_zipIdx] at here
    obtain ⟨c, -, rfl⟩ := Option.map_eq_some_iff.1 here
    dsimp only
    omega
  · cases here

theorem drop_eq_stretch_append
    {alpha : Type} {start stop : Nat}
    (ordered : start ≤ stop)
    (items : List alpha) :
    items.drop start = (items.take stop).drop start ++ items.drop stop := by
  have parts := List.take_append_drop (stop - start) (items.drop start)
  rw [List.drop_drop, Nat.add_sub_cancel' ordered] at parts
  rw [List.drop_take, parts]

/-- The pieces of a row are what is left of it from the start on. -/
theorem flatten_cutRow
    {columns : List Nat}
    (ascending : columns.Pairwise (· ≤ ·))
    (line : Text) (behind : Pieces) (start : Nat) :
    (cutRow line behind start columns).toList.flatten =
      ((line.zipIdx.drop start).filter fun entry => !isTaken columns entry.2).map Prod.fst ++
        behind.toList.flatten := by
  induction columns generalizing start with
  | nil =>
      rw [cutRow, flatten_toList_prepend]
      simp [isTaken]
  | cons column columns inductionHypothesis =>
      obtain ⟨first, later⟩ := List.pairwise_cons.1 ascending
      have width : arrowText.length = 2 := rfl
      rw [cutRow, flatten_toList_cut, inductionHypothesis later, width]
      generalize stopEq : max column start = stop
      generalize nextEq : max (column + 2) stop = next
      have front : ((line.zipIdx.take stop).drop start).filter
          (fun entry => !isTaken (column :: columns) entry.2) =
            (line.zipIdx.take stop).drop start := by
        refine List.filter_eq_self.2 fun entry member => ?_
        obtain ⟨least, most⟩ := column_of_mem_stretch member
        rw [Bool.not_eq_true', ← Bool.not_eq_true, isTaken_iff]
        rintro ⟨taking, taker, takes⟩
        have order : column ≤ taking := by
          rcases List.mem_cons.1 taker with rfl | taker
          · exact Nat.le_refl _
          · exact first taking taker
        omega
      have span : ((line.zipIdx.take next).drop stop).filter
          (fun entry => !isTaken (column :: columns) entry.2) = [] := by
        refine List.filter_eq_nil_iff.2 fun entry member => ?_
        obtain ⟨least, most⟩ := column_of_mem_stretch member
        rw [Bool.not_eq_true', Bool.not_eq_false, isTaken_iff]
        exact ⟨column, List.mem_cons_self, by omega⟩
      have rest : (line.zipIdx.drop next).filter
          (fun entry => !isTaken (column :: columns) entry.2) =
            (line.zipIdx.drop next).filter fun entry => !isTaken columns entry.2 := by
        refine List.filter_congr fun entry member => ?_
        rw [← List.take_length (l := line.zipIdx)] at member
        obtain ⟨least, -⟩ := column_of_mem_stretch member
        have apart : (column == entry.2 || column + 1 == entry.2) = false := by
          simp only [Bool.or_eq_false_iff, beq_eq_false_iff_ne]
          omega
        rw [isTaken, List.any_cons, apart, Bool.false_or]
        rfl
      rw [drop_eq_stretch_append (by omega : start ≤ stop) line.zipIdx,
        drop_eq_stretch_append (by omega : stop ≤ next) line.zipIdx, List.filter_append,
        List.filter_append, front, span, rest, List.nil_append, List.map_append, List.map_drop,
        List.map_take, List.zipIdx_map_fst, List.append_assoc]

/-! ## What is left of a script -/

/-- Of all arrows those of a row take up its columns. -/
theorem any_takesUp_eq_isTaken
    {row : Nat} {arrows : List Arrow}
    (ascending : arrows.Pairwise fun left right => left.row ≤ right.row)
    (notAbove : ∀ arrow ∈ arrows, row ≤ arrow.row)
    (column : Nat) :
    arrows.any (·.takesUp row column) =
      isTaken ((arrows.takeWhile (·.row ≤ row)).map Arrow.column) column := by
  rw [Bool.eq_iff_iff, isTaken_iff, List.any_eq_true]
  constructor
  · rintro ⟨arrow, member, takes⟩
    simp only [Arrow.takesUp, Bool.and_eq_true, Bool.or_eq_true, beq_iff_eq] at takes
    rw [← List.takeWhile_append_dropWhile (p := fun arrow : Arrow => arrow.row ≤ row)
      (l := arrows)] at member
    rcases List.mem_append.1 member with here | below
    · exact ⟨arrow.column, List.mem_map_of_mem here, takes.2⟩
    · have order := row_lt_of_mem_dropWhile ascending below
      omega
  · rintro ⟨_, taker, takes⟩
    obtain ⟨arrow, here, rfl⟩ := List.mem_map.1 taker
    have member := (List.takeWhile_prefix _).subset here
    have sameRow : arrow.row = row :=
      Nat.le_antisymm (row_le_of_mem_takeWhile here) (notAbove arrow member)
    refine ⟨arrow, member, ?_⟩
    simpa [Arrow.takesUp, sameRow] using takes

/-- Arrows of a row take up nothing of the rows below it. -/
theorem any_takesUp_dropWhile
    {row below : Nat}
    (isBelow : row < below)
    (arrows : List Arrow) (column : Nat) :
    arrows.any (·.takesUp below column) =
      (arrows.dropWhile (·.row ≤ row)).any (·.takesUp below column) := by
  have nothing : (arrows.takeWhile (·.row ≤ row)).any (·.takesUp below column) = false := by
    refine List.any_eq_false.2 fun arrow member takes => ?_
    simp only [Arrow.takesUp, Bool.and_eq_true, beq_iff_eq] at takes
    have order := row_le_of_mem_takeWhile member
    omega
  conv => lhs; rw [← List.takeWhile_append_dropWhile (p := fun arrow : Arrow => arrow.row ≤ row)
    (l := arrows), List.any_append, nothing, Bool.false_or]

/-- Columns of arrows of one row ascend. -/
theorem columns_ascend
    {row : Nat} {arrows : List Arrow}
    (ascending : arrows.Pairwise fun left right => left.precedes right)
    (notAbove : ∀ arrow ∈ arrows, row ≤ arrow.row) :
    ((arrows.takeWhile (·.row ≤ row)).map Arrow.column).Pairwise (· ≤ ·) := by
  have sameRow : ∀ arrow ∈ arrows.takeWhile (·.row ≤ row), arrow.row = row := fun arrow here =>
    Nat.le_antisymm (row_le_of_mem_takeWhile here)
      (notAbove arrow ((List.takeWhile_prefix _).subset here))
  refine List.pairwise_map.2 ((ascending.sublist
    (List.takeWhile_prefix _).sublist).imp_of_mem fun leftHere rightHere ordered => ?_)
  have left := sameRow _ leftHere
  have right := sameRow _ rightHere
  rw [Arrow.precedes_iff] at ordered
  omega

theorem rowsWithoutSpans_dropWhile
    {row below : Nat}
    (isBelow : row < below)
    (arrows : List Arrow) (lines : List Text) :
    rowsWithoutSpans (arrows.dropWhile (·.row ≤ row)) below lines =
      rowsWithoutSpans arrows below lines := by
  refine List.flatMap_congr fun entry member => ?_
  have further : row < entry.2 := Nat.lt_of_lt_of_le isBelow (List.le_snd_of_mem_zipIdx member)
  rw [funext (any_takesUp_dropWhile further arrows)]

/-- The pieces of rows are what arrows leave of them. -/
theorem flatten_cutRows
    {row : Nat} {arrows : List Arrow}
    (ascending : arrows.Pairwise fun left right => left.precedes right)
    (notAbove : ∀ arrow ∈ arrows, row ≤ arrow.row)
    (lines : List Text) :
    (cutRows row arrows lines).toList.flatten = rowsWithoutSpans arrows row lines := by
  induction lines generalizing row arrows with
  | nil => simp [cutRows, Pieces.toList, rowsWithoutSpans]
  | cons line lines inductionHypothesis =>
      have rows : arrows.Pairwise fun left right => left.row ≤ right.row :=
        ascending.imp Arrow.row_le_of_precedes
      have below : ∀ arrow ∈ arrows.dropWhile (·.row ≤ row), row + 1 ≤ arrow.row :=
        fun arrow member => row_lt_of_mem_dropWhile rows member
      have later := inductionHypothesis
        (ascending.sublist (List.dropWhile_suffix _).sublist) below
      rw [cutRows, flatten_cutRow (columns_ascend ascending notAbove), later, List.drop_zero,
        rowsWithoutSpans_dropWhile (Nat.lt_succ_self row), rowsWithoutSpans, rowsWithoutSpans,
        List.zipIdx_cons, List.flatMap_cons, funext (any_takesUp_eq_isTaken rows notAbove)]
      rfl

/-- Cut at any ascending places, a script falls into one segment more than there are places, all
cuts are between characters, and the segments are the script without what the places take up.  At
the arrows that are found in it, the segments put together with arrows are the script. -/
theorem segments_leaveOutSpans
    {arrows : List Arrow}
    (ascending : arrows.Pairwise fun left right => left.precedes right)
    (script : Text) :
    (segments script arrows).length = arrows.length + 1 ∧
      segmentsAtBytes? script arrows = some (segments script arrows) ∧
        (segments script arrows).flatten = script.withoutSpans arrows ∧
          arrowText.intercalate (segments script (withoutArrows script).2) = script :=
  ⟨length_segments script arrows, segmentsAtBytes?_eq script arrows,
    flatten_cutRows ascending (fun arrow _ => Nat.zero_le arrow.row) script.toLines,
    (segments_withoutArrows script).1⟩

/-- Cuts at one place twice, into one another, behind the end of a row and below the last row. -/
theorem segments_leaveOutSpans_overlapping :
    let script := "é->b\r\ncd\n".toList
    let arrows : List Arrow := [⟨0, 1⟩, ⟨0, 1⟩, ⟨0, 2⟩, ⟨0, 9⟩, ⟨1, 1⟩, ⟨7, 0⟩]
    segments script arrows = [['é'], [], [], ['\r', '\n'], ['c'], [], []] ∧
      (segments script arrows).length = arrows.length + 1 ∧
        segmentsAtBytes? script arrows = some (segments script arrows) ∧
          (segments script arrows).flatten = Text.withoutSpans arrows script ∧
            arrowText.intercalate (segments script (withoutArrows script).2) = script :=
  ⟨by decide, segments_leaveOutSpans (by decide) "é->b\r\ncd\n".toList⟩

end Pipescript
