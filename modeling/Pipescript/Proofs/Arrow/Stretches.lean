import Mathlib.Data.List.TakeWhile
import Pipescript.Proofs.Arrow.Found

/-!
# Stretches between arrows

Cutting a script at arrows that stand in it leaves the stretches between them: put together with
arrows they are the script, and the arrows between them are those at which it was cut.
-/

namespace Pipescript

/-! ## Joining stretches -/

@[simp]
theorem intercalate_toList_prepend (separator text : Text) (pieces : Pieces) :
    separator.intercalate (pieces.prepend text).toList =
      text ++ separator.intercalate pieces.toList := by
  obtain ⟨first, later⟩ := pieces
  cases later with
  | nil => simp [Pieces.prepend, Pieces.toList]
  | cons next later => simp [Pieces.prepend, Pieces.toList]

@[simp]
theorem intercalate_toList_cut (separator text : Text) (pieces : Pieces) :
    separator.intercalate (pieces.cut text).toList =
      text ++ separator ++ separator.intercalate pieces.toList := by
  obtain ⟨first, later⟩ := pieces
  simp [Pieces.cut, Pieces.toList]

namespace Arrow

/-- The places of the arrows between stretches of text, of which the first begins at a place. -/
def between (place : Arrow) : List Text → List Arrow
  | [] => []
  | [_] => []
  | first :: next :: later =>
      place.behind first :: between ((place.behind first).behind arrowText) (next :: later)

theorem between_toList_prepend (place : Arrow) (text : Text) (pieces : Pieces) :
    place.between (pieces.prepend text).toList = (place.behind text).between pieces.toList := by
  obtain ⟨first, later⟩ := pieces
  cases later with
  | nil => rfl
  | cons next later =>
      simp only [Pieces.prepend, Pieces.toList, between, behind_append]

theorem between_toList_cut (place : Arrow) (text : Text) (pieces : Pieces) :
    place.between (pieces.cut text).toList =
      place.behind text ::
        ((place.behind text).behind arrowText).between pieces.toList := rfl

theorem behind_arrowText (place : Arrow) :
    place.behind arrowText = ⟨place.row, place.column + arrowText.length⟩ := rfl

theorem length_between (place : Arrow) (first : Text) (later : List Text) :
    (place.between (first :: later)).length = later.length := by
  induction later generalizing place first with
  | nil => rfl
  | cons next later inductionHypothesis =>
      rw [between, List.length_cons, inductionHypothesis, List.length_cons]

end Arrow

/-! ## Cutting a row -/

/-- Whether columns of a row hold arrows, the first of them not before `start` and each of them
behind the arrow before it. -/
structure AreArrowColumns (rowText : Text) (start : Nat) (columns : List Nat) : Prop where
  atLeast : ∀ column ∈ columns, start ≤ column
  apart : columns.Pairwise fun left right => left + arrowText.length ≤ right
  minus : ∀ column ∈ columns, rowText[column]? = some '-'
  greater : ∀ column ∈ columns, rowText[column + 1]? = some '>'

namespace AreArrowColumns

variable {rowText : Text} {start column : Nat} {columns : List Nat}

theorem tail
    (valid : AreArrowColumns rowText start (column :: columns)) :
    AreArrowColumns rowText (column + arrowText.length) columns where
  atLeast := (List.pairwise_cons.1 valid.apart).1
  apart := (List.pairwise_cons.1 valid.apart).2
  minus later member := valid.minus later (List.mem_cons_of_mem _ member)
  greater later member := valid.greater later (List.mem_cons_of_mem _ member)

theorem drop_column
    (valid : AreArrowColumns rowText start (column :: columns)) :
    rowText.drop column = arrowText ++ rowText.drop (column + arrowText.length) := by
  obtain ⟨minusBound, minus⟩ :=
    List.getElem?_eq_some_iff.1 (valid.minus column List.mem_cons_self)
  obtain ⟨greaterBound, greater⟩ :=
    List.getElem?_eq_some_iff.1 (valid.greater column List.mem_cons_self)
  rw [List.drop_eq_getElem_cons minusBound, minus, List.drop_eq_getElem_cons greaterBound,
    greater]
  rfl

theorem take_drop_append
    (valid : AreArrowColumns rowText start (column :: columns)) :
    (rowText.take column).drop start ++ rowText.drop column = rowText.drop start := by
  have bound : start ≤ column := valid.atLeast column List.mem_cons_self
  have inside : column < rowText.length :=
    (List.getElem?_eq_some_iff.1 (valid.minus column List.mem_cons_self)).1
  calc (rowText.take column).drop start ++ rowText.drop column
      = (rowText.take column ++ rowText.drop column).drop start := by
        rw [List.drop_append_of_le_length]
        rw [List.length_take]
        omega
    _ = rowText.drop start := by rw [List.take_append_drop]

/-- Only the last character of a row can be a line feed, and an arrow ends in none. -/
theorem noFeed_take
    (valid : AreArrowColumns rowText start (column :: columns))
    (noFeed : '\n' ∉ rowText.dropLast) :
    '\n' ∉ rowText.take (column + arrowText.length) := by
  obtain ⟨bound, greater⟩ :=
    List.getElem?_eq_some_iff.1 (valid.greater column List.mem_cons_self)
  have parts : rowText.take (column + arrowText.length) = rowText.take (column + 1) ++ ['>'] := by
    rw [← greater]
    exact List.take_succ_eq_append_getElem bound
  have inLine : rowText.take (column + 1) <+: rowText.dropLast := by
    rw [List.dropLast_eq_take]
    exact List.take_prefix_take_left (by omega)
  rw [parts, List.mem_append, not_or]
  exact ⟨fun feed => noFeed (inLine.subset feed), by decide⟩

end AreArrowColumns

theorem cutRow_cons_of_areArrowColumns
    {rowText : Text} {start column : Nat} {columns : List Nat}
    (valid : AreArrowColumns rowText start (column :: columns))
    (behind : Pieces) :
    cutRow rowText behind start (column :: columns) =
      (cutRow rowText behind (column + arrowText.length) columns).cut
        ((rowText.take column).drop start) := by
  have bound : start ≤ column := valid.atLeast column List.mem_cons_self
  have stop : max column start = column := Nat.max_eq_left bound
  have further : max (column + arrowText.length) column = column + arrowText.length :=
    Nat.max_eq_left (Nat.le_add_right _ _)
  rw [cutRow, stop, further]

theorem intercalate_cutRow
    {rowText : Text} {start : Nat} {columns : List Nat}
    (valid : AreArrowColumns rowText start columns)
    (behind : Pieces) :
    arrowText.intercalate (cutRow rowText behind start columns).toList =
      rowText.drop start ++ arrowText.intercalate behind.toList := by
  induction columns generalizing start with
  | nil => rw [cutRow, intercalate_toList_prepend]
  | cons column columns inductionHypothesis =>
      rw [cutRow_cons_of_areArrowColumns valid, intercalate_toList_cut,
        inductionHypothesis valid.tail, ← valid.take_drop_append, valid.drop_column]
      simp only [List.append_assoc]

theorem between_cutRow
    {rowText : Text} {row start : Nat} {columns : List Nat}
    (valid : AreArrowColumns rowText start columns)
    (noFeed : '\n' ∉ rowText.dropLast)
    (startInside : start ≤ rowText.length)
    (noFeedBefore : '\n' ∉ rowText.take start)
    (behind : Pieces) :
    Arrow.between ⟨row, start⟩ (cutRow rowText behind start columns).toList =
      columns.map (Arrow.mk row) ++
        ((⟨row, 0⟩ : Arrow).behind rowText).between behind.toList := by
  induction columns generalizing start with
  | nil =>
      have whole : (⟨row, 0⟩ : Arrow).behind rowText =
          (⟨row, start⟩ : Arrow).behind (rowText.drop start) := by
        have front : (⟨row, 0⟩ : Arrow).behind (rowText.take start) = ⟨row, start⟩ := by
          rw [Arrow.behind_of_noFeed noFeedBefore, List.length_take]
          simp only [Arrow.mk.injEq, true_and]
          omega
        rw [← front, ← Arrow.behind_append, List.take_append_drop]
      rw [cutRow, Arrow.between_toList_prepend, whole]
      rfl
  | cons column columns inductionHypothesis =>
      have bound : start ≤ column := valid.atLeast column List.mem_cons_self
      have inside : column + arrowText.length ≤ rowText.length :=
        (List.getElem?_eq_some_iff.1 (valid.greater column List.mem_cons_self)).1
      have noFeedHere : '\n' ∉ rowText.take (column + arrowText.length) := valid.noFeed_take noFeed
      have noFeedPiece : '\n' ∉ (rowText.take column).drop start := by
        intro feed
        have partOf : rowText.take column <+: rowText.take (column + arrowText.length) :=
          List.take_prefix_take_left (Nat.le_add_right _ _)
        exact noFeedHere (partOf.subset (List.mem_of_mem_drop feed))
      have place : (⟨row, start⟩ : Arrow).behind ((rowText.take column).drop start) =
          ⟨row, column⟩ := by
        rw [Arrow.behind_of_noFeed noFeedPiece, List.length_drop, List.length_take]
        simp only [Arrow.mk.injEq, true_and]
        omega
      rw [cutRow_cons_of_areArrowColumns valid, Arrow.between_toList_cut, place,
        Arrow.behind_arrowText, inductionHypothesis valid.tail inside noFeedHere]
      rfl

/-! ## Cutting a script -/

theorem row_lt_of_mem_dropWhile
    {row : Nat} {arrow : Arrow} {arrows : List Arrow}
    (ascending : arrows.Pairwise fun left right => left.row ≤ right.row)
    (member : arrow ∈ arrows.dropWhile (·.row ≤ row)) :
    row < arrow.row := by
  induction arrows with
  | nil => exact absurd member List.not_mem_nil
  | cons first later inductionHypothesis =>
      obtain ⟨firstBefore, laterAscending⟩ := List.pairwise_cons.1 ascending
      by_cases above : first.row ≤ row
      · rw [List.dropWhile_cons_of_pos (by simpa using above)] at member
        exact inductionHypothesis laterAscending member
      · rw [List.dropWhile_cons_of_neg (by simpa using above)] at member
        rcases List.mem_cons.1 member with rfl | memberLater
        · exact Nat.lt_of_not_le above
        · exact (Nat.lt_of_not_le above).trans_le (firstBefore arrow memberLater)

theorem row_le_of_mem_takeWhile
    {row : Nat} {arrow : Arrow} {arrows : List Arrow}
    (member : arrow ∈ arrows.takeWhile (·.row ≤ row)) :
    arrow.row ≤ row := by
  simpa using List.mem_takeWhile_imp member

/-- Arrows of one row, given by the characters of the row, have columns at which it can be cut. -/
theorem areArrowColumns_map_column
    {rowText : Text} {row : Nat} {arrows : List Arrow}
    (ascending : arrows.Pairwise Arrow.Before)
    (sameRow : ∀ arrow ∈ arrows, arrow.row = row)
    (minus : ∀ arrow ∈ arrows, rowText[arrow.column]? = some '-')
    (greater : ∀ arrow ∈ arrows, rowText[arrow.column + 1]? = some '>') :
    AreArrowColumns rowText 0 (arrows.map Arrow.column) where
  atLeast _ _ := Nat.zero_le _
  minus := by simpa using minus
  greater := by simpa using greater
  apart := by
    rw [List.pairwise_map]
    refine ascending.imp_of_mem ?_
    intro left right leftMember rightMember order
    have leftRow := sameRow left leftMember
    have rightRow := sameRow right rightMember
    -- The next arrow cannot begin with the sign in which this one ends.
    have different : left.column + 1 ≠ right.column := by
      intro equal
      have clash := greater left leftMember
      rw [equal, minus right rightMember] at clash
      exact absurd clash (by decide)
    have length : arrowText.length = 2 := rfl
    unfold Arrow.Before at order
    omega

theorem map_mk_map_column
    {row : Nat} {arrows : List Arrow}
    (sameRow : ∀ arrow ∈ arrows, arrow.row = row) :
    (arrows.map Arrow.column).map (Arrow.mk row) = arrows := by
  rw [List.map_map]
  conv => rhs; rw [← List.map_id arrows]
  refine List.map_congr_left fun arrow member => ?_
  rw [← sameRow arrow member]
  rfl

/-- Whether a text that begins in column zero of a row has an arrow at a place. -/
def Arrow.StandsBelow (row : Nat) (text : Text) (arrow : Arrow) : Prop :=
  ∃ raised : Arrow, arrow = raised.lower row ∧ raised.StandsIn text

theorem Arrow.standsBelow_of_append_feed
    {front rest : Text} {row : Nat} {arrow : Arrow}
    (noFeed : '\n' ∉ front)
    (stands : arrow.StandsBelow row (front ++ '\n' :: rest))
    (below : row < arrow.row) :
    arrow.StandsBelow (row + 1) rest := by
  obtain ⟨⟨raisedRow, column⟩, rfl, minus, greater⟩ := stands
  cases raisedRow with
  | zero => simp [Arrow.lower] at below
  | succ raisedRow =>
      refine ⟨⟨raisedRow, column⟩, ?_, ?_, ?_⟩
      · simp only [Arrow.lower, Arrow.mk.injEq, and_true]
        omega
      · rwa [Text.charAt?_append_feed_succ noFeed] at minus
      · rwa [Text.charAt?_append_feed_succ noFeed] at greater

theorem Arrow.standsBelow_here
    {text rowText : Text} {row : Nat} {arrow : Arrow}
    (firstRow : ∀ column, text.charAt? 0 column = rowText[column]?)
    (stands : arrow.StandsBelow row text)
    (here : arrow.row ≤ row) :
    arrow.row = row ∧ rowText[arrow.column]? = some '-' ∧ rowText[arrow.column + 1]? = some '>' := by
  obtain ⟨⟨raisedRow, column⟩, rfl, minus, greater⟩ := stands
  obtain rfl : raisedRow = 0 := by
    simp only [Arrow.lower] at here
    omega
  refine ⟨by simp [Arrow.lower], ?_, ?_⟩
  · rwa [firstRow] at minus
  · rwa [firstRow] at greater

theorem Arrow.row_le_of_standsBelow
    {rowText : Text} {row : Nat} {arrow : Arrow}
    (noFeed : '\n' ∉ rowText)
    (stands : arrow.StandsBelow row rowText) :
    arrow.row ≤ row := by
  obtain ⟨raised, rfl, minus, _⟩ := stands
  by_cases first : raised.row = 0
  · simp [Arrow.lower, first]
  · rw [Text.charAt?_of_noFeed noFeed, if_neg first] at minus
    simp at minus

/-- Cutting a row and the rows below it at arrows that stand in them. -/
theorem cutRows_cons
    {rowText : Text} {lines : List Text} {row : Nat} {arrows : List Arrow}
    (ascending : arrows.Pairwise Arrow.Before)
    (noFeed : '\n' ∉ rowText.dropLast)
    (here : ∀ arrow ∈ arrows, arrow.row ≤ row →
      arrow.row = row ∧ rowText[arrow.column]? = some '-' ∧ rowText[arrow.column + 1]? = some '>') :
    arrowText.intercalate (cutRows row arrows (rowText :: lines)).toList =
        rowText ++ arrowText.intercalate
          (cutRows (row + 1) (arrows.dropWhile (·.row ≤ row)) lines).toList ∧
      Arrow.between ⟨row, 0⟩ (cutRows row arrows (rowText :: lines)).toList =
        arrows.takeWhile (·.row ≤ row) ++
          ((⟨row, 0⟩ : Arrow).behind rowText).between
            (cutRows (row + 1) (arrows.dropWhile (·.row ≤ row)) lines).toList := by
  have facts : ∀ arrow ∈ arrows.takeWhile (·.row ≤ row),
      arrow.row = row ∧ rowText[arrow.column]? = some '-' ∧
        rowText[arrow.column + 1]? = some '>' := by
    intro arrow member
    exact here arrow ((List.takeWhile_prefix _).subset member) (row_le_of_mem_takeWhile member)
  have valid : AreArrowColumns rowText 0 ((arrows.takeWhile (·.row ≤ row)).map Arrow.column) :=
    areArrowColumns_map_column (ascending.sublist (List.takeWhile_prefix _).sublist)
      (fun arrow member => (facts arrow member).1)
      (fun arrow member => (facts arrow member).2.1)
      (fun arrow member => (facts arrow member).2.2)
  constructor
  · rw [cutRows, intercalate_cutRow valid, List.drop_zero]
  · rw [cutRows, between_cutRow valid noFeed (Nat.zero_le _) List.not_mem_nil,
      map_mk_map_column fun arrow member => (facts arrow member).1]

/-- Cutting the rows of a text at arrows that stand in it. -/
theorem cutRows_toLines
    {text : Text} {row : Nat} {arrows : List Arrow}
    (ascending : arrows.Pairwise Arrow.Before)
    (standing : ∀ arrow ∈ arrows, arrow.StandsBelow row text) :
    arrowText.intercalate (cutRows row arrows text.toLines).toList = text ∧
      Arrow.between ⟨row, 0⟩ (cutRows row arrows text.toLines).toList = arrows := by
  induction text using Text.lineInduction generalizing row arrows with
  | empty =>
      cases arrows with
      | nil => exact ⟨rfl, rfl⟩
      | cons arrow later =>
          obtain ⟨raised, _, minus, _⟩ := standing arrow List.mem_cons_self
          exact absurd minus (by simp)
  | last rowText nonempty noFeed =>
      have firstRow : ∀ column, Text.charAt? rowText 0 column = rowText[column]? :=
        fun column => Text.charAt?_of_noFeed noFeed 0 column
      have allHere : ∀ arrow ∈ arrows, decide (arrow.row ≤ row) = true := by
        intro arrow member
        exact decide_eq_true (Arrow.row_le_of_standsBelow noFeed (standing arrow member))
      have cut := @cutRows_cons rowText [] row arrows ascending
        (fun feed => noFeed (List.dropLast_subset _ feed))
        (fun arrow member => Arrow.standsBelow_here firstRow (standing arrow member))
      rw [List.dropWhile_eq_nil_iff.2 allHere, List.takeWhile_eq_self_iff.2 allHere] at cut
      rw [Text.toLines_of_noFeed nonempty noFeed]
      simpa [cutRows, Pieces.toList, Arrow.between] using cut
  | line front rest noFeed inductionHypothesis =>
      have firstRow :
          ∀ column, Text.charAt? (front ++ '\n' :: rest) 0 column = (front ++ ['\n'])[column]? :=
        Text.charAt?_append_feed_zero noFeed rest
      have standingBelow : ∀ arrow ∈ arrows.dropWhile (·.row ≤ row),
          arrow.StandsBelow (row + 1) rest := by
        intro arrow member
        exact Arrow.standsBelow_of_append_feed noFeed
          (standing arrow ((List.dropWhile_suffix _).subset member))
          (row_lt_of_mem_dropWhile (ascending.imp Arrow.Before.row_le) member)
      obtain ⟨rejoined, places⟩ :=
        inductionHypothesis (ascending.sublist (List.dropWhile_suffix _).sublist) standingBelow
      obtain ⟨cutRejoined, cutPlaces⟩ := @cutRows_cons _ rest.toLines row arrows ascending
        (by simpa using noFeed)
        (fun arrow member => Arrow.standsBelow_here firstRow (standing arrow member))
      have nextRow : (⟨row, 0⟩ : Arrow).behind (front ++ ['\n']) = ⟨row + 1, 0⟩ := by
        rw [Arrow.behind_append, Arrow.behind_of_noFeed noFeed]
        rfl
      rw [Text.toLines_append_feed noFeed]
      constructor
      · rw [cutRejoined, rejoined, List.append_assoc]
        rfl
      · rw [cutPlaces, nextRow, places, List.takeWhile_append_dropWhile]

theorem length_cutRow (line : Text) (behind : Pieces) (start : Nat) (columns : List Nat) :
    (cutRow line behind start columns).toList.length = columns.length + behind.toList.length := by
  induction columns generalizing start with
  | nil =>
      rw [List.length_nil, Nat.zero_add]
      rfl
  | cons column columns inductionHypothesis =>
      show (cutRow line behind _ columns).toList.length + 1 = _
      rw [inductionHypothesis, List.length_cons]
      omega

theorem length_cutRows (row : Nat) (arrows : List Arrow) (lines : List Text) :
    (cutRows row arrows lines).toList.length = arrows.length + 1 := by
  induction lines generalizing row arrows with
  | nil => simp [cutRows, Pieces.toList]
  | cons line lines inductionHypothesis =>
      have parts := congrArg List.length
        (List.takeWhile_append_dropWhile (p := fun arrow : Arrow => arrow.row ≤ row) (l := arrows))
      rw [List.length_append] at parts
      rw [cutRows, length_cutRow, inductionHypothesis, List.length_map]
      omega

/-- A script has one segment more than it is cut at arrows. -/
theorem length_segments (script : Text) (arrows : List Arrow) :
    (segments script arrows).length = arrows.length + 1 :=
  length_cutRows 0 arrows script.toLines

/-- The segments of a script are the stretches between its arrows. -/
theorem segments_of_standsIn
    {script : Text} {arrows : List Arrow}
    (ascending : arrows.Pairwise Arrow.Before)
    (standing : ∀ arrow ∈ arrows, arrow.StandsIn script) :
    arrowText.intercalate (segments script arrows) = script ∧
      Arrow.start.between (segments script arrows) = arrows := by
  refine cutRows_toLines ascending fun arrow member => ⟨arrow, ?_, standing arrow member⟩
  simp [Arrow.lower]

end Pipescript
