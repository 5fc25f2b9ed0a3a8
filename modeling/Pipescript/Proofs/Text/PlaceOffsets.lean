import Mathlib.Data.List.DropRight
import Pipescript.Proofs.Text.LineIndex

/-!
# Places and byte offsets

A place of a text is a row and a column in it.  The index finds the row of an offset by halving the
list of row starts, and the column by counting the characters between the start and the offset.

* From a place to its offset and back nothing is lost but the part of a column behind the content.
* From an offset to its place and back the offset stays the same, unless it stands among the
  carriage returns at the end of a row: the content of a row ends before all of them.
-/

namespace Pipescript

namespace Text

/-! ## Rows of a text -/

theorem above_append_feed_succ
    {front : Text}
    (noFeed : '\n' ∉ front)
    (rest : Text) (row : Nat) :
    above (front ++ '\n' :: rest) (row + 1) = front ++ '\n' :: above rest row := by
  rw [above, toLines_append_feed noFeed, List.take_succ_cons, List.flatten_cons, List.append_assoc]
  rfl

theorem monotone_utf8Size_above (text : Text) : Monotone fun row => utf8Size (text.above row) := by
  refine monotone_nat_of_le_succ fun row => ?_
  rw [← above_append_lineAt, utf8Size_append]
  exact Nat.le_add_right _ _

/-- A front with all the bytes of a text is the text. -/
theorem eq_of_isPrefix_of_utf8Size_eq
    {front text : Text}
    (inFront : front <+: text)
    (sameSize : utf8Size front = utf8Size text) :
    front = text := by
  obtain ⟨rest, rfl⟩ := inFront
  cases rest with
  | nil => exact (List.append_nil front).symm
  | cons c rest =>
      have positive := Char.utf8Size_pos c
      rw [utf8Size_append, utf8Size_cons] at sameSize
      omega

/-- A row of a text, without and with its end, and what stands below it.  The last row has no line
feed, and nothing stands below it. -/
structure IsRow (text : Text) (row : Nat) (line lineEnd below : Text) : Prop where
  parts : text = text.above row ++ (line ++ (lineEnd ++ below))
  wholeLine : text.lineAt row = line ++ lineEnd
  noFeed : '\n' ∉ line
  ends : (row < text.count '\n' ∧ lineEnd = ['\n']) ∨
    (row = text.count '\n' ∧ lineEnd = [] ∧ below = [])

theorem exists_isRow
    {text : Text} {row : Nat}
    (counted : row ≤ text.count '\n') :
    ∃ line lineEnd below, text.IsRow row line lineEnd below := by
  induction text using lineInduction generalizing row with
  | empty =>
      obtain rfl := Nat.le_zero.1 counted
      exact ⟨[], [], [], rfl, rfl, List.not_mem_nil, .inr ⟨rfl, rfl, rfl⟩⟩
  | last line notEmpty noFeed =>
      have noFeeds := List.count_eq_zero_of_not_mem noFeed
      obtain rfl : row = 0 := by omega
      have wholeLine : lineAt line 0 = line ++ [] := by
        rw [lineAt, toLines_of_noFeed notEmpty noFeed, List.append_nil]
        rfl
      exact ⟨line, [], [], by simp [above], wholeLine, noFeed, .inr ⟨noFeeds.symm, rfl, rfl⟩⟩
  | line front rest noFeed inductionHypothesis =>
      have feeds := count_append_feed noFeed rest
      cases row with
      | zero =>
          have wholeLine : lineAt (front ++ '\n' :: rest) 0 = front ++ ['\n'] := by
            rw [lineAt, toLines_append_feed noFeed]
            rfl
          exact ⟨front, ['\n'], rest, rfl, wholeLine, noFeed, .inl ⟨by omega, rfl⟩⟩
      | succ row =>
          obtain ⟨line, lineEnd, below, parts, wholeLine, lineNoFeed, ends⟩ :=
            @inductionHypothesis row (by omega)
          refine ⟨line, lineEnd, below, ?_, ?_, lineNoFeed, by simpa [feeds] using ends⟩
          · rw [above_append_feed_succ noFeed, List.append_assoc, List.cons_append, ← parts]
          · rw [lineAt, toLines_append_feed noFeed]
            exact wholeLine

/-- What is in front of a row and has no line feed goes on up to the end of the row. -/
theorem IsRow.exists_after
    {text line lineEnd below before rest : Text} {row : Nat}
    (isRow : text.IsRow row line lineEnd below)
    (parts : text = text.above row ++ (before ++ rest))
    (noFeed : '\n' ∉ before) :
    ∃ after, line = before ++ after ∧ rest = after ++ (lineEnd ++ below) := by
  have same := List.append_cancel_left (parts.symm.trans isRow.parts)
  rcases List.append_eq_append_iff.1 same with ⟨after, found, behind⟩ | ⟨more, found, behind⟩
  · exact ⟨after, found, behind⟩
  · cases more with
    | nil => exact ⟨[], by simpa using found.symm, behind.symm⟩
    | cons c more =>
        rcases isRow.ends with ⟨-, rfl⟩ | ⟨-, rfl, rfl⟩
        · -- The part would reach over the line feed of the row.
          obtain ⟨rfl, -⟩ := List.cons.inj behind
          exact absurd (found ▸ List.mem_append_right _ List.mem_cons_self) noFeed
        · cases behind

/-- What stands before some character is the rows above it, and before it on its row. -/
theorem exists_column (front rest : Text) :
    ∃ before, '\n' ∉ before ∧ front = (front ++ rest).above (front.count '\n') ++ before := by
  induction front using lineInduction with
  | empty => exact ⟨[], List.not_mem_nil, rfl⟩
  | last line _ noFeed =>
      refine ⟨line, noFeed, ?_⟩
      rw [List.count_eq_zero_of_not_mem noFeed]
      rfl
  | line front behind noFeed inductionHypothesis =>
      obtain ⟨before, beforeNoFeed, parts⟩ := inductionHypothesis
      refine ⟨before, beforeNoFeed, ?_⟩
      rw [count_append_feed noFeed, List.append_assoc, List.cons_append,
        above_append_feed_succ noFeed, List.append_assoc, List.cons_append, ← parts]

/-- The rows above a row end in a line feed, if there are any. -/
theorem getLast?_above_ne_return
    {text : Text} {row : Nat}
    (counted : row ≤ text.count '\n') :
    (text.above row).getLast? ≠ some '\r' := by
  cases row with
  | zero => simp [above]
  | succ row =>
      obtain ⟨line, lineEnd, below, isRow⟩ := exists_isRow (Nat.le_of_succ_le counted)
      obtain ⟨-, rfl⟩ : row < text.count '\n' ∧ lineEnd = ['\n'] :=
        isRow.ends.resolve_right fun last => by omega
      rw [← above_append_lineAt, isRow.wholeLine, ← List.append_assoc, List.getLast?_concat]
      decide

end Text

open Text

namespace LineIndex

/-! ## The row of an offset -/

/-- Halving comes to the number of starts at or before an offset. -/
theorem countUpTo_eq
    {starts : List Nat} {offset count low high : Nat}
    (upTo : ∀ row < count, starts.getD row 0 ≤ offset)
    (behind : ∀ row, count ≤ row → row < starts.length → offset < starts.getD row 0)
    (least : low ≤ count)
    (most : count ≤ high)
    (bound : high ≤ starts.length) :
    countUpTo starts offset low high = count := by
  fun_induction countUpTo starts offset low high with
  | case1 low high further middle startsBefore inductionHypothesis =>
      have inside : middle < count := by
        by_contra beyond
        have later := behind middle (Nat.le_of_not_lt beyond) (by omega)
        omega
      exact inductionHypothesis inside most bound
  | case2 low high further middle startsBehind inductionHypothesis =>
      have outside : count ≤ middle := by
        by_contra within
        exact startsBehind (upTo middle (Nat.lt_of_not_le within))
      exact inductionHypothesis least outside (by omega)
  | case3 low high noFurther => omega

@[simp]
theorem text_ofText (text : Text) : (ofText text).text = text := rfl

section Rows

variable {text : Text} {row : Nat}

theorem getD_starts_ofText
    (counted : row < (ofText text).rowCount) :
    (ofText text).starts.getD row 0 = utf8Size (text.above row) := by
  rw [rowCount_ofText] at counted
  rw [List.getD_eq_getElem?_getD, starts_ofText, if_pos (Nat.le_of_lt_succ counted)]
  rfl

/-- An offset is on the row that starts at or before it, if the next row starts behind it. -/
theorem rowAt_ofText
    {offset : Nat}
    (counted : row < (ofText text).rowCount)
    (starts : utf8Size (text.above row) ≤ offset)
    (stops : row + 1 < (ofText text).rowCount → offset < utf8Size (text.above (row + 1))) :
    (ofText text).rowAt offset = row := by
  have ascending := monotone_utf8Size_above text
  have found : countUpTo (ofText text).starts offset 0 (ofText text).rowCount = row + 1 := by
    apply countUpTo_eq
    · intro earlier above
      rw [getD_starts_ofText (by omega)]
      exact (ascending (Nat.le_of_lt_succ above)).trans starts
    · intro later below inside
      rw [getD_starts_ofText inside]
      exact (stops (Nat.lt_of_le_of_lt below inside)).trans_le (ascending below)
    · exact Nat.zero_le _
    · exact counted
    · exact Nat.le_refl _
  rw [rowAt, found, Nat.add_sub_cancel]

/-- The offset behind a part of a row is on that row, and its column is the length of the part. -/
theorem placeAt?_ofText
    {before rest : Text}
    (counted : row < (ofText text).rowCount)
    (parts : text = text.above row ++ (before ++ rest))
    (noFeed : '\n' ∉ before) :
    (ofText text).placeAt? (utf8Size (text.above row ++ before)) = some (row, before.length) := by
  have feeds : row ≤ text.count '\n' := by
    rw [rowCount_ofText] at counted
    exact Nat.le_of_lt_succ counted
  obtain ⟨line, lineEnd, below, isRow⟩ := exists_isRow feeds
  obtain ⟨after, rfl, -⟩ := isRow.exists_after parts noFeed
  have inText : utf8Size (text.above row ++ before) ≤ utf8Size text := by
    conv => rhs; rw [parts]
    simp only [utf8Size_append]
    omega
  have onRow : (ofText text).rowAt (utf8Size (text.above row ++ before)) = row := by
    apply rowAt_ofText counted
    · rw [utf8Size_append]
      exact Nat.le_add_right _ _
    · intro further
      rw [rowCount_ofText] at further
      obtain ⟨-, rfl⟩ : row < text.count '\n' ∧ lineEnd = ['\n'] :=
        isRow.ends.resolve_right fun last => by omega
      rw [← above_append_lineAt, isRow.wholeLine]
      have positive := Char.utf8Size_pos '\n'
      simp only [utf8Size_append, utf8Size_cons, utf8Size_nil]
      omega
  have between := slice?_append (text.above row) before rest
  rw [List.append_assoc, ← parts] at between
  have start := starts_ofText text row
  rw [if_pos feeds] at start
  simp only [placeAt?, text_ofText, inText, onRow, start, between, if_true, Option.pure_def,
    Option.bind_eq_bind, Option.bind_some]

/-! ## From places to offsets and back -/

/-- The content of a row is its line without the carriage returns at its end. -/
theorem content?_of_isRow
    {line lineEnd below : Text}
    (counted : row < (ofText text).rowCount)
    (isRow : text.IsRow row line lineEnd below) :
    (ofText text).content? row = some (line.rdropWhile (· == '\r')) := by
  have noLineEnd : (line ++ lineEnd).rdropWhile (· == '\n') = line := by
    have alone : line.rdropWhile (· == '\n') = line := by
      refine List.rdropWhile_eq_self_iff.2 fun notEmpty isFeed => isRow.noFeed ?_
      rw [← beq_iff_eq.1 isFeed]
      exact List.getLast_mem notEmpty
    rcases isRow.ends with ⟨-, rfl⟩ | ⟨-, rfl, -⟩
    · rw [List.rdropWhile_concat_pos _ _ _ (by decide), alone]
    · rw [List.append_nil, alone]
  rw [content?, row?_ofText counted, isRow.wholeLine, Option.map_some]
  conv => rhs; rw [← noLineEnd]
  simp only [List.rdropWhile, List.reverse_reverse]

theorem counted_of_content?
    {content : Text}
    (isContent : (ofText text).content? row = some content) :
    row < (ofText text).rowCount := by
  by_contra behindAll
  rw [rowCount_ofText] at behindAll
  simp [content?, row?, starts_ofText, show ¬ row ≤ text.count '\n' by omega] at isContent

theorem counted_of_offsetAt?
    {column offset : Nat}
    (found : (ofText text).offsetAt? row column = some offset) :
    row < (ofText text).rowCount := by
  by_contra behindAll
  rw [offsetAt?_of_rowCount_le (Nat.le_of_not_lt behindAll)] at found
  cases found

/-- The front of the content of a row stands in the text, right behind the rows above. -/
theorem exists_rest_of_content?
    {content : Text}
    (isContent : (ofText text).content? row = some content)
    (column : Nat) :
    '\n' ∉ content.take column ∧
      ∃ rest, text = text.above row ++ (content.take column ++ rest) := by
  have counted := counted_of_content? isContent
  obtain ⟨line, lineEnd, below, isRow⟩ :=
    exists_isRow (Nat.le_of_lt_succ (rowCount_ofText text ▸ counted))
  obtain rfl := Option.some.inj ((content?_of_isRow counted isRow).symm.trans isContent)
  have inLine : (line.rdropWhile (· == '\r')).take column <+: line :=
    (List.take_prefix _ _).trans (List.rdropWhile_prefix _ _)
  refine ⟨fun feed => isRow.noFeed (inLine.subset feed), ?_⟩
  obtain ⟨after, parts⟩ := inLine
  refine ⟨after ++ (lineEnd ++ below), ?_⟩
  rw [← List.append_assoc (List.take _ _), parts]
  exact isRow.parts

/-- A place leads to an offset, and the offset back to the place, but for what its column has beyond
the content. -/
theorem placeAt?_of_content?
    {content : Text}
    (isContent : (ofText text).content? row = some content)
    (column : Nat) :
    (ofText text).placeAt? (utf8Size (text.above row ++ content.take column)) =
      some (row, min column content.length) := by
  obtain ⟨noFeed, rest, parts⟩ := exists_rest_of_content? isContent column
  rw [placeAt?_ofText (counted_of_content? isContent) parts noFeed, List.length_take]

/-- Offsets of later rows are not smaller. -/
theorem offsetAt?_le_above
    {column offset laterRow : Nat}
    (found : (ofText text).offsetAt? row column = some offset)
    (below : row < laterRow) :
    offset ≤ utf8Size (text.above laterRow) := by
  have counted := counted_of_offsetAt? found
  obtain ⟨content, isContent, inLine⟩ := exists_content?_ofText counted
  rw [offsetAt?_ofText counted isContent] at found
  obtain rfl := Option.some.inj found
  refine le_trans ?_ (monotone_utf8Size_above text (Nat.succ_le_of_lt below))
  show _ ≤ utf8Size (text.above (row + 1))
  obtain ⟨more, parts⟩ := (List.take_prefix column content).trans inLine
  rw [← above_append_lineAt, ← parts]
  simp only [utf8Size_append]
  omega

end Rows

/-- Whether a row has a column, which may be the one behind its content. -/
def HasColumn (index : LineIndex) (row column : Nat) : Prop :=
  ∃ content, index.content? row = some content ∧ column ≤ content.length

/-- Every column of every row has an offset, which is between characters of the text.  The place of
the offset is the row with the column, or with the end of the content if the column is behind that.
So offsets ascend with rows and columns, and no two places within contents have one offset. -/
theorem placeAt?_offsetAt? (text : Text) :
    let index := ofText text
    (∀ row < index.rowCount, ∀ column, ∃ content offset,
      index.content? row = some content ∧
      index.offsetAt? row column = some offset ∧
      (∃ front, front <+: text ∧ utf8Size front = offset) ∧
      index.placeAt? offset = some (row, min column content.length)) ∧
    (∀ row column laterRow laterColumn offset laterOffset,
      index.offsetAt? row column = some offset →
      index.offsetAt? laterRow laterColumn = some laterOffset →
      row < laterRow ∨ (row = laterRow ∧ column ≤ laterColumn) →
      offset ≤ laterOffset) ∧
    ∀ row column otherRow otherColumn,
      index.HasColumn row column →
      index.HasColumn otherRow otherColumn →
      index.offsetAt? row column = index.offsetAt? otherRow otherColumn →
      row = otherRow ∧ column = otherColumn := by
  intro index
  refine ⟨fun row counted column => ?_, ?_, ?_⟩
  · obtain ⟨content, isContent, -⟩ := exists_content?_ofText counted
    refine ⟨content, _, isContent, offsetAt?_ofText counted isContent column,
      ⟨_, ?_, rfl⟩, placeAt?_of_content? isContent column⟩
    obtain ⟨-, rest, parts⟩ := exists_rest_of_content? isContent column
    rw [← List.append_assoc] at parts
    exact ⟨rest, parts.symm⟩
  · intro row column laterRow laterColumn offset laterOffset found laterFound order
    have counted := counted_of_offsetAt? laterFound
    obtain ⟨content, isContent, -⟩ := exists_content?_ofText counted
    rw [offsetAt?_ofText counted isContent] at laterFound
    obtain rfl := Option.some.inj laterFound
    rcases order with below | ⟨rfl, behind⟩
    · refine (offsetAt?_le_above found below).trans ?_
      rw [utf8Size_append]
      exact Nat.le_add_right _ _
    · rw [offsetAt?_ofText counted isContent] at found
      obtain rfl := Option.some.inj found
      rw [utf8Size_append, utf8Size_append]
      exact Nat.add_le_add_left (monotone_utf8Size_take content behind) _
  · rintro row column otherRow otherColumn ⟨content, isContent, within⟩
      ⟨otherContent, isOtherContent, otherWithin⟩ same
    rw [offsetAt?_ofText (counted_of_content? isContent) isContent,
      offsetAt?_ofText (counted_of_content? isOtherContent) isOtherContent,
      Option.some.injEq] at same
    have place := placeAt?_of_content? isContent column
    rw [same, placeAt?_of_content? isOtherContent otherColumn, Option.some.injEq, Prod.mk.injEq,
      Nat.min_eq_left within, Nat.min_eq_left otherWithin] at place
    exact ⟨place.1.symm, place.2.symm⟩

/-! ## From offsets to places and back -/

end LineIndex

/-- Whether a cut is among the carriage returns at the end of a row, or between them and the end of
the row: one stands directly before it, and nothing but others between it and the end. -/
def Text.CutsReturns (front rest : Text) : Prop :=
  front.getLast? = some '\r' ∧ ∀ c ∈ (rest.dropWhile (· == '\r')).head?, c = '\n'

/-- Whether a cut is inside a line end of a carriage return and a line feed. -/
def Text.CutsLineEnd (front rest : Text) : Prop :=
  front.getLast? = some '\r' ∧ rest.head? = some '\n'

namespace LineIndex

/-- Whether every offset of a text, but for those inside a line end, comes back from its place. -/
def ReturnsOffsets (text : Text) : Prop :=
  ∀ front rest, text = front ++ rest → ¬ Text.CutsLineEnd front rest →
    ∃ row column, (ofText text).placeAt? (utf8Size front) = some (row, column) ∧
      (ofText text).offsetAt? row column = some (utf8Size front)

section Returns

variable {text front before after rest line lineEnd below : Text} {row : Nat}

/-- A part of a line is within the content unless a carriage return ends it and only others follow
on the line. -/
theorem isPrefix_content_iff :
    before <+: (before ++ after).rdropWhile (· == '\r') ↔
      ¬ (before.getLast? = some '\r' ∧ ∀ c ∈ after, c = '\r') := by
  by_cases onlyReturns : ∀ c ∈ after, c = '\r'
  · have dropped : (before ++ after).rdropWhile (· == '\r') = before.rdropWhile (· == '\r') := by
      have nothing : after.reverse.dropWhile (· == '\r') = [] := by
        simpa [List.dropWhile_eq_nil_iff] using onlyReturns
      rw [List.rdropWhile, List.reverse_append, List.dropWhile_append, nothing]
      rfl
    rw [dropped, and_iff_left onlyReturns]
    rcases List.eq_nil_or_concat' before with rfl | ⟨init, c, rfl⟩
    · simp
    · rw [List.getLast?_concat, Option.some.injEq]
      by_cases isReturn : c = '\r'
      · rw [List.rdropWhile_concat_pos _ _ _ (by simpa using isReturn)]
        refine iff_of_false (fun inside => ?_) (not_not_intro isReturn)
        have shorter := (inside.trans (List.rdropWhile_prefix _ _)).length_le
        rw [List.length_append, List.length_singleton] at shorter
        omega
      · rw [List.rdropWhile_concat_neg _ _ _ (by simpa using isReturn)]
        exact iff_of_true List.prefix_rfl isReturn
  · have kept : ¬ (after.reverse.dropWhile (· == '\r')).isEmpty := by
      simpa [List.dropWhile_eq_nil_iff] using onlyReturns
    rw [List.rdropWhile, List.reverse_append, List.dropWhile_append, if_neg kept,
      List.reverse_append, List.reverse_reverse]
    exact iff_of_true (List.prefix_append _ _) fun both => onlyReturns both.2

/-- A cut on a row is among the carriage returns at its end if one stands before it on the row and
only others behind it. -/
theorem cutsReturns_iff
    (isRow : text.IsRow row (before ++ after) lineEnd below)
    (counted : row ≤ text.count '\n') :
    Text.CutsReturns (text.above row ++ before) (after ++ (lineEnd ++ below)) ↔
      before.getLast? = some '\r' ∧ ∀ c ∈ after, c = '\r' := by
  unfold Text.CutsReturns
  refine and_congr ?_ ?_
  · rw [List.getLast?_append]
    cases before.getLast? with
    | none => simpa using getLast?_above_ne_return counted
    | some c => rfl
  · rw [List.dropWhile_append]
    by_cases onlyReturns : ∀ c ∈ after, c = '\r'
    · have nothing : after.dropWhile (· == '\r') = [] := by
        simpa [List.dropWhile_eq_nil_iff] using onlyReturns
      rw [nothing]
      refine iff_of_true ?_ onlyReturns
      rcases isRow.ends with ⟨-, rfl⟩ | ⟨-, rfl, rfl⟩ <;> simp
    · obtain ⟨c, later, kept⟩ : ∃ c later, after.dropWhile (· == '\r') = c :: later := by
        apply List.exists_cons_of_ne_nil
        simpa [List.dropWhile_eq_nil_iff] using onlyReturns
      have inLine : c ∈ before ++ after :=
        List.mem_append_right _ ((List.dropWhile_suffix _).subset (kept ▸ List.mem_cons_self))
      refine iff_of_false ?_ onlyReturns
      rw [kept]
      intro isFeed
      rw [isFeed c rfl] at inLine
      exact isRow.noFeed inLine

/-- An offset has a place, and comes back from it unless it is among the carriage returns. -/
theorem exists_placeAt?_offsetAt?_iff
    (parts : text = front ++ rest) :
    ∃ row column, (ofText text).placeAt? (utf8Size front) = some (row, column) ∧
      ((ofText text).offsetAt? row column = some (utf8Size front) ↔
        ¬ Text.CutsReturns front rest) := by
  obtain ⟨before, noFeed, frontParts⟩ := exists_column front rest
  rw [← parts] at frontParts
  have feeds : front.count '\n' ≤ text.count '\n' := by
    rw [parts, List.count_append]
    exact Nat.le_add_right _ _
  generalize front.count '\n' = row at frontParts feeds
  subst frontParts
  rw [List.append_assoc] at parts
  have counted : row < (ofText text).rowCount := by
    rw [rowCount_ofText]
    exact Nat.lt_succ_of_le feeds
  obtain ⟨line, lineEnd, below, isRow⟩ := exists_isRow feeds
  obtain ⟨after, rfl, rfl⟩ := isRow.exists_after parts noFeed
  refine ⟨row, before.length, placeAt?_ofText counted parts noFeed, ?_⟩
  rw [offsetAt?_ofText counted (content?_of_isRow counted isRow), cutsReturns_iff isRow feeds,
    ← isPrefix_content_iff, Option.some.injEq, utf8Size_append, utf8Size_append,
    Nat.add_left_cancel_iff]
  constructor
  · intro sameSize
    have inLine := (List.take_prefix before.length _).trans
      (List.rdropWhile_prefix (· == '\r') (before ++ after))
    have inBefore := List.prefix_of_prefix_length_le inLine (List.prefix_append before after)
      (List.length_take_le _ _)
    exact List.prefix_iff_eq_take.2 (eq_of_isPrefix_of_utf8Size_eq inBefore sameSize).symm
  · intro within
    rw [← List.prefix_iff_eq_take.1 within]

theorem returnsOffsets_iff_cuts :
    ReturnsOffsets text ↔ ∀ front rest, text = front ++ rest →
      ¬ Text.CutsLineEnd front rest → ¬ Text.CutsReturns front rest := by
  refine forall₄_congr fun front rest parts _ => ?_
  obtain ⟨row, column, place, returns⟩ := exists_placeAt?_offsetAt?_iff parts
  rw [← returns]
  constructor
  · rintro ⟨_, _, same, offset⟩
    obtain ⟨rfl, rfl⟩ := Prod.mk.inj (Option.some.inj (place.symm.trans same))
    exact offset
  · exact fun offset => ⟨row, column, place, offset⟩

/-- All offsets come back just if there are no two carriage returns before a line feed and none at
the end of the text. -/
theorem returnsOffsets_iff :
    ReturnsOffsets text ↔ ¬ ['\r', '\r', '\n'] <:+: text ∧ text.getLast? ≠ some '\r' := by
  rw [returnsOffsets_iff_cuts]
  constructor
  · intro apart
    refine ⟨?_, fun lastReturn => ?_⟩
    · rintro ⟨front, rest, rfl⟩
      refine apart (front ++ ['\r']) ('\r' :: '\n' :: rest) (by simp) ?_ ?_
      · simp [Text.CutsLineEnd]
      · simp [Text.CutsReturns]
    · refine apart text [] (List.append_nil text).symm ?_ ⟨lastReturn, ?_⟩
      · simp [Text.CutsLineEnd]
      · simp
  · rintro ⟨noPair, noLast⟩ front rest rfl noLineEnd ⟨frontReturn, ends⟩
    obtain ⟨init, rfl⟩ := List.getLast?_eq_some_iff.1 frontReturn
    have returns : rest.takeWhile (· == '\r') =
        List.replicate (rest.takeWhile (· == '\r')).length '\r' :=
      List.eq_replicate_of_mem fun c member => by simpa using List.mem_takeWhile_imp member
    have parts := List.takeWhile_append_dropWhile (p := (· == '\r')) (l := rest)
    rw [returns] at parts
    generalize (rest.takeWhile (· == '\r')).length = count at parts
    generalize rest.dropWhile (· == '\r') = behind at parts ends
    subst parts
    cases behind with
    | nil =>
        -- The text ends in the carriage returns.
        refine noLast ?_
        rw [List.append_nil, List.append_assoc, List.singleton_append, ← List.replicate_succ,
          List.replicate_succ', ← List.append_assoc, List.getLast?_concat]
    | cons c below =>
        obtain rfl : c = '\n' := ends c rfl
        cases count with
        | zero => exact noLineEnd ⟨List.getLast?_concat, rfl⟩
        | succ count =>
            have moved :
                List.replicate count '\r' ++ ['\r'] = '\r' :: List.replicate count '\r' := by
              rw [← List.replicate_succ', List.replicate_succ]
            refine noPair ⟨init ++ List.replicate count '\r', below, ?_⟩
            calc
              init ++ List.replicate count '\r' ++ ['\r', '\r', '\n'] ++ below
                  = init ++ ('\r' :: List.replicate count '\r') ++ '\r' :: '\n' :: below := by
                rw [← moved]
                simp
              _ = init ++ ['\r'] ++ (List.replicate count '\r' ++ ['\r'] ++ '\n' :: below) := by
                simp
              _ = init ++ ['\r'] ++ (List.replicate (count + 1) '\r' ++ '\n' :: below) := by
                rw [List.replicate_succ']

end Returns

/-- Every cut of a text has a place, and its offset comes back from the place unless the cut is
among the carriage returns at the end of a row.  So the offsets of a text all come back, but for
those inside a line end, just if it has no two carriage returns before a line feed and none at its
end. -/
theorem offsetAt?_placeAt?_iff (text : Text) :
    (∀ front rest, text = front ++ rest →
      ∃ row column, (ofText text).placeAt? (utf8Size front) = some (row, column) ∧
        ((ofText text).offsetAt? row column = some (utf8Size front) ↔
          ¬ Text.CutsReturns front rest)) ∧
    (ReturnsOffsets text ↔ ¬ ['\r', '\r', '\n'] <:+: text ∧ text.getLast? ≠ some '\r') :=
  ⟨fun _ _ => exists_placeAt?_offsetAt?_iff, returnsOffsets_iff⟩

/-- A carriage return that ends a text is no part of a line end, but the place behind it stands for
the one before it. -/
theorem not_returnsOffsets_lastReturn :
    ¬ ReturnsOffsets ['a', '\r'] ∧
      (ofText ['a', '\r']).placeAt? 2 = some (0, 2) ∧
        (ofText ['a', '\r']).offsetAt? 0 2 = some 1 := by
  have place : (ofText ['a', '\r']).placeAt? 2 = some (0, 2) :=
    @placeAt?_ofText ['a', '\r'] 0 ['a', '\r'] [] (by decide) rfl (by decide)
  have offset : (ofText ['a', '\r']).offsetAt? 0 2 = some 1 := by decide
  refine ⟨fun returns => ?_, place, offset⟩
  obtain ⟨row, column, same, back⟩ := returns ['a', '\r'] [] rfl (by simp [Text.CutsLineEnd])
  obtain ⟨rfl, rfl⟩ := Prod.mk.inj (Option.some.inj (place.symm.trans same))
  exact absurd (offset.symm.trans back) (by decide)

end LineIndex

end Pipescript
