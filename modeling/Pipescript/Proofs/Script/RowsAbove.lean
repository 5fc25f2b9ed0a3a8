import Mathlib.Data.List.Sort
import Pipescript.Proofs.Script.ChangedRows

/-!
# Rows above an edit

Macros and assignments are replaced row by row, and a scan goes from one row to the next.  So the
first rows of a script decide alone which of them are changed and where their arrows are: whatever
the rows below do to an open literal, bracket or block, or to the scan itself, no row above gains an
arrow or loses one.
-/

namespace Pipescript

/-! ## Macros row by row -/

/-- A macro does not go over a line end. -/
theorem environmentMacro?_append_feed (front rest : Text) :
    environmentMacro? (front ++ '\n' :: rest) =
      (environmentMacro? front).map fun found => (found.1, found.2 ++ '\n' :: rest) := by
  have noWord : isWordChar '\n' = false := by decide +kernel
  have taken : (front ++ '\n' :: rest).takeWhile isWordChar = front.takeWhile isWordChar := by
    rw [List.takeWhile_append]
    split
    · next all =>
        rw [List.takeWhile_cons_of_neg (by simp [noWord]), List.append_nil]
        exact ((List.takeWhile_prefix _).eq_of_length all).symm
    · rfl
  have dropped : (front ++ '\n' :: rest).dropWhile isWordChar =
      front.dropWhile isWordChar ++ '\n' :: rest := by
    rw [List.dropWhile_append]
    split
    · next none =>
        rw [List.isEmpty_iff.1 none, List.dropWhile_cons_of_neg (by simp [noWord])]
        rfl
    · rfl
  unfold environmentMacro?
  rw [taken, dropped]
  cases front.takeWhile isWordChar with
  | nil => rfl
  | cons first later =>
      cases front.dropWhile isWordChar with
      | nil => rfl
      | cons mark behind =>
          by_cases ends : mark = '!'
          · subst ends
            rfl
          · simp [ends]

theorem withoutMacros_append_feed (front rest : Text) :
    withoutMacros (front ++ '\n' :: rest) = withoutMacros front ++ '\n' :: withoutMacros rest := by
  fun_induction withoutMacros front with
  | case1 =>
      rw [List.nil_append, withoutMacros, if_neg (by decide)]
      rfl
  | case2 front name behind found inductionHypothesis =>
      have stillFound : environmentMacro? (front ++ '\n' :: rest) =
          some (name, behind ++ '\n' :: rest) := by
        rw [environmentMacro?_append_feed, found]
        rfl
      rw [List.cons_append, withoutMacros, if_pos rfl]
      split
      · next madeName madeBehind made =>
          obtain ⟨rfl, rfl⟩ := Prod.mk.inj (Option.some.inj (made.symm.trans stillFound))
          rw [inductionHypothesis]
          simp
      · next nothing => cases nothing.symm.trans stillFound
  | case3 front nothing inductionHypothesis =>
      have stillNothing : environmentMacro? (front ++ '\n' :: rest) = none := by
        rw [environmentMacro?_append_feed, nothing]
        rfl
      rw [List.cons_append, withoutMacros, if_pos rfl]
      split
      · next made => cases made.symm.trans stillNothing
      · rw [inductionHypothesis]
        rfl
  | case4 c front noDollar inductionHypothesis =>
      rw [List.cons_append, withoutMacros, if_neg noDollar, inductionHypothesis]
      rfl

theorem noFeed_withoutMacros
    {rowText : Text}
    (noFeed : '\n' ∉ rowText) :
    '\n' ∉ withoutMacros rowText := by
  intro feed
  obtain ⟨index, here⟩ := List.getElem?_of_mem feed
  have kept := Text.rel_getElem?_of_forall₂ (forall₂_withoutMacros rowText) index
  rw [here] at kept
  cases before : rowText[index]? with
  | none => rw [before] at kept; cases kept
  | some c =>
      rw [before] at kept
      obtain ⟨change⟩ := kept
      obtain rfl := (macroChange_keepsFeeds c '\n' change).2 rfl
      exact noFeed (List.mem_of_getElem? before)

/-- The rows behind the pass are the rows before it, each without its macros. -/
theorem toLines_withoutMacros (script : Text) :
    (withoutMacros script).toLines = script.toLines.map withoutMacros := by
  induction script using Text.lineInduction with
  | empty => rw [withoutMacros]; rfl
  | last line nonempty noFeed =>
      have stillNonempty : withoutMacros line ≠ [] := by
        intro nothing
        have sameLength := (forall₂_withoutMacros line).length_eq
        rw [nothing, List.length_nil] at sameLength
        exact nonempty (List.length_eq_zero_iff.1 sameLength)
      rw [Text.toLines_of_noFeed nonempty noFeed,
        Text.toLines_of_noFeed stillNonempty (noFeed_withoutMacros noFeed)]
      rfl
  | line front rest noFeed inductionHypothesis =>
      have firstRow : withoutMacros (front ++ ['\n']) = withoutMacros front ++ ['\n'] := by
        rw [withoutMacros_append_feed, withoutMacros]
      rw [withoutMacros_append_feed, Text.toLines_append_feed (noFeed_withoutMacros noFeed),
        Text.toLines_append_feed noFeed, inductionHypothesis, List.map_cons, firstRow]

/-- The rows that the last pass reads. -/
theorem toLines_assigned (script : Text) :
    (withoutAssignments (withoutMacros script)).1.toLines =
      script.toLines.map fun line => withoutDoubleColons (withoutMacros line) := by
  rw [toLines_withoutAssignments, toLines_withoutMacros, List.map_map]
  rfl

/-! ## Scanning -/

/-- The first rows that a scan reads decide which operators it finds on them. -/
theorem ScanState.mem_operators_of_take_eq
    {state : ScanState} {rows count : Nat} {lastLine : Text} {lines others : List Text}
    {token : Token}
    (sameRows : lines.take count = others.take count)
    (member : token ∈ (state.scanRows rows lastLine lines).tokens)
    (operator : token.kind = .operator)
    (above : token.row ≤ rows + count) :
    token ∈ (state.scanRows rows lastLine others).tokens := by
  induction count generalizing state rows lastLine lines others with
  | zero =>
      -- Whatever comes next, its operators are on rows that were not read before.
      obtain ⟨index, line, sameRow, -⟩ := operator_of_scanRows member operator
      omega
  | succ count inductionHypothesis =>
      cases lines with
      | nil =>
          obtain ⟨index, line, -, atIndex, -⟩ := operator_of_scanRows member operator
          simp at atIndex
      | cons line lines =>
          cases others with
          | nil => simp at sameRows
          | cons other others =>
              rw [List.take_succ_cons, List.take_succ_cons] at sameRows
              obtain ⟨rfl, sameBelow⟩ := List.cons.inj sameRows
              rw [scanRows] at member ⊢
              cases scanned : state.scanRow (rows + 1) line with
              | error error => rwa [scanned] at member
              | ok made =>
                  rw [scanned] at member
                  rcases List.mem_append.1 member with here | below
                  · exact List.mem_append_left _ here
                  · exact List.mem_append_right _
                      (inductionHypothesis sameBelow below (by omega))

/-! ## Arrows and changed rows -/

/-- A text in which every row has its line end. -/
def Text.HasWholeRows (text : Text) : Prop :=
  text = [] ∨ ∃ front, text = front ++ ['\n']

theorem Text.HasWholeRows.toLines_append
    {front : Text}
    (wholeRows : front.HasWholeRows)
    (rest : Text) :
    (front ++ rest).toLines = front.toLines ++ rest.toLines := by
  induction front using lineInduction with
  | empty => rfl
  | last line nonempty noFeed =>
      rcases wholeRows with nothing | ⟨shown, rfl⟩
      · exact absurd nothing nonempty
      · simp at noFeed
  | line line front noFeed inductionHypothesis =>
      have below : front.HasWholeRows := by
        rcases List.eq_nil_or_concat front with nothing | ⟨shown, last, rfl⟩
        · exact .inl nothing
        · rcases wholeRows with nothing | ⟨whole, ends⟩
          · simp at nothing
          · rw [List.concat_eq_append, ← List.cons_append, ← List.append_assoc] at ends
            obtain ⟨-, same⟩ := List.append_inj' ends rfl
            exact .inr ⟨shown, by rw [List.concat_eq_append, same]⟩
      rw [List.append_assoc, List.cons_append, toLines_append_feed noFeed, toLines_append_feed noFeed,
        inductionHypothesis below, List.cons_append]

namespace PlainScript

variable {script other : Text} {count : Nat}

theorem ascending_arrows : (ofScript script).arrows.Pairwise Arrow.Before := by
  rw [arrows_ofScript, arrows_withoutArrows]
  exact Arrow.pairwise_sort _

theorem mem_arrows_of_take_eq
    (sameRows : script.toLines.take count = other.toLines.take count)
    {arrow : Arrow}
    (member : arrow ∈ (ofScript script).arrows)
    (above : arrow.row < count) :
    arrow ∈ (ofScript other).arrows := by
  rw [arrows_ofScript, arrows_withoutArrows, Arrow.mem_sort, Arrow.mem_find_scan] at member ⊢
  obtain ⟨token, tokenMember, isArrow, rfl⟩ := member
  have sameAssigned :
      (withoutAssignments (withoutMacros script)).1.toLines.take count =
        (withoutAssignments (withoutMacros other)).1.toLines.take count := by
    rw [toLines_assigned, toLines_assigned, ← List.map_take, ← List.map_take, sameRows]
  have operator := (Arrow.operator_of_isOperator isArrow).1
  have tokenAbove : token.row ≤ 0 + count := by
    dsimp only at above
    omega
  exact ⟨token, ScanState.mem_operators_of_take_eq sameAssigned tokenMember operator tokenAbove,
    isArrow, rfl⟩

theorem mem_changedRows_of_take_eq
    (sameRows : script.toLines.take count = other.toLines.take count)
    {row : Nat}
    (member : row ∈ (ofScript script).changedRows)
    (above : row < count) :
    row ∈ (ofScript other).changedRows := by
  rw [mem_changedRows] at member ⊢
  rcases member with arrowRow | assignmentRow
  · obtain ⟨arrow, arrowMember, rfl⟩ := List.mem_map.1 arrowRow
    exact .inl (List.mem_map.2 ⟨arrow, mem_arrows_of_take_eq sameRows arrowMember above, rfl⟩)
  · obtain ⟨line, here, holds⟩ := mem_rows_withoutAssignments.1 assignmentRow
    refine .inr (mem_rows_withoutAssignments.2 ⟨line, ?_, holds⟩)
    rw [toLines_withoutMacros, List.getElem?_map, ← List.getElem?_take_of_lt above] at here ⊢
    rwa [← sameRows]

/-- What stands below whole rows changes nothing of what is kept about them: their arrows and their
changed rows are the same before every text. -/
theorem ofScript_above
    {front : Text}
    (wholeRows : front.HasWholeRows)
    (first second : Text) :
    let count := front.toLines.length
    (ofScript (front ++ first)).arrows.filter (·.row < count) =
        (ofScript (front ++ second)).arrows.filter (·.row < count) ∧
      (ofScript (front ++ first)).changedRows.rows.filter (· < count) =
        (ofScript (front ++ second)).changedRows.rows.filter (· < count) := by
  intro count
  have rowsOfFront : ∀ rest : Text, (front ++ rest).toLines.take count = front.toLines := by
    intro rest
    rw [wholeRows.toLines_append, List.take_left]
  have forth := (rowsOfFront first).trans (rowsOfFront second).symm
  have back := forth.symm
  constructor
  · refine List.Pairwise.eq_of_mem_iff (ascending_arrows.filter _) (ascending_arrows.filter _)
      fun arrow => ?_
    simp only [List.mem_filter, decide_eq_true_eq]
    exact ⟨fun ⟨member, above⟩ => ⟨mem_arrows_of_take_eq forth member above, above⟩,
      fun ⟨member, above⟩ => ⟨mem_arrows_of_take_eq back member above, above⟩⟩
  · refine List.Pairwise.eq_of_mem_iff ((ofScript _).changedRows.ascending.filter _)
      ((ofScript _).changedRows.ascending.filter _) fun row => ?_
    simp only [List.mem_filter, decide_eq_true_eq]
    exact ⟨fun ⟨member, above⟩ => ⟨mem_changedRows_of_take_eq forth member above, above⟩,
      fun ⟨member, above⟩ => ⟨mem_changedRows_of_take_eq back member above, above⟩⟩

/-- Two rows, of which the second leaves a literal open. -/
def openLiteralRows : Text :=
  "a:1 -> b\ns = \'\'\'\n".toList

/-- Whether the text below closes the literal or not, the rows above keep their one arrow. -/
theorem ofScript_above_openLiteral :
    let closed := openLiteralRows ++ "\'\'\' -> c\n".toList
    let unclosed := openLiteralRows ++ "q::Queue() -> c".toList
    openLiteralRows.HasWholeRows ∧
      (ofScript closed).arrows.filter (·.row < 2) =
        (ofScript unclosed).arrows.filter (·.row < 2) ∧
      (ofScript closed).changedRows.rows.filter (· < 2) =
        (ofScript unclosed).changedRows.rows.filter (· < 2) := by
  have wholeRows : openLiteralRows.HasWholeRows := .inr ⟨openLiteralRows.dropLast, rfl⟩
  exact ⟨wholeRows, ofScript_above wholeRows "\'\'\' -> c\n".toList "q::Queue() -> c".toList⟩

end PlainScript

end Pipescript
