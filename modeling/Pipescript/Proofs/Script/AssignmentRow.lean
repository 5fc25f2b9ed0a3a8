import Pipescript.Proofs.Text.Lines
import Pipescript.Script.Assignment

/-!
# Rows with assignments

Replacing double colons moves no character, works row by row and changes exactly the rows that hold
one.
-/

namespace Pipescript

/-- What replacing assignments may do to a character. -/
def AssignmentChange (c d : Char) : Prop :=
  d = c ∨ (c = ':' ∧ (d = '=' ∨ d = ' '))

theorem assignmentChange_keepsFeeds : Text.KeepsFeeds AssignmentChange := by
  rintro c d (rfl | ⟨rfl, rfl | rfl⟩)
  · rfl
  · decide
  · decide

theorem forall₂_withoutDoubleColons (line : Text) :
    List.Forall₂ AssignmentChange line (withoutDoubleColons line) := by
  fun_induction withoutDoubleColons line with
  | case1 rest inductionHypothesis =>
      exact .cons (.inr ⟨rfl, .inl rfl⟩) (.cons (.inr ⟨rfl, .inr rfl⟩) inductionHypothesis)
  | case2 c rest _ inductionHypothesis => exact .cons (.inl rfl) inductionHypothesis
  | case3 => exact .nil

theorem forall₂_withoutAssignments (script : Text) :
    List.Forall₂ AssignmentChange script (withoutAssignments script).1 := by
  have lines : List.Forall₂ (List.Forall₂ AssignmentChange) script.toLines
      (script.toLines.map withoutDoubleColons) :=
    List.forall₂_map_right_iff.2 (List.forall₂_same.2 fun line _ =>
      forall₂_withoutDoubleColons line)
  have whole := List.rel_flatten lines
  rwa [Text.flatten_toLines] at whole

/-! ## Row by row -/

theorem withoutDoubleColons_append
    {c : Char}
    (noColon : c ≠ ':')
    (front rest : Text) :
    withoutDoubleColons (front ++ c :: rest) =
      withoutDoubleColons front ++ c :: withoutDoubleColons rest := by
  fun_induction withoutDoubleColons front with
  | case1 front inductionHypothesis =>
      rw [List.cons_append, List.cons_append, withoutDoubleColons, inductionHypothesis]
      rfl
  | case2 d front notDouble inductionHypothesis =>
      rw [List.cons_append, withoutDoubleColons, inductionHypothesis]
      · rfl
      · intro behind isColon parts
        cases front with
        | nil => exact noColon (List.cons.inj parts).1
        | cons e front =>
            rw [List.cons_append] at parts
            obtain ⟨rfl, -⟩ := List.cons.inj parts
            exact notDouble front isColon rfl
  | case3 =>
      rw [List.nil_append, withoutDoubleColons]
      · rfl
      · exact fun behind isColon _ => noColon isColon

theorem noFeed_withoutDoubleColons
    {line : Text}
    (noFeed : '\n' ∉ line) :
    '\n' ∉ withoutDoubleColons line := by
  fun_induction withoutDoubleColons line with
  | case1 rest inductionHypothesis =>
      simp only [List.mem_cons, not_or] at noFeed ⊢
      exact ⟨by decide, by decide, inductionHypothesis noFeed.2.2⟩
  | case2 c rest _ inductionHypothesis =>
      simp only [List.mem_cons, not_or] at noFeed ⊢
      exact ⟨noFeed.1, inductionHypothesis noFeed.2⟩
  | case3 => simp

theorem withoutDoubleColons_ne_nil
    {line : Text}
    (nonempty : line ≠ []) :
    withoutDoubleColons line ≠ [] := by
  unfold withoutDoubleColons
  split
  · exact List.cons_ne_nil _ _
  · exact List.cons_ne_nil _ _
  · exact absurd rfl nonempty

/-- The rows behind the pass are the rows before it, each without its double colons. -/
theorem toLines_withoutAssignments (script : Text) :
    (withoutAssignments script).1.toLines = script.toLines.map withoutDoubleColons := by
  unfold withoutAssignments
  dsimp only
  induction script using Text.lineInduction with
  | empty => rfl
  | last line nonempty noFeed =>
      rw [Text.toLines_of_noFeed nonempty noFeed]
      simpa using Text.toLines_of_noFeed (withoutDoubleColons_ne_nil nonempty)
        (noFeed_withoutDoubleColons noFeed)
  | line front rest noFeed inductionHypothesis =>
      have firstRow : withoutDoubleColons (front ++ ['\n']) =
          withoutDoubleColons front ++ ['\n'] := withoutDoubleColons_append (by decide) front []
      rw [Text.toLines_append_feed noFeed, List.map_cons, List.flatten_cons, firstRow,
        List.append_assoc, List.singleton_append,
        Text.toLines_append_feed (noFeed_withoutDoubleColons noFeed), inductionHypothesis]

/-- A row with a double colon changes where the double colon stands. -/
theorem exists_changed_of_includes
    {rowText : Text}
    (holds : Text.includes [':', ':'] rowText) :
    ∃ column : Nat, rowText[column]? = some ':' ∧ (withoutDoubleColons rowText)[column]? = some '=' := by
  fun_induction withoutDoubleColons rowText with
  | case1 rest => exact ⟨0, rfl, rfl⟩
  | case2 c rest notDouble inductionHypothesis =>
      have behind : Text.includes [':', ':'] rest := by
        rw [Text.includes, Bool.or_eq_true] at holds
        rcases holds with starts | behind
        · obtain ⟨later, parts⟩ := List.isPrefixOf_iff_prefix.1 starts
          obtain ⟨isColon, behindParts⟩ := List.cons.inj parts
          exact absurd behindParts.symm (notDouble later isColon.symm)
        · exact behind
      obtain ⟨column, colon, equals⟩ := inductionHypothesis behind
      exact ⟨column + 1, colon, equals⟩
  | case3 => simp [Text.includes] at holds

theorem withoutDoubleColons_of_not_includes
    {line : Text}
    (none : Text.includes [':', ':'] line = false) :
    withoutDoubleColons line = line := by
  fun_induction withoutDoubleColons line with
  | case1 rest => simp [Text.includes, List.isPrefixOf] at none
  | case2 c rest _ inductionHypothesis =>
      rw [Text.includes, Bool.or_eq_false_iff] at none
      rw [inductionHypothesis none.2]
  | case3 => rfl

theorem mem_assignmentRows {tested row : Nat} {lines : List Text} :
    tested ∈ assignmentRows row lines ↔
      ∃ index line, tested = row + index ∧ lines[index]? = some line ∧
        Text.includes [':', ':'] line := by
  fun_induction assignmentRows row lines with
  | case1 => simp
  | case2 row line lines holds inductionHypothesis =>
      rw [List.mem_cons, inductionHypothesis]
      constructor
      · rintro (rfl | ⟨index, below, rfl, found, belowHolds⟩)
        · exact ⟨0, line, rfl, rfl, holds⟩
        · exact ⟨index + 1, below, by omega, found, belowHolds⟩
      · rintro ⟨index, found, rfl, here, foundHolds⟩
        cases index with
        | zero => exact .inl rfl
        | succ index => exact .inr ⟨index, found, by omega, here, foundHolds⟩
  | case3 row line lines none inductionHypothesis =>
      rw [inductionHypothesis]
      constructor
      · rintro ⟨index, below, rfl, found, belowHolds⟩
        exact ⟨index + 1, below, by omega, found, belowHolds⟩
      · rintro ⟨index, found, rfl, here, foundHolds⟩
        cases index with
        | zero =>
            obtain rfl : line = found := by simpa using here
            exact absurd foundHolds none
        | succ index => exact ⟨index, found, by omega, here, foundHolds⟩

theorem mem_rows_withoutAssignments {row : Nat} {script : Text} :
    row ∈ (withoutAssignments script).2 ↔
      ∃ line, script.toLines[row]? = some line ∧ Text.includes [':', ':'] line := by
  have rows : row ∈ (withoutAssignments script).2 ↔ row ∈ assignmentRows 0 script.toLines := by
    have noRow : row ∉ RowSet.empty := List.not_mem_nil
    simp [withoutAssignments, RowSet.ofList, noRow]
  rw [rows, mem_assignmentRows]
  constructor
  · rintro ⟨index, line, rfl, here, holds⟩
    exact ⟨line, by simpa using here, holds⟩
  · rintro ⟨line, here, holds⟩
    exact ⟨row, line, by omega, here, holds⟩

end Pipescript
