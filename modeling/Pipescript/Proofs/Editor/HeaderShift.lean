import Mathlib
import Pipescript.Editor.Document
import Pipescript.Proofs.Arrow.Lower
import Pipescript.Proofs.Script.Layout

/-!
# Scripts behind the header line

The header line holds no pipeline notation and leaves no bracket, literal or block open.  So making
a script plain behind the header line is making it plain without, and then putting the header line
before it: all rows of arrows and all changed rows are one further down.
-/

namespace Pipescript

/-! ## Macros and assignments -/

theorem withoutMacros_append
    {front : Text}
    (noDollar : '$' ∉ front)
    (rest : Text) :
    withoutMacros (front ++ rest) = front ++ withoutMacros rest := by
  induction front with
  | nil => rfl
  | cons c front inductionHypothesis =>
      obtain ⟨notDollar, frontNoDollar⟩ : ¬ c = '$' ∧ '$' ∉ front := by
        simpa [eq_comm] using noDollar
      rw [List.cons_append, withoutMacros, if_neg notDollar, inductionHypothesis frontNoDollar]
      rfl

theorem assignmentRows_lower (count row : Nat) (lines : List Text) :
    assignmentRows (row + count) lines = (assignmentRows row lines).map (· + count) := by
  induction lines generalizing row with
  | nil => rfl
  | cons line lines inductionHypothesis =>
      have nextRow : row + count + 1 = row + 1 + count := by omega
      rw [assignmentRows, assignmentRows, nextRow, inductionHypothesis]
      split <;> rfl

namespace RowSet

theorem insertSorted_lower (count row : Nat) (rows : List Nat) :
    insertSorted (row + count) (rows.map (· + count)) =
      (insertSorted row rows).map (· + count) := by
  induction rows with
  | nil => rfl
  | cons first later inductionHypothesis =>
      simp only [List.map_cons, insertSorted, inductionHypothesis, Nat.add_lt_add_iff_right,
        Nat.add_right_cancel_iff]
      split
      · rfl
      · split <;> rfl

theorem rows_insertAll_lower
    {set lowered : RowSet} {count : Nat}
    (sameRows : lowered.rows = set.rows.map (· + count))
    (rows : List Nat) :
    (lowered.insertAll (rows.map (· + count))).rows =
      (set.insertAll rows).rows.map (· + count) := by
  induction rows generalizing set lowered with
  | nil => exact sameRows
  | cons row rows inductionHypothesis =>
      have inserted : (lowered.insert (row + count)).rows =
          (set.insert row).rows.map (· + count) := by
        show insertSorted (row + count) lowered.rows = _
        rw [sameRows, insertSorted_lower]
        rfl
      exact inductionHypothesis inserted

end RowSet

/-! ## The header line -/

/-- The header line as a row. -/
def headerRow : Text :=
  headerLine ++ ['\n']

/-- The tokens of the header line. -/
def headerTokens : List Token :=
  [⟨.name, "from".toList, 1, 0⟩, ⟨.name, "pyls_bess".toList, 1, 5⟩, ⟨.operator, ['.'], 1, 14⟩,
    ⟨.name, "bess_doc".toList, 1, 15⟩, ⟨.operator, ['.'], 1, 23⟩,
    ⟨.name, "globals".toList, 1, 24⟩, ⟨.name, "import".toList, 1, 32⟩,
    ⟨.operator, ['*'], 1, 39⟩]

/-- The token of its line end. -/
def headerEnd : Token :=
  ⟨.newline, ['\n'], 1, 40⟩

theorem toLines_headerRow_append (script : Text) :
    (headerRow ++ script).toLines = headerRow :: script.toLines := by
  have noFeed : '\n' ∉ headerLine := by decide
  have shape : headerRow ++ script = headerLine ++ '\n' :: script := by simp [headerRow]
  rw [shape, Text.toLines_append_feed noFeed]
  rfl

/-- Behind the header line a scan is where it started. -/
theorem scanRow_headerRow :
    ScanState.start.scanRow 1 headerRow = .ok (headerTokens ++ [headerEnd], ScanState.start) := by
  cbv

theorem withoutMacros_headerRow_append (script : Text) :
    withoutMacros (headerRow ++ script) = headerRow ++ withoutMacros script :=
  withoutMacros_append (by decide) script

theorem withoutAssignments_headerRow_append (script : Text) :
    (withoutAssignments (headerRow ++ script)).1 =
        headerRow ++ (withoutAssignments script).1 ∧
      (withoutAssignments (headerRow ++ script)).2.rows =
        (withoutAssignments script).2.rows.map (· + 1) := by
  have none : Text.includes [':', ':'] headerRow = false := by decide
  have belowRows : assignmentRows 0 (headerRow :: script.toLines) =
      (assignmentRows 0 script.toLines).map (· + 1) := by
    rw [assignmentRows, if_neg (by rw [none]; decide), assignmentRows_lower]
  unfold withoutAssignments
  dsimp only
  rw [toLines_headerRow_append, belowRows, List.map_cons, List.flatten_cons,
    withoutDoubleColons_of_not_includes none]
  exact ⟨rfl, @RowSet.rows_insertAll_lower .empty .empty 1 rfl _⟩

/-! ## Tokens and arrows -/

theorem ScanState.scanRows_of_not_lacksNewline
    {lastLine other : Text}
    (ended : lacksNewline lastLine = false)
    (otherEnded : lacksNewline other = false)
    (state : ScanState) (rows : Nat) (lines : List Text) :
    state.scanRows rows lastLine lines = state.scanRows rows other lines := by
  cases lines with
  | nil => simp [scanRows, finish, ended, otherEnded]
  | cons line lines => rfl

theorem tokens_scan_headerRow_append (script : Text) :
    (scan (headerRow ++ script)).tokens =
      headerTokens ++ headerEnd :: (scan script).tokens.map (Token.lower 1) := by
  have below : ScanState.start.scanRows 1 headerRow script.toLines = (scan script).lower 1 := by
    have ended : ScanState.lacksNewline headerRow = false := by decide
    have nothingEnded : ScanState.lacksNewline [] = false := by decide
    rw [ScanState.scanRows_of_not_lacksNewline ended nothingEnded]
    exact ScanState.scanRows_lower 1 ScanState.start 0 [] script.toLines
  rw [scan, toLines_headerRow_append, ScanState.scanRows, scanRow_headerRow]
  dsimp only
  rw [below]
  simp [Scan.prepend, Scan.lower]

theorem find_scan_headerRow_append (script : Text) :
    Arrow.find (scan (headerRow ++ script)).tokens =
      (Arrow.find (scan script).tokens).map (Arrow.lower 1) := by
  have noArrow : Arrow.findFrom none (headerTokens ++ [headerEnd]) = [] := by decide
  have rows : ∀ token ∈ (scan script).tokens, token.kind = .operator → 0 < token.row := by
    intro token member operator
    obtain ⟨row, _, sameRow, _⟩ := operator_of_scan member operator
    omega
  rw [Arrow.find, tokens_scan_headerRow_append, Arrow.findFrom_append, noArrow, List.nil_append,
    Arrow.findFrom_some (by decide)]
  exact Arrow.findFrom_lower rows 1 none

theorem arrows_headerRow_append (script : Text) :
    (withoutArrows (headerRow ++ script)).2 = (withoutArrows script).2.map (Arrow.lower 1) := by
  rw [arrows_withoutArrows, arrows_withoutArrows, find_scan_headerRow_append, Arrow.sort_lower]

/-! ## Segments and gates -/

theorem segments_headerRow_append (script : Text) (arrows : List Arrow) :
    segments (headerRow ++ script) (arrows.map (Arrow.lower 1)) =
      ((cutRows 0 arrows script.toLines).prepend headerRow).toList := by
  have noneHere : (arrows.map (Arrow.lower 1)).takeWhile (·.row ≤ 0) = [] := by
    cases arrows <;> simp [Arrow.lower]
  have allBelow : (arrows.map (Arrow.lower 1)).dropWhile (·.row ≤ 0) =
      arrows.map (Arrow.lower 1) := by
    cases arrows <;> simp [Arrow.lower]
  rw [segments, toLines_headerRow_append, cutRows, noneHere, allBelow, cutRows_lower]
  rfl

theorem walkToGate_append
    {behind : Text}
    (noColon : ':' ∉ behind)
    (side : GateSide) (passed ahead : Text) :
    walkToGate side passed (ahead ++ behind) =
      (walkToGate side passed ahead).map fun found => (found.1, found.2 ++ behind) := by
  have nothing : ∀ passed, walkToGate side passed behind = none := by
    induction behind with
    | nil => exact fun _ => rfl
    | cons c behind inductionHypothesis =>
        obtain ⟨notColon, behindNoColon⟩ : ¬ c = ':' ∧ ':' ∉ behind := by
          simpa [eq_comm] using noColon
        intro passed
        rw [walkToGate, if_neg notColon]
        exact inductionHypothesis behindNoColon _
  fun_induction walkToGate side passed ahead with
  | case1 passed => exact nothing passed
  | case2 passed ahead blank => simp [walkToGate, blank]
  | case3 passed ahead notBlank gate => simp [walkToGate, notBlank, gate]
  | case4 passed ahead notBlank noGate inductionHypothesis =>
      rw [List.cons_append, walkToGate, if_pos rfl, if_neg notBlank, if_neg noGate]
      exact inductionHypothesis
  | case5 passed c ahead notColon inductionHypothesis =>
      rw [List.cons_append, walkToGate, if_neg notColon]
      exact inductionHypothesis

theorem sealOutputGate_append
    {front : Text}
    (noColon : ':' ∉ front)
    (segment : Text) :
    sealOutputGate (front ++ segment) = front ++ sealOutputGate segment := by
  unfold sealOutputGate
  rw [List.reverse_append, walkToGate_append (by simpa using noColon)]
  cases walkToGate .output [] segment.reverse with
  | none => rfl
  | some found => simp

/-- Only the first segment notices what is put before it. -/
theorem sealGates_append_cons
    {front : Text}
    (noColon : ':' ∉ front)
    (segment : Text) (later : List Text) :
    ∃ head tail, sealGates (segment :: later) = head :: tail ∧
      sealGates ((front ++ segment) :: later) = (front ++ head) :: tail := by
  obtain ⟨head, tail, sealed⟩ : ∃ head tail, sealGates (segment :: later) = head :: tail :=
    List.exists_cons_of_length_pos (by rw [length_sealGates]; exact Nat.succ_pos _)
  refine ⟨head, tail, sealed, List.ext_getElem? fun index => ?_⟩
  have before := getElem?_sealGates (segment :: later) index
  rw [sealed] at before
  rw [getElem?_sealGates]
  cases index with
  | zero =>
      simp only [List.getElem?_cons_zero, Option.map_some, Option.some.injEq, Nat.lt_irrefl,
        if_false, List.length_cons] at before ⊢
      rw [before, sealOutputGate_append noColon]
      split <;> rfl
  | succ index => exact before.symm

theorem joinSegments_sealGates_prepend
    {front : Text}
    (noColon : ':' ∉ front)
    (pieces : Pieces) :
    joinSegments (sealGates (pieces.prepend front).toList) =
      front ++ joinSegments (sealGates pieces.toList) := by
  obtain ⟨segment, later⟩ := pieces
  obtain ⟨head, tail, sealed, sealedBehind⟩ := sealGates_append_cons noColon segment later
  simp only [Pieces.prepend, Pieces.toList, joinSegments, sealed, sealedBehind]
  cases tail with
  | nil => simp
  | cons next others => rw [List.intercalate_cons_cons, List.intercalate_cons_cons]; simp

theorem text_withoutArrows_headerRow_append (script : Text) :
    (withoutArrows (headerRow ++ script)).1 = headerRow ++ (withoutArrows script).1 := by
  rw [text_withoutArrows, arrows_headerRow_append, segments_headerRow_append,
    joinSegments_sealGates_prepend (by decide), text_withoutArrows]
  rfl

/-! ## Plain scripts -/

namespace PlainScript

theorem ofScript_headerRow_append (script : Text) :
    (ofScript (headerRow ++ script)).text = headerRow ++ (ofScript script).text ∧
      (ofScript (headerRow ++ script)).arrows = (ofScript script).arrows.map (Arrow.lower 1) ∧
      (ofScript (headerRow ++ script)).changedRows.rows =
        (ofScript script).changedRows.rows.map (· + 1) := by
  obtain ⟨assigned, assignedRows⟩ := withoutAssignments_headerRow_append (withoutMacros script)
  rw [← withoutMacros_headerRow_append] at assigned assignedRows
  have text : (ofScript (headerRow ++ script)).text = headerRow ++ (ofScript script).text := by
    rw [text_ofScript, assigned, text_withoutArrows_headerRow_append, text_ofScript]
  have arrows : (ofScript (headerRow ++ script)).arrows =
      (ofScript script).arrows.map (Arrow.lower 1) := by
    rw [arrows_ofScript, assigned, arrows_headerRow_append, arrows_ofScript]
  have arrowRows : (ofScript (headerRow ++ script)).arrows.map Arrow.row =
      ((ofScript script).arrows.map Arrow.row).map (· + 1) := by
    rw [arrows, List.map_map, List.map_map]
    rfl
  refine ⟨text, arrows, ?_⟩
  rw [changedRows_ofScript, arrowRows, changedRows_ofScript]
  exact RowSet.rows_insertAll_lower assignedRows _

end PlainScript

/-- The view of a script is its plain script.  Behind a header line that is not the script's own,
every row is one further down, and the header line itself is never changed. -/
theorem ScriptView.ofScript_shift (script : Text) :
    if startsWithHeader script then
      (ofScript script).shift.addsHeader = false ∧
        (ofScript script).text = (PlainScript.ofScript script).text ∧
        (ofScript script).arrows = (PlainScript.ofScript script).arrows ∧
        (ofScript script).changedRows = (PlainScript.ofScript script).changedRows
    else
      (ofScript script).shift.addsHeader = true ∧
        (ofScript script).text = headerLine ++ '\n' :: (PlainScript.ofScript script).text ∧
        (ofScript script).arrows = (PlainScript.ofScript script).arrows.map (Arrow.lower 1) ∧
        (ofScript script).changedRows.rows =
          (PlainScript.ofScript script).changedRows.rows.map (· + 1) ∧
        (∀ arrow ∈ (ofScript script).arrows, arrow.row ≠ 0) ∧
        0 ∉ (ofScript script).changedRows := by
  split
  · next headed => simp [ofScript, withHeader, headed]
  · next bare =>
      obtain ⟨text, arrows, rows⟩ := PlainScript.ofScript_headerRow_append script
      have shape : headerLine ++ '\n' :: script = headerRow ++ script := by simp [headerRow]
      have view : ofScript script = ⟨(PlainScript.ofScript (headerRow ++ script)).text, ⟨true⟩,
          (PlainScript.ofScript (headerRow ++ script)).changedRows,
          (PlainScript.ofScript (headerRow ++ script)).arrows⟩ := by
        simp [ofScript, withHeader, bare, shape]
      rw [view]
      refine ⟨rfl, ?_, arrows, rows, ?_, ?_⟩
      · rw [text]
        simp [headerRow]
      · intro arrow member
        rw [arrows] at member
        obtain ⟨raised, _, rfl⟩ := List.mem_map.1 member
        exact Nat.succ_ne_zero raised.row
      · intro member
        have listed : 0 ∈ (PlainScript.ofScript (headerRow ++ script)).changedRows.rows := member
        rw [rows] at listed
        simp at listed

end Pipescript
