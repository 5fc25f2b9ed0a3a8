import Pipescript.Proofs.Scan.Lexemes
import Pipescript.Proofs.Scan.RowStep

/-!
# Where operators stand

The lexemes of a row put together again are the row, so an operator that a row makes stands in the
row at its column, and it is the longest one there.  Literals that begin on an earlier row,
indentations and the tokens behind the last row are no parts of a single row; none of them is an
operator.
-/

namespace Pipescript

/-- Whether the text of a token is part of a line, beginning at the column of the token. -/
def Token.StandsIn (token : Token) (line : Text) : Prop :=
  token.text <+: line.drop token.column

/-- Whether a token is part of a single row of a script.  Rows of tokens count from one. -/
def Token.IsPartOf (script : Text) (token : Token) : Prop :=
  ∃ row line,
    token.row = row + 1 ∧ script.toLines[row]? = some line ∧ token.StandsIn line

/-- Whether a token is the longest operator of a line at its column. -/
def Token.IsOperatorIn (token : Token) (line : Text) : Prop :=
  operator? (line.drop token.column) = some token.text

theorem operator_of_place_cons
    {row column depth : Nat} {lexeme : Lexeme} {later : List Lexeme} {token : Token}
    (member : token ∈ (place row column depth (lexeme :: later)).tokens)
    (operator : token.kind = .operator) :
    (lexeme.kind = .operator ∧ token = ⟨.operator, lexeme.text, row, column⟩) ∨
      ∃ depthBehind,
        token ∈ (place row (column + lexeme.text.length) depthBehind later).tokens := by
  obtain ⟨kind, text⟩ := lexeme
  have emitted :
      ∀ (tokenKind : TokenKind) (depthBehind : Nat),
        token ∈ ⟨tokenKind, text, row, column⟩ ::
            (place row (column + text.length) depthBehind later).tokens →
          (tokenKind = .operator ∧ token = ⟨.operator, text, row, column⟩) ∨
            ∃ depthBehind, token ∈ (place row (column + text.length) depthBehind later).tokens := by
    intro tokenKind depthBehind member
    rcases List.mem_cons.1 member with rfl | memberLater
    · obtain rfl : tokenKind = .operator := operator
      exact Or.inl ⟨rfl, rfl⟩
    · exact Or.inr ⟨depthBehind, memberLater⟩
  cases kind with
  | blank => exact Or.inr ⟨depth, member⟩
  | joint => exact absurd member List.not_mem_nil
  | openString quote => exact absurd member List.not_mem_nil
  | operator => exact (emitted _ _ member).imp_left fun here => ⟨rfl, here.2⟩
  | comment | number | string | name | stray =>
      exact (emitted _ _ member).imp_left fun here => absurd here.1 (by decide)
  | lineEnd =>
      refine (emitted _ _ member).imp_left fun here => absurd here.1 ?_
      split <;> decide

/-- An operator of a row is one of its lexemes, at the column behind the lexemes in front of it. -/
theorem operator_of_place
    {row column depth : Nat} {text : Text} {token : Token}
    (member : token ∈ (place row column depth (lexemes text)).tokens)
    (operator : token.kind = .operator) :
    token.row = row ∧ column ≤ token.column ∧
      operator? (text.drop (token.column - column)) = some token.text := by
  induction text using lexemeInduction generalizing column depth with
  | empty =>
      rw [lexemes_nil] at member
      exact absurd member List.not_mem_nil
  | lexeme c rest behind parts cut inductionHypothesis =>
      have fits := Lexeme.first_fitsKind c rest
      rw [cut] at member
      rcases operator_of_place_cons member operator with
        ⟨sameKind, rfl⟩ | ⟨depthBehind, memberLater⟩
      · unfold Lexeme.FitsKind at fits
        rw [sameKind] at fits
        refine ⟨rfl, Nat.le_refl _, ?_⟩
        rw [Nat.sub_self, List.drop_zero]
        exact fits
      · obtain ⟨sameRow, bound, found⟩ := inductionHypothesis memberLater
        refine ⟨sameRow, by omega, ?_⟩
        have beyond : token.column - column = (Lexeme.first c rest).text.length +
            (token.column - (column + (Lexeme.first c rest).text.length)) := by
          omega
        rw [beyond, ← List.drop_drop, parts, List.drop_left]
        exact found

namespace ScanState

theorem operator_of_scanRest
    {state : ScanState} {row column : Nat} {line : Text} {token : Token}
    (member : token ∈ (state.scanRest row column (line.drop column)).1)
    (operator : token.kind = .operator) :
    token.row = row ∧ token.IsOperatorIn line := by
  obtain ⟨sameRow, bound, found⟩ := operator_of_place member operator
  refine ⟨sameRow, ?_⟩
  have together : column + (token.column - column) = token.column := by omega
  rw [List.drop_drop, together] at found
  exact found

/-- An operator that a row makes stands in that row. -/
theorem operator_of_rowStep
    {state next : ScanState} {row : Nat} {line : Text} {tokens : List Token} {token : Token}
    (step : RowStep row line state tokens next)
    (member : token ∈ tokens)
    (operator : token.kind = .operator) :
    token.row = row ∧ token.IsOperatorIn line := by
  cases step with
  | blank | inside => exact absurd member List.not_mem_nil
  | remark =>
      rcases kind_of_mem_remarkTokens member with comment | lineBreak
      · simp [comment] at operator
      · simp [lineBreak] at operator
  | statement =>
      rcases List.mem_append.1 member with block | rest
      · rcases BlockStep.kind_of_mem_tokens block with indent | dedent
        · simp [indent] at operator
        · simp [dedent] at operator
      · exact operator_of_scanRest rest operator
  | continued => exact operator_of_scanRest member operator
  | closed opened inside =>
      rcases List.mem_cons.1 member with rfl | rest
      · simp at operator
      · exact operator_of_scanRest rest operator
  | broken opened =>
      obtain rfl := List.mem_singleton.1 member
      simp at operator

/-- The tokens behind the last row are marks without a text. -/
theorem isMark_of_mem_finish
    {state : ScanState} {rows : Nat} {lastLine : Text} {token : Token}
    (member : token ∈ (state.finish rows lastLine).tokens) :
    (token.kind = .newline ∨ token.kind = .dedent ∨ token.kind = .endMarker) ∧
      token.text = [] := by
  unfold finish at member
  split at member
  · exact absurd member List.not_mem_nil
  · exact absurd member List.not_mem_nil
  · split at member
    · rcases List.mem_append.1 member with before | last
      · rcases List.mem_append.1 before with newline | dedents
        · split at newline
          · rw [List.mem_singleton.1 newline]
            exact ⟨.inl rfl, rfl⟩
          · exact absurd newline List.not_mem_nil
        · rw [List.eq_of_mem_replicate dedents]
          exact ⟨.inr (.inl rfl), rfl⟩
      · rw [List.mem_singleton.1 last]
        exact ⟨.inr (.inr rfl), rfl⟩
    · exact absurd member List.not_mem_nil

/-- An operator of the rows behind the first `rows` ones stands in the row that it names. -/
theorem operator_of_scanRows
    {state : ScanState} {rows : Nat} {lastLine : Text} {lines : List Text} {token : Token}
    (member : token ∈ (state.scanRows rows lastLine lines).tokens)
    (operator : token.kind = .operator) :
    ∃ index line,
      token.row = rows + index + 1 ∧ lines[index]? = some line ∧ token.IsOperatorIn line := by
  induction lines generalizing state rows lastLine with
  | nil =>
      rcases (isMark_of_mem_finish member).1 with newline | dedent | endMarker
      · simp [newline] at operator
      · simp [dedent] at operator
      · simp [endMarker] at operator
  | cons line lines inductionHypothesis =>
      rw [scanRows] at member
      split at member
      · exact absurd member List.not_mem_nil
      · next tokens next scanned =>
          rcases List.mem_append.1 member with here | below
          · obtain ⟨sameRow, stands⟩ :=
              operator_of_rowStep (rowStep_of_scanRow scanned) here operator
            exact ⟨0, line, by omega, rfl, stands⟩
          · obtain ⟨index, later, sameRow, atIndex, stands⟩ := inductionHypothesis below
            exact ⟨index + 1, later, by omega, atIndex, stands⟩

end ScanState

/-- The operators of a script are operators of the rows that they name. -/
theorem isOperatorIn_of_scan
    {script : Text} {token : Token}
    (member : token ∈ (scan script).tokens)
    (operator : token.kind = .operator) :
    ∃ row line,
      token.row = row + 1 ∧ script.toLines[row]? = some line ∧ token.IsOperatorIn line := by
  obtain ⟨row, line, sameRow, atRow, stands⟩ :=
    ScanState.operator_of_scanRows member operator
  exact ⟨row, line, by omega, atRow, stands⟩

/-- The operators of a script are parts of its rows. -/
theorem operator_of_scan
    {script : Text} {token : Token}
    (member : token ∈ (scan script).tokens)
    (operator : token.kind = .operator) :
    token.IsPartOf script := by
  obtain ⟨row, line, sameRow, atRow, stands⟩ := isOperatorIn_of_scan member operator
  exact ⟨row, line, sameRow, atRow, List.isPrefixOf_iff_prefix.1 (operator?_isPrefixOf stands)⟩

end Pipescript
