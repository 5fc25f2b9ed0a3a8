import Pipescript.Proofs.Scan.Onward
import Pipescript.Proofs.Scan.TokenPlace

/-!
# Behind an operator

An operator stands inside a row, so a scan can be looked at from there on.  What is left of the scan
is the whole scan but for the tokens up to the operator.
-/

namespace Pipescript

open Arrow

theorem Scan.prepend_prepend (front later : List Token) (scan : Scan) :
    (scan.prepend later).prepend front = scan.prepend (front ++ later) := by
  simp only [prepend, List.append_assoc]

/-- Behind an operator the lexemes of a row go on as if the row began there. -/
theorem exists_place_behind
    {origin : Arrow} {depth : Nat} {line : Text} {token : Token}
    (oneRow : line.IsOneRow)
    (member : token ∈ (place (origin.row + 1) origin.column depth (lexemes line)).tokens)
    (operator : token.kind = .operator) :
    ∃ front rest depthBehind earlier, line = front ++ token.text ++ rest ∧
      '\n' ∉ front ++ token.text ∧
      token.row = (origin.behind front).row + 1 ∧ token.column = (origin.behind front).column ∧
      let tail := place (origin.row + 1) (origin.column + (front ++ token.text).length) depthBehind
        (lexemes rest)
      place (origin.row + 1) origin.column depth (lexemes line) =
        { tail with tokens := earlier ++ tail.tokens } := by
  induction line using lexemeInduction generalizing origin depth with
  | empty =>
      rw [lexemes_nil] at member
      cases member
  | lexeme c rest behind parts cut inductionHypothesis =>
      have fits := Lexeme.first_fitsKind c rest
      rw [cut] at member ⊢
      generalize Lexeme.first c rest = lexeme at parts fits member ⊢
      by_cases whole : lexeme.kind.isWhole
      · rw [place_cons whole] at member ⊢
        rcases List.mem_append.1 member with here | later
        · obtain ⟨kind, text⟩ := lexeme
          obtain ⟨tokenKind, found, rfl⟩ := List.mem_map.1 here
          obtain rfl : kind = .operator := by
            obtain rfl : tokenKind = .operator := operator
            cases kind <;> simp [LexemeKind.token?] at found
            · split at found <;> simp at found
            · rfl
          have listed : ∀ listed ∈ operators, '\n' ∉ listed := by decide
          have noFeed : '\n' ∉ text := listed text (List.mem_of_find?_eq_some fits)
          exact ⟨[], behind, _, _, parts, noFeed, rfl, rfl, rfl⟩
        · have more : behind ≠ [] := by
            rintro rfl
            rw [lexemes_nil] at later
            cases later
          have noFeed : '\n' ∉ lexeme.text := oneRow _ _ parts more
          have place := behind_of_noFeed noFeed origin
          obtain ⟨front, after, depthBehind, earlier, rfl, frontNoFeed, sameRow, sameColumn, tail⟩ :=
            @inductionHypothesis (origin.behind lexeme.text) _ (oneRow.behind parts)
              (by rw [place]; exact later)
          refine ⟨lexeme.text ++ front, after, depthBehind, lexeme.tokens origin depth ++ earlier,
            by simp [parts], ?_, ?_, ?_, ?_⟩
          · rw [List.append_assoc]
            exact fun feed => (List.mem_append.1 feed).elim noFeed frontNoFeed
          · rwa [behind_append]
          · rwa [behind_append]
          · rw [place] at tail
            dsimp only at tail ⊢
            rw [tail]
            simp only [List.append_assoc, List.length_append, Nat.add_assoc]
      · obtain ⟨kind, text⟩ := lexeme
        cases kind with
        | joint | openString => cases member
        | blank | comment | lineEnd | number | string | name | operator | stray =>
            exact absurd rfl whole

/-- Behind an operator of a row what is left of the row begins. -/
theorem exists_scansOn_of_scanRest
    {state : ScanState} {rows : Nat} {line after front rest : Text} {token : Token}
    (isRow : after.IsRowBefore line)
    (parts : line = front ++ rest)
    (member : token ∈ (state.scanRest (rows + 1) front.length rest).1)
    (operator : token.kind = .operator) :
    ∃ before behind later depth, line = before ++ token.text ++ behind ∧
      token.row = ((⟨rows, 0⟩ : Arrow).behind before).row + 1 ∧
      token.column = ((⟨rows, 0⟩ : Arrow).behind before).column ∧
      ScansOn later ((⟨rows, 0⟩ : Arrow).behind (before ++ token.text)) depth (behind ++ after) ∧
      ∃ earlier, ((state.scanRest (rows + 1) front.length rest).2.scanRows (rows + 1) line
        after.toLines).prepend (state.scanRest (rows + 1) front.length rest).1 =
          later.prepend earlier := by
  have more : rest ≠ [] := by
    rintro rfl
    unfold ScanState.scanRest at member
    rw [lexemes_nil] at member
    cases member
  have frontNoFeed : '\n' ∉ front := isRow.oneRow front rest parts more
  have place := behind_of_noFeed frontNoFeed ⟨rows, 0⟩
  rw [Nat.zero_add] at place
  have restRow := isRow.behind parts (.inl more)
  obtain ⟨inside, behind, depthBehind, earlier, rfl, noFeed, sameRow, sameColumn, tail⟩ :=
    @exists_place_behind ⟨rows, front.length⟩ _ _ _ restRow.oneRow member operator
  have tailPlace := behind_of_noFeed noFeed ⟨rows, front.length⟩
  have goesOn := restRow.goesOn rfl noFeed
  refine ⟨front ++ inside, behind, scanBehind state.blocks depthBehind
    ((⟨rows, front.length⟩ : Arrow).behind (inside ++ token.text)) line behind after, depthBehind,
    by simp [parts], ?_, ?_, ?_, earlier, ?_⟩
  · rwa [behind_append, place]
  · rwa [behind_append, place]
  · have whole : (⟨rows, 0⟩ : Arrow).behind (front ++ inside ++ token.text) =
        (⟨rows, front.length⟩ : Arrow).behind (inside ++ token.text) := by
      rw [List.append_assoc, behind_append, place]
    rw [whole]
    exact scansOn_scanBehind (restRow.behind rfl goesOn) goesOn _ _ _ _
  · unfold scanBehind ScanState.scanRest
    rw [tailPlace, Scan.prepend_prepend]
    dsimp only at tail ⊢
    rw [tail]

/-- Behind an operator that a row makes what is left of the row begins. -/
theorem exists_scansOn_of_rowStep
    {state next : ScanState} {rows : Nat} {line after : Text} {tokens : List Token} {token : Token}
    (isRow : after.IsRowBefore line)
    (step : ScanState.RowStep (rows + 1) line state tokens next)
    (member : token ∈ tokens)
    (operator : token.kind = .operator) :
    ∃ before behind later depth, line = before ++ token.text ++ behind ∧
      token.row = ((⟨rows, 0⟩ : Arrow).behind before).row + 1 ∧
      token.column = ((⟨rows, 0⟩ : Arrow).behind before).column ∧
      ScansOn later ((⟨rows, 0⟩ : Arrow).behind (before ++ token.text)) depth (behind ++ after) ∧
      ∃ earlier, (next.scanRows (rows + 1) line after.toLines).prepend tokens =
        later.prepend earlier := by
  have further : ∀ (front : List Token) {tokens earlier : List Token} {whole later : Scan},
      whole.prepend tokens = later.prepend earlier →
        whole.prepend (front ++ tokens) = later.prepend (front ++ earlier) := by
    intro front tokens earlier whole later same
    rw [← Scan.prepend_prepend, same, Scan.prepend_prepend]
  cases step with
  | blank | inside => cases member
  | remark =>
      rcases kind_of_mem_remarkTokens member with comment | lineBreak
      · simp [comment] at operator
      · simp [lineBreak] at operator
  | statement =>
      have marginParts : line = line.takeWhile isMarginChar ++
          line.drop (line.takeWhile isMarginChar).length :=
        List.prefix_append_drop (List.takeWhile_prefix isMarginChar)
      rcases List.mem_append.1 member with block | rest
      · rcases BlockStep.kind_of_mem_tokens block with indent | dedent
        · simp [indent] at operator
        · simp [dedent] at operator
      · obtain ⟨before, behind, later, depth, parts, row, column, onward, earlier, same⟩ :=
          exists_scansOn_of_scanRest isRow marginParts rest operator
        exact ⟨before, behind, later, depth, parts, row, column, onward, _, further _ same⟩
  | continued => exact exists_scansOn_of_scanRest isRow (List.nil_append line).symm member operator
  | closed opened inside _ closes =>
      have insideParts := List.prefix_append_drop (Quote.closed?_isPrefix closes)
      rcases List.mem_cons.1 member with rfl | rest
      · cases operator
      · obtain ⟨before, behind, later, depth, parts, row, column, onward, earlier, same⟩ :=
          exists_scansOn_of_scanRest isRow insideParts rest operator
        exact ⟨before, behind, later, depth, parts, row, column, onward, _, further [_] same⟩
  | broken opened =>
      obtain rfl := List.mem_singleton.1 member
      cases operator

theorem ne_nil_of_operator
    {state : ScanState} {rows : Nat} {lastLine text : Text} {token : Token}
    (member : token ∈ (state.scanRows rows lastLine text.toLines).tokens)
    (operator : token.kind = .operator) :
    text ≠ [] := by
  rintro rfl
  rcases (ScanState.isMark_of_mem_finish member).1 with newline | dedent | endMarker
  · simp [newline] at operator
  · simp [dedent] at operator
  · simp [endMarker] at operator

/-- Behind an operator of a text what is left of the text begins. -/
theorem exists_scansOn_of_scanRows
    {state : ScanState} {rows : Nat} {lastLine text : Text} {token : Token}
    (member : token ∈ (state.scanRows rows lastLine text.toLines).tokens)
    (operator : token.kind = .operator) :
    ∃ before behind later depth, text = before ++ token.text ++ behind ∧
      token.row = ((⟨rows, 0⟩ : Arrow).behind before).row + 1 ∧
      token.column = ((⟨rows, 0⟩ : Arrow).behind before).column ∧
      ScansOn later ((⟨rows, 0⟩ : Arrow).behind (before ++ token.text)) depth behind ∧
      ∃ earlier, state.scanRows rows lastLine text.toLines = later.prepend earlier := by
  induction size : text.length using Nat.strongRecOn generalizing text state rows lastLine with
  | ind size inductionHypothesis =>
      obtain ⟨line, after, rfl, notEmpty, isRow⟩ := Text.exists_row (ne_nil_of_operator member operator)
      rw [isRow.toLines notEmpty, ScanState.scanRows] at member ⊢
      cases scanned : state.scanRow (rows + 1) line with
      | error error =>
          rw [scanned] at member
          cases member
      | ok made =>
          obtain ⟨tokens, next⟩ := made
          rw [scanned] at member
          rcases List.mem_append.1 member with here | below
          · obtain ⟨before, behind, later, depth, rfl, found⟩ :=
              exists_scansOn_of_rowStep isRow (ScanState.rowStep_of_scanRow scanned) here operator
            exact ⟨before, behind ++ after, later, depth, by simp, found⟩
          · have positive := List.length_pos_iff.2 notEmpty
            rw [List.length_append] at size
            obtain ⟨front, rfl⟩ := isRow.feed (ne_nil_of_operator below operator)
            have nextRow : (⟨rows, 0⟩ : Arrow).behind (front ++ ['\n']) = ⟨rows + 1, 0⟩ :=
              ScansOn.behind_rowEnd (isRow.oneRow front ['\n'] rfl (by simp)) _
            obtain ⟨before, behind, later, depth, rfl, sameRow, sameColumn, onward, earlier, same⟩ :=
              inductionHypothesis after.length (by omega) below rfl
            refine ⟨front ++ ['\n'] ++ before, behind, later, depth, by simp, ?_, ?_, ?_,
              tokens ++ earlier, ?_⟩
            · rwa [behind_append _ (front ++ ['\n']), nextRow]
            · rwa [behind_append _ (front ++ ['\n']), nextRow]
            · rwa [List.append_assoc _ before, behind_append _ (front ++ ['\n']), nextRow]
            · dsimp only
              rw [same, Scan.prepend_prepend]

end Pipescript
