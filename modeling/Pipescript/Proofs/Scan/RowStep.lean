import Pipescript.Script.Scan

/-!
# What scanning a row can do

A row is blank, holds a remark alone, begins a statement, goes on with one, or goes on with a
literal, which it closes, leaves open or breaks off.  `RowStep` lists these cases with the tokens
that the row makes and the state behind it; `rowStep_of_scanRow` says that there are no others.
-/

namespace Pipescript

/-- The tokens that stand for the blocks a row opens or ends. -/
def BlockStep.tokens (row : Nat) (margin : Text) : BlockStep → List Token
  | .same | .inconsistent => []
  | .deeper => [⟨.indent, margin, row, 0⟩]
  | .outward count => List.replicate count ⟨.dedent, [], row, margin.length⟩

/-- The tokens of a row without a statement, which is a margin, then a comment, then a line end. -/
def remarkTokens (row column : Nat) (comment lineEnd : Text) : List Token :=
  (if comment.isEmpty then [] else [⟨.comment, comment, row, column⟩]) ++
    (if lineEnd.isEmpty then []
    else [⟨.lineBreak, lineEnd, row, column + comment.length⟩])

theorem kind_of_mem_remarkTokens
    {row column : Nat} {comment lineEnd : Text} {token : Token}
    (member : token ∈ remarkTokens row column comment lineEnd) :
    token.kind = .comment ∨ token.kind = .lineBreak := by
  unfold remarkTokens at member
  rcases List.mem_append.1 member with first | last
  · split at first
    · exact absurd first List.not_mem_nil
    · exact Or.inl (congrArg Token.kind (List.mem_singleton.1 first))
  · split at last
    · exact absurd last List.not_mem_nil
    · exact Or.inr (congrArg Token.kind (List.mem_singleton.1 last))

theorem BlockStep.kind_of_mem_tokens
    {row : Nat} {margin : Text} {step : BlockStep} {token : Token}
    (member : token ∈ step.tokens row margin) :
    token.kind = .indent ∨ token.kind = .dedent := by
  cases step with
  | same | inconsistent => exact absurd member List.not_mem_nil
  | deeper => exact Or.inl (congrArg Token.kind (List.mem_singleton.1 member))
  | outward count => exact Or.inr (congrArg Token.kind (List.eq_of_mem_replicate member))

namespace ScanState

/-- The cases of scanning a row: the tokens that it makes and the state behind it. -/
inductive RowStep (row : Nat) (line : Text) (state : ScanState) : List Token → ScanState → Prop
  /-- A row without content between statements. -/
  | blank :
      state.carry = .nothing →
      state.depth = 0 →
      line.drop (line.takeWhile isMarginChar).length = [] →
      RowStep row line state [] state
  /-- A row between statements with at most a comment. -/
  | remark (c : Char) (later : Text) :
      state.carry = .nothing →
      state.depth = 0 →
      line.drop (line.takeWhile isMarginChar).length = c :: later →
      (c == '#' || isLineBreakChar c) = true →
      RowStep row line state
        (remarkTokens row (line.takeWhile isMarginChar).length
          ((c :: later).takeWhile (!isLineBreakChar ·))
          ((c :: later).drop ((c :: later).takeWhile (!isLineBreakChar ·)).length))
        state
  /-- A row that begins a statement. -/
  | statement (c : Char) (later : Text) :
      state.carry = .nothing →
      state.depth = 0 →
      line.drop (line.takeWhile isMarginChar).length = c :: later →
      (c == '#' || isLineBreakChar c) = false →
      state.blocks.step (marginColumn (line.takeWhile isMarginChar)) ≠ .inconsistent →
      RowStep row line state
        ((state.blocks.step (marginColumn (line.takeWhile isMarginChar))).tokens row
            (line.takeWhile isMarginChar) ++
          ({ state with
              blocks := state.blocks.enter (marginColumn (line.takeWhile isMarginChar)) }.scanRest
            row (line.takeWhile isMarginChar).length
            (line.drop (line.takeWhile isMarginChar).length)).1)
        ({ state with
            blocks := state.blocks.enter (marginColumn (line.takeWhile isMarginChar)) }.scanRest
          row (line.takeWhile isMarginChar).length
          (line.drop (line.takeWhile isMarginChar).length)).2
  /-- A row that goes on with a statement, joined to the row before or inside brackets. -/
  | continued :
      state.carry = .joint ∨ (state.carry = .nothing ∧ state.depth ≠ 0) →
      RowStep row line state (state.scanRest row 0 line).1 (state.scanRest row 0 line).2
  /-- A row that closes the literal it begins in. -/
  | closed (opened : OpenLiteral) (inside : Text) :
      state.carry = .literal opened →
      opened.quote.closed? line = some inside →
      RowStep row line state
        (⟨.string, opened.text ++ inside, opened.row, opened.column⟩ ::
          (state.scanRest row inside.length (line.drop inside.length)).1)
        (state.scanRest row inside.length (line.drop inside.length)).2
  /-- A row inside a literal that goes on behind it. -/
  | inside (opened : OpenLiteral) :
      state.carry = .literal opened →
      opened.quote.closed? line = none →
      (opened.quote.triple || endsInJoint line) = true →
      RowStep row line state []
        { state with carry := .literal { opened with text := opened.text ++ line } }
  /-- A row on which a literal breaks off. -/
  | broken (opened : OpenLiteral) :
      state.carry = .literal opened →
      opened.quote.closed? line = none →
      (opened.quote.triple || endsInJoint line) = false →
      RowStep row line state [⟨.stray, opened.text ++ line, opened.row, opened.column⟩]
        { state with carry := .nothing }

private theorem rowStep_of_scanFresh
    {state next : ScanState} {row : Nat} {line : Text} {tokens : List Token}
    (noCarry : state.carry = .nothing)
    (noBracket : state.depth = 0)
    (scanned : state.scanFresh row line = .ok (tokens, next)) :
    RowStep row line state tokens next := by
  unfold scanFresh at scanned
  dsimp only at scanned
  split at scanned
  · next empty =>
      obtain ⟨rfl, rfl⟩ := Prod.mk.inj (Except.ok.inj scanned)
      exact RowStep.blank noCarry noBracket empty
  · next c later nonempty =>
      split at scanned
      · next remark =>
          obtain ⟨rfl, rfl⟩ := Prod.mk.inj (Except.ok.inj scanned)
          rw [nonempty]
          exact RowStep.remark c later noCarry noBracket nonempty remark
      · next statement =>
          have begins : (c == '#' || isLineBreakChar c) = false := by simpa using statement
          have consistent :
              state.blocks.step (marginColumn (line.takeWhile isMarginChar)) ≠ .inconsistent →
                RowStep row line state _ _ :=
            RowStep.statement c later noCarry noBracket nonempty begins
          cases step : state.blocks.step (marginColumn (line.takeWhile isMarginChar)) with
          | inconsistent => simp [step] at scanned
          | same | deeper | outward count =>
              rw [step] at scanned consistent
              obtain ⟨rfl, rfl⟩ := Prod.mk.inj (Except.ok.inj scanned)
              exact consistent (by simp)

/-- Scanning a row is one of the listed cases. -/
theorem rowStep_of_scanRow
    {state next : ScanState} {row : Nat} {line : Text} {tokens : List Token}
    (scanned : state.scanRow row line = .ok (tokens, next)) :
    RowStep row line state tokens next := by
  unfold scanRow at scanned
  cases carry : state.carry with
  | literal opened =>
      simp only [carry, Except.ok.injEq] at scanned
      unfold scanLiteral at scanned
      split at scanned
      · next inside closed =>
          obtain ⟨rfl, rfl⟩ := Prod.mk.inj scanned
          exact RowStep.closed opened inside carry closed
      · next unclosed =>
          dsimp only at scanned
          split at scanned
          · next goesOn =>
              obtain ⟨rfl, rfl⟩ := Prod.mk.inj scanned
              exact RowStep.inside opened carry unclosed goesOn
          · next breaksOff =>
              obtain ⟨rfl, rfl⟩ := Prod.mk.inj scanned
              exact RowStep.broken opened carry unclosed (by simpa using breaksOff)
  | joint =>
      simp only [carry, Except.ok.injEq] at scanned
      obtain ⟨rfl, rfl⟩ := Prod.mk.inj scanned
      exact RowStep.continued (Or.inl carry)
  | nothing =>
      simp only [carry] at scanned
      split at scanned
      · next noBracket => exact rowStep_of_scanFresh carry noBracket scanned
      · next bracket =>
          obtain ⟨rfl, rfl⟩ := Prod.mk.inj (Except.ok.inj scanned)
          exact RowStep.continued (Or.inr ⟨carry, bracket⟩)

end ScanState

end Pipescript
