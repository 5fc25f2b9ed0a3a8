import Pipescript.Script.Scan

/-!
# Scanning further down

The numbers of rows go into tokens and errors, but into nothing that a scan decides.  So the rows of
a script that stand some rows further down have the same tokens, as many rows further down.
-/

namespace Pipescript

/-! ## Rows further down -/

def Token.lower (count : Nat) (token : Token) : Token :=
  { token with row := token.row + count }

def ScanError.lower (count : Nat) : ScanError → ScanError
  | openString row column => openString (row + count) column
  | openStatement row => openStatement (row + count)
  | inconsistentDedent row => inconsistentDedent (row + count)

def OpenLiteral.lower (count : Nat) (opened : OpenLiteral) : OpenLiteral :=
  { opened with row := opened.row + count }

def Carry.lower (count : Nat) : Carry → Carry
  | nothing => nothing
  | joint => joint
  | literal opened => literal (opened.lower count)

def ScanState.lower (count : Nat) (state : ScanState) : ScanState :=
  { state with carry := state.carry.lower count }

def Placed.lower (count : Nat) (placed : Placed) : Placed :=
  ⟨placed.tokens.map (Token.lower count), placed.depth, placed.carry.lower count⟩

def Scan.lower (count : Nat) (scan : Scan) : Scan :=
  ⟨scan.tokens.map (Token.lower count), scan.error.map (ScanError.lower count)⟩

/-- What a row makes, with its tokens and the state behind it some rows further down. -/
def lowerRow (count : Nat) (made : List Token × ScanState) : List Token × ScanState :=
  (made.1.map (Token.lower count), made.2.lower count)

/-- The outcome of a row some rows further down. -/
def lowerOutcome (count : Nat) :
    Except ScanError (List Token × ScanState) → Except ScanError (List Token × ScanState)
  | .ok made => .ok (lowerRow count made)
  | .error error => .error (error.lower count)

/-! ## Rows -/

theorem place_lower (count row column depth : Nat) (lexemes : List Lexeme) :
    place (row + count) column depth lexemes = (place row column depth lexemes).lower count := by
  induction lexemes generalizing column depth with
  | nil => rfl
  | cons lexeme later inductionHypothesis =>
      obtain ⟨kind, text⟩ := lexeme
      cases kind <;>
        simp only [place, inductionHypothesis, Placed.lower, List.map_cons, List.map_nil,
          Token.lower, Carry.lower, OpenLiteral.lower]

namespace ScanState

theorem scanRest_lower (count : Nat) (state : ScanState) (row column : Nat) (rest : Text) :
    (state.lower count).scanRest (row + count) column rest =
      lowerRow count (state.scanRest row column rest) := by
  simp only [scanRest, place_lower, lowerRow]
  rfl

theorem scanFresh_lower (count : Nat) (state : ScanState) (row : Nat) (line : Text) :
    (state.lower count).scanFresh (row + count) line =
      lowerOutcome count (state.scanFresh row line) := by
  unfold scanFresh
  dsimp only
  generalize line.takeWhile isMarginChar = margin
  generalize line.drop margin.length = rest
  cases rest with
  | nil => rfl
  | cons c later =>
      dsimp only
      by_cases remark : (c == '#' || isLineBreakChar c) = true
      · rw [if_pos remark, if_pos remark]
        generalize (c :: later).takeWhile (!isLineBreakChar ·) = comment
        generalize (c :: later).drop comment.length = lineEnd
        cases comment <;> cases lineEnd <;> rfl
      · rw [if_neg remark, if_neg remark]
        have sameRest := scanRest_lower count
          { state with blocks := state.blocks.enter (marginColumn margin) } row margin.length
          (c :: later)
        have sameBlocks : (state.lower count).blocks = state.blocks := rfl
        have sameState : { state.lower count with
              blocks := state.blocks.enter (marginColumn margin) } =
            ({ state with blocks := state.blocks.enter (marginColumn margin) } :
              ScanState).lower count := rfl
        rw [sameBlocks, sameState, sameRest]
        cases state.blocks.step (marginColumn margin) with
        | same => rfl
        | deeper => rfl
        | outward ended =>
            simp [lowerOutcome, lowerRow, Token.lower]
        | inconsistent => rfl

theorem scanLiteral_lower (count : Nat) (state : ScanState) (opened : OpenLiteral) (row : Nat)
    (line : Text) :
    (state.lower count).scanLiteral (opened.lower count) (row + count) line =
      lowerRow count (state.scanLiteral opened row line) := by
  unfold scanLiteral
  have sameQuote : (opened.lower count).quote = opened.quote := rfl
  rw [sameQuote]
  split
  · rw [scanRest_lower]
    rfl
  · dsimp only
    split <;> rfl

theorem scanRow_lower (count : Nat) (state : ScanState) (row : Nat) (line : Text) :
    (state.lower count).scanRow (row + count) line =
      lowerOutcome count (state.scanRow row line) := by
  obtain ⟨blocks, depth, carry⟩ := state
  cases carry with
  | literal opened => exact congrArg Except.ok (scanLiteral_lower count _ opened row line)
  | joint => exact congrArg Except.ok (scanRest_lower count _ row 0 line)
  | nothing =>
      show (if depth = 0 then scanFresh ⟨blocks, depth, .nothing⟩ (row + count) line
          else .ok (scanRest ⟨blocks, depth, .nothing⟩ (row + count) 0 line)) =
        lowerOutcome count
          (if depth = 0 then scanFresh ⟨blocks, depth, .nothing⟩ row line
          else .ok (scanRest ⟨blocks, depth, .nothing⟩ row 0 line))
      split
      · exact scanFresh_lower count ⟨blocks, depth, .nothing⟩ row line
      · exact congrArg Except.ok (scanRest_lower count ⟨blocks, depth, .nothing⟩ row 0 line)

theorem finish_lower (count : Nat) (state : ScanState) (rows : Nat) (lastLine : Text) :
    (state.lower count).finish (rows + count) lastLine =
      (state.finish rows lastLine).lower count := by
  obtain ⟨blocks, depth, carry⟩ := state
  cases carry with
  | literal opened => rfl
  | joint => rfl
  | nothing =>
      by_cases noBracket : depth = 0
      · cases lacks : lacksNewline lastLine <;>
          simp [finish, lower, Carry.lower, noBracket, lacks, Scan.lower, Token.lower,
            Nat.add_right_comm]
      · simp [finish, lower, Carry.lower, noBracket, Scan.lower, ScanError.lower]

theorem scanRows_lower (count : Nat) (state : ScanState) (rows : Nat) (lastLine : Text)
    (lines : List Text) :
    (state.lower count).scanRows (rows + count) lastLine lines =
      (state.scanRows rows lastLine lines).lower count := by
  induction lines generalizing state rows lastLine with
  | nil => exact finish_lower count state rows lastLine
  | cons line lines inductionHypothesis =>
      have nextRow : rows + count + 1 = rows + 1 + count := by omega
      rw [scanRows, nextRow, scanRow_lower, scanRows]
      cases state.scanRow (rows + 1) line with
      | error error => rfl
      | ok made =>
          obtain ⟨tokens, next⟩ := made
          dsimp only [lowerOutcome, lowerRow]
          rw [inductionHypothesis]
          simp [Scan.lower, Scan.prepend]

end ScanState

end Pipescript
