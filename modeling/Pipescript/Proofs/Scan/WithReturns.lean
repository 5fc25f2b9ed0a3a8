import Pipescript.Proofs.Arrow.GateEdit
import Pipescript.Proofs.Scan.LineWithReturns
import Pipescript.Proofs.Scan.Lossless

/-!
# Scans of texts with carriage returns

Carriage returns before the line feeds change what is scanned only inside of the tokens: the same
tokens stand at the same places, and an error is the same.  So the arrows stay where they are.
-/

namespace Pipescript

open Text

/-! ## Tokens of a row -/

def Token.withReturns (token : Token) : Token :=
  { token with text := token.text.withReturns }

def Carry.withReturns : Carry → Carry
  | .literal opened => .literal { opened with text := opened.text.withReturns }
  | carry => carry

def Placed.withReturns (placed : Placed) : Placed :=
  ⟨placed.tokens.map Token.withReturns, placed.depth, placed.carry.withReturns⟩

theorem place_withReturns
    {line : Text}
    (noReturn : '\r' ∉ line)
    (oneRow : line.IsOneRow)
    (row column depth : Nat) :
    place row column depth (lexemes line.withReturns) =
      (place row column depth (lexemes line)).withReturns := by
  rw [lexemes_withReturns noReturn]
  induction line using lexemeInduction generalizing column depth with
  | empty =>
      rw [lexemes_nil]
      rfl
  | lexeme c rest behind parts cut inductionHypothesis =>
      have fits := Lexeme.first_fitsKind c rest
      have behindNoReturn : '\r' ∉ behind := fun isReturn =>
        noReturn (parts ▸ List.mem_append_right _ isReturn)
      -- A lexeme with a line feed is the last one of its row, so no columns move.
      have later : ∀ depth, place row (column + (Lexeme.first c rest).text.withReturns.length) depth
          ((lexemes behind).map Lexeme.withReturns) =
            (place row (column + (Lexeme.first c rest).text.length) depth
              (lexemes behind)).withReturns := by
        intro depth
        by_cases nothing : behind = []
        · rw [nothing, lexemes_nil]
          rfl
        · rw [withReturns_of_noFeed (oneRow _ _ parts nothing)]
          exact inductionHypothesis behindNoReturn (oneRow.behind parts) _ _
      rw [cut, List.map_cons]
      generalize Lexeme.first c rest = lexeme at fits later ⊢
      obtain ⟨kind, text⟩ := lexeme
      dsimp only at later
      cases kind with
      | operator =>
          have sameText : text.withReturns = text := withReturns_of_noFeed (noFeed_operator fits)
          simp only [place, Lexeme.withReturns, later]
          simp [Placed.withReturns, Token.withReturns, sameText]
      | blank => exact later _
      | comment | lineEnd | number | string | name | stray =>
          simp only [place, Lexeme.withReturns, later]
          rfl
      | joint => rfl
      | openString quote => rfl

/-! ## Rows -/

theorem Text.IsOneRow.noFeed_or_feed
    {line : Text}
    (oneRow : line.IsOneRow) :
    '\n' ∉ line ∨ ∃ front, line = front ++ ['\n'] := by
  by_cases feed : '\n' ∈ line
  · obtain ⟨front, behind, rfl⟩ := List.append_of_mem feed
    refine .inr ⟨front, ?_⟩
    by_contra more
    have notEmpty : behind ≠ [] := by
      rintro rfl
      exact more rfl
    exact oneRow (front ++ ['\n']) behind (by simp) notEmpty (by simp)
  · exact .inl feed

def ScanState.withReturns (state : ScanState) : ScanState :=
  { state with carry := state.carry.withReturns }

def Scan.withReturns (scan : Scan) : Scan :=
  { scan with tokens := scan.tokens.map Token.withReturns }

namespace ScanState

variable {state : ScanState} {line : Text}

theorem scanRest_withReturns
    (noReturn : '\r' ∉ line)
    (oneRow : line.IsOneRow)
    (row column : Nat) :
    state.withReturns.scanRest row column line.withReturns =
      ((state.scanRest row column line).1.map Token.withReturns,
        (state.scanRest row column line).2.withReturns) := by
  unfold scanRest
  dsimp only
  rw [show state.withReturns.depth = state.depth from rfl, place_withReturns noReturn oneRow]
  rfl

theorem remarkTokens_withReturns
    {comment : Text}
    (noFeed : '\n' ∉ comment)
    (lineEnd : Text)
    (row column : Nat) :
    remarkTokens row column comment lineEnd.withReturns =
      (remarkTokens row column comment lineEnd).map Token.withReturns := by
  have sameEmpty : lineEnd.withReturns.isEmpty = lineEnd.isEmpty := by
    rw [Bool.eq_iff_iff, List.isEmpty_iff, List.isEmpty_iff, withReturns_eq_nil_iff]
  unfold remarkTokens
  rw [sameEmpty]
  split <;> split <;> simp [Token.withReturns, withReturns_of_noFeed noFeed]

theorem scanFresh_withReturns
    (noReturn : '\r' ∉ line)
    (oneRow : line.IsOneRow)
    (row : Nat) :
    state.withReturns.scanFresh row line.withReturns =
      (state.scanFresh row line).map fun made => (made.1.map Token.withReturns, made.2.withReturns) := by
  have marginNoFeed : '\n' ∉ line.takeWhile isMarginChar := noFeed_of_takeWhile (by decide) line
  have marginParts := List.prefix_append_drop (List.takeWhile_prefix (l := line) isMarginChar)
  have sameMargin : line.withReturns.takeWhile isMarginChar = line.takeWhile isMarginChar :=
    takeWhile_withReturns (by decide) (by decide) line
  have sameRest := drop_withReturns marginNoFeed (List.takeWhile_prefix (l := line) isMarginChar)
  have restNoReturn : '\r' ∉ line.drop (line.takeWhile isMarginChar).length :=
    fun isReturn => noReturn (List.mem_of_mem_drop isReturn)
  have restOneRow := oneRow.behind marginParts
  unfold scanFresh
  dsimp only
  rw [sameMargin, sameRest]
  generalize line.drop (line.takeWhile isMarginChar).length = rest at restNoReturn restOneRow ⊢
  generalize line.takeWhile isMarginChar = margin at marginNoFeed
  cases rest with
  | nil => rfl
  | cons c later =>
      by_cases feed : c = '\n'
      · subst feed
        rfl
      · have commentNoFeed : '\n' ∉ (c :: later).takeWhile (!isLineBreakChar ·) :=
          noFeed_of_takeWhile (by decide) _
        have sameComment : (Text.withReturns (c :: later)).takeWhile (!isLineBreakChar ·) =
            (c :: later).takeWhile (!isLineBreakChar ·) :=
          takeWhile_withReturns (by decide) (by decide) _
        have sameLineEnd := drop_withReturns commentNoFeed
          (List.takeWhile_prefix (l := c :: later) (!isLineBreakChar ·))
        have scanned := fun blocks => @scanRest_withReturns { state with blocks := blocks } _
          restNoReturn restOneRow row margin.length
        rw [withReturns_cons feed] at sameComment sameLineEnd scanned ⊢
        dsimp only
        split
        · rw [sameComment, sameLineEnd]
          exact congrArg (fun tokens => Except.ok (tokens, state.withReturns))
            (remarkTokens_withReturns commentNoFeed _ _ _)
        · have made : ({ state.withReturns with
              blocks := state.withReturns.blocks.enter (marginColumn margin) } : ScanState).scanRest
                row margin.length (c :: Text.withReturns later) = _ :=
            scanned (state.blocks.enter (marginColumn margin))
          rw [made, show state.withReturns.blocks = state.blocks from rfl]
          cases state.blocks.step (marginColumn margin) with
          | inconsistent | same => rfl
          | deeper => simp [Except.map, Token.withReturns, withReturns_of_noFeed marginNoFeed]
          | outward count => simp [Except.map, Token.withReturns]

theorem scanLiteral_withReturns
    {opened : OpenLiteral}
    (isMark : isQuoteMark opened.quote.mark)
    (noReturn : '\r' ∉ line)
    (oneRow : line.IsOneRow)
    (row : Nat) :
    state.withReturns.scanLiteral { opened with text := opened.text.withReturns } row
        line.withReturns =
      ((state.scanLiteral opened row line).1.map Token.withReturns,
        (state.scanLiteral opened row line).2.withReturns) := by
  unfold scanLiteral
  dsimp only
  rw [Quote.closed?_withReturns isMark, endsInJoint_withReturns noReturn]
  cases closed : opened.quote.closed? line with
  | some inside =>
      have noFeed := Quote.noFeed_of_closed? isMark oneRow closed
      have insideFront := Quote.closed?_isPrefix closed
      have parts := List.prefix_append_drop insideFront
      have restNoReturn : '\r' ∉ line.drop inside.length :=
        fun isReturn => noReturn (List.mem_of_mem_drop isReturn)
      dsimp only [Option.map_some]
      rw [withReturns_of_noFeed noFeed, drop_withReturns noFeed insideFront,
        scanRest_withReturns restNoReturn (oneRow.behind parts)]
      simp [Token.withReturns, withReturns_of_noFeed noFeed]
  | none =>
      dsimp only [Option.map_none]
      split
      · simp [ScanState.withReturns, Carry.withReturns]
      · simp [ScanState.withReturns, Carry.withReturns, Token.withReturns]

theorem scanRow_withReturns
    (quotes : state.Quotes)
    (noReturn : '\r' ∉ line)
    (oneRow : line.IsOneRow)
    (row : Nat) :
    state.withReturns.scanRow row line.withReturns =
      (state.scanRow row line).map fun made => (made.1.map Token.withReturns, made.2.withReturns) := by
  have rest := @scanRest_withReturns state _ noReturn oneRow row 0
  have sameCarry : state.withReturns.carry = state.carry.withReturns := rfl
  have sameDepth : state.withReturns.depth = state.depth := rfl
  unfold scanRow
  rw [sameCarry, sameDepth]
  cases carry : state.carry with
  | nothing =>
      dsimp only [Carry.withReturns]
      split
      · exact scanFresh_withReturns noReturn oneRow row
      · rw [rest]
        rfl
  | joint =>
      dsimp only [Carry.withReturns]
      rw [rest]
      rfl
  | literal opened =>
      dsimp only [Carry.withReturns]
      rw [scanLiteral_withReturns (quotes opened carry) noReturn oneRow]
      rfl

theorem finish_withReturns
    {lastLine : Text}
    (oneRow : lastLine.IsOneRow)
    (rows : Nat) :
    state.withReturns.finish rows lastLine.withReturns =
      (state.finish rows lastLine).withReturns := by
  have sameCarry : state.withReturns.carry = state.carry.withReturns := rfl
  have sameDepth : state.withReturns.depth = state.depth := rfl
  have sameBlocks : state.withReturns.blocks = state.blocks := rfl
  unfold finish
  rw [sameCarry, sameDepth, sameBlocks]
  cases state.carry with
  | literal opened | joint => rfl
  | nothing =>
      dsimp only [Carry.withReturns]
      split
      · rcases oneRow.noFeed_or_feed with noFeed | ⟨front, rfl⟩
        · rw [withReturns_of_noFeed noFeed]
          split <;> simp [Scan.withReturns, Token.withReturns]
        · have sameEnd : Text.withReturns (front ++ ['\n']) =
              front.withReturns ++ ['\r'] ++ ['\n'] := by simp
          rw [sameEnd, lacksNewline_feed, lacksNewline_feed]
          simp [Scan.withReturns, Token.withReturns]
      · rfl

theorem scanRows_withReturns
    {lines : List Text} {lastLine : Text}
    (quotes : state.Quotes)
    (noReturn : ∀ line ∈ lines, '\r' ∉ line)
    (oneRow : ∀ line ∈ lastLine :: lines, Text.IsOneRow line)
    (rows : Nat) :
    state.withReturns.scanRows rows lastLine.withReturns (lines.map Text.withReturns) =
      (state.scanRows rows lastLine lines).withReturns := by
  induction lines generalizing state rows lastLine with
  | nil => exact finish_withReturns (oneRow lastLine List.mem_cons_self) rows
  | cons line lines inductionHypothesis =>
      have lineOneRow := oneRow line (by simp)
      rw [List.map_cons, scanRows, scanRows,
        scanRow_withReturns quotes (noReturn line List.mem_cons_self) lineOneRow]
      cases scanned : state.scanRow (rows + 1) line with
      | error error => rfl
      | ok made =>
          have later := @inductionHypothesis _ line
            (quotes_of_rowStep quotes (rowStep_of_scanRow scanned))
            (fun other member => noReturn other (List.mem_cons_of_mem _ member))
            (fun other member => oneRow other (List.mem_cons_of_mem _ member)) (rows + 1)
          dsimp only [Except.map]
          rw [later]
          simp [Scan.prepend, Scan.withReturns]

end ScanState

theorem isOneRow_of_mem_toLines
    {text line : Text}
    (member : line ∈ text.toLines) :
    line.IsOneRow := by
  induction text using lineInduction with
  | empty => cases member
  | last only notEmpty noFeed =>
      rw [toLines_of_noFeed notEmpty noFeed, List.mem_singleton] at member
      rw [member]
      exact isOneRow_of_noFeed noFeed
  | line front rest noFeed inductionHypothesis =>
      rw [toLines_append_feed noFeed] at member
      rcases List.mem_cons.1 member with rfl | later
      · exact isOneRow_of_feed noFeed
      · exact inductionHypothesis later

/-- With carriage returns a script has the same tokens, but for the line ends in their texts. -/
theorem scan_withReturns
    {script : Text}
    (noReturn : '\r' ∉ script) :
    scan script.withReturns = (scan script).withReturns := by
  have lineNoReturn : ∀ line ∈ script.toLines, '\r' ∉ line := by
    intro line member isReturn
    refine noReturn ?_
    rw [← flatten_toLines script]
    exact List.mem_flatten_of_mem member isReturn
  have oneRow : ∀ line ∈ [] :: script.toLines, Text.IsOneRow line := by
    intro line member
    rcases List.mem_cons.1 member with rfl | member
    · exact isOneRow_of_noFeed List.not_mem_nil
    · exact isOneRow_of_mem_toLines member
  unfold scan
  rw [toLines_withReturns]
  exact @ScanState.scanRows_withReturns .start _ _ (fun _ same => Carry.noConfusion same)
    lineNoReturn oneRow 0

/-! ## Arrows -/

theorem isOperator_withReturns
    {text : Text}
    (noFeed : '\n' ∉ text)
    (token : Token) :
    token.withReturns.isOperator text = token.isOperator text := by
  have sameText : (token.text.withReturns == text) = (token.text == text) := by
    rw [Bool.eq_iff_iff, beq_iff_eq, beq_iff_eq]
    constructor
    · intro same
      rw [← withReturns_of_noFeed noFeed] at same
      exact withReturns_injective same
    · rintro rfl
      exact withReturns_of_noFeed noFeed
  unfold Token.isOperator Token.withReturns
  dsimp only
  rw [sameText]

namespace Arrow

theorem findFrom_withReturns (before? : Option Token) (tokens : List Token) :
    findFrom (before?.map Token.withReturns) (tokens.map Token.withReturns) =
      findFrom before? tokens := by
  induction tokens generalizing before? with
  | nil => rfl
  | cons token later inductionHypothesis =>
      have sameArrow := @isOperator_withReturns arrowText (by decide) token
      have sameGreater := @isOperator_withReturns ['>'] (by decide) token
      have sameMinus : ∀ before : Token,
          isMinusBefore token.withReturns before.withReturns = isMinusBefore token before := by
        intro before
        unfold isMinusBefore
        rw [isOperator_withReturns (by decide)]
        rfl
      have laterSame := inductionHypothesis (some token)
      rw [Option.map_some] at laterSame
      rw [List.map_cons, findFrom, findFrom, sameArrow, sameGreater, laterSame]
      cases before? with
      | none => rfl
      | some before =>
          simp only [Option.map_some, Option.filter_some, sameMinus]
          cases isMinusBefore token before <;> rfl

end Arrow

/-- With carriage returns a script has its arrows at the same places. -/
theorem arrows_withReturns
    {script : Text}
    (noReturn : '\r' ∉ script) :
    (withoutArrows script.withReturns).2 = (withoutArrows script).2 := by
  rw [arrows_withoutArrows, arrows_withoutArrows, scan_withReturns noReturn]
  exact congrArg Arrow.sort (Arrow.findFrom_withReturns none _)

end Pipescript
