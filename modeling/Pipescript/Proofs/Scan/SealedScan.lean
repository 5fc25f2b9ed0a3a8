import Pipescript.Proofs.Arrow.Found
import Pipescript.Proofs.Scan.SealedLine

/-!
# Scans of sealed texts

A sealed text is scanned in step with the text itself.  Between two rows both scans know the same,
and inside a row they differ only where a change stands: there one of them may meet other operators,
such as `,` and `==` in place of `:=` and `=`.  None of these opens a bracket or is an arrow, so no
arrow is among the tokens of the sealed text that is not among those of the text.
-/

namespace Pipescript

/-! ## Outlines of rows -/

/-- What two scans of a row are compared by: the arrows among the tokens, and what is known behind
the row. -/
structure Outline where
  arrows : List Token
  depth : Nat
  carry : Carry

/-- The arrows among tokens. -/
def arrowTokens (tokens : List Token) : List Token :=
  tokens.filter (·.isOperator arrowText)

theorem arrowTokens_cons_of_ne
    {token : Token}
    (noArrow : token.isOperator arrowText = false)
    (later : List Token) :
    arrowTokens (token :: later) = arrowTokens later := by
  rw [arrowTokens, List.filter_cons, noArrow]
  rfl

theorem arrowTokens_append (front later : List Token) :
    arrowTokens (front ++ later) = arrowTokens front ++ arrowTokens later :=
  List.filter_append _ _

theorem arrowTokens_of_noOperator
    {tokens : List Token}
    (noOperator : ∀ token ∈ tokens, token.kind ≠ .operator) :
    arrowTokens tokens = [] := by
  refine List.filter_eq_nil_iff.2 fun token member arrow => noOperator token member ?_
  exact (Arrow.operator_of_isOperator arrow).1

theorem arrowTokens_subset_of_noOperator
    {tokens other : List Token}
    (noOperator : ∀ token ∈ other, token.kind ≠ .operator) :
    arrowTokens other ⊆ arrowTokens tokens := by
  rw [arrowTokens_of_noOperator noOperator]
  exact List.nil_subset _

def Placed.outline (placed : Placed) : Outline where
  arrows := arrowTokens placed.tokens
  depth := placed.depth
  carry := placed.carry

/-- The outline of the rest of a row. -/
def outlineFrom (row column depth : Nat) (rest : Text) : Outline :=
  (place row column depth (lexemes rest)).outline

/-- Whether an open literal is the same but for its text. -/
inductive Carry.Alike : Carry → Carry → Prop
  | nothing : Alike .nothing .nothing
  | joint : Alike .joint .joint
  | literal
      {opened other : OpenLiteral} :
      isQuoteMark opened.quote.mark →
      other.quote = opened.quote →
      Alike (.literal opened) (.literal other)

/-- Whether a second outline has no arrow that the first one lacks, and is alike otherwise. -/
structure Outline.Alike (outline other : Outline) : Prop where
  arrows : other.arrows ⊆ outline.arrows
  depth : other.depth = outline.depth
  carry : outline.carry.Alike other.carry

/-! ## Operators without effect -/

/-- Each of these signs begins an operator. -/
theorem Lexeme.first_of_sign
    {c : Char} {rest operator : Text}
    (sign : c ∈ [',', ';', '=', ':', '-'])
    (found : operator? (c :: rest) = some operator) :
    first c rest = ⟨.operator, operator⟩ := by
  have noOther : [',', ';', '=', ':', '-'].all fun c =>
      !isMarginChar c && c != '#' && !isLineBreakChar c && c != '\\' && !isQuoteMark c &&
        !c.isDigit && c != '.' && !startsName c := by
    decide +kernel
  have plain := List.all_eq_true.1 noOther c sign
  simp only [Bool.and_eq_true, bne_iff_ne, ne_eq, Bool.not_eq_true'] at plain
  obtain ⟨⟨⟨⟨⟨⟨⟨noMargin, noComment⟩, noLineBreak⟩, noEscape⟩, noQuote⟩, noDigit⟩, noPoint⟩,
    noName⟩ := plain
  simp [first, startsNumber, noMargin, noComment, noLineBreak, noEscape, noQuote, noDigit, noPoint,
    noName, found]

/-- An operator that is neither a bracket nor an arrow leaves the outline to what is behind it. -/
theorem outlineFrom_of_operator
    {c : Char} {rest operator behind : Text}
    (sign : c ∈ [',', ';', '=', ':', '-'])
    (found : operator? (c :: rest) = some operator)
    (parts : c :: rest = operator ++ behind)
    (noBracket : ∀ depth, depthAfter operator depth = depth)
    (noArrow : operator ≠ arrowText)
    (row column depth : Nat) :
    outlineFrom row column depth (c :: rest) =
      outlineFrom row (column + operator.length) depth behind := by
  obtain ⟨other, otherParts, cut⟩ := exists_lexemes_cons c rest
  rw [Lexeme.first_of_sign sign found, parts] at otherParts
  rw [Lexeme.first_of_sign sign found, List.append_cancel_left otherParts.symm] at cut
  have quiet : (⟨.operator, operator, row, column⟩ : Token).isOperator arrowText = false := by
    simp [Token.isOperator, noArrow]
  unfold outlineFrom Placed.outline
  rw [cut]
  simp only [place, noBracket, arrowTokens_cons_of_ne quiet]

section Quiet

variable (row column depth : Nat) (rest : Text)

theorem outlineFrom_blank :
    outlineFrom row column depth (' ' :: rest) = outlineFrom row (column + 1) depth rest := by
  obtain ⟨behind, parts, cut⟩ := exists_lexemes_cons ' ' rest
  have reads : Lexeme.first ' ' rest = ⟨.blank, [' ']⟩ := rfl
  rw [reads] at parts cut
  obtain rfl : rest = behind := (List.cons.inj parts).2
  unfold outlineFrom
  rw [cut]
  rfl

theorem outlineFrom_semicolon :
    outlineFrom row column depth (';' :: rest) = outlineFrom row (column + 1) depth rest := by
  have found : operator? (';' :: rest) = some [';'] := by simp [operator?, operators]
  exact outlineFrom_of_operator (by decide) found rfl (fun _ => rfl) (by decide) row column depth

theorem outlineFrom_comma :
    outlineFrom row column depth (',' :: rest) = outlineFrom row (column + 1) depth rest := by
  have found : operator? (',' :: rest) = some [','] := by simp [operator?, operators]
  exact outlineFrom_of_operator (by decide) found rfl (fun _ => rfl) (by decide) row column depth

/-- Equals signs may pair up in two ways, which is why they are counted one by one. -/
theorem outlineFrom_equals :
    outlineFrom row column depth ('=' :: rest) = outlineFrom row (column + 1) depth rest := by
  induction rest generalizing column with
  | nil =>
      have found : operator? ['='] = some ['='] := by simp [operator?, operators]
      exact outlineFrom_of_operator (by decide) found rfl (fun _ => rfl) (by decide) row column depth
  | cons c rest inductionHypothesis =>
      by_cases paired : c = '='
      · subst paired
        have found : operator? ('=' :: '=' :: rest) = some ['=', '='] := by
          simp [operator?, operators]
        have whole := outlineFrom_of_operator (by decide) found rfl (fun _ => rfl) (by decide)
          row column depth
        rw [whole, inductionHypothesis]
        rfl
      · have found : operator? ('=' :: c :: rest) = some ['='] := by
          simp [operator?, operators, Ne.symm paired]
        exact outlineFrom_of_operator (by decide) found rfl (fun _ => rfl) (by decide)
          row column depth

theorem outlineFrom_colon :
    outlineFrom row column depth (':' :: rest) = outlineFrom row (column + 1) depth rest := by
  by_cases paired : ['='].isPrefixOf rest
  · obtain ⟨behind, rfl⟩ := List.isPrefixOf_iff_prefix.1 paired
    have found : operator? (':' :: '=' :: behind) = some [':', '='] := by
      simp [operator?, operators]
    have whole := outlineFrom_of_operator (by decide) found rfl (fun _ => rfl) (by decide)
      row column depth
    rw [List.singleton_append, whole, outlineFrom_equals]
    rfl
  · have found : operator? (':' :: rest) = some [':'] := by
      simp [operator?, operators, paired]
    exact outlineFrom_of_operator (by decide) found rfl (fun _ => rfl) (by decide) row column depth

theorem outlineFrom_arrow :
    outlineFrom row column depth ('-' :: '>' :: rest) =
      { outlineFrom row (column + 2) depth rest with
        arrows := ⟨.operator, arrowText, row, column⟩ ::
          (outlineFrom row (column + 2) depth rest).arrows } := by
  have found : operator? ('-' :: '>' :: rest) = some arrowText := by
    simp [operator?, operators, arrowText]
  obtain ⟨behind, parts, cut⟩ := exists_lexemes_cons '-' ('>' :: rest)
  rw [Lexeme.first_of_sign (by decide) found] at parts cut
  obtain rfl : rest = behind := (List.cons.inj (List.cons.inj parts).2).2
  unfold outlineFrom
  rw [cut]
  rfl

end Quiet

/-! ## Rows in step -/

theorem arrowTokens_cons_subset
    {token other : Token} {later otherLater : List Token}
    (same : other.isOperator arrowText → other = token)
    (subset : arrowTokens otherLater ⊆ arrowTokens later) :
    arrowTokens (other :: otherLater) ⊆ arrowTokens (token :: later) := by
  have laterSubset : arrowTokens later ⊆ arrowTokens (token :: later) :=
    ((List.sublist_cons_self token later).filter _).subset
  by_cases arrow : other.isOperator arrowText
  · obtain rfl := same arrow
    simp only [arrowTokens, List.filter_cons, arrow, if_true]
    exact List.cons_subset_cons _ subset
  · rw [arrowTokens_cons_of_ne (by simpa using arrow)]
    exact List.Subset.trans subset laterSubset

/-- Lexemes that are read alike are placed in step if what is behind them is. -/
theorem outline_place_cons
    {lexeme other : Lexeme} {later otherLater : List Lexeme}
    (alike : lexeme.Alike other)
    (isMark : ∀ quote, lexeme.kind = .openString quote → isQuoteMark quote.mark)
    {row column : Nat}
    (behind : ∀ depth, (place row (column + lexeme.text.length) depth later).outline.Alike
      (place row (column + lexeme.text.length) depth otherLater).outline)
    (depth : Nat) :
    (place row column depth (lexeme :: later)).outline.Alike
      (place row column depth (other :: otherLater)).outline := by
  obtain ⟨kind, text⟩ := lexeme
  obtain ⟨otherKind, otherText⟩ := other
  obtain ⟨sameKind, textSealed, sameOperator⟩ := alike
  obtain rfl : otherKind = kind := sameKind
  have sameLength : otherText.length = text.length := textSealed.length_eq
  dsimp only at behind isMark
  have emitted : ∀ (tokenKind : TokenKind) (depthBehind : Nat),
      (tokenKind = .operator → otherText = text) →
      Outline.Alike
        { (place row (column + text.length) depthBehind later).outline with
          arrows := arrowTokens (⟨tokenKind, text, row, column⟩ ::
            (place row (column + text.length) depthBehind later).tokens) }
        { (place row (column + text.length) depthBehind otherLater).outline with
          arrows := arrowTokens (⟨tokenKind, otherText, row, column⟩ ::
            (place row (column + text.length) depthBehind otherLater).tokens) } := by
    intro tokenKind depthBehind sameText
    refine ⟨arrowTokens_cons_subset (fun arrow => ?_) (behind depthBehind).arrows,
      (behind depthBehind).depth, (behind depthBehind).carry⟩
    rw [sameText (Arrow.operator_of_isOperator arrow).1]
  cases otherKind with
  | blank =>
      simp only [place, sameLength]
      exact behind depth
  | joint => exact ⟨List.Subset.refl _, rfl, .joint⟩
  | openString quote => exact ⟨List.Subset.refl _, rfl, .literal (isMark quote rfl) rfl⟩
  | operator =>
      obtain rfl : otherText = text := sameOperator rfl
      exact emitted .operator _ fun _ => rfl
  | lineEnd =>
      simp only [place, sameLength]
      refine emitted _ depth fun isOperator => absurd isOperator ?_
      split <;> decide
  | comment | number | string | name | stray =>
      simp only [place, sameLength]
      exact emitted _ depth fun isOperator => absurd isOperator (by decide)

/-- The rest of a sealed row is placed in step with the rest of the row. -/
theorem outlineFrom_of_sealed
    {text changed : Text}
    (sealed : Sealed text changed)
    (row column depth : Nat) :
    (outlineFrom row column depth text).Alike (outlineFrom row column depth changed) := by
  induction whole : text.length using Nat.strongRecOn generalizing text changed column depth with
  | ind size inductionHypothesis =>
      cases sealed with
      | nil =>
          unfold outlineFrom
          rw [lexemes_nil]
          exact ⟨List.Subset.refl _, rfl, .nothing⟩
      | @comma text changed later =>
          rw [outlineFrom_colon, outlineFrom_comma]
          exact inductionHypothesis text.length (by simp [← whole]) later _ _ rfl
      | @separator text changed later =>
          have shorter : text.length < size := by
            rw [← whole, List.length_cons, List.length_cons]
            omega
          have behind := inductionHypothesis text.length shorter later (column + 2) depth rfl
          rw [outlineFrom_arrow, outlineFrom_semicolon, outlineFrom_blank]
          exact ⟨List.subset_cons_of_subset _ behind.arrows, behind.depth, behind.carry⟩
      | @keep c text changed later =>
          obtain ⟨alike, behind, changedBehind, parts, changedParts, behindSealed⟩ :=
            Lexeme.first_of_sealed c later
          obtain ⟨rest, restParts, cut⟩ := exists_lexemes_cons c text
          obtain ⟨changedRest, changedRestParts, changedCut⟩ := exists_lexemes_cons c changed
          obtain rfl : rest = behind := List.append_cancel_left (restParts.symm.trans parts)
          obtain rfl : changedRest = changedBehind :=
            List.append_cancel_left (changedRestParts.symm.trans changedParts)
          have shorter : rest.length < size := by
            have positive := List.length_pos_iff.2 (Lexeme.text_first_ne_nil c text)
            have lengths := congrArg List.length parts
            rw [List.length_append, whole] at lengths
            omega
          have isMark : ∀ quote, (Lexeme.first c text).kind = .openString quote →
              isQuoteMark quote.mark := by
            intro quote isOpen
            have fits := Lexeme.first_fitsKind c text
            unfold Lexeme.FitsKind at fits
            rw [isOpen] at fits
            exact fits.1
          unfold outlineFrom
          rw [cut, changedCut]
          refine outline_place_cons alike isMark (fun depth => ?_) depth
          exact inductionHypothesis rest.length shorter behindSealed _ _ rfl

/-! ## Scans in step -/

/-- Whether two scans know the same between two rows, but for the text of an open literal. -/
structure ScanState.Alike (state other : ScanState) : Prop where
  blocks : other.blocks = state.blocks
  depth : other.depth = state.depth
  carry : state.carry.Alike other.carry

/-- Whether a scan makes no arrow of a row that another one does not make, and both know the same
behind it. -/
structure RowAlike (made other : List Token × ScanState) : Prop where
  arrows : arrowTokens other.1 ⊆ arrowTokens made.1
  state : made.2.Alike other.2

theorem RowAlike.prepend
    {made other : List Token × ScanState}
    (alike : RowAlike made other)
    (front : List Token) {otherFront : List Token}
    (noOperator : ∀ token ∈ otherFront, token.kind ≠ .operator) :
    RowAlike (front ++ made.1, made.2) (otherFront ++ other.1, other.2) := by
  refine ⟨?_, alike.state⟩
  rw [arrowTokens_append, arrowTokens_append, arrowTokens_of_noOperator noOperator]
  exact List.subset_append_of_subset_right _ alike.arrows

/-- Whether both of two scans end at a row, or none of them. -/
inductive RowResultAlike :
    Except ScanError (List Token × ScanState) → Except ScanError (List Token × ScanState) → Prop
  | failed (error other : ScanError) : RowResultAlike (.error error) (.error other)
  | made {made other : List Token × ScanState} :
      RowAlike made other →
      RowResultAlike (.ok made) (.ok other)

theorem noOperator_of_remarkTokens
    {row column : Nat} {comment lineEnd : Text} {token : Token}
    (member : token ∈ remarkTokens row column comment lineEnd) :
    token.kind ≠ .operator := by
  rcases kind_of_mem_remarkTokens member with isComment | isLineBreak
  · simp [isComment]
  · simp [isLineBreak]

/-- The tokens of a row behind those of the blocks that it opens or ends, unless it is indented
inconsistently. -/
def BlockStep.before (row : Nat) (margin : Text) (made : List Token × ScanState) :
    BlockStep → Except ScanError (List Token × ScanState)
  | .same => .ok made
  | .deeper => .ok (⟨.indent, margin, row, 0⟩ :: made.1, made.2)
  | .outward count =>
      .ok (List.replicate count ⟨.dedent, [], row, margin.length⟩ ++ made.1, made.2)
  | .inconsistent => .error (.inconsistentDedent row)

theorem RowAlike.before
    {made other : List Token × ScanState}
    (alike : RowAlike made other)
    (row : Nat) (margin : Text) (step : BlockStep) :
    RowResultAlike (step.before row margin made) (step.before row margin other) := by
  have noOperator : ∀ token ∈ step.tokens row margin, token.kind ≠ .operator := by
    intro token member
    rcases step.kind_of_mem_tokens member with indent | dedent
    · simp [indent]
    · simp [dedent]
  cases step with
  | same => exact .made alike
  | deeper => exact .made (alike.prepend [_] noOperator)
  | outward count => exact .made (alike.prepend _ noOperator)
  | inconsistent => exact .failed _ _

namespace ScanState

variable {state other : ScanState} {line changed : Text}

theorem scanRest_of_sealed
    (alike : state.Alike other)
    (sealed : Sealed line changed)
    (row column : Nat) :
    RowAlike (state.scanRest row column line) (other.scanRest row column changed) := by
  have placed := outlineFrom_of_sealed sealed row column state.depth
  unfold scanRest
  rw [alike.depth]
  exact ⟨placed.arrows, alike.blocks, placed.depth, placed.carry⟩

theorem scanFresh_of_sealed
    (alike : state.Alike other)
    (sealed : Sealed line changed)
    (row : Nat) :
    RowResultAlike (state.scanFresh row line) (other.scanFresh row changed) := by
  have sameMargin : changed.takeWhile isMarginChar = line.takeWhile isMarginChar :=
    sealed.takeWhile_eq (by decide)
  have behind : Sealed (line.drop (line.takeWhile isMarginChar).length)
      (changed.drop (line.takeWhile isMarginChar).length) :=
    sealed.drop_of_isPrefix (List.takeWhile_prefix _) (sameMargin ▸ List.takeWhile_prefix _)
  unfold scanFresh
  dsimp only
  rw [sameMargin, alike.blocks]
  generalize line.takeWhile isMarginChar = margin at behind ⊢
  generalize line.drop margin.length = rest, changed.drop margin.length = changedRest at behind ⊢
  have entered : ScanState.Alike
      { state with blocks := state.blocks.enter (marginColumn margin) }
      { other with blocks := state.blocks.enter (marginColumn margin) } :=
    ⟨rfl, alike.depth, alike.carry⟩
  have statement := (scanRest_of_sealed entered behind row margin.length).before row margin
    (state.blocks.step (marginColumn margin))
  cases behind with
  | nil => exact .made ⟨List.Subset.refl _, alike⟩
  | comma later => exact statement
  | separator later => exact statement
  | keep c later =>
      dsimp only
      by_cases remark : (c == '#' || isLineBreakChar c) = true
      · rw [if_pos remark, if_pos remark]
        refine .made ⟨arrowTokens_subset_of_noOperator ?_, alike⟩
        exact fun token member => noOperator_of_remarkTokens member
      · rw [if_neg remark, if_neg remark]
        exact statement

theorem scanLiteral_of_sealed
    {opened otherOpened : OpenLiteral}
    (alike : state.Alike other)
    (isMark : isQuoteMark opened.quote.mark)
    (sameQuote : otherOpened.quote = opened.quote)
    (sealed : Sealed line changed)
    (row : Nat) :
    RowAlike (state.scanLiteral opened row line) (other.scanLiteral otherOpened row changed) := by
  unfold scanLiteral
  rw [sameQuote]
  cases closed : opened.quote.closed? line with
  | some inside =>
      obtain ⟨changedInside, changedClosed, insideSealed, behindSealed⟩ :=
        Quote.exists_closed?_of_sealed isMark sealed closed
      rw [insideSealed.length_eq] at behindSealed
      have rest := scanRest_of_sealed alike behindSealed row inside.length
      rw [changedClosed]
      dsimp only
      rw [insideSealed.length_eq]
      refine @RowAlike.prepend _ _ rest [_] [_] fun token member => ?_
      rw [List.mem_singleton.1 member]
      exact TokenKind.noConfusion
  | none =>
      rw [Quote.closed?_eq_none_of_sealed isMark sealed closed]
      dsimp only
      rw [endsInJoint_of_sealed sealed]
      split
      · exact ⟨List.Subset.refl _, alike.blocks, alike.depth, .literal isMark rfl⟩
      · exact ⟨by simp [arrowTokens, Token.isOperator], alike.blocks, alike.depth, .nothing⟩

/-- A sealed row is scanned in step with the row. -/
theorem scanRow_of_sealed
    (alike : state.Alike other)
    (sealed : Sealed line changed)
    (row : Nat) :
    RowResultAlike (state.scanRow row line) (other.scanRow row changed) := by
  have carryAlike := alike.carry
  have rest := scanRest_of_sealed alike sealed row 0
  unfold scanRow
  generalize state.carry = carry, other.carry = otherCarry at carryAlike
  cases carryAlike with
  | nothing =>
      dsimp only
      rw [alike.depth]
      split
      · exact scanFresh_of_sealed alike sealed row
      · exact .made rest
  | joint => exact .made rest
  | literal isMark sameQuote => exact .made (scanLiteral_of_sealed alike isMark sameQuote sealed row)

/-- Sealed rows are scanned in step with the rows, up to the end of the script or to an error. -/
theorem scanRows_of_sealed
    {lines changedLines : List Text}
    (alike : state.Alike other)
    (sealed : List.Forall₂ Sealed lines changedLines)
    (rows : Nat) (lastLine otherLastLine : Text) :
    arrowTokens (other.scanRows rows otherLastLine changedLines).tokens ⊆
      arrowTokens (state.scanRows rows lastLine lines).tokens := by
  induction sealed generalizing state other rows lastLine otherLastLine with
  | nil =>
      refine arrowTokens_subset_of_noOperator fun token member => ?_
      rcases (isMark_of_mem_finish member).1 with newline | dedent | endMarker
      · simp [newline]
      · simp [dedent]
      · simp [endMarker]
  | @cons line changed lines changedLines first _ inductionHypothesis =>
      have row := scanRow_of_sealed alike first (rows + 1)
      rw [scanRows, scanRows]
      generalize state.scanRow (rows + 1) line = result,
        other.scanRow (rows + 1) changed = otherResult at row ⊢
      cases row with
      | failed => exact List.Subset.refl _
      | @made made otherMade rowAlike =>
          obtain ⟨tokens, next⟩ := made
          obtain ⟨otherTokens, otherNext⟩ := otherMade
          have later := inductionHypothesis rowAlike.state (rows + 1) line changed
          show arrowTokens (otherTokens ++ _) ⊆ arrowTokens (tokens ++ _)
          rw [arrowTokens_append, arrowTokens_append]
          exact List.append_subset.2 ⟨List.subset_append_of_subset_left _ rowAlike.arrows,
            List.subset_append_of_subset_right _ later⟩

end ScanState

/-- Sealing touches no line feed, and no arrow goes on in the next line. -/
theorem Sealed.toLines
    {text changed : Text}
    (sealed : Sealed text changed) :
    List.Forall₂ Sealed text.toLines changed.toLines := by
  have firstLine : ∀ {lines changedLines : List Text}, List.Forall₂ Sealed lines changedLines →
      Sealed (lines.headD []) (changedLines.headD []) ∧
        List.Forall₂ Sealed lines.tail changedLines.tail := by
    intro lines changedLines pairs
    cases pairs with
    | nil => exact ⟨nil, .nil⟩
    | cons first later => exact ⟨first, later⟩
  induction sealed with
  | nil => exact .nil
  | @keep c text changed _ inductionHypothesis =>
      by_cases feed : c = '\n'
      · rw [feed, Text.toLines_feed, Text.toLines_feed]
        exact .cons (refl _) inductionHypothesis
      · obtain ⟨first, later⟩ := firstLine inductionHypothesis
        rw [Text.toLines_cons_of_ne feed, Text.toLines_cons_of_ne feed]
        exact .cons (keep c first) later
  | comma _ inductionHypothesis =>
      obtain ⟨first, later⟩ := firstLine inductionHypothesis
      rw [Text.toLines_cons_of_ne (by decide), Text.toLines_cons_of_ne (by decide)]
      exact .cons (comma first) later
  | @separator text changed _ inductionHypothesis =>
      obtain ⟨first, later⟩ := firstLine inductionHypothesis
      rw [Text.toLines_cons_of_ne (by decide), Text.toLines_cons_of_ne (by decide) text,
        Text.toLines_cons_of_ne (by decide), Text.toLines_cons_of_ne (by decide) changed]
      exact .cons (separator first) later

/-- Every arrow among the tokens of a sealed text is among those of the text. -/
theorem mem_tokens_of_sealed
    {text changed : Text} {token : Token}
    (sealed : Sealed text changed)
    (member : token ∈ (scan changed).tokens)
    (arrow : token.isOperator arrowText) :
    token ∈ (scan text).tokens := by
  have start : ScanState.start.Alike ScanState.start := ⟨rfl, rfl, .nothing⟩
  have arrows := ScanState.scanRows_of_sealed start sealed.toLines 0 [] []
  have found : token ∈ arrowTokens (scan text).tokens :=
    arrows (List.mem_filter.2 ⟨member, arrow⟩)
  exact (List.mem_filter.1 found).1

end Pipescript
