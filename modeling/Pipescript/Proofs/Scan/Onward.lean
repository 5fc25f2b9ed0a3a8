import Pipescript.Proofs.Gate.Locality
import Pipescript.Proofs.Scan.Lossless
import Pipescript.Proofs.Scan.TokenText

/-!
# Scans in the middle of a script

A scan may be looked at from any lexeme on: what is left of it follows from the rest of the row, the
rows behind it, the number of open brackets and the open blocks.  `ScansOn` says that a scan is what
is left at a place; a lexeme, a row end and a literal that goes over rows each lead from one such
place to the next.
-/

namespace Pipescript

open Arrow

/-! ## Tokens with content -/

/-- Whether a token belongs to a statement, unlike a comment and layout, or is a stray. -/
def TokenKind.isContent : TokenKind → Bool
  | .name | .number | .string | .operator | .stray => true
  | .comment | .newline | .lineBreak | .indent | .dedent | .endMarker => false

namespace Scan

def content (scan : Scan) : List Token :=
  scan.tokens.filter (·.kind.isContent)

/-- Whether a scan has some content before that of another one and ends as that does. -/
structure Yields (scan : Scan) (front : List Token) (later : Scan) : Prop where
  content : scan.content = front ++ later.content
  error : scan.error = later.error

theorem Yields.refl (scan : Scan) : scan.Yields [] scan :=
  ⟨rfl, rfl⟩

theorem Yields.trans
    {scan middle later : Scan} {front behind : List Token}
    (first : scan.Yields front middle)
    (second : middle.Yields behind later) :
    scan.Yields (front ++ behind) later :=
  ⟨by rw [first.content, second.content, List.append_assoc], first.error.trans second.error⟩

theorem yields_prepend (tokens : List Token) (later : Scan) :
    (later.prepend tokens).Yields (tokens.filter (·.kind.isContent)) later :=
  ⟨List.filter_append _ _, rfl⟩

end Scan

/-! ## The rest of a row -/

/-- Whether a text is what is left of a row before the rows behind it. -/
structure Text.IsRowBefore (after line : Text) : Prop where
  oneRow : line.IsOneRow
  feed : after ≠ [] → ∃ front, line = front ++ ['\n']

namespace Text.IsRowBefore

variable {after line front rest : Text}

/-- A row goes on behind a part of it without a line feed, unless it is the last one. -/
theorem goesOn
    (row : after.IsRowBefore line)
    (parts : line = front ++ rest)
    (noFeed : '\n' ∉ front) :
    rest ≠ [] ∨ after = [] := by
  by_cases last : after = []
  · exact .inr last
  · refine .inl ?_
    rintro rfl
    obtain ⟨shown, ends⟩ := row.feed last
    rw [List.append_nil] at parts
    rw [← parts, ends] at noFeed
    exact noFeed (by simp)

theorem behind
    (row : after.IsRowBefore line)
    (parts : line = front ++ rest)
    (goesOn : rest ≠ [] ∨ after = []) :
    after.IsRowBefore rest := by
  refine ⟨row.oneRow.behind parts, fun more => ?_⟩
  obtain ⟨shown, ends⟩ := row.feed more
  have notEmpty := goesOn.resolve_right more
  obtain ⟨middle, last, rfl⟩ := (List.eq_nil_or_concat rest).resolve_left notEmpty
  rw [List.concat_eq_append] at parts ⊢
  rw [parts, ← List.append_assoc] at ends
  obtain ⟨-, same⟩ := List.append_inj' ends rfl
  exact ⟨middle, by rw [same]⟩

theorem toLines
    (row : after.IsRowBefore line)
    (notEmpty : line ≠ []) :
    (line ++ after).toLines = line :: after.toLines := by
  by_cases last : after = []
  · subst last
    obtain ⟨front, c, rfl⟩ := (List.eq_nil_or_concat line).resolve_left notEmpty
    rw [List.concat_eq_append] at *
    have noFeed : '\n' ∉ front := row.oneRow front [c] rfl (by simp)
    rw [List.append_nil]
    by_cases feed : c = '\n'
    · subst feed
      exact toLines_append_feed noFeed []
    · rw [toLines_of_noFeed notEmpty (by simp [noFeed, Ne.symm feed])]
      rfl
  · obtain ⟨front, rfl⟩ := row.feed last
    have noFeed : '\n' ∉ front := row.oneRow front ['\n'] rfl (by simp)
    rw [List.append_assoc]
    exact toLines_append_feed noFeed after

/-- What is in front of a text without a line feed is in front of its first row. -/
theorem exists_behind
    {text : Text}
    (row : after.IsRowBefore line)
    (noFeed : '\n' ∉ front)
    (parts : line ++ after = front ++ text) :
    ∃ rest, line = front ++ rest ∧ text = rest ++ after := by
  rcases List.append_eq_append_iff.1 parts with ⟨crossing, rfl, afterParts⟩ | ⟨rest, found⟩
  · by_cases last : after = []
    · subst last
      obtain ⟨rfl, rfl⟩ := List.append_eq_nil_iff.1 afterParts.symm
      exact ⟨[], by simp, rfl⟩
    · obtain ⟨shown, rfl⟩ := row.feed last
      exact absurd (by simp) noFeed
  · exact ⟨rest, found⟩

/-- A row ends with its line feed. -/
theorem eq_of_feed
    {text : Text}
    (row : after.IsRowBefore line)
    (notEmpty : line ≠ [])
    (noFeed : '\n' ∉ front)
    (parts : line ++ after = front ++ '\n' :: text) :
    line = front ++ ['\n'] ∧ after = text := by
  have lines := row.toLines notEmpty
  rw [parts, toLines_append_feed noFeed] at lines
  obtain ⟨rfl, -⟩ := List.cons.inj lines
  refine ⟨rfl, ?_⟩
  rw [List.append_assoc] at parts
  exact (List.cons.inj (List.append_cancel_left parts)).2

/-- Where only characters inside a row are taken, the rows behind it do not matter. -/
theorem takeWhile_dropWhile
    {p : Char → Bool}
    (row : after.IsRowBefore line)
    (stops : p '\n' = false) :
    (line ++ after).takeWhile p = line.takeWhile p ∧
      (line ++ after).dropWhile p = line.dropWhile p ++ after := by
  by_cases last : after = []
  · subst last
    simp
  · obtain ⟨front, rfl⟩ := row.feed last
    induction front with
    | nil => simp [stops]
    | cons c front inductionHypothesis =>
        have shorter : after.IsRowBefore (front ++ ['\n']) :=
          row.behind List.singleton_append.symm (.inl (by simp))
        cases holds : p c with
        | true => simpa [holds] using inductionHypothesis shorter
        | false => simp [holds]

end Text.IsRowBefore

theorem Text.exists_row
    {text : Text}
    (notEmpty : text ≠ []) :
    ∃ line after, text = line ++ after ∧ line ≠ [] ∧ after.IsRowBefore line := by
  induction text using lineInduction with
  | empty => exact absurd rfl notEmpty
  | last line _ noFeed =>
      exact ⟨line, [], (List.append_nil _).symm, notEmpty, isOneRow_of_noFeed noFeed,
        fun more => absurd rfl more⟩
  | line front rest noFeed =>
      exact ⟨front ++ ['\n'], rest, by simp, by simp, isOneRow_of_feed noFeed,
        fun _ => ⟨front, rfl⟩⟩

/-! ## Where a scan has come to -/

/-- What is left of a scan before the rest of a row and the text behind the row. -/
def scanBehind (blocks : OpenBlocks) (depth : Nat) (origin : Arrow) (lastLine line after : Text) :
    Scan :=
  let placed := place (origin.row + 1) origin.column depth (lexemes line)
  (ScanState.scanRows ⟨blocks, placed.depth, placed.carry⟩ (origin.row + 1) lastLine
    after.toLines).prepend placed.tokens

/-- Whether a scan is what is left at a place, inside so many brackets, before a text. -/
inductive ScansOn : Scan → Arrow → Nat → Text → Prop
  | row
      {depth : Nat} {origin : Arrow} {line after : Text}
      (blocks : OpenBlocks) (lastLine : Text)
      (isRow : after.IsRowBefore line)
      (notEmpty : line ≠ []) :
      ScansOn (scanBehind blocks depth origin lastLine line after) origin depth (line ++ after)
  | ended
      {state : ScanState}
      (origin : Arrow) (rows : Nat) (lastLine : Text)
      (noLiteral : ∀ opened, state.carry ≠ .literal opened) :
      ScansOn (state.finish rows lastLine) origin state.depth []

theorem scansOn_scanBehind
    {line after : Text}
    (isRow : after.IsRowBefore line)
    (goesOn : line ≠ [] ∨ after = [])
    (blocks : OpenBlocks) (depth : Nat) (origin : Arrow) (lastLine : Text) :
    ScansOn (scanBehind blocks depth origin lastLine line after) origin depth (line ++ after) := by
  by_cases nothing : line = []
  · obtain rfl := goesOn.resolve_left fun something => something nothing
    subst nothing
    have ended := @ScansOn.ended ⟨blocks, depth, .nothing⟩ origin (origin.row + 1) lastLine (by simp)
    unfold scanBehind
    rw [lexemes_nil]
    exact ended
  · exact .row blocks lastLine isRow nothing

namespace ScansOn

variable {scan : Scan} {origin : Arrow} {depth : Nat}

/-- Before a character a scan is inside a row. -/
theorem exists_row
    {c : Char} {rest : Text}
    (onward : ScansOn scan origin depth (c :: rest)) :
    ∃ blocks lastLine line after, rest = line ++ after ∧ after.IsRowBefore (c :: line) ∧
      scan = scanBehind blocks depth origin lastLine (c :: line) after := by
  generalize whole : c :: rest = text at onward
  cases onward with
  | @row _ _ line after blocks lastLine isRow notEmpty =>
      obtain ⟨d, line, rfl⟩ := List.exists_cons_of_ne_nil notEmpty
      obtain ⟨rfl, rfl⟩ := List.cons.inj whole
      exact ⟨blocks, lastLine, line, after, rfl, isRow, rfl⟩
  | ended => cases whole

theorem content_of_nil
    (onward : ScansOn scan origin depth []) :
    scan.content = [] := by
  generalize whole : ([] : Text) = text at onward
  cases onward with
  | row _ _ _ notEmpty => exact absurd (List.append_eq_nil_iff.1 whole.symm).1 notEmpty
  | @ended state _ rows lastLine _ =>
      unfold Scan.content ScanState.finish
      split
      · rfl
      · rfl
      · split
        · split <;> simp [List.filter_append, TokenKind.isContent]
        · rfl

end ScansOn

/-! ## From lexeme to lexeme -/

/-- Whether a lexeme leaves nothing unfinished. -/
def LexemeKind.isWhole : LexemeKind → Bool
  | .joint | .openString _ => false
  | .blank | .comment | .lineEnd | .number | .string | .name | .operator | .stray => true

namespace Lexeme

/-- The bracket depth behind a lexeme. -/
def depthAfter (lexeme : Lexeme) (depth : Nat) : Nat :=
  match lexeme.kind with
  | .operator => Pipescript.depthAfter lexeme.text depth
  | _ => depth

/-- The token of a lexeme at a place, if it has one. -/
def tokens (lexeme : Lexeme) (origin : Arrow) (depth : Nat) : List Token :=
  (lexeme.kind.token? depth).toList.map fun kind =>
    ⟨kind, lexeme.text, origin.row + 1, origin.column⟩

end Lexeme

theorem place_cons
    {lexeme : Lexeme}
    (whole : lexeme.kind.isWhole)
    (origin : Arrow) (depth : Nat) (later : List Lexeme) :
    let rest := place (origin.row + 1) (origin.column + lexeme.text.length)
      (lexeme.depthAfter depth) later
    place (origin.row + 1) origin.column depth (lexeme :: later) =
      { rest with tokens := lexeme.tokens origin depth ++ rest.tokens } := by
  obtain ⟨kind, text⟩ := lexeme
  cases kind with
  | joint | openString => cases whole
  | blank | comment | lineEnd | number | string | name | operator | stray => rfl

/-- A lexeme inside a row leads to the text behind it. -/
theorem scansOn_behind_lexeme
    {c : Char} {line after behind : Text} {origin : Arrow} {lexeme : Lexeme}
    (isRow : after.IsRowBefore (c :: line))
    (first : Lexeme.first c line = lexeme)
    (parts : c :: (line ++ after) = lexeme.text ++ behind)
    (noFeed : '\n' ∉ lexeme.text)
    (whole : lexeme.kind.isWhole)
    (blocks : OpenBlocks) (depth : Nat) (lastLine : Text) :
    ∃ later, ScansOn later (origin.behind lexeme.text) (lexeme.depthAfter depth) behind ∧
      (scanBehind blocks depth origin lastLine (c :: line) after).Yields
        ((lexeme.tokens origin depth).filter (·.kind.isContent)) later := by
  obtain rfl := first
  obtain ⟨lineBehind, lineParts, cut⟩ := exists_lexemes_cons c line
  obtain rfl : behind = lineBehind ++ after := by
    rw [← List.cons_append, lineParts, List.append_assoc] at parts
    exact (List.append_cancel_left parts).symm
  have goesOn := isRow.goesOn lineParts noFeed
  have place := behind_of_noFeed noFeed origin
  refine ⟨scanBehind blocks ((Lexeme.first c line).depthAfter depth)
      (origin.behind (Lexeme.first c line).text) lastLine lineBehind after,
    scansOn_scanBehind (isRow.behind lineParts goesOn) goesOn _ _ _ _, ?_⟩
  have same : scanBehind blocks depth origin lastLine (c :: line) after =
      (scanBehind blocks ((Lexeme.first c line).depthAfter depth)
        (origin.behind (Lexeme.first c line).text) lastLine lineBehind after).prepend
          ((Lexeme.first c line).tokens origin depth) := by
    unfold scanBehind
    rw [cut, place_cons whole, place]
    simp only [Scan.prepend, List.append_assoc]
  rw [same]
  exact Scan.yields_prepend _ _

theorem ScansOn.lexeme
    {scan : Scan} {origin : Arrow} {depth : Nat} {c : Char} {rest behind : Text}
    (onward : ScansOn scan origin depth (c :: rest))
    (lexeme : Lexeme)
    (parts : c :: rest = lexeme.text ++ behind)
    (noFeed : '\n' ∉ lexeme.text)
    (whole : lexeme.kind.isWhole)
    (begun : ∀ line after, rest = line ++ after → after.IsRowBefore (c :: line) →
      Lexeme.first c line = lexeme) :
    ∃ later, ScansOn later (origin.behind lexeme.text) (lexeme.depthAfter depth) behind ∧
      scan.Yields ((lexeme.tokens origin depth).filter (·.kind.isContent)) later := by
  obtain ⟨blocks, lastLine, line, after, rfl, isRow, rfl⟩ := onward.exists_row
  exact scansOn_behind_lexeme isRow (begun line after rfl isRow) parts noFeed whole _ _ _

/-! ## From row to row -/

theorem place_margin
    {margin : Text}
    (isMargin : margin.all isMarginChar)
    (row column depth : Nat) (rest : Text) :
    place row column depth (lexemes (margin ++ rest)) =
      place row (column + margin.length) depth (lexemes rest) := by
  induction margin generalizing column with
  | nil => rfl
  | cons c margin inductionHypothesis =>
      obtain ⟨isBlank, isMargin⟩ := Bool.and_eq_true_iff.1 (List.all_cons ▸ isMargin)
      have first : Lexeme.first c (margin ++ rest) = ⟨.blank, [c]⟩ := by
        rw [Lexeme.first, if_pos isBlank]
      rw [List.cons_append, lexemes, first]
      show place row (column + 1) depth (lexemes (margin ++ rest)) = _
      rw [inductionHypothesis isMargin, List.length_cons, Nat.add_assoc, Nat.add_comm 1]

/-- A remark has no content. -/
theorem place_remark
    {c : Char}
    (remark : (c == '#' || isLineBreakChar c) = true)
    (row column depth : Nat) (later : Text) :
    let placed := place row column depth (lexemes (c :: later))
    placed.tokens.filter (·.kind.isContent) = [] ∧ placed.depth = depth ∧
      placed.carry = .nothing := by
  have lineEnd : ∀ (column : Nat) (d : Char) (rest : Text), isLineBreakChar d →
      let placed := place row column depth (lexemes (d :: rest))
      placed.tokens.filter (·.kind.isContent) = [] ∧ placed.depth = depth ∧
        placed.carry = .nothing := by
    intro column d rest breaks
    have first : Lexeme.first d rest = ⟨.lineEnd, d :: rest⟩ := by
      simp only [isLineBreakChar, Bool.or_eq_true, beq_iff_eq] at breaks
      rcases breaks with rfl | rfl <;> rfl
    rw [lexemes, first]
    simp only [List.length_cons, Nat.add_sub_cancel, List.drop_length, lexemes_nil, place]
    split <;> simp [TokenKind.isContent]
  rcases Bool.or_eq_true _ _ ▸ remark with comment | breaks
  · obtain rfl := beq_iff_eq.1 comment
    have first : Lexeme.first '#' later =
        ⟨.comment, '#' :: later.takeWhile (!isLineBreakChar ·)⟩ := rfl
    have parts := List.prefix_append_drop (List.takeWhile_prefix (l := later) (!isLineBreakChar ·))
    rw [lexemes, first]
    simp only [List.length_cons, Nat.add_sub_cancel, place]
    generalize taken : later.takeWhile (!isLineBreakChar ·) = note at parts ⊢
    rw [parts] at taken ⊢
    rw [List.drop_left]
    cases behind : later.drop note.length with
    | nil =>
        rw [lexemes_nil]
        exact ⟨rfl, rfl, rfl⟩
    | cons d rest =>
        rw [behind] at taken
        have breaks : isLineBreakChar d := by
          simpa using head?_of_takeWhile taken rfl
        exact lineEnd _ d rest breaks
  · exact lineEnd column c later breaks

theorem OpenBlocks.step_nil (column : Nat) : step [] column ≠ .inconsistent := by
  cases column with
  | zero => decide
  | succ column => simp [step, current]

namespace ScanState

/-- Only a row that could begin a statement is indented inconsistently. -/
theorem fresh_of_error
    {state : ScanState} {row : Nat} {line : Text} {error : ScanError}
    (failed : state.scanRow row line = .error error) :
    state.depth = 0 ∧ state.blocks ≠ [] := by
  unfold scanRow at failed
  split at failed
  · cases failed
  · cases failed
  · split at failed
    · next noBracket =>
        refine ⟨noBracket, fun noBlock => ?_⟩
        unfold scanFresh at failed
        dsimp only at failed
        rw [noBlock] at failed
        split at failed
        · cases failed
        · split at failed
          · cases failed
          · split at failed
            · cases failed
            · cases failed
            · cases failed
            · next inconsistent => exact OpenBlocks.step_nil _ inconsistent
    · cases failed

/-- A row that begins in no literal has the content that its lexemes have from its margin on. -/
theorem yields_of_rowStep
    {state next : ScanState} {rows : Nat} {line : Text} {tokens : List Token}
    (noLiteral : ∀ opened, state.carry ≠ .literal opened)
    (step : RowStep (rows + 1) line state tokens next)
    (after : Text) :
    ∃ blocks, ((next.scanRows (rows + 1) line after.toLines).prepend tokens).Yields []
      (scanBehind blocks state.depth ⟨rows, 0⟩ line line after) := by
  have marginParts : line = line.takeWhile isMarginChar ++
      line.drop (line.takeWhile isMarginChar).length :=
    List.prefix_append_drop (List.takeWhile_prefix isMarginChar)
  have isMargin : (line.takeWhile isMarginChar).all isMarginChar :=
    List.all_eq_true.2 fun c member => List.mem_takeWhile_imp member
  -- What the lexemes of the row make is what they make behind its margin.
  have behindMargin := place_margin isMargin (rows + 1) 0 state.depth
    (line.drop (line.takeWhile isMarginChar).length)
  rw [← marginParts, Nat.zero_add] at behindMargin
  have same : ∀ (blocks : OpenBlocks) (front : List Token) (placed : Placed),
      place (rows + 1) 0 state.depth (lexemes line) = placed →
      front.filter (·.kind.isContent) = placed.tokens.filter (·.kind.isContent) →
      ((scanRows ⟨blocks, placed.depth, placed.carry⟩ (rows + 1) line after.toLines).prepend
        front).Yields [] (scanBehind blocks state.depth ⟨rows, 0⟩ line line after) := by
    rintro blocks front _ rfl sameContent
    refine ⟨?_, rfl⟩
    unfold scanBehind Scan.prepend Scan.content
    simp only [List.filter_append, sameContent, List.nil_append]
  cases step with
  | blank noCarry _ empty =>
      rw [empty, lexemes_nil] at behindMargin
      obtain ⟨blocks, depth, carry⟩ := state
      obtain rfl : carry = .nothing := noCarry
      exact ⟨blocks, same blocks [] _ behindMargin rfl⟩
  | remark c later noCarry _ content remark =>
      rw [content] at behindMargin
      obtain ⟨noContent, sameDepth, nothing⟩ := place_remark remark (rows + 1)
        (line.takeWhile isMarginChar).length state.depth later
      obtain ⟨blocks, depth, carry⟩ := state
      obtain rfl : carry = .nothing := noCarry
      have yields := same blocks (remarkTokens (rows + 1) (line.takeWhile isMarginChar).length
        ((c :: later).takeWhile (!isLineBreakChar ·))
        ((c :: later).drop ((c :: later).takeWhile (!isLineBreakChar ·)).length)) _ behindMargin ?_
      · dsimp only at yields sameDepth nothing
        rw [sameDepth, nothing] at yields
        exact ⟨blocks, yields⟩
      · rw [noContent]
        refine List.filter_eq_nil_iff.2 fun token member => ?_
        rcases kind_of_mem_remarkTokens member with kind | kind <;> simp [kind, TokenKind.isContent]
  | statement c later noCarry _ content _ _ =>
      refine ⟨_, same _ _ _ behindMargin ?_⟩
      rw [List.filter_append]
      have noContent : ((state.blocks.step (marginColumn (line.takeWhile isMarginChar))).tokens
          (rows + 1) (line.takeWhile isMarginChar)).filter (·.kind.isContent) = [] := by
        refine List.filter_eq_nil_iff.2 fun token member => ?_
        rcases BlockStep.kind_of_mem_tokens member with kind | kind <;>
          simp [kind, TokenKind.isContent]
      rw [noContent]
      rfl
  | continued => exact ⟨_, same state.blocks _ _ rfl rfl⟩
  | closed opened _ isOpen | inside opened isOpen | broken opened isOpen =>
      exact absurd isOpen (noLiteral opened)

end ScanState

/-- Where a row begins a scan goes on with what is left, unless it ends with an error. -/
theorem scansOn_scanRows
    {carry : Carry}
    (noLiteral : ∀ opened, carry ≠ .literal opened)
    (blocks : OpenBlocks) (depth rows : Nat) (lastLine text : Text) :
    (∃ later, ScansOn later ⟨rows, 0⟩ depth text ∧
      (ScanState.scanRows ⟨blocks, depth, carry⟩ rows lastLine text.toLines).Yields [] later) ∨
    (carry = .nothing ∧ depth = 0 ∧ blocks ≠ [] ∧
      (ScanState.scanRows ⟨blocks, depth, carry⟩ rows lastLine text.toLines).content = []) := by
  by_cases nothing : text = []
  · subst nothing
    have ended := @ScansOn.ended ⟨blocks, depth, carry⟩ ⟨rows, 0⟩ rows lastLine noLiteral
    exact .inl ⟨_, ended, .refl _⟩
  · obtain ⟨line, after, rfl, notEmpty, isRow⟩ := Text.exists_row nothing
    rw [isRow.toLines notEmpty, ScanState.scanRows]
    cases scanned : ScanState.scanRow ⟨blocks, depth, carry⟩ (rows + 1) line with
    | error error =>
        obtain ⟨noCarry, -⟩ := ScanState.error_of_scanRow scanned
        obtain ⟨noBracket, someBlock⟩ := ScanState.fresh_of_error scanned
        exact .inr ⟨noCarry, noBracket, someBlock, rfl⟩
    | ok made =>
        obtain ⟨entered, yields⟩ := ScanState.yields_of_rowStep noLiteral
          (ScanState.rowStep_of_scanRow scanned) after
        exact .inl ⟨_, .row entered line isRow notEmpty, yields⟩

theorem lexemes_of_whole
    {c : Char} {rest : Text} {kind : LexemeKind}
    (first : Lexeme.first c rest = ⟨kind, c :: rest⟩) :
    lexemes (c :: rest) = [⟨kind, c :: rest⟩] := by
  rw [lexemes, first]
  simp

namespace ScansOn

variable {scan : Scan} {origin : Arrow} {depth : Nat}

/-- A scan comes to the end of a row with nothing but that left. -/
theorem exists_rowEnd
    {front behind : Text}
    (onward : ScansOn scan origin depth (front ++ '\n' :: behind))
    (noFeed : '\n' ∉ front) :
    ∃ blocks lastLine,
      scan = scanBehind blocks depth origin lastLine (front ++ ['\n']) behind := by
  obtain ⟨c, rest, whole⟩ : ∃ c rest, front ++ '\n' :: behind = c :: rest :=
    List.exists_cons_of_ne_nil (by simp)
  rw [whole] at onward
  obtain ⟨blocks, lastLine, line, after, rfl, isRow, rfl⟩ := onward.exists_row
  obtain ⟨shape, rfl⟩ := isRow.eq_of_feed (List.cons_ne_nil c line) noFeed whole.symm
  exact ⟨blocks, lastLine, by rw [shape]⟩

theorem behind_rowEnd
    {front : Text}
    (noFeed : '\n' ∉ front)
    (origin : Arrow) :
    origin.behind (front ++ ['\n']) = ⟨origin.row + 1, 0⟩ := by
  rw [behind_append, behind_of_noFeed noFeed]
  rfl

/-- A line end leads to the next row, which may be indented inconsistently if no bracket is open. -/
theorem lineEnd
    {behind : Text}
    (front : Text)
    (onward : ScansOn scan origin depth (front ++ '\n' :: behind))
    (isEnd : front = [] ∨ front = ['\r']) :
    (∃ later, ScansOn later (origin.behind (front ++ ['\n'])) depth behind ∧ scan.Yields [] later) ∨
      (depth = 0 ∧ scan.content = []) := by
  have noFeed : '\n' ∉ front := by
    rcases isEnd with rfl | rfl <;> decide
  obtain ⟨blocks, lastLine, rfl⟩ := onward.exists_rowEnd noFeed
  have alone : lexemes (front ++ ['\n']) = [⟨.lineEnd, front ++ ['\n']⟩] := by
    rcases isEnd with rfl | rfl <;> exact lexemes_of_whole rfl
  rw [behind_rowEnd noFeed]
  unfold scanBehind
  rw [alone]
  have noContent : ∀ later : Scan, (later.prepend
      (place (origin.row + 1) origin.column depth [⟨.lineEnd, front ++ ['\n']⟩]).tokens).Yields []
        later := by
    intro later
    have yields := Scan.yields_prepend
      (place (origin.row + 1) origin.column depth [⟨.lineEnd, front ++ ['\n']⟩]).tokens later
    have hidden : (place (origin.row + 1) origin.column depth
        [⟨.lineEnd, front ++ ['\n']⟩]).tokens.filter (·.kind.isContent) = [] := by
      simp only [place]
      split <;> rfl
    rwa [hidden] at yields
  have nothing : ∀ opened, Carry.nothing ≠ .literal opened := by simp
  rcases scansOn_scanRows nothing blocks depth (origin.row + 1) lastLine behind with
    ⟨later, laterOnward, yields⟩ | ⟨-, noBracket, -, noMore⟩
  · exact .inl ⟨later, laterOnward, (noContent _).trans yields⟩
  · exact .inr ⟨noBracket, (noContent _).content.trans noMore⟩

/-- A joint leads to the next row. -/
theorem joint
    {lineEnd behind : Text}
    (onward : ScansOn scan origin depth ('\\' :: lineEnd ++ behind))
    (isEnd : lineEnd = ['\n'] ∨ lineEnd = ['\r', '\n']) :
    ∃ later, ScansOn later (origin.behind ('\\' :: lineEnd)) depth behind ∧
      scan.Yields [] later := by
  obtain ⟨front, shape, noFeed, alone⟩ : ∃ front, '\\' :: lineEnd = front ++ ['\n'] ∧ '\n' ∉ front ∧
      lexemes (front ++ ['\n']) = [⟨.joint, front ++ ['\n']⟩] := by
    rcases isEnd with rfl | rfl
    · exact ⟨['\\'], rfl, by decide, lexemes_of_whole rfl⟩
    · exact ⟨['\\', '\r'], rfl, by decide, lexemes_of_whole rfl⟩
  rw [shape, List.append_assoc] at onward
  obtain ⟨blocks, lastLine, rfl⟩ := onward.exists_rowEnd noFeed
  rw [shape, behind_rowEnd noFeed]
  unfold scanBehind
  rw [alone]
  have joined : ∀ opened, Carry.joint ≠ .literal opened := by simp
  rcases scansOn_scanRows joined blocks depth (origin.row + 1) lastLine behind with
    ⟨later, laterOnward, yields⟩ | ⟨isNothing, -⟩
  · exact ⟨later, laterOnward, yields⟩
  · cases isNothing

end ScansOn

end Pipescript
