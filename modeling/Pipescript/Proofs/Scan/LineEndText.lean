import Pipescript.Proofs.Scan.ColonToken
import Pipescript.Proofs.Scan.Nesting
import Pipescript.Proofs.Scan.WithReturns
import Pipescript.Proofs.Text.LineIndex

/-!
# Texts of line ends

A line end is what its row has from a line break character on.  So its text is plain, a line feed
with or without a carriage return before it or a carriage return at the end of the script, unless
the row has a carriage return somewhere else.
-/

namespace Pipescript

open Arrow Text

/-- The texts of line ends: nothing, a line feed with or without a carriage return before it, and a
carriage return. -/
def plainLineEnds : List Text :=
  [[], ['\n'], ['\r', '\n'], ['\r']]

/-- Whether a token ends a row. -/
def TokenKind.isLineEnd : TokenKind → Bool
  | .newline | .lineBreak => true
  | .name | .number | .string | .operator | .comment | .indent | .dedent | .stray | .endMarker =>
      false

theorem mem_plainLineEnds_of_isLineEnd
    {text : Text}
    (lineEnd : isLineEnd text) :
    text ∈ plainLineEnds := by
  simp only [isLineEnd, Bool.or_eq_true, beq_iff_eq] at lineEnd
  rcases lineEnd with (rfl | rfl) | rfl <;> simp [plainLineEnds]

/-- A text with a carriage return before something other than a line feed is no plain line end. -/
theorem notMem_plainLineEnds
    {c : Char}
    (lone : c ≠ '\n')
    (front behind : Text) :
    front ++ '\r' :: c :: behind ∉ plainLineEnds := by
  simp [plainLineEnds, List.append_eq_cons_iff, List.cons_eq_append_iff, lone]

/-- A line end that is not plain begins with such a carriage return. -/
theorem exists_lone_of_notMem
    {c : Char} {rest : Text}
    (oneRow : IsOneRow (c :: rest))
    (breaks : isLineBreakChar c)
    (notPlain : c :: rest ∉ plainLineEnds) :
    c = '\r' ∧ ∃ d more, rest = d :: more ∧ d ≠ '\n' := by
  have notFeed : c ≠ '\n' := by
    rintro rfl
    by_cases nothing : rest = []
    · exact notPlain (by simp [nothing, plainLineEnds])
    · exact oneRow ['\n'] rest rfl nothing (by simp)
  obtain rfl : c = '\r' := by simpa [isLineBreakChar, notFeed] using breaks
  refine ⟨rfl, ?_⟩
  cases rest with
  | nil => simp [plainLineEnds] at notPlain
  | cons d more =>
      refine ⟨d, more, rfl, ?_⟩
      rintro rfl
      by_cases nothing : more = []
      · exact notPlain (by simp [nothing, plainLineEnds])
      · exact oneRow ['\r', '\n'] more rfl nothing (by simp)

namespace Lexeme

theorem text_of_lineEnd
    {c : Char} {rest : Text}
    (ends : (first c rest).kind = .lineEnd) :
    isLineBreakChar c ∧ (first c rest).text = c :: rest := by
  revert ends
  fun_cases first c rest with
  | case3 _ _ breaks => intro _; exact ⟨breaks, rfl⟩
  | case6 | case8 => intro ends; exact absurd ends (kind_ofQuote_ne rfl _ _ _)
  | case1 | case2 | case4 | case5 | case7 | case9 | case10 | case11 | case12 =>
      intro ends
      cases ends

/-- Only some kinds of lexemes have carriage returns. -/
theorem kind_of_return
    {c : Char} {rest : Text}
    (isReturn : '\r' ∈ (first c rest).text) :
    (first c rest).kind.isQuoted ∨ (first c rest).kind = .lineEnd ∨
      (first c rest).kind = .joint := by
  have noNameReturn : ∀ {name : Text}, startsName c → '\r' ∉ c :: name.takeWhile continuesName := by
    intro name starts member
    rcases List.mem_cons.1 member with rfl | continued
    · exact absurd starts (by decide +kernel)
    · exact absurd (List.mem_takeWhile_imp continued) (by decide +kernel)
  revert isReturn
  fun_cases first c rest with
  | case1 margin =>
      intro isReturn
      obtain rfl := List.mem_singleton.1 isReturn
      exact absurd margin (by decide)
  | case2 _ comments =>
      intro isReturn
      rcases List.mem_cons.1 isReturn with rfl | inside
      · exact absurd comments (by decide)
      · exact absurd (List.mem_takeWhile_imp inside) (by decide)
  | case3 => exact fun _ => .inr (.inl rfl)
  | case4 => exact fun _ => .inr (.inr rfl)
  | case5 | case12 => exact fun _ => .inl rfl
  | case6 | case8 => exact fun _ => .inl (isQuoted_kind_ofQuote _ _ _)
  | case7 =>
      intro isReturn
      exact absurd (isNumberChar_of_mem_numberLiteral isReturn) (by decide +kernel)
  | case9 _ _ _ _ _ _ starts | case10 _ _ _ _ _ _ starts =>
      exact fun isReturn => absurd isReturn (noNameReturn starts)
  | case11 _ _ _ _ _ _ _ operator found =>
      intro isReturn
      have noReturn : ∀ listed ∈ operators, '\r' ∉ listed := by decide
      exact absurd isReturn (noReturn operator (List.mem_of_find?_eq_some found))

end Lexeme

/-! ## Line ends are rests of rows -/

/-- Whether a token is what a line, which begins at a column of a row, has from a line break
character on. -/
def Token.EndsLine (token : Token) (row column : Nat) (line : Text) : Prop :=
  ∃ front c rest, line = front ++ c :: rest ∧ isLineBreakChar c ∧ token.text = c :: rest ∧
    token.row = row ∧ token.column = column + front.length

theorem Token.EndsLine.behind
    {token : Token} {row column : Nat} {line : Text}
    (front : Text)
    (endsLine : token.EndsLine row (column + front.length) line) :
    token.EndsLine row column (front ++ line) := by
  obtain ⟨before, c, rest, rfl, breaks, text, sameRow, sameColumn⟩ := endsLine
  refine ⟨front ++ before, c, rest, (List.append_assoc _ _ _).symm, breaks, text, sameRow, ?_⟩
  rw [sameColumn, List.length_append, Nat.add_assoc]

theorem endsLine_of_place
    {column depth : Nat} {text : Text} {token : Token}
    (row : Nat)
    (member : token ∈ (place (row + 1) column depth (lexemes text)).tokens)
    (ends : token.kind.isLineEnd) :
    token.EndsLine (row + 1) column text := by
  induction text using lexemeInduction generalizing column depth with
  | empty =>
      rw [lexemes_nil] at member
      cases member
  | lexeme c rest behind parts cut inductionHypothesis =>
      have fits := Lexeme.first_fitsKind c rest
      have ended := @Lexeme.text_of_lineEnd c rest
      rw [cut] at member
      generalize Lexeme.first c rest = lexeme at parts fits ended member
      obtain ⟨kind, text⟩ := lexeme
      have later : ∀ {depth : Nat},
          token ∈ (place (row + 1) (column + text.length) depth (lexemes behind)).tokens →
          token.EndsLine (row + 1) column (c :: rest) := by
        intro depth below
        rw [parts]
        exact (inductionHypothesis below).behind text
      by_cases whole : kind.isWhole
      · rw [@place_cons _ whole ⟨row, column⟩] at member
        rcases List.mem_append.1 member with here | below
        · obtain ⟨tokenKind, becomes, rfl⟩ := List.mem_map.1 here
          rw [Option.mem_toList] at becomes
          cases kind with
          | lineEnd =>
              obtain ⟨breaks, rfl⟩ := ended rfl
              exact ⟨[], c, rest, rfl, breaks, rfl, rfl, rfl⟩
          | blank | joint | openString => cases becomes
          | comment | number | string | name | operator | stray =>
              cases becomes
              cases ends
        · exact later below
      · cases kind with
        | joint | openString => cases member
        | blank | comment | lineEnd | number | string | name | operator | stray =>
            exact absurd rfl whole

theorem lineBreak_mem_remarkTokens
    {lineEnd : Text}
    (notEmpty : lineEnd ≠ [])
    (row column : Nat) (comment : Text) :
    ⟨.lineBreak, lineEnd, row, column + comment.length⟩ ∈
      remarkTokens row column comment lineEnd := by
  refine List.mem_append_right _ ?_
  rw [if_neg (by simpa using notEmpty)]
  exact List.mem_singleton_self _

theorem eq_of_mem_remarkTokens
    {row column : Nat} {comment lineEnd : Text} {token : Token}
    (member : token ∈ remarkTokens row column comment lineEnd)
    (ends : token.kind.isLineEnd) :
    token = ⟨.lineBreak, lineEnd, row, column + comment.length⟩ ∧ lineEnd ≠ [] := by
  rcases List.mem_append.1 member with first | last
  · split at first
    · cases first
    · rw [List.mem_singleton.1 first] at ends
      cases ends
  · split at last
    · cases last
    · next notEmpty =>
        exact ⟨List.mem_singleton.1 last, fun nothing => by simp [nothing] at notEmpty⟩

namespace ScanState

variable {state next : ScanState} {row : Nat} {line : Text} {tokens : List Token} {token : Token}

theorem endsLine_of_scanRest
    {front rest : Text}
    (parts : line = front ++ rest)
    (member : token ∈ (state.scanRest (row + 1) front.length rest).1)
    (ends : token.kind.isLineEnd) :
    token.EndsLine (row + 1) 0 line := by
  have behind : token.EndsLine (row + 1) (0 + front.length) rest := by
    rw [Nat.zero_add]
    exact endsLine_of_place row member ends
  exact parts ▸ behind.behind front

/-- The line end of a row is what the row has from a line break character on. -/
theorem endsLine_of_rowStep
    (step : RowStep (row + 1) line state tokens next)
    (member : token ∈ tokens)
    (ends : token.kind.isLineEnd) :
    token.EndsLine (row + 1) 0 line := by
  have marginParts := List.prefix_append_drop (List.takeWhile_prefix isMarginChar (l := line))
  cases step with
  | blank | inside => cases member
  | remark c later _ _ content _ =>
      obtain ⟨rfl, hasText⟩ := eq_of_mem_remarkTokens member ends
      rw [content] at marginParts
      rw [drop_length_takeWhile] at hasText ⊢
      obtain ⟨d, more, lineEnd⟩ := List.exists_cons_of_ne_nil hasText
      have breaks : isLineBreakChar d := by
        have stops := List.head?_dropWhile_not (!isLineBreakChar ·) (c :: later)
        rw [lineEnd] at stops
        simpa using stops
      refine ⟨line.takeWhile isMarginChar ++ (c :: later).takeWhile (!isLineBreakChar ·), d, more,
        ?_, breaks, lineEnd, rfl, ?_⟩
      · rw [← lineEnd, List.append_assoc, List.takeWhile_append_dropWhile, ← marginParts]
      · rw [Nat.zero_add, List.length_append]
  | statement =>
      rcases List.mem_append.1 member with block | rest
      · rcases BlockStep.kind_of_mem_tokens block with indent | dedent
        · simp [indent, TokenKind.isLineEnd] at ends
        · simp [dedent, TokenKind.isLineEnd] at ends
      · exact endsLine_of_scanRest marginParts rest ends
  | continued => exact endsLine_of_scanRest (List.nil_append line).symm member ends
  | closed opened inside _ closes =>
      rcases List.mem_cons.1 member with rfl | rest
      · cases ends
      · exact endsLine_of_scanRest (List.prefix_append_drop (Quote.closed?_isPrefix closes)) rest
          ends
  | broken =>
      obtain rfl := List.mem_singleton.1 member
      cases ends

end ScanState

/-- A line end of a script that has a text is the rest of a row from a line break character on. -/
theorem endsLine_of_scan
    {script : Text} {token : Token}
    (member : token ∈ (scan script).tokens)
    (ends : token.kind.isLineEnd)
    (hasText : token.text ≠ []) :
    ∃ row line, script.toLines[row]? = some line ∧ token.EndsLine (row + 1) 0 line := by
  have above : ∀ {row tokens state}, row ≤ script.toLines.length →
      scanAbove? script row = some (tokens, state) → token ∈ tokens →
      ∃ row line, script.toLines[row]? = some line ∧ token.EndsLine (row + 1) 0 line := by
    intro row
    induction row with
    | zero =>
        intro tokens state _ above made
        obtain ⟨rfl, -⟩ := Prod.mk.inj (Option.some.inj above)
        cases made
    | succ row inductionHypothesis =>
        intro tokens state bound above made
        have here := List.getElem?_eq_getElem (Nat.lt_of_succ_le bound)
        obtain ⟨earlier, before, later, reached, scanned, rfl⟩ :=
          exists_scanAbove?_of_succ above here
        rcases List.mem_append.1 made with made | made
        · exact inductionHypothesis (Nat.le_of_succ_le bound) reached made
        · exact ⟨row, _, here,
            ScanState.endsLine_of_rowStep (ScanState.rowStep_of_scanRow scanned) made ends⟩
  rcases scan_cases script with
    ⟨tokens, state, last, reached, same⟩ | ⟨row, line, tokens, state, here, reached, -, same⟩
  · rw [same] at member
    rcases List.mem_append.1 member with made | ending
    · exact above (Nat.le_refl _) reached made
    · exact absurd (ScanState.isMark_of_mem_finish ending).2 hasText
  · rw [same] at member
    exact above (Nat.le_of_lt (List.getElem?_eq_some_iff.1 here).1) reached member

end Pipescript
