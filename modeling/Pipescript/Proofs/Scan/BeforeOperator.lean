import Mathlib.Data.List.Pairwise
import Pipescript.Proofs.Arrow.Exact
import Pipescript.Proofs.Scan.BehindOperator
import Pipescript.Proofs.Scan.SealedLine

/-!
# Before an operator

A comment and a line end are the last tokens of a row, and a literal that breaks off takes the rest
of its row along.  So a colon that one of them hides stands on a row above any operator behind it.
A literal may be closed on the row of the operator, with a quotation mark.
-/

namespace Pipescript

open Arrow

/-! ## What lexemes hide -/

namespace Lexeme

/-- A literal is closed with its mark, or left open, or its opening alone is a stray. -/
theorem ofQuote_cases (letters : Text) (mark : Char) (rest : Text) :
    (∃ inside, inside.getLast? = some mark ∧
      ofQuote letters mark rest = ⟨.string, letters ++ inside⟩) ∨
    (∃ quote, ofQuote letters mark rest = ⟨.openString quote, letters ++ mark :: rest⟩) ∨
    ofQuote letters mark rest = ⟨.stray, letters ++ [mark]⟩ := by
  unfold ofQuote
  dsimp only
  split
  · next inside closed =>
      refine .inl ⟨_, ?_, by rw [List.append_assoc]⟩
      rw [List.getLast?_append, Quote.getLast?_of_closed? closed]
      rfl
  · split
    · exact .inr (.inl ⟨_, rfl⟩)
    · exact .inr (.inr rfl)

theorem text_of_stray_ofQuote
    {letters rest : Text} {mark : Char}
    (stray : (ofQuote letters mark rest).kind = .stray) :
    (ofQuote letters mark rest).text = letters ++ [mark] := by
  rcases ofQuote_cases letters mark rest with ⟨inside, -, same⟩ | ⟨quote, same⟩ | same
  · rw [same] at stray
    cases stray
  · rw [same] at stray
    cases stray
  · rw [same]

theorem getLast?_of_string_ofQuote
    {letters rest : Text} {mark : Char}
    (isMark : isQuoteMark mark)
    (string : (ofQuote letters mark rest).kind = .string) :
    ∃ last, isQuoteMark last ∧ (ofQuote letters mark rest).text.getLast? = some last := by
  rcases ofQuote_cases letters mark rest with ⟨inside, ends, same⟩ | ⟨quote, same⟩ | same
  · refine ⟨mark, isMark, ?_⟩
    rw [same, List.getLast?_append, ends]
    rfl
  · rw [same] at string
    cases string
  · rw [same] at string
    cases string

/-- A character that begins nothing and the opening of a literal are no colons. -/
theorem colon_notMem_of_stray
    {c : Char} {rest : Text}
    (stray : (first c rest).kind = .stray) :
    ':' ∉ (first c rest).text := by
  have noMark : ∀ {mark : Char}, isQuoteMark mark → mark ≠ ':' := by
    rintro mark isMark rfl
    exact absurd isMark (by decide)
  revert stray
  fun_cases first c rest with
  | case5 _ _ _ escapes =>
      intro _
      rw [escapes]
      decide
  | case6 _ _ _ _ isMark =>
      intro stray
      rw [text_of_stray_ofQuote stray]
      simp [(noMark isMark).symm]
  | case8 _ _ _ _ _ _ starts name mark after _ opens =>
      intro stray colon
      rw [text_of_stray_ofQuote stray] at colon
      rcases List.mem_append.1 colon with named | marked
      · rcases List.mem_cons.1 named with rfl | continued
        · exact absurd starts (by decide +kernel)
        · exact absurd (List.mem_takeWhile_imp continued) (by decide +kernel)
      · exact noMark (Bool.and_eq_true_iff.1 opens).1 (List.mem_singleton.1 marked).symm
  | case12 _ _ _ _ _ _ _ none =>
      intro _ colon
      obtain rfl := List.mem_singleton.1 colon
      have listed : [':'] ∈ operators := by decide
      exact absurd (List.find?_eq_none.1 none _ listed) (by simp [List.isPrefixOf])
  | case1 | case2 | case3 | case4 | case7 | case9 | case10 | case11 =>
      intro stray
      cases stray

/-- A comment and a line end show by their first character. -/
theorem isRemark_of_kind
    {c : Char} {rest : Text}
    (kind : (first c rest).kind = .comment ∨ (first c rest).kind = .lineEnd) :
    (c == '#' || isLineBreakChar c) = true := by
  revert kind
  fun_cases first c rest with
  | case2 _ comments =>
      intro _
      rw [comments]
      rfl
  | case3 _ _ breaks =>
      intro _
      rw [breaks, Bool.or_true]
  | case6 | case8 =>
      intro kind
      rcases kind with comment | lineEnd
      · exact absurd comment (kind_ofQuote_ne rfl _ _ _)
      · exact absurd lineEnd (kind_ofQuote_ne rfl _ _ _)
  | case1 | case4 | case5 | case7 | case9 | case10 | case11 | case12 =>
      intro kind
      rcases kind with comment | lineEnd
      · cases comment
      · cases lineEnd

end Lexeme

/-! ## The row of an operator -/

/-- Whether colons that a token hides, other than those of a literal, stand on rows above that of an
operator. -/
def Token.HidesAbove (token operator : Token) : Prop :=
  token.kind.hidesArrows → token.kind ≠ .string → operator.kind = .operator →
    ∀ inside after, token.text = inside ++ ':' :: after →
      (token.place.behind inside).row < operator.place.row

theorem Token.hidesAbove_of_notMem
    {token : Token}
    (noColon : ':' ∉ token.text)
    (operator : Token) :
    token.HidesAbove operator := by
  intro _ _ _ inside after text
  rw [text] at noColon
  exact absurd (List.mem_append_right _ List.mem_cons_self) noColon

/-- The lexemes of a row hide no colon before an operator of the row. -/
theorem pairwise_place (origin : Arrow) (depth : Nat) (line : Text) :
    (place (origin.row + 1) origin.column depth (lexemes line)).tokens.Pairwise
      Token.HidesAbove := by
  induction line using lexemeInduction generalizing origin depth with
  | empty =>
      rw [lexemes_nil]
      exact .nil
  | lexeme c rest behind parts cut inductionHypothesis =>
      by_cases remark : (c == '#' || isLineBreakChar c) = true
      · have noContent := (place_remark remark (origin.row + 1) origin.column depth rest).1
        refine List.pairwise_of_forall_mem_list fun token _ other otherMember _ _ operator => ?_
        have kept : other ∈ (place (origin.row + 1) origin.column depth
            (lexemes (c :: rest))).tokens.filter (·.kind.isContent) :=
          List.mem_filter.2 ⟨otherMember, by rw [operator]; rfl⟩
        rw [noContent] at kept
        cases kept
      · have noRemark := fun kind => remark (@Lexeme.isRemark_of_kind c rest kind)
        have noColon := @Lexeme.colon_notMem_of_stray c rest
        rw [cut]
        generalize Lexeme.first c rest = lexeme at noRemark noColon
        by_cases whole : lexeme.kind.isWhole
        · rw [place_cons whole]
          refine List.pairwise_append.2
            ⟨?_, inductionHypothesis ⟨origin.row, origin.column + lexeme.text.length⟩ _, ?_⟩
          · unfold Lexeme.tokens
            cases lexeme.kind.token? depth with
            | none => exact .nil
            | some kind => exact List.pairwise_singleton _ _
          · intro token member other _ hides noString
            obtain ⟨kind, text⟩ := lexeme
            obtain ⟨tokenKind, found, rfl⟩ := List.mem_map.1 member
            obtain rfl : kind = .stray := by
              cases kind with
              | comment | lineEnd => exact absurd (by simp) noRemark
              | blank | joint | openString => cases found
              | stray => rfl
              | number | string | name | operator =>
                  obtain rfl := Option.some.inj (Option.mem_toList.1 found)
                  simp [TokenKind.hidesArrows] at hides noString
            exact Token.hidesAbove_of_notMem (noColon rfl) other hides noString
        · obtain ⟨kind, text⟩ := lexeme
          cases kind with
          | joint | openString => exact .nil
          | blank | comment | lineEnd | number | string | name | operator | stray =>
              exact absurd rfl whole

namespace ScanState

/-- A row hides no colon before an operator of the row, but for those of literals. -/
theorem pairwise_of_rowStep
    {state next : ScanState} {rows : Nat} {line : Text} {tokens : List Token}
    (step : RowStep (rows + 1) line state tokens next) :
    tokens.Pairwise Token.HidesAbove := by
  have rest : ∀ (state : ScanState) (column : Nat) (rest : Text),
      (state.scanRest (rows + 1) column rest).1.Pairwise Token.HidesAbove :=
    fun state column rest => pairwise_place ⟨rows, column⟩ state.depth rest
  cases step with
  | blank | inside => exact .nil
  | remark =>
      refine List.pairwise_of_forall_mem_list fun _ _ other member _ _ operator => ?_
      rcases kind_of_mem_remarkTokens member with comment | lineBreak
      · simp [comment] at operator
      · simp [lineBreak] at operator
  | statement =>
      have shows : ∀ token ∈ (state.blocks.step (marginColumn (line.takeWhile isMarginChar))).tokens
          (rows + 1) (line.takeWhile isMarginChar), ∀ other, token.HidesAbove other := by
        intro token member other hides
        rcases BlockStep.kind_of_mem_tokens member with indent | dedent
        · simp [indent, TokenKind.hidesArrows] at hides
        · simp [dedent, TokenKind.hidesArrows] at hides
      exact List.pairwise_append.2
        ⟨List.pairwise_of_forall_mem_list fun token member other _ => shows token member other,
          rest _ _ _, fun token member other _ => shows token member other⟩
  | continued => exact rest _ _ _
  | closed => exact .cons (fun _ _ _ noString => absurd rfl noString) (rest _ _ _)
  | broken => exact List.pairwise_singleton _ _

/-- A token of a row hides no colon below the row. -/
theorem hidesAbove_of_rowStep
    {state next : ScanState} {rows index : Nat} {front : Text} {tokens : List Token}
    {origin : Arrow} {token operator : Token}
    (step : RowStep (rows + 1) (front ++ ['\n']) state tokens next)
    (noFeed : '\n' ∉ front)
    (opens : state.carry.OpensAt origin)
    (here : origin.behind state.carry.pending = ⟨rows, 0⟩)
    (member : token ∈ tokens)
    (below : operator.row = rows + 1 + index + 1) :
    token.HidesAbove operator := by
  intro _ _ _ inside after text
  obtain ⟨covered, parts, covers, -⟩ :=
    coversBut_of_rowStep step (isOneRow_of_feed noFeed) opens here
  have tokenEnd := (covers.ordered.2 token member).2
  have rowEnd := precedes_behind (origin.behind covered) next.carry.pending
  rw [← behind_append, ← parts, behind_append, here, ScansOn.behind_rowEnd noFeed] at rowEnd
  have colon := before_behind_cons (token.place.behind inside) ':' after
  rw [← behind_append, ← text] at colon
  have stops := precedes_trans tokenEnd rowEnd
  rw [precedes_iff] at stops
  unfold Before at colon
  unfold Token.place at *
  dsimp only at stops ⊢
  omega

/-- The rows of a text hide no colon on the row of an operator behind it, but for those of
literals. -/
theorem pairwise_scanRows
    {state : ScanState} {rows : Nat} {lastLine text : Text} {origin : Arrow}
    (opens : state.carry.OpensAt origin)
    (here : text ≠ [] → origin.behind state.carry.pending = ⟨rows, 0⟩) :
    (state.scanRows rows lastLine text.toLines).tokens.Pairwise Token.HidesAbove := by
  induction size : text.length using Nat.strongRecOn
    generalizing text state rows lastLine origin with
  | ind size inductionHypothesis =>
      by_cases nothing : text = []
      · subst nothing
        refine List.pairwise_of_forall_mem_list fun _ _ other member _ _ operator => ?_
        exact absurd rfl (ne_nil_of_operator member operator)
      obtain ⟨line, after, rfl, notEmpty, isRow⟩ := Text.exists_row nothing
      rw [isRow.toLines notEmpty, scanRows]
      cases scanned : state.scanRow (rows + 1) line with
      | error error => exact .nil
      | ok made =>
          obtain ⟨tokens, next⟩ := made
          have step := rowStep_of_scanRow scanned
          obtain ⟨covered, parts, -, nextOpens⟩ :=
            coversBut_of_rowStep step isRow.oneRow opens (here nothing)
          have nextRow : after ≠ [] →
              (origin.behind covered).behind next.carry.pending = ⟨rows + 1, 0⟩ := by
            intro more
            obtain ⟨front, rfl⟩ := isRow.feed more
            rw [← behind_append, ← parts, behind_append, here nothing]
            exact ScansOn.behind_rowEnd (isRow.oneRow front ['\n'] rfl (by simp)) _
          have positive := List.length_pos_iff.2 notEmpty
          rw [List.length_append] at size
          refine List.pairwise_append.2 ⟨pairwise_of_rowStep step,
            inductionHypothesis after.length (by omega) nextOpens nextRow rfl, ?_⟩
          intro token member other otherMember hides noString operator
          obtain ⟨front, rfl⟩ := isRow.feed (ne_nil_of_operator otherMember operator)
          obtain ⟨index, -, below, -⟩ := operator_of_scanRows otherMember operator
          exact hidesAbove_of_rowStep step (isRow.oneRow front ['\n'] rfl (by simp)) opens
            (here nothing) member below hides noString operator

end ScanState

/-! ## The end of a literal -/

theorem Lexeme.getLast?_of_string
    {c : Char} {rest : Text}
    (string : (first c rest).kind = .string) :
    ∃ last, isQuoteMark last ∧ (first c rest).text.getLast? = some last := by
  revert string
  fun_cases first c rest with
  | case6 _ _ _ _ isMark => exact getLast?_of_string_ofQuote isMark
  | case8 _ _ _ _ _ _ _ name mark after _ opens =>
      exact getLast?_of_string_ofQuote (Bool.and_eq_true_iff.1 opens).1
  | case1 | case2 | case3 | case4 | case5 | case7 | case9 | case10 | case11 | case12 =>
      intro string
      cases string

/-- Whether a token ends in a quotation mark if it is a literal. -/
def Token.EndsQuoted (token : Token) : Prop :=
  token.kind = .string → ∃ last, isQuoteMark last ∧ token.text.getLast? = some last

theorem endsQuoted_of_place
    {row column depth : Nat} {line : Text} {token : Token}
    (member : token ∈ (place row column depth (lexemes line)).tokens) :
    token.EndsQuoted := by
  intro string
  obtain ⟨c, rest, depth, kind, text⟩ := exists_lexeme_of_place member
  rw [string] at kind
  rw [text]
  refine Lexeme.getLast?_of_string ?_
  generalize (Lexeme.first c rest).kind = lexemeKind at kind
  cases lexemeKind with
  | string => rfl
  | lineEnd =>
      have lineEnd := Option.some.inj kind
      split at lineEnd <;> cases lineEnd
  | blank | comment | joint | number | name | operator | stray | openString => cases kind

namespace ScanState

theorem endsQuoted_of_rowStep
    {state next : ScanState} {row : Nat} {line : Text} {tokens : List Token} {token : Token}
    (quotes : state.Quotes)
    (step : RowStep row line state tokens next)
    (member : token ∈ tokens) :
    token.EndsQuoted := by
  cases step with
  | blank | inside => cases member
  | remark =>
      intro string
      rcases kind_of_mem_remarkTokens member with comment | lineBreak
      · simp [comment] at string
      · simp [lineBreak] at string
  | statement =>
      rcases List.mem_append.1 member with block | rest
      · intro string
        rcases BlockStep.kind_of_mem_tokens block with indent | dedent
        · simp [indent] at string
        · simp [dedent] at string
      · exact endsQuoted_of_place rest
  | continued => exact endsQuoted_of_place member
  | closed opened inside isOpen closes =>
      rcases List.mem_cons.1 member with rfl | rest
      · intro _
        refine ⟨opened.quote.mark, quotes opened isOpen, ?_⟩
        rw [List.getLast?_append, Quote.getLast?_of_closed? closes]
        rfl
      · exact endsQuoted_of_place rest
  | broken =>
      intro string
      rw [List.mem_singleton.1 member] at string
      cases string

theorem endsQuoted_of_scanRows
    {state : ScanState} {rows : Nat} {lastLine : Text} {lines : List Text} {token : Token}
    (quotes : state.Quotes)
    (member : token ∈ (state.scanRows rows lastLine lines).tokens) :
    token.EndsQuoted := by
  induction lines generalizing state rows lastLine with
  | nil =>
      intro string
      rcases (isMark_of_mem_finish member).1 with newline | dedent | endMarker
      · simp [newline] at string
      · simp [dedent] at string
      · simp [endMarker] at string
  | cons line lines inductionHypothesis =>
      rw [scanRows] at member
      split at member
      · cases member
      · next tokens next scanned =>
          have step := rowStep_of_scanRow scanned
          rcases List.mem_append.1 member with here | below
          · exact endsQuoted_of_rowStep quotes step here
          · exact inductionHypothesis (quotes_of_rowStep quotes step) below

end ScanState

/-! ## A script -/

/-- A literal of a script ends in a quotation mark. -/
theorem endsQuoted_of_scan
    {script : Text} {token : Token}
    (member : token ∈ (scan script).tokens) :
    token.EndsQuoted :=
  ScanState.endsQuoted_of_scanRows (fun _ same => Carry.noConfusion same) member

theorem pairwise_scan (script : Text) : (scan script).tokens.Pairwise Token.HidesAbove :=
  @ScanState.pairwise_scanRows .start 0 [] script start trivial fun _ => rfl

end Pipescript
