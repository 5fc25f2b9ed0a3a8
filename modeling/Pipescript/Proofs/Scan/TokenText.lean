import Mathlib.Data.List.TakeWhile
import Pipescript.Proofs.Scan.TokenPlace

/-!
# What tokens are made of

A token of a scan is a lexeme, a comment or a line end on a row of its own, a literal that goes over
several rows, a margin, or a mark without a text.  From its kind follows which characters it may
have: a number has no minus sign without a digit behind it, and a name has none at all.
-/

namespace Pipescript

/-! ## Where tokens come from -/

/-- The kind of the token that a lexeme becomes inside so many brackets, if it becomes one. -/
def LexemeKind.token? (depth : Nat) : LexemeKind → Option TokenKind
  | .blank | .joint | .openString _ => none
  | .comment => some .comment
  | .lineEnd => some (if depth = 0 then .newline else .lineBreak)
  | .number => some .number
  | .string => some .string
  | .name => some .name
  | .operator => some .operator
  | .stray => some .stray

/-- What the tokens of a scan are made of. -/
inductive IsMade : TokenKind → Text → Prop
  | lexeme
      {c : Char} {rest : Text} {depth : Nat} {kind : TokenKind} :
      (Lexeme.first c rest).kind.token? depth = some kind →
      IsMade kind (Lexeme.first c rest).text
  | remark
      {kind : TokenKind} {text : Text} :
      kind = .comment ∨ kind = .lineBreak →
      IsMade kind text
  /-- A literal that goes over several rows, closed or broken off. -/
  | literal
      {kind : TokenKind} {text : Text} :
      kind = .string ∨ kind = .stray →
      IsMade kind text
  | indent
      {margin : Text} :
      margin.all isMarginChar →
      IsMade .indent margin
  | mark
      {kind : TokenKind} :
      kind = .newline ∨ kind = .dedent ∨ kind = .endMarker →
      IsMade kind []

/-- The tokens that lexemes become have their texts. -/
theorem exists_lexeme_of_place
    {row column depth : Nat} {text : Text} {token : Token}
    (member : token ∈ (place row column depth (lexemes text)).tokens) :
    ∃ c rest depth, (Lexeme.first c rest).kind.token? depth = some token.kind ∧
      token.text = (Lexeme.first c rest).text := by
  induction text using lexemeInduction generalizing column depth with
  | empty =>
      rw [lexemes_nil] at member
      exact absurd member List.not_mem_nil
  | lexeme c rest behind parts cut inductionHypothesis =>
      have made : ∀ {kind : TokenKind},
          (Lexeme.first c rest).kind.token? depth = some kind →
          ∃ d later depth, (Lexeme.first d later).kind.token? depth = some kind ∧
            (Lexeme.first c rest).text = (Lexeme.first d later).text :=
        fun same => ⟨c, rest, depth, same, rfl⟩
      rw [cut] at member
      generalize Lexeme.first c rest = lexeme at made member
      obtain ⟨kind, text⟩ := lexeme
      have emitted : ∀ {tokenKind : TokenKind} {depthBehind : Nat},
          kind.token? depth = some tokenKind →
          token ∈ ⟨tokenKind, text, row, column⟩ ::
            (place row (column + text.length) depthBehind (lexemes behind)).tokens →
          ∃ c rest depth, (Lexeme.first c rest).kind.token? depth = some token.kind ∧
            token.text = (Lexeme.first c rest).text := by
        intro tokenKind depthBehind same memberHere
        rcases List.mem_cons.1 memberHere with rfl | later
        · exact made same
        · exact inductionHypothesis later
      cases kind with
      | blank => exact inductionHypothesis member
      | joint => exact absurd member List.not_mem_nil
      | openString quote => exact absurd member List.not_mem_nil
      | comment | lineEnd | number | string | name | operator | stray => exact emitted rfl member

theorem isMade_of_place
    {row column depth : Nat} {text : Text} {token : Token}
    (member : token ∈ (place row column depth (lexemes text)).tokens) :
    IsMade token.kind token.text := by
  obtain ⟨c, rest, depth, kind, sameText⟩ := exists_lexeme_of_place member
  rw [sameText]
  exact .lexeme kind

namespace ScanState

theorem isMade_of_rowStep
    {state next : ScanState} {row : Nat} {line : Text} {tokens : List Token} {token : Token}
    (step : RowStep row line state tokens next)
    (member : token ∈ tokens) :
    IsMade token.kind token.text := by
  cases step with
  | blank | inside => exact absurd member List.not_mem_nil
  | remark => exact .remark (kind_of_mem_remarkTokens member)
  | statement =>
      rcases List.mem_append.1 member with block | rest
      · generalize state.blocks.step (marginColumn (line.takeWhile isMarginChar)) = step at block
        cases step with
        | same | inconsistent => exact absurd block List.not_mem_nil
        | deeper =>
            rw [List.mem_singleton.1 block]
            exact .indent (List.all_eq_true.2 fun c member => List.mem_takeWhile_imp member)
        | outward count =>
            rw [List.eq_of_mem_replicate block]
            exact .mark (.inr (.inl rfl))
      · exact isMade_of_place rest
  | continued => exact isMade_of_place member
  | closed opened inside =>
      rcases List.mem_cons.1 member with rfl | rest
      · exact .literal (.inl rfl)
      · exact isMade_of_place rest
  | broken opened =>
      rw [List.mem_singleton.1 member]
      exact .literal (.inr rfl)

theorem isMade_of_finish
    {state : ScanState} {rows : Nat} {lastLine : Text} {token : Token}
    (member : token ∈ (state.finish rows lastLine).tokens) :
    IsMade token.kind token.text := by
  obtain ⟨kind, noText⟩ := isMark_of_mem_finish member
  rw [noText]
  exact .mark kind

theorem isMade_of_scanRows
    {state : ScanState} {rows : Nat} {lastLine : Text} {lines : List Text} {token : Token}
    (member : token ∈ (state.scanRows rows lastLine lines).tokens) :
    IsMade token.kind token.text := by
  induction lines generalizing state rows lastLine with
  | nil => exact isMade_of_finish member
  | cons line lines inductionHypothesis =>
      rw [scanRows] at member
      split at member
      · exact absurd member List.not_mem_nil
      · next tokens next scanned =>
          rcases List.mem_append.1 member with here | below
          · exact isMade_of_rowStep (rowStep_of_scanRow scanned) here
          · exact inductionHypothesis below

end ScanState

theorem isMade_of_scan
    {script : Text} {token : Token}
    (member : token ∈ (scan script).tokens) :
    IsMade token.kind token.text :=
  ScanState.isMade_of_scanRows member

/-- Whether a lexeme of a kind may begin with a quotation mark or with letters before one. -/
def LexemeKind.isQuoted : LexemeKind → Bool
  | .string | .stray | .openString _ => true
  | .blank | .comment | .lineEnd | .joint | .number | .name | .operator => false

namespace Lexeme

theorem isQuoted_kind_ofQuote (letters : Text) (mark : Char) (rest : Text) :
    (ofQuote letters mark rest).kind.isQuoted := by
  unfold ofQuote
  dsimp only
  split
  · rfl
  · split <;> rfl

theorem kind_ofQuote_ne
    {kind : LexemeKind}
    (unquoted : kind.isQuoted = false)
    (letters : Text) (mark : Char) (rest : Text) :
    (ofQuote letters mark rest).kind ≠ kind := by
  rintro rfl
  rw [isQuoted_kind_ofQuote] at unquoted
  cases unquoted

theorem text_of_number
    {c : Char} {rest : Text}
    (counts : (first c rest).kind = .number) :
    (first c rest).text = numberLiteral (c :: rest) := by
  revert counts
  fun_cases first c rest with
  | case7 => intro _; rfl
  | case6 | case8 => intro counts; exact absurd counts (kind_ofQuote_ne rfl _ _ _)
  | case1 | case2 | case3 | case4 | case5 | case9 | case10 | case11 | case12 =>
      intro counts
      cases counts

theorem text_of_name
    {c : Char} {rest : Text}
    (names : (first c rest).kind = .name) :
    startsName c ∧ (first c rest).text = c :: rest.takeWhile continuesName := by
  revert names
  fun_cases first c rest with
  | case9 _ _ _ _ _ _ starts | case10 _ _ _ _ _ _ starts => intro _; exact ⟨starts, rfl⟩
  | case6 | case8 => intro names; exact absurd names (kind_ofQuote_ne rfl _ _ _)
  | case1 | case2 | case3 | case4 | case5 | case7 | case11 | case12 =>
      intro names
      cases names

end Lexeme

/-! ## Open literals -/

namespace ScanState

/-- Whether a literal that is open begins with a quotation mark. -/
def Quotes (state : ScanState) : Prop :=
  ∀ opened, state.carry = .literal opened → isQuoteMark opened.quote.mark

theorem quotes_of_scanRest (state : ScanState) (row column : Nat) (rest : Text) :
    (state.scanRest row column rest).2.Quotes := by
  intro opened
  have general : ∀ (rest : Text) (column depth : Nat),
      (place row column depth (lexemes rest)).carry = .literal opened →
        isQuoteMark opened.quote.mark := by
    intro rest
    induction rest using lexemeInduction with
    | empty =>
        intro column depth carry
        rw [lexemes_nil] at carry
        cases carry
    | lexeme c rest behind parts cut inductionHypothesis =>
        intro column depth carry
        have fits := Lexeme.first_fitsKind c rest
        rw [cut] at carry
        generalize Lexeme.first c rest = lexeme at fits carry
        obtain ⟨kind, text⟩ := lexeme
        cases kind with
        | joint => cases carry
        | openString quote =>
            obtain rfl := Carry.literal.inj carry
            exact fits.1
        | blank | comment | lineEnd | number | string | name | operator | stray =>
            exact inductionHypothesis _ _ carry
  exact general rest _ _

theorem quotes_of_rowStep
    {state next : ScanState} {row : Nat} {line : Text} {tokens : List Token}
    (quotes : state.Quotes)
    (step : RowStep row line state tokens next) :
    next.Quotes := by
  cases step with
  | blank | remark => exact quotes
  | statement | continued | closed => exact quotes_of_scanRest _ _ _ _
  | inside opened carry =>
      intro later same
      obtain rfl := Carry.literal.inj same
      exact quotes opened carry
  | broken => exact fun later same => nomatch same

end ScanState

/-! ## Minus signs in numbers -/

/-- Whether every minus sign of a text has a digit behind it. -/
def Text.SignsDigits (text : Text) : Prop :=
  ∀ front behind, text = front ++ '-' :: behind →
    ∃ digit rest, behind = digit :: rest ∧ digit.isDigit

theorem signsDigits_of_notMem
    {text : Text}
    (noMinus : '-' ∉ text) :
    text.SignsDigits := by
  rintro front behind rfl
  simp at noMinus

theorem Text.SignsDigits.append
    {text rest : Text}
    (first : text.SignsDigits)
    (last : rest.SignsDigits) :
    Text.SignsDigits (text ++ rest) := by
  intro front behind parts
  rcases List.append_eq_append_iff.1 parts with
    ⟨crossing, rfl, restParts⟩ | ⟨crossing, textParts, behindParts⟩
  · exact last crossing behind restParts
  · cases crossing with
    | nil => exact last [] behind (by simpa using behindParts.symm)
    | cons c crossing =>
        obtain ⟨rfl, rfl⟩ := List.cons.inj behindParts
        obtain ⟨digit, later, rfl, isDigit⟩ := first front crossing textParts
        exact ⟨digit, later ++ rest, rfl, isDigit⟩

theorem signsDigits_cons_digit
    {digit : Char} {rest : Text}
    (isDigit : digit.isDigit)
    (noMinus : '-' ∉ digit :: rest)
    (sign : Char) :
    Text.SignsDigits (sign :: digit :: rest) := by
  intro front behind parts
  cases front with
  | nil => exact ⟨digit, rest, (List.cons.inj parts).2.symm, isDigit⟩
  | cons c front =>
      rw [(List.cons.inj parts).2] at noMinus
      simp at noMinus

theorem minus_notMem_takeWhile
    {p : Char → Bool}
    (noMinus : p '-' = false)
    (text : Text) :
    '-' ∉ text.takeWhile p := by
  intro member
  rw [List.mem_takeWhile_imp member] at noMinus
  cases noMinus

theorem signsDigits_decimalPart (text : Text) : text.decimalPart.SignsDigits := by
  have digits : ∀ text : Text, '-' ∉ text.takeWhile isDigitOrUnderscore :=
    minus_notMem_takeWhile (by decide)
  apply signsDigits_of_notMem
  unfold Text.decimalPart
  dsimp only
  split
  · simp [digits]
  · exact digits text

/-- An exponent mark is a letter with at most a sign behind it. -/
theorem exponentMark?_shape
    {text mark : Text}
    (marked : text.exponentMark? = some mark) :
    ∃ letter, letter ≠ '-' ∧ (mark = [letter] ∨ ∃ sign, mark = [letter, sign]) := by
  unfold Text.exponentMark? at marked
  split at marked
  · next letter rest =>
      split at marked
      · next isMark =>
          have notMinus : letter ≠ '-' := by
            rintro rfl
            exact absurd isMark (by decide)
          refine ⟨letter, notMinus, ?_⟩
          split at marked
          · next sign _ =>
              split at marked
              · exact .inr ⟨sign, (Option.some.inj marked).symm⟩
              · exact .inl (Option.some.inj marked).symm
          · exact .inl (Option.some.inj marked).symm
      · cases marked
  · cases marked

/-- The sign of an exponent has a digit behind it. -/
theorem signsDigits_exponentPart (text : Text) : (exponentPart text).SignsDigits := by
  unfold exponentPart
  split
  · exact signsDigits_of_notMem List.not_mem_nil
  · next mark marked =>
      split
      · next digit rest _ =>
          split
          · next isDigit =>
              have noMinus : '-' ∉ digit :: rest.takeWhile isDigitOrUnderscore := by
                intro member
                rcases List.mem_cons.1 member with rfl | member
                · exact absurd isDigit (by decide)
                · exact minus_notMem_takeWhile (by decide) rest member
              obtain ⟨letter, notMinus, rfl | ⟨sign, rfl⟩⟩ := exponentMark?_shape marked
              · exact signsDigits_cons_digit isDigit noMinus letter
              · have letterNoMinus : '-' ∉ [letter] := by simpa using notMinus.symm
                exact (signsDigits_of_notMem letterNoMinus).append
                  (signsDigits_cons_digit isDigit noMinus sign)
          · exact signsDigits_of_notMem List.not_mem_nil
      · exact signsDigits_of_notMem List.not_mem_nil

theorem signsDigits_decimal (text : Text) : (numberLiteral.decimal text).SignsDigits := by
  have noMinus : ∀ text : Text, '-' ∉ text.imaginaryMark := by
    intro text
    unfold Text.imaginaryMark
    split
    · split
      · next isMark =>
          rw [List.mem_singleton]
          rintro rfl
          exact absurd isMark (by decide)
      · exact List.not_mem_nil
    · exact List.not_mem_nil
  exact ((signsDigits_decimalPart text).append (signsDigits_exponentPart _)).append
    (signsDigits_of_notMem (noMinus _))

theorem signsDigits_numberLiteral (text : Text) : (numberLiteral text).SignsDigits := by
  unfold numberLiteral
  split
  · next mark rest =>
      split
      · next announced =>
          apply signsDigits_of_notMem
          have notMark : mark ≠ '-' := by
            rintro rfl
            exact absurd announced (by decide)
          simp [notMark.symm, minus_notMem_takeWhile]
      · exact signsDigits_decimal _
  · exact signsDigits_decimal _

end Pipescript
