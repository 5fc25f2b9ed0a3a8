import Mathlib.Data.List.Infix
import Mathlib.Data.List.TakeWhile
import Pipescript.Proofs.Arrow.Place
import Pipescript.Proofs.Scan.Lexemes
import Pipescript.Proofs.Scan.RowStep

/-!
# Nothing is lost in a scan

A script goes, from left to right, through its tokens, which stand where they say, and between them
through nothing but margins and joints.  A row accounts for all its characters and for those of a
literal that is open before it, except for what it leaves open itself.
-/

namespace Pipescript

open Arrow

/-- Whether a text that begins at a place is made of tokens that stand where they say, with nothing
but margins and joints between them. -/
inductive Covers : Arrow → List Token → Text → Prop
  | nil (origin : Arrow) : Covers origin [] []
  | margin
      {origin : Arrow} {c : Char} {tokens : List Token} {rest : Text} :
      isMarginChar c →
      Covers (origin.next c) tokens rest →
      Covers origin tokens (c :: rest)
  | joint
      {origin : Arrow} {lineEnd : Text} {tokens : List Token} {rest : Text} :
      isLineEnd lineEnd →
      Covers (origin.behind ('\\' :: lineEnd)) tokens rest →
      Covers origin tokens ('\\' :: lineEnd ++ rest)
  | token
      {origin : Arrow} {token : Token} {later : List Token} {rest : Text} :
      token.row = origin.row + 1 →
      token.column = origin.column →
      Covers (origin.behind token.text) later rest →
      Covers origin (token :: later) (token.text ++ rest)

namespace Covers

theorem append
    {origin : Arrow} {front later : List Token} {text rest : Text}
    (frontCovers : Covers origin front text)
    (laterCovers : Covers (origin.behind text) later rest) :
    Covers origin (front ++ later) (text ++ rest) := by
  induction frontCovers with
  | nil => exact laterCovers
  | margin isMargin _ inductionHypothesis => exact margin isMargin (inductionHypothesis laterCovers)
  | @joint origin lineEnd tokens text isEnd _ inductionHypothesis =>
      rw [List.append_assoc]
      rw [behind_append] at laterCovers
      exact joint isEnd (inductionHypothesis laterCovers)
  | @token origin first later text sameRow sameColumn _ inductionHypothesis =>
      rw [List.append_assoc]
      rw [behind_append] at laterCovers
      exact token sameRow sameColumn (inductionHypothesis laterCovers)

theorem of_margin
    {margin : Text}
    (isMargin : margin.all isMarginChar)
    (origin : Arrow) :
    Covers origin [] margin := by
  induction margin generalizing origin with
  | nil => exact nil origin
  | cons c margin inductionHypothesis =>
      rw [List.all_cons, Bool.and_eq_true] at isMargin
      exact Covers.margin isMargin.1 (inductionHypothesis isMargin.2 _)

theorem singleton
    {origin : Arrow} {token : Token}
    (sameRow : token.row = origin.row + 1)
    (sameColumn : token.column = origin.column) :
    Covers origin [token] token.text := by
  have alone := Covers.token sameRow sameColumn (nil _)
  rwa [List.append_nil] at alone

end Covers

/-! ## What a row leaves open -/

/-- The text of a literal that is open. -/
def Carry.pending : Carry → Text
  | .literal opened => opened.text
  | .nothing | .joint => []

/-- Whether a literal that is open begins at a place. -/
def Carry.OpensAt (carry : Carry) (origin : Arrow) : Prop :=
  match carry with
  | .literal opened => opened.row = origin.row + 1 ∧ opened.column = origin.column
  | .nothing | .joint => True

/-- Whether tokens cover the front of a text, of which the rest is left open. -/
def CoversBut (origin : Arrow) (tokens : List Token) (carry : Carry) (text : Text) : Prop :=
  ∃ covered, text = covered ++ carry.pending ∧ Covers origin tokens covered ∧
    carry.OpensAt (origin.behind covered)

theorem CoversBut.append
    {origin : Arrow} {front later : List Token} {carry : Carry} {text rest : Text}
    (frontCovers : Covers origin front text)
    (laterCovers : CoversBut (origin.behind text) later carry rest) :
    CoversBut origin (front ++ later) carry (text ++ rest) := by
  obtain ⟨covered, rfl, covers, opens⟩ := laterCovers
  refine ⟨text ++ covered, (List.append_assoc _ _ _).symm, frontCovers.append covers, ?_⟩
  rwa [behind_append]

theorem coversBut_nil (origin : Arrow) : CoversBut origin [] .nothing [] :=
  ⟨[], rfl, .nil origin, trivial⟩

/-! ## Rows -/

/-- Whether a text has no line feed but at its end. -/
def Text.IsOneRow (text : Text) : Prop :=
  ∀ front behind, text = front ++ behind → behind ≠ [] → '\n' ∉ front

theorem isOneRow_of_noFeed
    {text : Text}
    (noFeed : '\n' ∉ text) :
    text.IsOneRow := by
  rintro front behind rfl - feed
  exact noFeed (List.mem_append_left _ feed)

theorem isOneRow_of_feed
    {text : Text}
    (noFeed : '\n' ∉ text) :
    Text.IsOneRow (text ++ ['\n']) := by
  intro front behind parts notEmpty feed
  rcases List.append_eq_append_iff.1 parts with ⟨crossing, rfl, ends⟩ | ⟨crossing, rfl, -⟩
  · cases crossing with
    | nil => exact noFeed (by simpa using feed)
    | cons c crossing =>
        obtain ⟨-, empty⟩ := List.cons.inj ends
        exact notEmpty (List.append_eq_nil_iff.1 empty.symm).2
  · exact noFeed (List.mem_append_left _ feed)

theorem Text.IsOneRow.behind
    {text front rest : Text}
    (oneRow : text.IsOneRow)
    (parts : text = front ++ rest) :
    rest.IsOneRow := by
  rintro middle behind rfl notEmpty feed
  rw [← List.append_assoc] at parts
  exact oneRow _ _ parts notEmpty (List.mem_append_right _ feed)

/-- The lexemes of a row cover it from where it begins. -/
theorem coversBut_place
    {text : Text}
    (oneRow : text.IsOneRow)
    (origin : Arrow) (depth : Nat) :
    CoversBut origin (place (origin.row + 1) origin.column depth (lexemes text)).tokens
      (place (origin.row + 1) origin.column depth (lexemes text)).carry text := by
  induction text using lexemeInduction generalizing origin depth with
  | empty =>
      rw [lexemes_nil]
      exact coversBut_nil origin
  | lexeme c rest behind parts cut inductionHypothesis =>
      have fits := Lexeme.first_fitsKind c rest
      rw [cut]
      generalize Lexeme.first c rest = lexeme at parts fits
      obtain ⟨kind, text⟩ := lexeme
      have later : ∀ depth, CoversBut (origin.behind text)
          (place (origin.row + 1) (origin.column + text.length) depth (lexemes behind)).tokens
          (place (origin.row + 1) (origin.column + text.length) depth (lexemes behind)).carry
          behind := by
        intro depth
        by_cases nothing : behind = []
        · subst nothing
          rw [lexemes_nil]
          exact coversBut_nil _
        · have noFeed : '\n' ∉ text := oneRow text behind parts nothing
          have found := inductionHypothesis (oneRow.behind parts) (origin.behind text) depth
          rwa [behind_of_noFeed noFeed] at found ⊢
      have emitted : ∀ (tokenKind : TokenKind) (depth : Nat), CoversBut origin
          (⟨tokenKind, text, origin.row + 1, origin.column⟩ ::
            (place (origin.row + 1) (origin.column + text.length) depth (lexemes behind)).tokens)
          (place (origin.row + 1) (origin.column + text.length) depth (lexemes behind)).carry
          (c :: rest) := by
        intro tokenKind depth
        rw [parts]
        exact CoversBut.append
          (@Covers.singleton origin ⟨tokenKind, text, origin.row + 1, origin.column⟩ rfl rfl)
          (later depth)
      cases kind with
      | blank =>
          obtain ⟨margin, rfl⟩ := fits
          rw [parts]
          exact CoversBut.append (.margin margin (.nil _)) (later depth)
      | joint =>
          obtain ⟨rfl, lineEnd, rfl⟩ := fits
          have covers : Covers origin [] ('\\' :: rest ++ []) := .joint lineEnd (.nil _)
          exact ⟨'\\' :: rest ++ [], by simp [place, Carry.pending], covers, trivial⟩
      | openString quote =>
          obtain ⟨-, rfl⟩ : isQuoteMark quote.mark ∧ text = c :: rest := fits
          exact ⟨[], rfl, .nil origin, rfl, rfl⟩
      | comment | number | string | name | stray => exact emitted _ depth
      | lineEnd => exact emitted _ depth
      | operator => exact emitted _ _

namespace ScanState

/-- The rest of a row is covered from where it begins. -/
theorem coversBut_scanRest
    {line front rest : Text}
    (oneRow : line.IsOneRow)
    (parts : line = front ++ rest)
    (state : ScanState) (row : Nat) :
    CoversBut ((⟨row, 0⟩ : Arrow).behind front) (state.scanRest (row + 1) front.length rest).1
      (state.scanRest (row + 1) front.length rest).2.carry rest := by
  by_cases nothing : rest = []
  · subst nothing
    simp only [scanRest, lexemes_nil]
    exact coversBut_nil _
  · have noFeed : '\n' ∉ front := oneRow front rest parts nothing
    have covers := coversBut_place (oneRow.behind parts) ⟨row, front.length⟩ state.depth
    rwa [behind_of_noFeed noFeed, Nat.zero_add]

end ScanState

theorem covers_remarkTokens
    {comment : Text}
    (noFeed : '\n' ∉ comment)
    (origin : Arrow) (lineEnd : Text) :
    Covers origin (remarkTokens (origin.row + 1) origin.column comment lineEnd)
      (comment ++ lineEnd) := by
  have part : ∀ (kind : TokenKind) (text : Text) (origin : Arrow), Covers origin
      (if text.isEmpty then [] else [⟨kind, text, origin.row + 1, origin.column⟩]) text := by
    intro kind text origin
    cases text with
    | nil => exact .nil origin
    | cons c rest =>
        exact @Covers.singleton origin ⟨kind, c :: rest, origin.row + 1, origin.column⟩ rfl rfl
  have behindComment := part .lineBreak lineEnd (origin.behind comment)
  rw [behind_of_noFeed noFeed] at behindComment
  refine (part .comment comment origin).append ?_
  rwa [behind_of_noFeed noFeed]

/-- The tokens of blocks stand at the margin. -/
theorem covers_blockTokens
    {margin : Text}
    (isMargin : margin.all isMarginChar)
    (noFeed : '\n' ∉ margin)
    (step : BlockStep) (row : Nat) :
    Covers ⟨row, 0⟩ (step.tokens (row + 1) margin) margin := by
  cases step with
  | same | inconsistent => exact .of_margin isMargin _
  | deeper => exact @Covers.singleton ⟨row, 0⟩ ⟨.indent, margin, row + 1, 0⟩ rfl rfl
  | outward count =>
      have dedents : Covers ⟨row, margin.length⟩
          (List.replicate count ⟨.dedent, [], row + 1, margin.length⟩) [] := by
        induction count with
        | zero => exact .nil _
        | succ count inductionHypothesis =>
            exact @Covers.token ⟨row, margin.length⟩ ⟨.dedent, [], row + 1, margin.length⟩ _ []
              rfl rfl inductionHypothesis
      have behindMargin : (⟨row, 0⟩ : Arrow).behind margin = ⟨row, margin.length⟩ := by
        rw [behind_of_noFeed noFeed, Nat.zero_add]
      have whole := (Covers.of_margin isMargin ⟨row, 0⟩).append (behindMargin ▸ dedents)
      rwa [List.append_nil] at whole

theorem noFeed_of_margin
    {margin : Text}
    (isMargin : margin.all isMarginChar) :
    '\n' ∉ margin :=
  fun feed => absurd (List.all_eq_true.1 isMargin '\n' feed) (by decide)

namespace ScanState

/-- A row accounts for a literal that is open before it and for all its own characters. -/
theorem coversBut_of_rowStep
    {state next : ScanState} {row : Nat} {line : Text} {tokens : List Token} {origin : Arrow}
    (step : RowStep (row + 1) line state tokens next)
    (oneRow : line.IsOneRow)
    (opens : state.carry.OpensAt origin)
    (here : origin.behind state.carry.pending = ⟨row, 0⟩) :
    CoversBut origin tokens next.carry (state.carry.pending ++ line) := by
  have marginParts : line = line.takeWhile isMarginChar ++
      line.drop (line.takeWhile isMarginChar).length :=
    List.prefix_append_drop (List.takeWhile_prefix isMarginChar)
  have isMargin : (line.takeWhile isMarginChar).all isMarginChar :=
    List.all_eq_true.2 fun c member => List.mem_takeWhile_imp member
  have noFeed := noFeed_of_margin isMargin
  have behindMargin : (⟨row, 0⟩ : Arrow).behind (line.takeWhile isMarginChar) =
      ⟨row, (line.takeWhile isMarginChar).length⟩ := by
    rw [behind_of_noFeed noFeed, Nat.zero_add]
  cases step with
  | blank noCarry _ empty =>
      rw [noCarry] at here ⊢
      obtain rfl : origin = ⟨row, 0⟩ := here
      rw [empty, List.append_nil] at marginParts
      refine ⟨line, (List.append_nil _).symm, ?_, trivial⟩
      rw [marginParts]
      exact .of_margin isMargin _
  | remark c later noCarry _ content _ =>
      rw [noCarry] at here ⊢
      obtain rfl : origin = ⟨row, 0⟩ := here
      rw [content] at marginParts
      have commentNoFeed : '\n' ∉ (c :: later).takeWhile (!isLineBreakChar ·) :=
        fun feed => absurd (List.mem_takeWhile_imp feed) (by decide)
      have remark := covers_remarkTokens commentNoFeed
        ⟨row, (line.takeWhile isMarginChar).length⟩
        ((c :: later).drop ((c :: later).takeWhile (!isLineBreakChar ·)).length)
      rw [← List.prefix_append_drop (List.takeWhile_prefix _)] at remark
      have whole := @Covers.append ⟨row, 0⟩ [] _ _ _ (.of_margin isMargin _)
        (by rw [behindMargin]; exact remark)
      rw [← marginParts] at whole
      exact ⟨line, (List.append_nil _).symm, whole, trivial⟩
  | statement c later noCarry _ content _ _ =>
      rw [noCarry] at here ⊢
      obtain rfl : origin = ⟨row, 0⟩ := here
      have covers := CoversBut.append (covers_blockTokens isMargin noFeed
          (state.blocks.step (marginColumn (line.takeWhile isMarginChar))) row)
        (coversBut_scanRest oneRow marginParts
          { state with blocks := state.blocks.enter (marginColumn (line.takeWhile isMarginChar)) }
          row)
      rwa [← marginParts] at covers
  | continued continues =>
      have nothingOpen : state.carry.pending = [] := by
        rcases continues with joint | ⟨nothing, -⟩
        · rw [joint]
          rfl
        · rw [nothing]
          rfl
      rw [nothingOpen] at here ⊢
      obtain rfl : origin = ⟨row, 0⟩ := here
      exact coversBut_scanRest oneRow (List.nil_append line).symm state row
  | closed opened inside isOpen closes =>
      rw [isOpen] at here opens ⊢
      have insideParts := List.prefix_append_drop (Quote.closed?_isPrefix closes)
      have behindLiteral : origin.behind (opened.text ++ inside) =
          (⟨row, 0⟩ : Arrow).behind inside := by
        rw [behind_append]
        exact congrArg (Arrow.behind · inside) here
      have rest := coversBut_scanRest oneRow insideParts state row
      rw [← behindLiteral] at rest
      have literal := @Covers.singleton origin
        ⟨.string, opened.text ++ inside, opened.row, opened.column⟩ opens.1 opens.2
      have whole := CoversBut.append literal rest
      rw [List.append_assoc, ← insideParts] at whole
      exact whole
  | inside opened isOpen _ _ =>
      rw [isOpen] at opens ⊢
      exact ⟨[], rfl, .nil origin, opens⟩
  | broken opened isOpen _ _ =>
      rw [isOpen] at opens ⊢
      refine ⟨opened.text ++ line, (List.append_nil _).symm, ?_, trivial⟩
      exact @Covers.singleton origin ⟨.stray, opened.text ++ line, opened.row, opened.column⟩
        opens.1 opens.2

end ScanState

end Pipescript
