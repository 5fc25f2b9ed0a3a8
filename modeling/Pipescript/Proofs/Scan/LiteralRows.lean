import Pipescript.Proofs.Gate.ScanStep
import Pipescript.Proofs.Scan.Nesting
import Pipescript.Proofs.Text.Ascii

/-!
# Literals that a row leaves open

A literal in single quotes that its row leaves open goes on with the next row just if a backslash
stands before the line feed, whatever stands before that backslash.  An escaped backslash there,
which leaves the line feed alone, joins the rows all the same.  Without a backslash the opening of
the literal becomes a stray, and the scan goes on right behind the quotation mark.

* `Text.escapesBeforeFeed` counts the backslashes before a line feed.
* `ScanState.Reads` says which texts the scan of a row comes to.
* `ScanState.LeavesOpen` says which literals a row leaves open.
-/

namespace Pipescript

/-! ## Backslashes before a line feed -/

/-- How many backslashes stand directly before the line feed that a text ends with, or before the
carriage return and the line feed. -/
def Text.escapesBeforeFeed (text : Text) : Nat :=
  match text.reverse with
  | '\n' :: '\r' :: before | '\n' :: before => (before.takeWhile (· == '\\')).length
  | _ => 0

/-- Rows are joined by any backslashes before the line feed. -/
theorem endsInJoint_iff (text : Text) : endsInJoint text ↔ 0 < text.escapesBeforeFeed := by
  unfold endsInJoint List.isSuffixOf Text.escapesBeforeFeed
  have run : ∀ before : Text, 0 < (before.takeWhile (· == '\\')).length ↔
      ['\\'].isPrefixOf before := by
    intro before
    cases before with
    | nil => simp
    | cons c before => by_cases escapes : c = '\\' <;> simp [List.isPrefixOf, escapes, Ne.symm]
  generalize text.reverse = reversed
  split
  · next before =>
      rw [run]
      simp
  · next before noReturn =>
      rw [run]
      cases before with
      | nil => simp [List.isPrefixOf]
      | cons c before =>
          have other : c ≠ '\r' := by
            rintro rfl
            exact noReturn before rfl
          simp [List.isPrefixOf, Ne.symm other]
  · next noReturn noFeed =>
      cases reversed with
      | nil => simp
      | cons c before =>
          have other : c ≠ '\n' := by
            rintro rfl
            exact noFeed before rfl
          simp [List.isPrefixOf, Ne.symm other]

/-! ## What the scan of a row comes to -/

namespace ScanState

/-- Whether the scan of a row comes, at a column and inside so many brackets, to a text that goes to
the end of the row. -/
inductive Reads (state : ScanState) (line : Text) : Nat → Nat → Text → Prop
  /-- Behind the margin of a row that begins a statement. -/
  | statement :
      state.carry = .nothing →
      state.depth = 0 →
      line.isBlankOrRemark = false →
      ¬ state.Misindents line →
      Reads state line (line.takeWhile isMarginChar).length state.depth
        (line.dropWhile isMarginChar)
  /-- At the beginning of a row that goes on with a statement. -/
  | continued :
      state.carry = .joint ∨ (state.carry = .nothing ∧ state.depth ≠ 0) →
      Reads state line 0 state.depth line
  /-- Behind a literal that is open before the row. -/
  | closed (opened : OpenLiteral) (inside rest : Text) :
      state.carry = .literal opened →
      opened.quote.closed? line = some inside →
      line = inside ++ rest →
      Reads state line inside.length state.depth rest
  /-- Behind a lexeme. -/
  | lexeme {column depth : Nat} {c : Char} {rest behind : Text} :
      Reads state line column depth (c :: rest) →
      (Lexeme.first c rest).kind.isWhole →
      c :: rest = (Lexeme.first c rest).text ++ behind →
      Reads state line (column + (Lexeme.first c rest).text.length)
        ((Lexeme.first c rest).depthAfter depth) behind

variable {state next : ScanState} {rows column depth : Nat} {line rest : Text} {made : List Token}
  {opened : OpenLiteral}

theorem scanRow_of_statement
    (noCarry : state.carry = .nothing)
    (noBracket : state.depth = 0)
    (statement : line.isBlankOrRemark = false)
    (aligned : ¬ state.Misindents line)
    (row : Nat) :
    ∃ front blocks, state.scanRow row line =
      let placed := place row (line.takeWhile isMarginChar).length state.depth
        (lexemes (line.dropWhile isMarginChar))
      .ok (front ++ placed.tokens, ⟨blocks, placed.depth, placed.carry⟩) := by
  rw [← @scanRow_eq_error_iff _ row] at aligned
  simp only [scanRow, noCarry, noBracket, if_true] at aligned ⊢
  have consistent : state.blocks.step line.contentColumn ≠ .inconsistent := fun inconsistent =>
    aligned (scanFresh_eq_error_iff.2 ⟨statement, inconsistent⟩)
  unfold Text.isBlankOrRemark at statement
  unfold Text.contentColumn at consistent
  unfold scanFresh
  dsimp only
  rw [line.drop_length_takeWhile]
  cases content : line.dropWhile isMarginChar with
  | nil =>
      rw [content] at statement
      cases statement
  | cons c later =>
      rw [content] at statement
      dsimp only at statement ⊢
      rw [statement, if_neg (by simp)]
      cases step : state.blocks.step (marginColumn (line.takeWhile isMarginChar)) with
      | same => exact ⟨[], _, by rw [scanRest, noBracket]; rfl⟩
      | deeper => exact ⟨[_], _, by rw [scanRest, noBracket]; rfl⟩
      | outward count => exact ⟨_, _, by rw [scanRest, noBracket]⟩
      | inconsistent => exact absurd step consistent

/-- The tokens and the carry of a row follow from any text that its scan comes to. -/
theorem scanRow_of_reads
    (reads : state.Reads line column depth rest)
    (rows : Nat) :
    ∃ front blocks, state.scanRow (rows + 1) line =
      let placed := place (rows + 1) column depth (lexemes rest)
      .ok (front ++ placed.tokens, ⟨blocks, placed.depth, placed.carry⟩) := by
  induction reads with
  | statement noCarry noBracket statement aligned =>
      exact scanRow_of_statement noCarry noBracket statement aligned _
  | continued continues =>
      refine ⟨[], state.blocks, ?_⟩
      rcases continues with joint | ⟨noCarry, bracket⟩
      · simp only [scanRow, joint]
        rfl
      · simp only [scanRow, noCarry, if_neg bracket]
        rfl
  | closed opened inside rest carry closes parts =>
      subst parts
      refine ⟨[⟨.string, opened.text ++ inside, opened.row, opened.column⟩], state.blocks, ?_⟩
      simp only [scanRow, carry, scanLiteral, closes, List.drop_left]
      rfl
  | @lexeme column depth c rest behind _ whole parts inductionHypothesis =>
      obtain ⟨front, blocks, scanned⟩ := inductionHypothesis
      obtain ⟨lineBehind, lineParts, cut⟩ := exists_lexemes_cons c rest
      obtain rfl : behind = lineBehind := List.append_cancel_left (parts.symm.trans lineParts)
      rw [cut, @place_cons _ whole ⟨rows, column⟩] at scanned
      refine ⟨front ++ (Lexeme.first c rest).tokens ⟨rows, column⟩ depth, blocks, ?_⟩
      rw [scanned]
      dsimp only
      rw [List.append_assoc]

end ScanState

/-! ## Openings of literals -/

/-- Whether a quotation mark, behind letters if there are any, opens a literal in single quotes that
the rest of its row, `inside`, does not close. -/
structure OpensSingle (letters : Text) (mark : Char) (inside : Text) : Prop where
  isWord : letters = [] ∨ isStringLetters letters
  isMark : isQuoteMark mark
  single : ¬ [mark, mark] <+: inside
  unclosed : Quote.closed? ⟨mark, false⟩ inside = none

theorem isAlphanum_of_toLower
    {c : Char}
    (letter : c.toLower.isAlphanum) :
    c.isAlphanum := by
  unfold Char.toLower at letter
  split at letter
  · next upper => exact isAlphanum_iff.2 (.inl upper)
  · exact letter

/-- A letter that may stand before a quote begins a name. -/
theorem begins_of_mem_stringLetters
    {letters : Text} {c : Char}
    (isWord : isStringLetters letters)
    (member : c ∈ letters) :
    (∀ rest, GatePiece.IsBare c rest) ∧ startsName c ∧ continuesName c := by
  have lower : c.toLower ∈ ['r', 'u', 'b', 'f'] := by
    have words : ∀ word ∈ stringLetters, ∀ d ∈ word, d ∈ ['r', 'u', 'b', 'f'] := by
      simp [stringLetters]
    exact words _ (List.contains_iff_mem.1 isWord) _ (List.mem_map_of_mem member)
  have alphanum : c.isAlphanum := by
    have every : ∀ d ∈ ['r', 'u', 'b', 'f'], d.isAlphanum := by simp
    exact isAlphanum_of_toLower (every _ lower)
  obtain ⟨starts, noMargin, noComment, noJoint, noBreak, noDigit, noPoint, noQuote⟩ :=
    @forall_isAlphanum
      (fun c => c.toLower ∈ ['r', 'u', 'b', 'f'] →
        startsName c ∧ isMarginChar c = false ∧ c ≠ '#' ∧ c ≠ '\\' ∧ isLineBreakChar c = false ∧
          c.isDigit = false ∧ c ≠ '.' ∧ isQuoteMark c = false)
      (by decide +kernel) c alphanum lower
  refine ⟨fun rest => ⟨⟨noMargin, noComment, noJoint, noBreak⟩, ?_, noQuote⟩, starts,
    continuesName_of_isAlphanum alphanum⟩
  simp [startsNumber, noDigit, noPoint]

namespace Lexeme

/-- A text that opens a literal begins with that literal. -/
theorem first_of_opensSingle
    {letters inside rest : Text} {mark c : Char}
    (opens : OpensSingle letters mark inside)
    (parts : letters ++ mark :: inside = c :: rest) :
    first c rest = ofQuote letters mark inside := by
  cases letters with
  | nil =>
      obtain ⟨rfl, rfl⟩ := List.cons.inj parts
      exact first_of_isQuoteMark opens.isMark inside
  | cons letter word =>
      obtain ⟨rfl, rfl⟩ := List.cons.inj parts
      have isWord : isStringLetters (letter :: word) := by simpa using opens.isWord
      obtain ⟨bare, starts, -⟩ := begins_of_mem_stringLetters isWord List.mem_cons_self
      refine first_of_letters (bare _) starts (fun d member => ?_)
        (Bool.and_eq_true_iff.2 ⟨opens.isMark, isWord⟩)
      exact (begins_of_mem_stringLetters isWord (List.mem_cons_of_mem _ member)).2.2

theorem ofQuote_of_opensSingle
    {letters inside : Text} {mark : Char}
    (opens : OpensSingle letters mark inside) :
    ofQuote letters mark inside =
      if endsInJoint inside then ⟨.openString ⟨mark, false⟩, letters ++ mark :: inside⟩
      else ⟨.stray, letters ++ [mark]⟩ := by
  have quote : Quote.opening mark inside = ⟨mark, false⟩ := by
    unfold Quote.opening
    rw [Bool.eq_false_iff.2 fun triple => opens.single (List.isPrefixOf_iff_prefix.1 triple)]
  have unclosed : Quote.closed? ⟨mark, false⟩
      ((mark :: inside).drop (Quote.text ⟨mark, false⟩).length) = none := opens.unclosed
  unfold ofQuote
  dsimp only
  rw [quote, unclosed]
  simp

/-- A lexeme that stays open in single quotes is an opened literal, joined to the next row. -/
theorem opensSingle_of_openString
    {c : Char} {rest : Text} {quote : Quote}
    (stays : (first c rest).kind = .openString quote)
    (single : quote.triple = false) :
    ∃ letters inside, c :: rest = letters ++ quote.mark :: inside ∧
      OpensSingle letters quote.mark inside ∧ endsInJoint inside := by
  have general : ∀ letters mark inside, isQuoteMark mark →
      (letters = [] ∨ isStringLetters letters) → letters ++ mark :: inside = c :: rest →
      (ofQuote letters mark inside).kind = .openString quote →
      ∃ letters inside, c :: rest = letters ++ quote.mark :: inside ∧
        OpensSingle letters quote.mark inside ∧ endsInJoint inside := by
    intro letters mark inside isMark isWord parts kind
    unfold ofQuote at kind
    dsimp only at kind
    split at kind
    · cases kind
    · next unclosed =>
        split at kind
        · next goesOn =>
            obtain rfl := LexemeKind.openString.inj kind
            have alone : Quote.opening mark inside = ⟨mark, false⟩ :=
              congrArg (Quote.mk mark) single
            rw [single, Bool.false_or] at goesOn
            rw [alone] at unclosed
            refine ⟨letters, inside, parts.symm, ⟨isWord, isMark, fun triple => ?_, unclosed⟩, goesOn⟩
            have isTriple : (Quote.opening mark inside).triple = true :=
              List.isPrefixOf_iff_prefix.2 triple
            rw [single] at isTriple
            cases isTriple
        · cases kind
  revert stays
  fun_cases first c rest with
  | case6 _ _ _ _ isMark => exact general [] c rest isMark (.inl rfl) rfl
  | case8 _ _ _ _ _ _ _ name mark after dropped opens =>
      obtain ⟨isMark, isWord⟩ := Bool.and_eq_true_iff.1 opens
      refine general name mark after isMark (.inr isWord) ?_
      rw [← dropped]
      exact congrArg (c :: ·) List.takeWhile_append_dropWhile
  | case1 | case2 | case3 | case4 | case5 | case7 | case9 | case10 | case11 | case12 =>
      intro stays
      cases stays

end Lexeme

/-! ## Literals that a row leaves open -/

namespace ScanState

/-- Whether a row leaves a literal in single quotes open, which begins on the row or before it;
`inside` is what the row holds of it behind its opening quote. -/
inductive LeavesOpen (state : ScanState) (row : Nat) (line : Text) : OpenLiteral → Text → Prop
  | begun {column depth : Nat} {letters inside : Text} {mark : Char} :
      state.Reads line column depth (letters ++ mark :: inside) →
      OpensSingle letters mark inside →
      LeavesOpen state row line ⟨⟨mark, false⟩, letters ++ mark :: inside, row, column⟩ inside
  | goesOn {opened : OpenLiteral} :
      state.carry = .literal opened →
      opened.quote.triple = false →
      opened.quote.closed? line = none →
      LeavesOpen state row line { opened with text := opened.text ++ line } line

variable {state next : ScanState} {rows column depth : Nat} {line text inside letters : Text}
  {mark : Char} {made : List Token} {opened literal : OpenLiteral}

/-- A text that comes to be read and is left with an open literal comes to that literal. -/
theorem leavesOpen_of_place
    (reads : state.Reads line column depth text)
    (carry : (place (rows + 1) column depth (lexemes text)).carry = .literal opened)
    (single : opened.quote.triple = false) :
    ∃ inside, state.LeavesOpen (rows + 1) line opened inside ∧ endsInJoint inside ∧
      inside <:+ text := by
  induction text using lexemeInduction generalizing column depth with
  | empty =>
      rw [lexemes_nil] at carry
      cases carry
  | lexeme c rest behind parts cut inductionHypothesis =>
      by_cases whole : (Lexeme.first c rest).kind.isWhole
      · rw [cut, @place_cons _ whole ⟨rows, column⟩] at carry
        obtain ⟨inside, leaves, joint, suffix⟩ :=
          inductionHypothesis (.lexeme reads whole parts) carry
        exact ⟨inside, leaves, joint, parts ▸ suffix.trans (List.suffix_append _ _)⟩
      · have fits := Lexeme.first_fitsKind c rest
        have stays := @Lexeme.opensSingle_of_openString c rest
        rw [cut] at carry
        generalize Lexeme.first c rest = lexeme at whole fits stays carry
        obtain ⟨kind, text⟩ := lexeme
        cases kind with
        | openString quote =>
            obtain ⟨-, rfl⟩ : isQuoteMark quote.mark ∧ text = c :: rest := fits
            obtain rfl := Carry.literal.inj carry
            obtain ⟨letters, inside, shape, opens, joint⟩ := stays rfl single
            have quoteShape : quote = ⟨quote.mark, false⟩ := congrArg (Quote.mk quote.mark) single
            rw [shape] at reads ⊢
            rw [quoteShape]
            exact ⟨inside, .begun reads opens, joint, letters ++ [quote.mark], by simp⟩
        | joint => cases carry
        | blank | comment | lineEnd | number | string | name | operator | stray =>
            exact absurd rfl whole

/-- A row without a joint carries no literal in single quotes on from where it has come to. -/
theorem triple_of_place
    (reads : state.Reads line column depth text)
    (noJoint : ¬ endsInJoint text)
    (carry : (place (rows + 1) column depth (lexemes text)).carry = .literal opened) :
    opened.quote.triple := by
  by_contra single
  obtain ⟨inside, -, joint, front, rfl⟩ :=
    leavesOpen_of_place reads carry (Bool.eq_false_iff.2 single)
  exact noJoint (Quote.endsInJoint_append joint front)

/-- An opening that its row neither closes nor joins to the next one is a stray, and the scan comes
to the text right behind it. -/
theorem stray_of_opensSingle
    (reads : state.Reads line column depth (letters ++ mark :: inside))
    (opens : OpensSingle letters mark inside)
    (noJoint : ¬ endsInJoint inside)
    (rows : Nat) :
    state.Reads line (column + letters.length + 1) depth inside ∧
      ∃ made next, state.scanRow (rows + 1) line = .ok (made, next) ∧
        ⟨.stray, letters ++ [mark], rows + 1, column⟩ ∈ made ∧
        ∀ opened, next.carry = .literal opened → opened.quote.triple := by
  obtain ⟨c, rest, shape⟩ : ∃ c rest, letters ++ mark :: inside = c :: rest :=
    List.exists_cons_of_ne_nil (by simp)
  have stray : Lexeme.first c rest = ⟨.stray, letters ++ [mark]⟩ := by
    rw [Lexeme.first_of_opensSingle opens shape, Lexeme.ofQuote_of_opensSingle opens,
      if_neg noJoint]
  have parts : c :: rest = (Lexeme.first c rest).text ++ inside := by
    rw [stray, ← shape, List.append_assoc]
    rfl
  rw [shape] at reads
  have behind := Reads.lexeme reads (by rw [stray]; rfl) parts
  rw [stray, List.length_append, ← Nat.add_assoc] at behind
  refine ⟨behind, ?_⟩
  obtain ⟨front, blocks, scanned⟩ := scanRow_of_reads reads rows
  obtain ⟨later, laterParts, cut⟩ := exists_lexemes_cons c rest
  obtain rfl : inside = later := List.append_cancel_left (parts.symm.trans laterParts)
  rw [cut, stray, @place_cons ⟨.stray, letters ++ [mark]⟩ rfl ⟨rows, column⟩, List.length_append,
    ← Nat.add_assoc] at scanned
  exact ⟨_, _, scanned, List.mem_append_right _ List.mem_cons_self,
    fun opened => triple_of_place behind noJoint⟩

/-- A literal that a row leaves open goes on with the next row just if the line feed of the row has
a backslash before it. -/
theorem scanRow_of_leavesOpen
    (leaves : state.LeavesOpen (rows + 1) line literal inside) :
    ∃ made next, state.scanRow (rows + 1) line = .ok (made, next) ∧
      (endsInJoint inside → next.carry = .literal literal) ∧
      (¬ endsInJoint inside → ∀ opened, next.carry = .literal opened → opened.quote.triple) := by
  cases leaves with
  | @begun column depth letters _ mark reads opens =>
      by_cases joint : endsInJoint inside
      · obtain ⟨c, rest, shape⟩ : ∃ c rest, letters ++ mark :: inside = c :: rest :=
          List.exists_cons_of_ne_nil (by simp)
        obtain ⟨front, blocks, scanned⟩ := scanRow_of_reads reads rows
        obtain ⟨later, -, cut⟩ := exists_lexemes_cons c rest
        rw [shape, cut, Lexeme.first_of_opensSingle opens shape,
          Lexeme.ofQuote_of_opensSingle opens, if_pos joint] at scanned
        exact ⟨_, _, scanned, fun _ => rfl, fun noJoint => absurd joint noJoint⟩
      · obtain ⟨-, made, next, scanned, -, triple⟩ := stray_of_opensSingle reads opens joint rows
        exact ⟨made, next, scanned, fun isJoint => absurd isJoint joint, fun _ => triple⟩
  | @goesOn opened carry single unclosed =>
      by_cases joint : endsInJoint line
      · refine ⟨[], { state with carry := .literal { opened with text := opened.text ++ line } }, ?_,
          fun _ => rfl, fun noJoint => absurd joint noJoint⟩
        simp only [scanRow, carry, scanLiteral, unclosed, single, joint, Bool.or_true, if_true]
      · refine ⟨[⟨.stray, opened.text ++ line, opened.row, opened.column⟩],
          { state with carry := .nothing }, ?_, fun isJoint => absurd isJoint joint,
          fun _ opened same => by cases same⟩
        simp only [scanRow, carry, scanLiteral, unclosed, single, Bool.false_or, if_neg joint]

/-- A literal in single quotes that is open behind a row has been left open by the row. -/
theorem leavesOpen_of_scanRow
    (scanned : state.scanRow (rows + 1) line = .ok (made, next))
    (carry : next.carry = .literal literal)
    (single : literal.quote.triple = false) :
    ∃ inside, state.LeavesOpen (rows + 1) line literal inside := by
  have found : ∀ {column depth : Nat} {text : Text}, state.Reads line column depth text →
      (place (rows + 1) column depth (lexemes text)).carry = .literal literal →
      ∃ inside, state.LeavesOpen (rows + 1) line literal inside := fun reads open_ =>
    (leavesOpen_of_place reads open_ single).imp fun _ leaves => leaves.1
  have aligned : ¬ state.Misindents line := by
    rw [← @scanRow_eq_error_iff _ (rows + 1), scanned]
    simp
  cases rowStep_of_scanRow scanned with
  | blank noCarry | remark _ _ noCarry =>
      rw [noCarry] at carry
      cases carry
  | statement c later noCarry noBracket content begins _ =>
      have statement : line.isBlankOrRemark = false := by
        unfold Text.isBlankOrRemark
        rw [← line.drop_length_takeWhile, content]
        exact begins
      refine found (.statement noCarry noBracket statement aligned) ?_
      rw [← line.drop_length_takeWhile]
      exact carry
  | continued continues => exact found (.continued continues) carry
  | closed opened inside isOpen closes =>
      have parts := List.prefix_append_drop (Quote.closed?_isPrefix closes)
      exact found (.closed opened inside _ isOpen closes parts) carry
  | inside opened isOpen unclosed goesOn =>
      obtain rfl := Carry.literal.inj carry
      exact ⟨line, .goesOn isOpen single unclosed⟩
  | broken => cases carry

end ScanState

/-! ## Scripts -/

/-- Whether a row of a script, if the scan comes to it, leaves a literal in single quotes open, of
which it holds `inside` behind the opening quote. -/
def LeavesOpenAt (script : Text) (row : Nat) (literal : OpenLiteral) (inside : Text) : Prop :=
  ∃ tokens state line, scanAbove? script row = some (tokens, state) ∧
    script.toLines[row]? = some line ∧ state.LeavesOpen (row + 1) line literal inside

/-- Whether a literal in single quotes goes on behind a row of a script. -/
def CarriesOver (script : Text) (row : Nat) (literal : OpenLiteral) : Prop :=
  row < script.toLines.length ∧ literal.quote.triple = false ∧
    ∃ tokens next, scanAbove? script (row + 1) = some (tokens, next) ∧
      next.carry = .literal literal

section Script

variable {script inside : Text} {row : Nat} {literal : OpenLiteral}

theorem ScanState.LeavesOpen.single
    {state : ScanState} {line : Text}
    (leaves : state.LeavesOpen row line literal inside) :
    literal.quote.triple = false := by
  cases leaves with
  | begun => rfl
  | goesOn _ single _ => exact single

theorem carriesOver_iff_of_leavesOpenAt
    (leaves : LeavesOpenAt script row literal inside) :
    CarriesOver script row literal ↔ 0 < inside.escapesBeforeFeed := by
  obtain ⟨tokens, state, line, above, here, leaves⟩ := leaves
  obtain ⟨made, next, scanned, joins, ends⟩ := ScanState.scanRow_of_leavesOpen leaves
  have below := scanAbove?_succ_of_scanRow above here scanned
  rw [← endsInJoint_iff]
  constructor
  · rintro ⟨-, single, _, _, same, carry⟩
    obtain ⟨rfl, rfl⟩ := Prod.mk.inj (Option.some.inj (same.symm.trans below))
    by_contra noJoint
    rw [ends noJoint literal carry] at single
    cases single
  · intro joint
    obtain ⟨bound, -⟩ := List.getElem?_eq_some_iff.1 here
    exact ⟨bound, leaves.single, _, next, below, joins joint⟩

theorem CarriesOver.exists_leavesOpenAt
    (carries : CarriesOver script row literal) :
    ∃ inside, LeavesOpenAt script row literal inside := by
  obtain ⟨bound, single, tokens, next, below, carry⟩ := carries
  have here := List.getElem?_eq_getElem bound
  obtain ⟨above, state, made, reached, scanned, -⟩ := exists_scanAbove?_of_succ below here
  obtain ⟨inside, leaves⟩ := ScanState.leavesOpen_of_scanRow scanned carry single
  exact ⟨inside, above, state, _, reached, here, leaves⟩

/-- Where an opening becomes a stray, no literal in single quotes goes on behind its row. -/
theorem not_carriesOver_of_opensSingle
    {tokens : List Token} {state : ScanState} {line letters : Text} {mark : Char}
    {column depth : Nat}
    (above : scanAbove? script row = some (tokens, state))
    (here : script.toLines[row]? = some line)
    (reads : state.Reads line column depth (letters ++ mark :: inside))
    (opens : OpensSingle letters mark inside)
    (noEscape : inside.escapesBeforeFeed = 0) :
    ⟨.stray, letters ++ [mark], row + 1, column⟩ ∈ (scan script).tokens ∧
      state.Reads line (column + letters.length + 1) depth inside ∧
      ∀ literal, ¬ CarriesOver script row literal := by
  have noJoint : ¬ endsInJoint inside := by
    rw [endsInJoint_iff, noEscape]
    exact Nat.lt_irrefl 0
  obtain ⟨behind, made, next, scanned, stray, triple⟩ :=
    ScanState.stray_of_opensSingle reads opens noJoint row
  have below := scanAbove?_succ_of_scanRow above here scanned
  refine ⟨(tokens_isPrefix_of_scanAbove? below).subset (List.mem_append_right _ stray), behind, ?_⟩
  rintro literal ⟨-, single, _, _, same, carry⟩
  obtain ⟨rfl, rfl⟩ := Prod.mk.inj (Option.some.inj (same.symm.trans below))
  rw [triple literal carry] at single
  cases single

end Script

/-- A literal in single quotes that a row leaves open goes on with the next row just if any
backslashes, an odd or an even number of them, stand before the line feed of the row; no other
literal in single quotes goes on.  Without a backslash there, the letters and the quotation mark of
a literal that begins on the row are a stray, the scan goes on right behind the quotation mark, and
no literal in single quotes goes on behind the row. -/
theorem carriesOver_iff_escapesBeforeFeed (script : Text) :
    (∀ row literal inside, LeavesOpenAt script row literal inside →
      (CarriesOver script row literal ↔ 0 < inside.escapesBeforeFeed)) ∧
    (∀ row literal, CarriesOver script row literal →
      ∃ inside, LeavesOpenAt script row literal inside) ∧
    ∀ row tokens state line column depth letters mark (inside : Text),
      scanAbove? script row = some (tokens, state) →
      script.toLines[row]? = some line →
      state.Reads line column depth (letters ++ mark :: inside) →
      OpensSingle letters mark inside →
      inside.escapesBeforeFeed = 0 →
      ⟨.stray, letters ++ [mark], row + 1, column⟩ ∈ (scan script).tokens ∧
        state.Reads line (column + letters.length + 1) depth inside ∧
        ∀ literal, ¬ CarriesOver script row literal :=
  ⟨fun _ _ _ => carriesOver_iff_of_leavesOpenAt, fun _ _ => CarriesOver.exists_leavesOpenAt,
    fun _ _ _ _ _ _ _ _ _ => not_carriesOver_of_opensSingle⟩

/-- Behind an opening that has become a stray the arrows of later rows are found. -/
example : Arrow.find (scan "'a\nb -> c\n".toList).tokens = [⟨1, 2⟩] := by cbv

/-- Two backslashes leave the line feed unescaped, but they join the rows: the literal goes on and
swallows the arrow of the next row. -/
theorem carriesOver_escapedBackslash :
    ¬ (∀ row literal inside, LeavesOpenAt "'a\\\\\nb -> c\n".toList row literal inside →
        CarriesOver "'a\\\\\nb -> c\n".toList row literal →
          inside.escapesBeforeFeed % 2 = 1) ∧
      Arrow.find (scan "'a\\\\\nb -> c\n".toList).tokens = [] := by
  refine ⟨fun onlyOdd => ?_, by cbv⟩
  have leaves : LeavesOpenAt "'a\\\\\nb -> c\n".toList 0
      ⟨⟨'\'', false⟩, "'a\\\\\n".toList, 1, 0⟩ "a\\\\\n".toList := by
    refine ⟨[], .start, "'a\\\\\n".toList, rfl, by decide, ?_⟩
    refine @ScanState.LeavesOpen.begun _ _ _ _ _ [] _ '\'' (.statement rfl rfl (by decide) ?_) ?_
    · exact fun misindents => absurd misindents.left (by decide)
    · exact ⟨.inl rfl, by decide, by decide, by decide⟩
  have carries := (carriesOver_iff_of_leavesOpenAt leaves).2 (by decide)
  exact absurd (onlyOdd 0 _ _ leaves carries) (by decide)

end Pipescript
