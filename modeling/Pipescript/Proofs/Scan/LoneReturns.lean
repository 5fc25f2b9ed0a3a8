import Mathlib
import Pipescript.Proofs.Scan.LineEndText

/-!
# What line ends hide

A carriage return inside a row ends the row all the same: the token of the line end takes along what
stands behind it, names, operators and arrows among it.  This happens to every carriage return that
the scan comes to, unless a line feed stands behind it or the script ends there; only literals and
strays may have others.

* `TakesReturn` says where the scan has put a carriage return; a row puts it somewhere, and the rows
  below leave it there.
* `plainLineEnds_iff` says when the line ends of a script have no texts but those of line ends.
-/

namespace Pipescript

open Arrow Text

/-! ## Where lone carriage returns are -/

/-- The place at which a literal that is open begins, rows counted from zero. -/
def OpenLiteral.place (opened : OpenLiteral) : Arrow :=
  ⟨opened.row - 1, opened.column⟩

theorem OpenLiteral.place_of_opensAt
    {opened : OpenLiteral} {origin : Arrow}
    (opens : Carry.OpensAt (.literal opened) origin) :
    opened.place = origin := by
  obtain ⟨sameRow, sameColumn⟩ := opens
  rw [place, sameRow, sameColumn]
  rfl

/-- Whether the carriage return at a place is in a literal or a stray, or in a literal that is still
open, unless there is a line end with more than its own characters. -/
inductive TakesReturn (tokens : List Token) (carry : Carry) (place : Arrow) : Prop
  | inside (token : Token) :
      token ∈ tokens →
      token.kind = .string ∨ token.kind = .stray →
      token.Includes place →
      TakesReturn tokens carry place
  | lineEnd (token : Token) :
      token ∈ tokens →
      token.kind.isLineEnd →
      token.text ∉ plainLineEnds →
      TakesReturn tokens carry place
  | opened (opened : OpenLiteral) (before after : Text) :
      carry = .literal opened →
      opened.text = before ++ '\r' :: after →
      opened.place.behind before = place →
      TakesReturn tokens carry place

namespace TakesReturn

variable {tokens : List Token} {carry : Carry} {place : Arrow}

theorem append_right
    (takes : TakesReturn tokens carry place)
    (front : List Token) :
    TakesReturn (front ++ tokens) carry place := by
  cases takes with
  | inside token member kind includes =>
      exact .inside token (List.mem_append_right _ member) kind includes
  | lineEnd token member ends notPlain =>
      exact .lineEnd token (List.mem_append_right _ member) ends notPlain
  | opened opened before after same text here => exact .opened opened before after same text here

/-- What a row leaves open the next one closes, leaves open or breaks off. -/
theorem of_rowStep
    {state next : ScanState} {row : Nat} {line : Text} {made : List Token}
    (takes : TakesReturn tokens state.carry place)
    (step : ScanState.RowStep row line state made next) :
    TakesReturn (tokens ++ made) next.carry place := by
  cases takes with
  | inside token member kind includes =>
      exact .inside token (List.mem_append_left _ member) kind includes
  | lineEnd token member ends notPlain =>
      exact .lineEnd token (List.mem_append_left _ member) ends notPlain
  | opened opened before after carry text here =>
      have goesOn : ∀ more : Text, opened.text ++ more = before ++ '\r' :: (after ++ more) := by
        intro more
        rw [text, List.append_assoc]
        rfl
      have closes : ∀ (kind : TokenKind) (more : Text), kind = .string ∨ kind = .stray →
          ⟨kind, opened.text ++ more, opened.row, opened.column⟩ ∈ made →
          TakesReturn (tokens ++ made) next.carry place := fun kind more isKind member =>
        .inside _ (List.mem_append_right _ member) isKind
          (here ▸ @Token.includes_behind ⟨kind, _, opened.row, opened.column⟩ _ _ _ (goesOn more))
      cases step with
      | blank noCarry | remark _ _ noCarry | statement _ _ noCarry =>
          rw [noCarry] at carry
          cases carry
      | continued continues =>
          rw [carry] at continues
          rcases continues with joint | ⟨nothing, -⟩
          · cases joint
          · cases nothing
      | closed same inside isOpen _ =>
          obtain rfl := Carry.literal.inj (carry.symm.trans isOpen)
          exact closes .string inside (.inl rfl) List.mem_cons_self
      | inside same isOpen _ _ =>
          obtain rfl := Carry.literal.inj (carry.symm.trans isOpen)
          exact .opened _ before (after ++ line) rfl (goesOn line) here
      | broken same isOpen _ _ =>
          obtain rfl := Carry.literal.inj (carry.symm.trans isOpen)
          exact closes .stray line (.inr rfl) List.mem_cons_self

end TakesReturn

/-- A lexeme that has a lone carriage return is a literal, a stray or the line end. -/
theorem takesReturn_lexeme
    {d c : Char} {rest front behind after : Text}
    (parts : d :: rest = front ++ '\r' :: c :: behind)
    (lone : c ≠ '\n')
    (here : (Lexeme.first d rest).text = front ++ '\r' :: after)
    (origin : Arrow) (depth : Nat) (later : List Lexeme) :
    TakesReturn (place (origin.row + 1) origin.column depth (Lexeme.first d rest :: later)).tokens
      (place (origin.row + 1) origin.column depth (Lexeme.first d rest :: later)).carry
      (origin.behind front) := by
  have fits := Lexeme.first_fitsKind d rest
  have ended := @Lexeme.text_of_lineEnd d rest
  have returned := @Lexeme.kind_of_return d rest (by rw [here]; simp)
  generalize Lexeme.first d rest = lexeme at fits ended returned here
  obtain ⟨kind, text⟩ := lexeme
  have taken : ∀ tokenKind : TokenKind,
      Token.Includes ⟨tokenKind, text, origin.row + 1, origin.column⟩ (origin.behind front) :=
    fun tokenKind =>
      @Token.includes_behind ⟨tokenKind, text, origin.row + 1, origin.column⟩ _ _ _ here
  cases kind with
  | string => exact .inside _ List.mem_cons_self (.inl rfl) (taken _)
  | stray => exact .inside _ List.mem_cons_self (.inr rfl) (taken _)
  | openString quote => exact .opened _ front after rfl here rfl
  | lineEnd =>
      obtain ⟨-, rfl⟩ := ended rfl
      refine .lineEnd _ List.mem_cons_self ?_ (parts ▸ notMem_plainLineEnds lone front behind)
      dsimp only
      split <;> rfl
  | joint =>
      -- A joint has only the line end behind its backslash.
      obtain ⟨rfl, lineEnd, -⟩ := fits
      cases front with
      | nil => cases parts
      | cons _ front =>
          obtain ⟨-, rfl⟩ := List.cons.inj parts
          exact absurd (mem_plainLineEnds_of_isLineEnd lineEnd)
            (notMem_plainLineEnds lone front behind)
  | blank | comment | number | name | operator =>
      rcases returned with quoted | lineEnd | joint
      · cases quoted
      · cases lineEnd
      · cases joint

/-- A lexeme that leaves its row unfinished goes to the end of the row. -/
theorem Lexeme.text_of_unfinished
    {c : Char} {rest : Text}
    (unfinished : (first c rest).kind.isWhole = false) :
    (first c rest).text = c :: rest := by
  have fits := first_fitsKind c rest
  unfold FitsKind at fits
  cases kind : (first c rest).kind with
  | joint =>
      rw [kind] at fits
      exact fits.2.2
  | openString quote =>
      rw [kind] at fits
      exact fits.2
  | blank | comment | lineEnd | number | string | name | operator | stray =>
      rw [kind] at unfinished
      cases unfinished

/-- The lexemes of a row put a lone carriage return somewhere. -/
theorem takesReturn_place
    {text front behind : Text} {c : Char}
    (oneRow : text.IsOneRow)
    (parts : text = front ++ '\r' :: c :: behind)
    (lone : c ≠ '\n')
    (origin : Arrow) (depth : Nat) :
    TakesReturn (place (origin.row + 1) origin.column depth (lexemes text)).tokens
      (place (origin.row + 1) origin.column depth (lexemes text)).carry (origin.behind front) := by
  induction text using lexemeInduction generalizing front origin depth with
  | empty => simp at parts
  | lexeme d rest later cutParts cut inductionHypothesis =>
      rw [cut]
      rcases append_cons_eq_append (parts.symm.trans cutParts) with
        ⟨after, here, -⟩ | ⟨crossing, rfl, below⟩
      · exact takesReturn_lexeme parts lone here origin depth _
      · -- The carriage return stands behind the lexeme.
        have notEmpty : later ≠ [] := by simp [below]
        have whole : (Lexeme.first d rest).kind.isWhole := by
          by_contra unfinished
          have all := Lexeme.text_of_unfinished (Bool.eq_false_iff.2 unfinished)
          rw [all] at cutParts
          exact notEmpty (List.self_eq_append_right.1 cutParts)
        have noFeed := oneRow _ later cutParts notEmpty
        have found := inductionHypothesis (oneRow.behind cutParts) below
          (origin.behind (Lexeme.first d rest).text) ((Lexeme.first d rest).depthAfter depth)
        rw [place_cons whole origin, behind_append]
        rw [behind_of_noFeed noFeed] at found ⊢
        exact found.append_right _

namespace ScanState

variable {state next : ScanState} {row : Nat} {line front behind : Text} {c : Char}
  {tokens : List Token} {origin : Arrow}

theorem takesReturn_scanRest
    {before rest : Text}
    (oneRow : line.IsOneRow)
    (parts : line = before ++ rest)
    (restParts : rest = front ++ '\r' :: c :: behind)
    (lone : c ≠ '\n')
    (state : ScanState) (row : Nat) :
    TakesReturn (state.scanRest (row + 1) before.length rest).1
      (state.scanRest (row + 1) before.length rest).2.carry
      ((⟨row, 0⟩ : Arrow).behind (before ++ front)) := by
  have noFeed : '\n' ∉ before := oneRow before rest parts (by simp [restParts])
  have taken := takesReturn_place (oneRow.behind parts) restParts lone ⟨row, before.length⟩
    state.depth
  rwa [behind_append, behind_of_noFeed noFeed, Nat.zero_add]

theorem return_notMem_margin
    {margin : Text}
    (isMargin : margin.all isMarginChar) :
    '\r' ∉ margin :=
  fun isReturn => absurd (List.all_eq_true.1 isMargin '\r' isReturn) (by decide)

/-- A carriage return of a row stands behind the margin. -/
theorem exists_behind_margin
    (parts : line = front ++ '\r' :: c :: behind) :
    ∃ crossing, front = line.takeWhile isMarginChar ++ crossing ∧
      line.drop (line.takeWhile isMarginChar).length = crossing ++ '\r' :: c :: behind := by
  have isMargin : (line.takeWhile isMarginChar).all isMarginChar :=
    List.all_eq_true.2 fun _ member => List.mem_takeWhile_imp member
  have marginParts := List.prefix_append_drop (List.takeWhile_prefix isMarginChar (l := line))
  rcases append_cons_eq_append (parts.symm.trans marginParts) with
    ⟨after, here, -⟩ | ⟨crossing, found⟩
  · exact absurd (here ▸ by simp) (return_notMem_margin isMargin)
  · exact ⟨crossing, found⟩

/-- A row that has a lone carriage return puts it into a literal, a stray or a line end. -/
theorem takesReturn_of_rowStep
    (step : RowStep (row + 1) line state tokens next)
    (oneRow : line.IsOneRow)
    (opens : state.carry.OpensAt origin)
    (here : origin.behind state.carry.pending = ⟨row, 0⟩)
    (parts : line = front ++ '\r' :: c :: behind)
    (lone : c ≠ '\n') :
    TakesReturn tokens next.carry ((⟨row, 0⟩ : Arrow).behind front) := by
  have marginParts := List.prefix_append_drop (List.takeWhile_prefix isMarginChar (l := line))
  have atRow : ∀ opened, state.carry = .literal opened →
      (⟨row, 0⟩ : Arrow).behind front = opened.place.behind (opened.text ++ front) := by
    intro opened isOpen
    rw [isOpen] at opens here
    rw [behind_append, OpenLiteral.place_of_opensAt opens, ← here]
    rfl
  -- The token of an open literal that has the carriage return on this row.
  have literal : ∀ (opened : OpenLiteral) (kind : TokenKind) (text after : Text),
      state.carry = .literal opened → text = front ++ '\r' :: after →
      Token.Includes ⟨kind, opened.text ++ text, opened.row, opened.column⟩
        ((⟨row, 0⟩ : Arrow).behind front) := by
    rintro opened kind _ after isOpen rfl
    rw [atRow opened isOpen]
    exact @Token.includes_behind ⟨kind, _, opened.row, opened.column⟩ (opened.text ++ front) after
      '\r' (List.append_assoc _ _ _).symm
  cases step with
  | blank _ _ empty =>
      obtain ⟨crossing, -, rest⟩ := exists_behind_margin parts
      rw [empty] at rest
      simp at rest
  | remark d later _ _ content _ =>
      obtain ⟨crossing, -, rest⟩ := exists_behind_margin parts
      rw [content] at rest
      obtain ⟨deeper, lineEnd⟩ : ∃ deeper,
          (d :: later).dropWhile (!isLineBreakChar ·) = deeper ++ '\r' :: c :: behind := by
        have cut := List.takeWhile_append_dropWhile (p := (!isLineBreakChar ·)) (l := d :: later)
        rcases append_cons_eq_append (rest.symm.trans cut.symm) with
          ⟨after, comment, -⟩ | ⟨deeper, -, found⟩
        · have member : '\r' ∈ (d :: later).takeWhile (!isLineBreakChar ·) := by
            rw [comment]
            simp
          exact absurd (List.mem_takeWhile_imp member) (by decide)
        · exact ⟨deeper, found⟩
      rw [drop_length_takeWhile, lineEnd]
      exact .lineEnd _ (lineBreak_mem_remarkTokens (by simp) _ _ _) rfl
        (notMem_plainLineEnds lone deeper behind)
  | statement d later _ _ content _ _ =>
      obtain ⟨crossing, rfl, rest⟩ := exists_behind_margin parts
      exact (takesReturn_scanRest oneRow marginParts rest lone _ row).append_right _
  | continued =>
      exact takesReturn_scanRest oneRow (List.nil_append line).symm parts lone state row
  | closed opened inside isOpen closes =>
      have insideParts := List.prefix_append_drop (Quote.closed?_isPrefix closes)
      rcases append_cons_eq_append (parts.symm.trans insideParts) with
        ⟨after, shape, -⟩ | ⟨crossing, rfl, rest⟩
      · exact .inside _ List.mem_cons_self (.inl rfl)
          (literal opened .string inside after isOpen shape)
      · exact (takesReturn_scanRest oneRow insideParts rest lone state row).append_right [_]
  | inside opened isOpen _ _ =>
      refine .opened _ (opened.text ++ front) (c :: behind) rfl ?_ (atRow opened isOpen).symm
      rw [parts, List.append_assoc]
  | broken opened isOpen _ _ =>
      exact .inside _ List.mem_cons_self (.inr rfl) (literal opened .stray line _ isOpen parts)

end ScanState

/-! ## Scripts -/

section Script

variable {script front behind : Text} {c : Char} {row : Nat} {tokens : List Token}
  {state : ScanState}

/-- The rows above a row end where it begins. -/
theorem behind_above
    {text : Text}
    (inside : row < text.toLines.length) :
    start.behind (text.above row) = ⟨row, 0⟩ := by
  induction text using lineInduction generalizing row with
  | empty => cases inside
  | last line notEmpty noFeed =>
      rw [toLines_of_noFeed notEmpty noFeed, List.length_singleton, Nat.lt_one_iff] at inside
      rw [inside]
      rfl
  | line front rest noFeed inductionHypothesis =>
      rw [toLines_append_feed noFeed, List.length_cons] at inside
      cases row with
      | zero => rfl
      | succ row =>
          have below := inductionHypothesis (Nat.lt_of_succ_lt_succ inside)
          unfold above at below ⊢
          rw [toLines_append_feed noFeed, List.take_succ_cons, List.flatten_cons, List.append_assoc,
            List.singleton_append, start_behind_append_feed noFeed, below]
          rfl

/-- The tokens above a row cover the rows above it, but for a literal that is open there. -/
theorem coversBut_scanAbove?
    (bound : row ≤ script.toLines.length)
    (reached : scanAbove? script row = some (tokens, state)) :
    CoversBut start tokens state.carry (script.above row) := by
  induction row generalizing tokens state with
  | zero =>
      obtain ⟨rfl, rfl⟩ := Prod.mk.inj (Option.some.inj reached)
      exact coversBut_nil start
  | succ row inductionHypothesis =>
      have inside := Nat.lt_of_succ_le bound
      have here := List.getElem?_eq_getElem inside
      obtain ⟨earlier, before, made, above, scanned, rfl⟩ := exists_scanAbove?_of_succ reached here
      obtain ⟨covered, parts, covers, opens⟩ :=
        inductionHypothesis (Nat.le_of_lt inside) above
      have atRow : (start.behind covered).behind before.carry.pending = ⟨row, 0⟩ := by
        rw [← behind_append, ← parts, behind_above inside]
      have whole := CoversBut.append covers (ScanState.coversBut_of_rowStep
        (ScanState.rowStep_of_scanRow scanned)
        (isOneRow_of_mem_toLines (List.mem_of_getElem? here)) opens atRow)
      have line : script.lineAt row = script.toLines[row] := List.getD_eq_getElem _ _ inside
      rwa [← List.append_assoc, ← parts, ← line, above_append_lineAt] at whole

/-- A lone carriage return stands on one row with the character behind it. -/
theorem exists_row_of_return
    (parts : script = front ++ '\r' :: c :: behind) :
    ∃ before after,
      script.toLines[(start.behind front).row]? = some (before ++ '\r' :: c :: after) ∧
        start.behind front = (⟨(start.behind front).row, 0⟩ : Arrow).behind before := by
  have atReturn := charAt?_behind front '\r' (c :: behind)
  have atNext := charAt?_behind (front ++ ['\r']) c behind
  have next : start.behind (front ++ ['\r']) =
      ⟨(start.behind front).row, (start.behind front).column + 1⟩ := behind_append _ _ _
  rw [next, List.append_assoc, List.singleton_append, ← parts] at atNext
  rw [← parts] at atReturn
  generalize start.behind front = place at atReturn atNext
  obtain ⟨line, here, isReturn⟩ := charAt?_eq_some_iff.1 atReturn
  obtain ⟨same, hereToo, isNext⟩ := charAt?_eq_some_iff.1 atNext
  obtain rfl := Option.some.inj (here.symm.trans hereToo)
  obtain ⟨returnBound, isReturn⟩ := List.getElem?_eq_some_iff.1 isReturn
  obtain ⟨nextBound, isNext⟩ := List.getElem?_eq_some_iff.1 isNext
  have shape : line =
      line.take place.column ++ '\r' :: c :: line.drop (place.column + 1 + 1) := by
    rw [← isReturn, ← isNext, List.getElem_cons_drop, List.getElem_cons_drop,
      List.take_append_drop]
  have noFeed : '\n' ∉ line.take place.column :=
    isOneRow_of_mem_toLines (List.mem_of_getElem? here) _ _ shape (by simp)
  refine ⟨_, _, shape ▸ here, ?_⟩
  rw [behind_of_noFeed noFeed, List.length_take, Nat.min_eq_left (Nat.le_of_lt returnBound),
    Nat.zero_add]

/-- A scan has put a lone carriage return somewhere when it comes to a row below. -/
theorem takesReturn_scanAbove?
    {before after : Text} {below : Nat}
    (here : script.toLines[row]? = some (before ++ '\r' :: c :: after))
    (lone : c ≠ '\n')
    (further : row < below)
    (bound : below ≤ script.toLines.length)
    (reached : scanAbove? script below = some (tokens, state)) :
    TakesReturn tokens state.carry ((⟨row, 0⟩ : Arrow).behind before) := by
  induction below generalizing tokens state with
  | zero => cases further
  | succ below inductionHypothesis =>
      have inside := Nat.lt_of_succ_le bound
      have line := List.getElem?_eq_getElem inside
      obtain ⟨earlier, middle, made, above, scanned, rfl⟩ := exists_scanAbove?_of_succ reached line
      have step := ScanState.rowStep_of_scanRow scanned
      rcases Nat.lt_succ_iff_lt_or_eq.1 further with further | rfl
      · exact (inductionHypothesis further (Nat.le_of_lt inside) above).of_rowStep step
      · obtain ⟨covered, covers, -, opens⟩ := coversBut_scanAbove? (Nat.le_of_lt inside) above
        have atRow : (start.behind covered).behind middle.carry.pending = ⟨row, 0⟩ := by
          rw [← behind_append, ← covers, behind_above inside]
        have parts : script.toLines[row] = before ++ '\r' :: c :: after :=
          Option.some.inj (line.symm.trans here)
        have oneRow := isOneRow_of_mem_toLines (List.mem_of_getElem? line)
        exact (ScanState.takesReturn_of_rowStep step oneRow opens atRow parts lone).append_right _

/-- A place in a text is before its end. -/
theorem before_of_isPrefix
    {text : Text} {d : Char}
    (inside : front ++ [d] <+: text) :
    (start.behind front).Before (start.behind text) := by
  obtain ⟨rest, rfl⟩ := inside
  rw [List.append_assoc, behind_append]
  exact before_behind_cons _ _ _

/-- A carriage return that has been put somewhere is in a token, if no literal before it is open and
the line ends are plain. -/
theorem TakesReturn.exists_token
    {place : Arrow} {carry : Carry}
    (takes : TakesReturn tokens carry place)
    (plain : ∀ token ∈ tokens, token.kind.isLineEnd → token.text ∈ plainLineEnds)
    (closed : ∀ opened, carry = .literal opened → place.Before opened.place) :
    ∃ token ∈ tokens, (token.kind = .string ∨ token.kind = .stray) ∧ token.Includes place := by
  cases takes with
  | inside token member kind includes => exact ⟨token, member, kind, includes⟩
  | lineEnd token member ends notPlain => exact absurd (plain token member ends) notPlain
  | opened opened before after isOpen _ here =>
      have behindOpening := precedes_behind opened.place before
      rw [here] at behindOpening
      exact absurd (closed opened isOpen) (not_before_of_precedes behindOpening)

/-- A literal that is open at the end of a script begins where the scanned part ends. -/
theorem place_of_finish
    {opened : OpenLiteral} {last : Text}
    (reached : scanAbove? script script.toLines.length = some (tokens, state))
    (same : scan script = (state.finish script.toLines.length last).prepend tokens)
    (isOpen : state.carry = .literal opened) :
    opened.place = start.behind (scannedPart script) := by
  obtain ⟨covered, parts, -, opens⟩ := coversBut_scanAbove? (Nat.le_refl _) reached
  have whole : script.above script.toLines.length = script := by
    rw [above, List.take_length, flatten_toLines]
  rw [whole] at parts
  rw [isOpen] at opens
  have place := OpenLiteral.place_of_opensAt opens
  have stopped : (scan script).error = some (.openString opened.row opened.column) := by
    rw [same]
    simp only [ScanState.finish, isOpen, Scan.prepend]
  have scanned : scannedPart script = script.upTo opened.place := by
    unfold scannedPart
    rw [stopped]
    rfl
  rw [scanned, place]
  conv => rhs; rw [parts, upTo_behind]

/-- If all line ends are plain, the lone carriage returns are in literals and strays. -/
theorem includes_of_plain
    (plain : ∀ token ∈ (scan script).tokens, token.kind.isLineEnd → token.text ∈ plainLineEnds)
    (parts : script = front ++ '\r' :: c :: behind)
    (lone : c ≠ '\n')
    (scanned : front ++ ['\r'] <+: scannedPart script) :
    ∃ token ∈ (scan script).tokens, (token.kind = .string ∨ token.kind = .stray) ∧
      token.Includes (start.behind front) := by
  obtain ⟨before, after, here, place⟩ := exists_row_of_return parts
  obtain ⟨bound, -⟩ := List.getElem?_eq_some_iff.1 here
  have inside := before_of_isPrefix scanned
  rcases scan_cases script with
    ⟨tokens, state, last, reached, same⟩ |
      ⟨stop, line, tokens, state, stopHere, reached, failed, same⟩
  · have made : tokens ⊆ (scan script).tokens := by
      rw [same]
      exact List.subset_append_left _ _
    have takes := takesReturn_scanAbove? here lone bound (Nat.le_refl _) reached
    rw [← place] at takes
    obtain ⟨token, member, found⟩ := takes.exists_token
      (fun token member => plain token (made member)) fun opened isOpen => by
        rw [place_of_finish reached same isOpen]
        exact inside
    exact ⟨token, made member, found⟩
  · obtain ⟨stopBound, -⟩ := List.getElem?_eq_some_iff.1 stopHere
    have part : scannedPart script = script.above stop := by
      unfold scannedPart
      rw [same]
      simp [upTo, above]
    rw [part, behind_above stopBound] at inside
    have further : (start.behind front).row < stop := by
      unfold Before at inside
      dsimp only at inside
      omega
    have takes := takesReturn_scanAbove? here lone further (Nat.le_of_lt stopBound) reached
    rw [← place] at takes
    rw [same] at plain ⊢
    refine takes.exists_token plain fun opened isOpen => ?_
    rw [(ScanState.error_of_scanRow failed).1] at isOpen
    cases isOpen

/-- If the lone carriage returns are in literals and strays, all line ends are plain. -/
theorem plain_of_includes
    {token : Token}
    (hidden : ∀ front c behind, script = front ++ '\r' :: c :: behind → c ≠ '\n' →
      front ++ ['\r'] <+: scannedPart script →
      ∃ token ∈ (scan script).tokens, (token.kind = .string ∨ token.kind = .stray) ∧
        token.Includes (start.behind front))
    (member : token ∈ (scan script).tokens)
    (ends : token.kind.isLineEnd) :
    token.text ∈ plainLineEnds := by
  by_contra notPlain
  have hasText : token.text ≠ [] := fun nothing => notPlain (by simp [nothing, plainLineEnds])
  obtain ⟨row, line, here, shown, d, rest, lineParts, breaks, text, -, -⟩ :=
    endsLine_of_scan member ends hasText
  rw [text] at notPlain
  obtain ⟨rfl, c, more, rfl, lone⟩ := exists_lone_of_notMem
    ((isOneRow_of_mem_toLines (List.mem_of_getElem? here)).behind lineParts) breaks notPlain
  obtain ⟨⟨front, behind, scanned, place⟩, alone⟩ := stands_of_text member text
  obtain ⟨below, parts⟩ := scannedPart_isPrefix script
  rw [text] at scanned
  obtain ⟨other, otherMember, kind, includes⟩ := hidden front c (more ++ behind ++ below)
    (by rw [← parts, scanned]; simp) lone ⟨c :: more ++ behind, by rw [scanned]; simp⟩
  rw [place] at includes
  obtain rfl := alone other otherMember includes
  rcases kind with string | stray
  · simp [string, TokenKind.isLineEnd] at ends
  · simp [stray, TokenKind.isLineEnd] at ends

end Script

/-- A line end with a text is the rest of a row from a line break character on.  The line ends of a
script are all plain just if every carriage return of the scanned part, before something other than
a line feed, is in a literal or in a stray. -/
theorem plainLineEnds_iff (script : Text) :
    (∀ token ∈ (scan script).tokens, token.kind.isLineEnd → token.text ≠ [] →
      ∃ row line, script.toLines[row]? = some line ∧ token.EndsLine (row + 1) 0 line) ∧
    ((∀ token ∈ (scan script).tokens, token.kind.isLineEnd → token.text ∈ plainLineEnds) ↔
      ∀ front c behind, script = front ++ '\r' :: c :: behind → c ≠ '\n' →
        front ++ ['\r'] <+: scannedPart script →
        ∃ token ∈ (scan script).tokens, (token.kind = .string ∨ token.kind = .stray) ∧
          token.Includes (start.behind front)) :=
  ⟨fun _ => endsLine_of_scan, fun plain _ _ _ => includes_of_plain plain,
    fun hidden _ => plain_of_includes hidden⟩

/-- A carriage return inside a row begins a line end that hides an arrow. -/
theorem not_plainLineEnds_loneReturn :
    ¬ (∀ token ∈ (scan "a\rb -> c\n".toList).tokens,
        token.kind.isLineEnd → token.text ∈ plainLineEnds) ∧
      (scan "a\rb -> c\n".toList).tokens =
        [⟨.name, ['a'], 1, 0⟩, ⟨.newline, "\rb -> c\n".toList, 1, 1⟩, ⟨.endMarker, [], 2, 0⟩] ∧
      Arrow.find (scan "a\rb -> c\n".toList).tokens = [] := by
  have tokens : (scan "a\rb -> c\n".toList).tokens =
      [⟨.name, ['a'], 1, 0⟩, ⟨.newline, "\rb -> c\n".toList, 1, 1⟩, ⟨.endMarker, [], 2, 0⟩] := by
    cbv
  rw [tokens]
  exact ⟨by decide, rfl, by decide⟩

end Pipescript
