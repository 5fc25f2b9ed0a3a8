import Mathlib.Data.List.Find
import Mathlib.Data.List.Infix
import Pipescript.Proofs.Arrow.Sealed
import Pipescript.Proofs.Scan.Lexemes

/-!
# Lines of sealed texts

A sealed line is cut where the line itself is cut: behind a kept character both go on with lexemes
of one kind, and of one text unless they are comments or literals.
-/

namespace Pipescript

/-! ## Quotes -/

/-- Sealing neither changes nor makes a quotation mark or a backslash. -/
theorem ArrowChange.eq_iff
    {c d fixed : Char}
    (change : ArrowChange c d)
    (noChange : fixed ∉ sealChars) :
    d = fixed ↔ c = fixed := by
  have different : ∀ {other : Char}, other ∈ sealChars → other ≠ fixed := by
    rintro other member rfl
    exact noChange member
  rcases change with rfl | ⟨rfl, rfl⟩ | ⟨rfl, rfl⟩ | ⟨rfl, rfl⟩
  · rfl
  · exact iff_of_false (different (by decide)) (different (by decide))
  · exact iff_of_false (different (by decide)) (different (by decide))
  · exact iff_of_false (different (by decide)) (different (by decide))

theorem notMem_sealChars_of_isQuoteMark
    {mark : Char}
    (isMark : isQuoteMark mark) :
    mark ∉ sealChars := by
  simp only [isQuoteMark, Bool.or_eq_true, beq_iff_eq] at isMark
  rcases isMark with rfl | rfl <;> decide

theorem isPrefixOf_eq_of_forall₂
    {front text changed : Text}
    (noChange : ∀ c ∈ front, c ∉ sealChars)
    (pairs : List.Forall₂ ArrowChange text changed) :
    front.isPrefixOf changed = front.isPrefixOf text := by
  rw [Bool.eq_iff_iff, List.isPrefixOf_iff_prefix, List.isPrefixOf_iff_prefix]
  constructor
  · apply Text.isPrefix_of_forall₂ _ pairs.flip
    exact fun c member d change => (ArrowChange.eq_iff change (noChange c member)).1 rfl
  · apply Text.isPrefix_of_forall₂ _ pairs
    exact fun c member d change => (change.eq_iff (noChange c member)).2 rfl

namespace Quote

variable {quote : Quote}

theorem mem_text
    {c : Char}
    (member : c ∈ quote.text) :
    c = quote.mark := by
  unfold text at member
  split at member <;> simpa using member

theorem closed?_cons_cons_of_escape (quote : Quote) (next : Char) (rest : Text) :
    quote.closed? ('\\' :: next :: rest) =
      (quote.closed? rest).map fun inside => '\\' :: next :: inside := by
  rw [closed?, if_pos rfl]

/-- A quote is closed at the same place of both texts.  Behind a backslash the texts may part in
the middle of an arrow, so they are compared character by character. -/
theorem length_closed?_of_forall₂
    {text changed : Text}
    (isMark : isQuoteMark quote.mark)
    (pairs : List.Forall₂ ArrowChange text changed) :
    (quote.closed? changed).map List.length = (quote.closed? text).map List.length := by
  have noChange : ∀ c ∈ quote.text, c ∉ sealChars := by
    intro c member
    rw [mem_text member]
    exact notMem_sealChars_of_isQuoteMark isMark
  have sameEscape : ∀ {c d : Char}, ArrowChange c d → (d = '\\' ↔ c = '\\') :=
    fun change => change.eq_iff (by decide)
  fun_induction closed? quote text generalizing changed with
  | case1 =>
      cases pairs
      rfl
  | case2 c closes =>
      obtain ⟨d, rest, change, later, rfl⟩ := List.forall₂_cons_left_iff.1 pairs
      cases later
      have sameMark : d = c := by
        have opens : c ∈ quote.text := by rw [closes.2]; exact List.mem_cons_self
        exact (change.eq_iff (noChange c opens)).2 rfl
      rw [sameMark, closed?, if_pos closes]
  | case3 c notClosing =>
      obtain ⟨d, rest, change, later, rfl⟩ := List.forall₂_cons_left_iff.1 pairs
      cases later
      rw [closed?, if_neg]
      rintro ⟨noEscape, closes⟩
      have opens : d ∈ quote.text := by rw [closes]; exact List.mem_cons_self
      have sameMark : c = d := (change.eq_iff (noChange d opens)).1 rfl
      exact notClosing (sameMark ▸ ⟨noEscape, closes⟩)
  | case4 next rest inductionHypothesis =>
      obtain ⟨d, tail, change, later, rfl⟩ := List.forall₂_cons_left_iff.1 pairs
      obtain ⟨e, tail, _, behind, rfl⟩ := List.forall₂_cons_left_iff.1 later
      have escape : d = '\\' := (sameEscape change).2 rfl
      have same := inductionHypothesis behind
      rw [escape, closed?_cons_cons_of_escape]
      generalize quote.closed? tail = closed, quote.closed? rest = other at same ⊢
      cases closed <;> cases other <;> simp_all
  | case5 c next rest noEscape closes =>
      obtain ⟨d, tail, change, later, rfl⟩ := List.forall₂_cons_left_iff.1 pairs
      obtain ⟨e, tail, _, _, rfl⟩ := List.forall₂_cons_left_iff.1 later
      have stillCloses := isPrefixOf_eq_of_forall₂ noChange pairs
      rw [closes] at stillCloses
      rw [closed?, if_neg fun escape => noEscape ((sameEscape change).1 escape),
        if_pos stillCloses]
  | case6 c next rest noEscape notClosing inductionHypothesis =>
      obtain ⟨d, tail, change, later, rfl⟩ := List.forall₂_cons_left_iff.1 pairs
      have same := inductionHypothesis later
      obtain ⟨e, tail, _, _, rfl⟩ := List.forall₂_cons_left_iff.1 later
      have stillOpen := isPrefixOf_eq_of_forall₂ noChange pairs
      rw [closed?, if_neg fun escape => noEscape ((sameEscape change).1 escape),
        if_neg (by rwa [stillOpen])]
      generalize quote.closed? (e :: tail) = closed, quote.closed? (next :: rest) = other
        at same ⊢
      cases closed <;> cases other <;> simp_all

/-- What closes a literal ends in the mark of its quote. -/
theorem getLast?_of_closed?
    {text inside : Text}
    (closed : quote.closed? text = some inside) :
    inside.getLast? = some quote.mark := by
  have quoteEnds : quote.text.getLast? = some quote.mark := by
    unfold Quote.text
    split <;> rfl
  obtain ⟨front, rfl⟩ := text_isSuffix_of_closed? closed
  rw [List.getLast?_append, quoteEnds, Option.some_or]

theorem closed?_eq_none_of_sealed
    {text changed : Text}
    (isMark : isQuoteMark quote.mark)
    (sealed : Sealed text changed)
    (unclosed : quote.closed? text = none) :
    quote.closed? changed = none := by
  have same := length_closed?_of_forall₂ isMark sealed.forall₂
  rw [unclosed] at same
  exact Option.map_eq_none_iff.1 same

/-- A literal that is closed in a text is closed alike in the changed one. -/
theorem exists_closed?_of_sealed
    {text changed inside : Text}
    (isMark : isQuoteMark quote.mark)
    (sealed : Sealed text changed)
    (closed : quote.closed? text = some inside) :
    ∃ changedInside, quote.closed? changed = some changedInside ∧
      Sealed inside changedInside ∧
      Sealed (text.drop inside.length) (changed.drop changedInside.length) := by
  have same := length_closed?_of_forall₂ isMark sealed.forall₂
  rw [closed, Option.map_some] at same
  obtain ⟨changedInside, changedClosed, sameLength⟩ := Option.map_eq_some_iff.1 same
  obtain ⟨behind, rfl⟩ := closed?_isPrefix closed
  have noMinus : inside.getLast? ≠ some '-' := by
    rw [getLast?_of_closed? closed]
    intro minus
    rw [Option.some.inj minus] at isMark
    exact absurd isMark (by decide)
  obtain ⟨front, changedBehind, rfl, insideSealed, behindSealed⟩ := sealed.exists_cut noMinus
  obtain ⟨rest, parts⟩ := closed?_isPrefix changedClosed
  have sameFront : changedInside.length = front.length := by
    rw [sameLength, insideSealed.length_eq]
  obtain ⟨rfl, rfl⟩ := List.append_inj parts sameFront
  refine ⟨changedInside, changedClosed, insideSealed, ?_⟩
  rw [List.drop_left, List.drop_left]
  exact behindSealed

end Quote

/-! ## Numbers -/

theorem decimalPart_of_sealed
    {text changed : Text}
    (sealed : Sealed text changed) :
    changed.decimalPart = text.decimalPart := by
  have stops : sealMarks.any isDigitOrUnderscore = false := by decide
  have whole := sealed.takeWhile_eq stops
  have behind := sealed.dropWhile stops
  unfold Text.decimalPart
  rw [whole]
  generalize text.dropWhile isDigitOrUnderscore = rest,
    changed.dropWhile isDigitOrUnderscore = changedRest at behind ⊢
  cases behind with
  | nil => rfl
  | keep c later =>
      by_cases point : c = '.'
      · subst point
        simp only [later.takeWhile_eq stops]
      · simp [point]
  | comma => rfl
  | separator => rfl

theorem exponentPart_of_sealed
    {text changed : Text}
    (sealed : Sealed text changed) :
    exponentPart changed = exponentPart text := by
  have stops : sealMarks.any isDigitOrUnderscore = false := by decide
  unfold exponentPart
  cases sealed with
  | nil => rfl
  | comma => rfl
  | separator => rfl
  | keep c later =>
      by_cases isExponent : (c == 'e' || c == 'E') = true
      · cases later with
        | nil => rfl
        | comma => simp [Text.exponentMark?, isExponent]
        | separator => simp [Text.exponentMark?, isExponent]
        | keep sign behind =>
            by_cases isSign : (sign == '+' || sign == '-') = true
            · simp only [Text.exponentMark?, isExponent, isSign, if_true]
              -- Behind the sign a digit is needed, which no change touches.
              cases behind with
              | nil => rfl
              | comma => rfl
              | separator => rfl
              | keep digit digits =>
                  simp only [List.length_cons, List.length_nil, List.drop_succ_cons,
                    List.drop_zero, digits.takeWhile_eq stops]
            · simp [Text.exponentMark?, isExponent, isSign, behind.takeWhile_eq stops]
      · simp [Text.exponentMark?, isExponent]

theorem imaginaryMark_of_sealed
    {text changed : Text}
    (sealed : Sealed text changed) :
    changed.imaginaryMark = text.imaginaryMark := by
  cases sealed <;> rfl

/-- Parts in front of sealed texts that are the same leave sealed texts behind. -/
theorem Sealed.drop_of_isPrefix
    {text changed front : Text}
    (sealed : Sealed text changed)
    (isFront : front <+: text)
    (isChangedFront : front <+: changed) :
    Sealed (text.drop front.length) (changed.drop front.length) := by
  obtain ⟨rest, rfl⟩ := isFront
  obtain ⟨changedRest, rfl⟩ := isChangedFront
  rw [List.drop_left, List.drop_left]
  exact sealed.behind

theorem decimal_of_sealed
    {text changed : Text}
    (sealed : Sealed text changed) :
    numberLiteral.decimal changed = numberLiteral.decimal text := by
  have mantissa := decimalPart_of_sealed sealed
  have behindMantissa := sealed.drop_of_isPrefix text.decimalPart_isPrefix
    (mantissa ▸ changed.decimalPart_isPrefix)
  have exponent := exponentPart_of_sealed behindMantissa
  have behindExponent := behindMantissa.drop_of_isPrefix (exponentPart_isPrefix _)
    (exponent ▸ exponentPart_isPrefix _)
  rw [List.drop_drop, List.drop_drop] at behindExponent
  unfold numberLiteral.decimal
  dsimp only
  rw [mantissa, exponent, imaginaryMark_of_sealed behindExponent]

theorem numberLiteral_of_sealed
    {text changed : Text}
    (sealed : Sealed text changed) :
    numberLiteral changed = numberLiteral text := by
  have decimal := decimal_of_sealed sealed
  cases sealed with
  | nil => rfl
  | comma => exact decimal
  | separator => exact decimal
  | keep c later =>
      by_cases zero : c = '0'
      · subst zero
        cases later with
        | nil => rfl
        | comma => exact decimal
        | separator => exact decimal
        | keep mark behind =>
            have digits := behind.takeWhile_eq (p := fun c => c.isAlphanum || c == '_') (by decide)
            simp only [numberLiteral, digits, decimal]
      · have noBase : ∀ rest, numberLiteral (c :: rest) = numberLiteral.decimal (c :: rest) := by
          intro rest
          unfold numberLiteral
          split
          · next mark later parts => exact absurd (List.cons.inj parts).1 zero
          · rfl
        rw [noBase, noBase]
        exact decimal

theorem startsNumber_of_sealed
    {rest changed : Text}
    (c : Char)
    (sealed : Sealed rest changed) :
    startsNumber c changed = startsNumber c rest := by
  unfold startsNumber
  cases sealed <;> rfl

/-! ## Operators -/

/-- Behind its first character no operator has a mark. -/
theorem operator?_of_sealed
    {rest changed : Text}
    (c : Char)
    (sealed : Sealed rest changed) :
    operator? (c :: changed) = operator? (c :: rest) := by
  have noMark : operators.all fun listed => listed.tail.all fun d => !sealMarks.contains d := by
    decide
  unfold operator?
  refine List.find?_congr fun listed member => ?_
  have tailNoMark : ∀ d ∈ listed.tail, d ∉ sealMarks := by
    simpa using List.all_eq_true.1 noMark listed member
  cases listed with
  | nil => rfl
  | cons d tail =>
      have sameTail : tail.isPrefixOf changed = tail.isPrefixOf rest :=
        sealed.isPrefixOf_eq tailNoMark
      rw [List.isPrefixOf_cons_cons, List.isPrefixOf_cons_cons, sameTail]

/-! ## Lexemes -/

namespace Lexeme

/-- Whether two lexemes are read alike.  The texts of comments and literals may differ by what is
sealed in them. -/
structure Alike (lexeme other : Lexeme) : Prop where
  kind : other.kind = lexeme.kind
  text : Sealed lexeme.text other.text
  operator : lexeme.kind = .operator → other.text = lexeme.text

/-- Whether two lines begin with lexemes that are read alike, before sealed rests. -/
def CutAlike (lexeme other : Lexeme) (line changed : Text) : Prop :=
  lexeme.Alike other ∧
    ∃ behind changedBehind, line = lexeme.text ++ behind ∧ changed = other.text ++ changedBehind ∧
      Sealed behind changedBehind

theorem cutAlike_of_eq
    {lexeme other : Lexeme} {line changed : Text}
    (sealed : Sealed line changed)
    (same : other = lexeme)
    (isFront : lexeme.text <+: line)
    (isChangedFront : other.text <+: changed) :
    lexeme.CutAlike other line changed := by
  subst same
  obtain ⟨behind, rfl⟩ := isFront
  obtain ⟨changedBehind, rfl⟩ := isChangedFront
  exact ⟨⟨rfl, .refl _, fun _ => rfl⟩, behind, changedBehind, rfl, rfl, sealed.behind⟩

theorem cutAlike_of_whole
    {kind : LexemeKind} {line changed : Text}
    (sealed : Sealed line changed)
    (noOperator : kind ≠ .operator) :
    (⟨kind, line⟩ : Lexeme).CutAlike ⟨kind, changed⟩ line changed :=
  ⟨⟨rfl, sealed, fun operator => absurd operator noOperator⟩, [], [],
    (List.append_nil _).symm, (List.append_nil _).symm, .nil⟩

end Lexeme

theorem isLineEnd_of_sealed
    {rest changed : Text}
    (sealed : Sealed rest changed) :
    isLineEnd changed = isLineEnd rest := by
  have feed := sealed.eq_iff (by simp [sealMarks] : ∀ c ∈ ['\n'], c ∉ sealMarks)
  have both := sealed.eq_iff (by simp [sealMarks] : ∀ c ∈ ['\r', '\n'], c ∉ sealMarks)
  have carriage := sealed.eq_iff (by simp [sealMarks] : ∀ c ∈ ['\r'], c ∉ sealMarks)
  unfold isLineEnd
  rw [Bool.eq_iff_iff]
  simp only [Bool.or_eq_true, beq_iff_eq, feed, both, carriage]

theorem isSuffixOf_of_sealed
    {ending line changed : Text}
    (noChange : ∀ c ∈ ending, c ∉ sealChars)
    (sealed : Sealed line changed) :
    ending <:+ changed ↔ ending <:+ line := by
  have noMark : ∀ c ∈ ending, c ∉ sealMarks :=
    fun c member mark => noChange c member (List.mem_append_left _ mark)
  have skips : ∀ (c : Char) (rest : Text), c ∈ sealChars →
      (ending <:+ c :: rest ↔ ending <:+ rest) := by
    intro c rest isChange
    rw [List.suffix_cons_iff]
    refine or_iff_right ?_
    rintro rfl
    exact noChange c List.mem_cons_self isChange
  induction sealed with
  | nil => rfl
  | @keep c text changed later inductionHypothesis =>
      have whole := (Sealed.keep c later).eq_iff noMark
      rw [List.suffix_cons_iff, List.suffix_cons_iff, @eq_comm _ ending, @eq_comm _ ending, whole]
      exact or_congr_right inductionHypothesis
  | comma _ inductionHypothesis =>
      rw [skips ',' _ (by decide), skips ':' _ (by decide)]
      exact inductionHypothesis
  | separator _ inductionHypothesis =>
      rw [skips ';' _ (by decide), skips ' ' _ (by decide), skips '-' _ (by decide),
        skips '>' _ (by decide)]
      exact inductionHypothesis

theorem endsInJoint_of_sealed
    {line changed : Text}
    (sealed : Sealed line changed) :
    endsInJoint changed = endsInJoint line := by
  have noChange : ∀ c ∈ ['\\', '\r', '\n'], c ∉ sealChars := by simp [sealChars, sealMarks]
  have feedNoChange : ∀ c ∈ ['\\', '\n'], c ∉ sealChars := by simp [sealChars, sealMarks]
  have feed := isSuffixOf_of_sealed feedNoChange sealed
  have both := isSuffixOf_of_sealed noChange sealed
  unfold endsInJoint
  rw [Bool.eq_iff_iff]
  simp only [Bool.or_eq_true, List.isSuffixOf_iff_suffix, feed, both]

namespace Lexeme

theorem ofQuote_of_sealed
    {letters rest changed : Text} {mark : Char}
    (isMark : isQuoteMark mark)
    (sealed : Sealed rest changed) :
    (ofQuote letters mark rest).CutAlike (ofQuote letters mark changed)
      (letters ++ mark :: rest) (letters ++ mark :: changed) := by
  have noMarks : ∀ c ∈ [mark, mark], c ∉ sealMarks := by
    intro c member sealMark
    obtain rfl : c = mark := by simpa using member
    exact notMem_sealChars_of_isQuoteMark isMark (List.mem_append_left _ sealMark)
  have sameQuote : Quote.opening mark changed = Quote.opening mark rest := by
    rw [Quote.opening, sealed.isPrefixOf_eq noMarks, Quote.opening]
  have whole : Sealed (letters ++ mark :: rest) (letters ++ mark :: changed) :=
    (Sealed.refl letters).append (.keep mark sealed)
  have opened : Sealed ((mark :: rest).drop (Quote.opening mark rest).text.length)
      ((mark :: changed).drop (Quote.opening mark rest).text.length) :=
    (Sealed.keep mark sealed).drop_of_isPrefix (Quote.text_opening_isPrefix mark rest)
      (sameQuote ▸ Quote.text_opening_isPrefix mark changed)
  unfold ofQuote
  dsimp only
  rw [sameQuote]
  cases closed : (Quote.opening mark rest).closed?
      ((mark :: rest).drop (Quote.opening mark rest).text.length) with
  | none =>
      rw [Quote.closed?_eq_none_of_sealed isMark opened closed]
      dsimp only
      rw [endsInJoint_of_sealed sealed]
      split
      · exact cutAlike_of_whole whole (by simp)
      · exact cutAlike_of_eq whole rfl ⟨rest, by simp⟩ ⟨changed, by simp⟩
  | some inside =>
      obtain ⟨changedInside, changedClosed, insideSealed, behindSealed⟩ :=
        Quote.exists_closed?_of_sealed isMark opened closed
      rw [changedClosed]
      refine ⟨⟨rfl, (Sealed.refl _).append insideSealed, fun operator => by cases operator⟩,
        _, _, ?_, ?_, behindSealed⟩
      · show letters ++ mark :: rest = letters ++ (Quote.opening mark rest).text ++ inside ++ _
        rw [List.append_assoc, List.append_assoc,
          ← List.prefix_append_drop (Quote.closed?_isPrefix closed),
          ← List.prefix_append_drop (Quote.text_opening_isPrefix mark rest)]
      · show letters ++ mark :: changed =
          letters ++ (Quote.opening mark rest).text ++ changedInside ++ _
        rw [List.append_assoc, List.append_assoc,
          ← List.prefix_append_drop (Quote.closed?_isPrefix changedClosed), ← sameQuote,
          ← List.prefix_append_drop (Quote.text_opening_isPrefix mark changed)]

/-- The lexeme that begins with a name, before what is behind the name. -/
def ofName (name : Text) : Text → Lexeme
  | [] => ⟨.name, name⟩
  | mark :: after =>
      if isQuoteMark mark && isStringLetters name then ofQuote name mark after else ⟨.name, name⟩

theorem ofName_of_sealed
    {behind changed : Text}
    (name : Text)
    (sealed : Sealed behind changed) :
    (ofName name behind).CutAlike (ofName name changed) (name ++ behind) (name ++ changed) := by
  have alone : (⟨.name, name⟩ : Lexeme).CutAlike ⟨.name, name⟩ (name ++ behind) (name ++ changed) :=
    cutAlike_of_eq ((Sealed.refl name).append sealed) rfl (List.prefix_append _ _)
      (List.prefix_append _ _)
  cases sealed with
  | nil => exact alone
  | comma => exact alone
  | separator => exact alone
  | keep mark later =>
      by_cases opens : (isQuoteMark mark && isStringLetters name) = true
      · have isMark : isQuoteMark mark := (Bool.and_eq_true _ _ ▸ opens).1
        rw [ofName, if_pos opens, ofName, if_pos opens]
        exact ofQuote_of_sealed isMark later
      · rw [ofName, if_neg opens, ofName, if_neg opens]
        exact alone

/-- Behind a character that is kept, a line and its sealed line begin alike. -/
theorem first_of_sealed
    {rest changed : Text}
    (c : Char)
    (sealed : Sealed rest changed) :
    (first c rest).CutAlike (first c changed) (c :: rest) (c :: changed) := by
  have line : Sealed (c :: rest) (c :: changed) := .keep c sealed
  have same : first c changed = first c rest →
      (first c rest).CutAlike (first c changed) (c :: rest) (c :: changed) := fun equal =>
    cutAlike_of_eq line equal (text_first_isPrefix c rest) (text_first_isPrefix c changed)
  by_cases margin : isMarginChar c
  · apply same
    simp [first, margin]
  by_cases comment : c = '#'
  · subst comment
    obtain ⟨inside, behind⟩ := sealed.takeWhile_dropWhile
      (by decide : sealChars.all (!isLineBreakChar ·))
    simp only [first, margin, if_true]
    refine ⟨⟨rfl, .keep '#' inside, fun operator => by cases operator⟩, _, _, ?_, ?_, behind⟩
    · exact congrArg ('#' :: ·) List.takeWhile_append_dropWhile.symm
    · exact congrArg ('#' :: ·) List.takeWhile_append_dropWhile.symm
  by_cases lineBreak : isLineBreakChar c
  · simp only [first, margin, comment, lineBreak, if_true, if_false]
    exact cutAlike_of_whole line (by simp)
  by_cases escape : c = '\\'
  · subst escape
    have sameEnd := isLineEnd_of_sealed sealed
    by_cases ends : isLineEnd rest
    · rw [ends] at sameEnd
      simp only [first, margin, comment, lineBreak, ends, sameEnd, if_true, if_false]
      exact cutAlike_of_whole line (by simp)
    · apply same
      simp [first, margin, lineBreak, ends, sameEnd]
  by_cases isMark : isQuoteMark c
  · have opened := @ofQuote_of_sealed [] rest changed c isMark sealed
    simp only [first, margin, comment, lineBreak, escape, isMark, if_true, if_false]
    exact opened
  have sameStart := startsNumber_of_sealed c sealed
  by_cases isNumber : startsNumber c rest
  · have sameNumber := numberLiteral_of_sealed line
    apply same
    simp [first, margin, comment, lineBreak, escape, isMark, isNumber, sameStart, sameNumber]
  by_cases isName : startsName c
  · have readsName : ∀ behind, startsNumber c behind = startsNumber c rest → first c behind =
        ofName (c :: behind.takeWhile continuesName) (behind.dropWhile continuesName) := by
      intro behind start
      simp only [first, margin, comment, lineBreak, escape, isMark, start, isNumber, isName]
      cases behind.dropWhile continuesName <;> rfl
    have stops : sealMarks.any continuesName = false := by decide +kernel
    have named := ofName_of_sealed (c :: rest.takeWhile continuesName) (sealed.dropWhile stops)
    have changedParts := List.takeWhile_append_dropWhile (p := continuesName) (l := changed)
    rw [sealed.takeWhile_eq stops] at changedParts
    rw [List.cons_append, List.cons_append, List.takeWhile_append_dropWhile, changedParts] at named
    rw [readsName rest rfl, readsName changed sameStart, sealed.takeWhile_eq stops]
    exact named
  · have sameOperator := operator?_of_sealed c sealed
    apply same
    simp [first, margin, comment, lineBreak, escape, isMark, isNumber, sameStart, isName,
      sameOperator]

end Lexeme

end Pipescript
