import Mathlib.Data.List.Find
import Mathlib.Tactic.SplitIfs
import Pipescript.Proofs.Gate.ScanStep
import Pipescript.Proofs.Scan.Cover
import Pipescript.Proofs.Text.WithReturns

/-!
# Lexemes of lines with carriage returns

A line that ends in a carriage return and a line feed is cut where one is cut that ends in a line
feed alone.  Numbers, names and operators end before both, a backslash joins both to the next line,
and neither character is one of a quote.
-/

namespace Pipescript

open Text

/-! ## Literals -/

theorem ne_lineBreak_of_isQuoteMark
    {mark : Char}
    (isMark : isQuoteMark mark) :
    mark ≠ '\r' ∧ mark ≠ '\n' ∧ mark ≠ '\\' := by
  simp only [isQuoteMark, Bool.or_eq_true, beq_iff_eq] at isMark
  rcases isMark with rfl | rfl <;> decide

namespace Quote

variable {quote : Quote} {mark : Char}

theorem opening_withReturns
    (isMark : isQuoteMark mark)
    (rest : Text) :
    opening mark rest.withReturns = opening mark rest := by
  obtain ⟨noReturn, noFeed, -⟩ := ne_lineBreak_of_isQuoteMark isMark
  unfold opening
  rw [isPrefixOf_withReturns (by simpa using noReturn.symm) (by simpa using noFeed.symm)]

theorem noBreak_text
    (isMark : isQuoteMark quote.mark) :
    '\r' ∉ quote.text ∧ '\n' ∉ quote.text := by
  obtain ⟨noReturn, noFeed, -⟩ := ne_lineBreak_of_isQuoteMark isMark
  unfold text
  split
  · simp [noReturn.symm, noFeed.symm]
  · simp [noReturn.symm, noFeed.symm]

/-- A quote is closed behind the same characters.  A backslash takes along the carriage return in
place of the line feed, and neither closes a quote. -/
theorem closed?_withReturns
    (isMark : isQuoteMark quote.mark)
    (text : Text) :
    quote.closed? text.withReturns = (quote.closed? text).map withReturns := by
  obtain ⟨noReturn, noFeed, notEscape⟩ := ne_lineBreak_of_isQuoteMark isMark
  obtain ⟨textNoReturn, textNoFeed⟩ := noBreak_text isMark
  have breakCloses : ∀ {c : Char} (rest : Text), c = '\r' ∨ c = '\n' →
      quote.closed? (c :: rest) = (quote.closed? rest).map (c :: ·) := by
    intro c rest isBreak
    have noPrefix : quote.text.isPrefixOf (c :: rest) = false := by
      unfold Quote.text
      split <;> rcases isBreak with rfl | rfl <;>
        simp [List.isPrefixOf_cons_cons, beq_eq_false_iff_ne.2 noReturn,
          beq_eq_false_iff_ne.2 noFeed]
    rw [closed?_cons (by rcases isBreak with rfl | rfl <;> decide), noPrefix]
    rfl
  induction size : text.length using Nat.strongRecOn generalizing text with
  | ind size inductionHypothesis =>
      cases text with
      | nil => rfl
      | cons c rest =>
          rw [List.length_cons] at size
          have behind := inductionHypothesis rest.length (by omega) rest rfl
          by_cases feed : c = '\n'
          · subst feed
            rw [withReturns_feed, breakCloses _ (.inl rfl), breakCloses _ (.inr rfl), behind,
              breakCloses _ (.inr rfl)]
            cases quote.closed? rest <;> rfl
          · rw [withReturns_cons feed]
            by_cases escape : c = '\\'
            · subst escape
              cases rest with
              | nil => simp [closed?]
              | cons next later =>
                  rw [List.length_cons] at size
                  have further := inductionHypothesis later.length (by omega) later rfl
                  by_cases nextFeed : next = '\n'
                  · subst nextFeed
                    rw [withReturns_feed, closed?, if_pos rfl, breakCloses _ (.inr rfl), further,
                      closed?, if_pos rfl]
                    cases quote.closed? later <;> rfl
                  · rw [withReturns_cons nextFeed, closed?, if_pos rfl, further, closed?, if_pos rfl]
                    cases quote.closed? later with
                    | none => rfl
                    | some inside =>
                        simp [withReturns_cons nextFeed, withReturns_cons (by decide : '\\' ≠ '\n')]
            · have sameQuote : quote.text.isPrefixOf (c :: withReturns rest) =
                  quote.text.isPrefixOf (c :: rest) := by
                rw [← withReturns_cons feed, isPrefixOf_withReturns textNoReturn textNoFeed]
              rw [closed?_cons escape, closed?_cons escape, sameQuote, behind]
              split
              · rw [Option.map_some, withReturns_of_noFeed textNoFeed]
              · cases quote.closed? rest with
                | none => rfl
                | some inside => simp [withReturns_cons feed]

end Quote

/-- A literal that its row closes has no line feed. -/
theorem Quote.noFeed_of_closed?
    {quote : Quote} {line inside : Text}
    (isMark : isQuoteMark quote.mark)
    (oneRow : line.IsOneRow)
    (closed : quote.closed? line = some inside) :
    '\n' ∉ inside := by
  obtain ⟨front, rfl⟩ := text_isSuffix_of_closed? closed
  obtain ⟨behind, rfl⟩ := closed?_isPrefix closed
  have frontNoFeed : '\n' ∉ front :=
    oneRow front (quote.text ++ behind) (List.append_assoc _ _ _) (by simp [text_ne_nil])
  exact fun feed => (List.mem_append.1 feed).elim frontNoFeed (noBreak_text isMark).2

theorem isLineEnd_withReturns
    {rest : Text}
    (noReturn : '\r' ∉ rest) :
    isLineEnd rest.withReturns = isLineEnd rest := by
  match rest with
  | [] => rfl
  | c :: later =>
      by_cases feed : c = '\n'
      · subst feed
        have ends : (withReturns later == []) = (later == []) := by
          rw [Bool.eq_iff_iff, beq_iff_eq, beq_iff_eq, withReturns_eq_nil_iff]
        simpa [isLineEnd] using ends
      · have notReturn : c ≠ '\r' := by
          rintro rfl
          exact noReturn List.mem_cons_self
        simp [isLineEnd, withReturns_cons feed, beq_eq_false_iff_ne.2 feed,
          beq_eq_false_iff_ne.2 notReturn]

theorem endsInJoint_withReturns
    {line : Text}
    (noReturn : '\r' ∉ line) :
    endsInJoint line.withReturns = endsInJoint line := by
  have lastOf : ∀ {behind : Text}, behind.withReturns = ['\r', '\n'] → behind = ['\n'] :=
    fun same => withReturns_injective same
  unfold endsInJoint
  rw [Bool.eq_iff_iff, Bool.or_eq_true, Bool.or_eq_true, List.isSuffixOf_iff_suffix,
    List.isSuffixOf_iff_suffix, List.isSuffixOf_iff_suffix, List.isSuffixOf_iff_suffix]
  constructor
  · rintro (⟨front, parts⟩ | ⟨front, parts⟩)
    · obtain ⟨before, after, rfl, rfl, ends⟩ :=
        exists_parts_of_withReturns (by decide) (by decide) parts.symm
      exact absurd (ends ▸ rfl) (head?_withReturns_ne_feed after)
    · obtain ⟨before, after, rfl, rfl, ends⟩ :=
        exists_parts_of_withReturns (by decide) (by decide) parts.symm
      obtain rfl := lastOf ends.symm
      exact .inl ⟨before, rfl⟩
  · rintro (⟨front, rfl⟩ | ⟨front, rfl⟩)
    · refine .inr ⟨withReturns front, ?_⟩
      rw [withReturns_append, withReturns_cons (by decide)]
      rfl
    · exact absurd (by simp) noReturn

/-! ## Numbers -/

theorem noFeed_of_numberChars
    {text : Text}
    (numberChars : ∀ c ∈ text, isNumberChar c) :
    '\n' ∉ text :=
  fun feed => Bool.eq_false_iff.1 (by decide +kernel : isNumberChar '\n' = false)
    (numberChars '\n' feed)

theorem decimalPart_withReturns (text : Text) : text.withReturns.decimalPart = text.decimalPart := by
  unfold decimalPart
  rw [takeWhile_withReturns (by decide) (by decide), dropWhile_withReturns (by decide) (by decide)]
  generalize text.dropWhile isDigitOrUnderscore = rest
  cases rest with
  | nil => rfl
  | cons c rest =>
      by_cases feed : c = '\n'
      · subst feed
        rfl
      · rw [withReturns_cons feed]
        by_cases point : c = '.'
        · subst point
          simp only [takeWhile_withReturns (by decide : isDigitOrUnderscore '\r' = false)
            (by decide : isDigitOrUnderscore '\n' = false)]
        · simp [point]

theorem exponentMark?_withReturns (text : Text) :
    text.withReturns.exponentMark? = text.exponentMark? := by
  cases text with
  | nil => rfl
  | cons mark rest =>
      by_cases feed : mark = '\n'
      · subst feed
        rfl
      · rw [withReturns_cons feed]
        cases rest with
        | nil => rfl
        | cons sign later =>
            by_cases signFeed : sign = '\n'
            · subst signFeed
              rfl
            · rw [withReturns_cons signFeed]
              rfl

theorem exponentPart_withReturns (text : Text) :
    exponentPart text.withReturns = exponentPart text := by
  unfold exponentPart
  rw [exponentMark?_withReturns]
  cases marked : text.exponentMark? with
  | none => rfl
  | some mark =>
      have noFeed := noFeed_of_numberChars fun c => @isNumberChar_of_mem_exponentMark? c text mark marked
      dsimp only
      rw [drop_withReturns noFeed (exponentMark?_isPrefix marked)]
      generalize text.drop mark.length = rest
      cases rest with
      | nil => rfl
      | cons digit rest =>
          by_cases feed : digit = '\n'
          · subst feed
            rfl
          · rw [withReturns_cons feed]
            simp only [takeWhile_withReturns (by decide : isDigitOrUnderscore '\r' = false)
              (by decide : isDigitOrUnderscore '\n' = false)]

theorem imaginaryMark_withReturns (text : Text) :
    text.withReturns.imaginaryMark = text.imaginaryMark := by
  cases text with
  | nil => rfl
  | cons c rest =>
      by_cases feed : c = '\n'
      · subst feed
        rfl
      · rw [withReturns_cons feed]
        rfl

/-- What is behind the mantissa and the exponent of a number. -/
theorem drop_decimal_withReturns (text : Text) :
    let exponent := exponentPart (text.drop text.decimalPart.length)
    text.withReturns.drop text.decimalPart.length =
        withReturns (text.drop text.decimalPart.length) ∧
      text.withReturns.drop (text.decimalPart.length + exponent.length) =
        withReturns (text.drop (text.decimalPart.length + exponent.length)) := by
  have behindMantissa := drop_withReturns
    (noFeed_of_numberChars fun c => @isNumberChar_of_mem_decimalPart c text) text.decimalPart_isPrefix
  refine ⟨behindMantissa, ?_⟩
  rw [← List.drop_drop, behindMantissa, ← List.drop_drop]
  exact drop_withReturns (noFeed_of_numberChars fun c => isNumberChar_of_mem_exponentPart)
    (exponentPart_isPrefix _)

theorem decimal_withReturns (text : Text) :
    numberLiteral.decimal text.withReturns = numberLiteral.decimal text := by
  obtain ⟨behindMantissa, behindExponent⟩ := drop_decimal_withReturns text
  unfold numberLiteral.decimal
  dsimp only
  rw [decimalPart_withReturns, behindMantissa, exponentPart_withReturns, behindExponent,
    imaginaryMark_withReturns]

/-- A line end announces no base. -/
theorem announced_withReturns
    {text : Text}
    (notAnnounced : ∀ mark rest, text = '0' :: mark :: rest → announcedBase? mark = none)
    {mark : Char} {rest : Text}
    (shape : text.withReturns = '0' :: mark :: rest) :
    announcedBase? mark = none := by
  obtain ⟨front, later, rfl, noFront, behind⟩ :=
    @exists_parts_of_withReturns _ [] _ _ (by decide) (by decide) shape
  obtain rfl := withReturns_eq_nil_iff.1 noFront.symm
  cases later with
  | nil => cases behind
  | cons next later =>
      by_cases feed : next = '\n'
      · subst feed
        obtain ⟨rfl, -⟩ := List.cons.inj behind
        rfl
      · rw [withReturns_cons feed] at behind
        obtain ⟨rfl, -⟩ := List.cons.inj behind
        exact notAnnounced mark later rfl

theorem numberLiteral_withReturns (text : Text) :
    numberLiteral text.withReturns = numberLiteral text := by
  by_cases announced : ∃ mark rest, text = '0' :: mark :: rest ∧ (announcedBase? mark).isSome
  · obtain ⟨mark, rest, rfl, isSome⟩ := announced
    have notFeed : mark ≠ '\n' := by
      rintro rfl
      cases isSome
    rw [withReturns_cons (by decide), withReturns_cons notFeed]
    simp only [numberLiteral, isSome, if_true]
    rw [takeWhile_withReturns (by decide) (by decide)]
  · have notAnnounced : ∀ mark rest, text = '0' :: mark :: rest → announcedBase? mark = none := by
      intro mark rest shape
      refine Option.not_isSome_iff_eq_none.1 fun isSome => ?_
      exact announced ⟨mark, rest, shape, isSome⟩
    rw [numberLiteral_of_notAnnounced fun mark rest => announced_withReturns notAnnounced,
      numberLiteral_of_notAnnounced notAnnounced, decimal_withReturns]

theorem noFeed_numberLiteral (text : Text) : '\n' ∉ numberLiteral text := by
  have decimal : '\n' ∉ numberLiteral.decimal text :=
    noFeed_of_numberChars fun c => isNumberChar_of_mem_decimal
  unfold numberLiteral
  split
  · next mark rest =>
      split
      · next announced =>
          obtain ⟨base, found⟩ := Option.isSome_iff_exists.1 announced
          have noMark : '\n' ≠ mark := by
            rintro rfl
            cases found
          simp only [List.mem_cons, not_or]
          exact ⟨by decide, noMark, noFeed_of_takeWhile (by decide) rest⟩
      · exact decimal
  · exact decimal

theorem startsNumber_withReturns (c : Char) (rest : Text) :
    startsNumber c rest.withReturns = startsNumber c rest := by
  unfold startsNumber
  rw [any_head?_withReturns (by decide) (by decide)]

theorem operator?_withReturns (text : Text) : operator? text.withReturns = operator? text := by
  have noBreak : ∀ listed ∈ operators, '\r' ∉ listed ∧ '\n' ∉ listed := by decide
  unfold operator?
  refine List.find?_congr fun listed member => ?_
  exact isPrefixOf_withReturns (noBreak listed member).1 (noBreak listed member).2 text

theorem noFeed_operator
    {text operator : Text}
    (found : operator? text = some operator) :
    '\n' ∉ operator := by
  have noFeed : ∀ listed ∈ operators, '\n' ∉ listed := by decide
  exact noFeed operator (List.mem_of_find?_eq_some found)

/-! ## Lexemes -/

namespace Lexeme

/-- A lexeme with carriage returns before the line feeds of its text. -/
def withReturns (lexeme : Lexeme) : Lexeme :=
  { lexeme with text := lexeme.text.withReturns }

theorem ofQuote_withReturns
    {letters rest : Text} {mark : Char}
    (lettersNoFeed : '\n' ∉ letters)
    (isMark : isQuoteMark mark)
    (noReturn : '\r' ∉ rest) :
    ofQuote letters mark rest.withReturns = (ofQuote letters mark rest).withReturns := by
  have notFeed := (ne_lineBreak_of_isQuoteMark isMark).2.1
  have quoteNoFeed : '\n' ∉ (Quote.opening mark rest).text :=
    (@Quote.noBreak_text (Quote.opening mark rest) isMark).2
  have sameLetters : letters.withReturns = letters := withReturns_of_noFeed lettersNoFeed
  have whole : Text.withReturns (mark :: rest) = mark :: rest.withReturns :=
    withReturns_cons notFeed rest
  unfold ofQuote
  dsimp only
  rw [Quote.opening_withReturns isMark, ← whole,
    drop_withReturns quoteNoFeed (Quote.text_opening_isPrefix mark rest),
    @Quote.closed?_withReturns (Quote.opening mark rest) isMark,
    endsInJoint_withReturns noReturn]
  generalize (Quote.opening mark rest).closed?
    ((mark :: rest).drop (Quote.opening mark rest).text.length) = closed
  cases closed with
  | some inside =>
      simp [Lexeme.withReturns, sameLetters, withReturns_of_noFeed quoteNoFeed]
  | none =>
      simp only [Option.map_none]
      split
      · simp [Lexeme.withReturns, sameLetters, whole]
      · simp [Lexeme.withReturns, sameLetters, withReturns_cons notFeed]

theorem first_withReturns
    {c : Char} {rest : Text}
    (notFeed : c ≠ '\n')
    (noReturn : '\r' ∉ c :: rest) :
    first c rest.withReturns = (first c rest).withReturns := by
  obtain ⟨notReturn, restNoReturn⟩ : ¬ '\r' = c ∧ '\r' ∉ rest := by simpa using noReturn
  have single : Text.withReturns [c] = [c] := withReturns_cons notFeed []
  have noBreak : isLineBreakChar c = false := by
    simp [isLineBreakChar, notFeed, Ne.symm notReturn]
  have stops : ∀ (p : Char → Bool) (text : Text), p '\n' = false →
      Text.withReturns (c :: text.takeWhile p) = c :: text.takeWhile p := by
    intro p text stopsAtFeed
    rw [withReturns_cons notFeed, withReturns_of_noFeed (noFeed_of_takeWhile stopsAtFeed text)]
  have noName : continuesName '\r' = false ∧ continuesName '\n' = false := by decide +kernel
  unfold first
  rw [isLineEnd_withReturns restNoReturn, startsNumber_withReturns,
    takeWhile_withReturns (by decide) (by decide), takeWhile_withReturns noName.1 noName.2,
    dropWhile_withReturns noName.1 noName.2, ← withReturns_cons notFeed, operator?_withReturns,
    numberLiteral_withReturns]
  by_cases margin : isMarginChar c
  · rw [if_pos margin, if_pos margin, Lexeme.withReturns, single]
  rw [if_neg margin, if_neg margin]
  by_cases comment : c = '#'
  · rw [if_pos comment, if_pos comment, Lexeme.withReturns, stops _ _ (by decide)]
  rw [if_neg comment, if_neg comment, noBreak, if_neg Bool.false_ne_true, if_neg Bool.false_ne_true]
  by_cases escape : c = '\\'
  · rw [if_pos escape, if_pos escape]
    by_cases ends : isLineEnd rest
    · rw [if_pos ends, if_pos ends, Lexeme.withReturns]
    · rw [if_neg ends, if_neg ends, Lexeme.withReturns, single]
  rw [if_neg escape, if_neg escape]
  by_cases isMark : isQuoteMark c
  · rw [if_pos isMark, if_pos isMark]
    exact ofQuote_withReturns List.not_mem_nil isMark restNoReturn
  rw [if_neg isMark, if_neg isMark]
  by_cases isNumber : startsNumber c rest
  · rw [if_pos isNumber, if_pos isNumber, Lexeme.withReturns,
      withReturns_of_noFeed (noFeed_numberLiteral _)]
  rw [if_neg isNumber, if_neg isNumber]
  by_cases isName : startsName c
  · rw [if_pos isName, if_pos isName]
    have word := stops continuesName rest noName.2
    have wordNoFeed : '\n' ∉ c :: rest.takeWhile continuesName := by
      simpa [Ne.symm notFeed] using noFeed_of_takeWhile noName.2 rest
    have afterNoReturn : '\r' ∉ rest.dropWhile continuesName := fun isReturn =>
      restNoReturn ((List.dropWhile_suffix continuesName).subset isReturn)
    cases behind : rest.dropWhile continuesName with
    | nil => rw [withReturns_nil, Lexeme.withReturns, word]
    | cons mark after =>
        rw [behind] at afterNoReturn
        by_cases feed : mark = '\n'
        · subst feed
          simp [isQuoteMark, Lexeme.withReturns, word]
        · rw [withReturns_cons feed]
          dsimp only
          split
          · next opens =>
              exact ofQuote_withReturns wordNoFeed (Bool.and_eq_true_iff.1 opens).1
                fun isReturn => afterNoReturn (List.mem_cons_of_mem _ isReturn)
          · rw [Lexeme.withReturns, word]
  · rw [if_neg isName, if_neg isName]
    cases found : operator? (c :: rest) with
    | none => rw [Lexeme.withReturns, single]
    | some operator =>
        rw [Lexeme.withReturns, withReturns_of_noFeed (noFeed_operator found)]

/-- Both forms of a text begin with the same lexeme. -/
theorem exists_first_withReturns
    {c : Char} {rest : Text}
    (noReturn : '\r' ∉ c :: rest) :
    ∃ d more, Text.withReturns (c :: rest) = d :: more ∧ first d more = (first c rest).withReturns := by
  by_cases feed : c = '\n'
  · subst feed
    exact ⟨'\r', '\n' :: rest.withReturns, rfl, rfl⟩
  · exact ⟨c, rest.withReturns, withReturns_cons feed rest, first_withReturns feed noReturn⟩

end Lexeme

theorem lexemes_withReturns
    {line : Text}
    (noReturn : '\r' ∉ line) :
    lexemes line.withReturns = (lexemes line).map Lexeme.withReturns := by
  induction line using lexemeInduction with
  | empty => rw [withReturns_nil, lexemes_nil, List.map_nil]
  | lexeme c rest behind parts cut inductionHypothesis =>
      obtain ⟨d, more, shape, first⟩ := Lexeme.exists_first_withReturns noReturn
      obtain ⟨moreBehind, moreParts, moreCut⟩ := exists_lexemes_cons d more
      have sameBehind : moreBehind = behind.withReturns := by
        rw [← shape, parts, withReturns_append, first] at moreParts
        exact (List.append_cancel_left moreParts).symm
      have behindNoReturn : '\r' ∉ behind := fun isReturn =>
        noReturn (parts ▸ List.mem_append_right _ isReturn)
      rw [shape, moreCut, first, sameBehind, inductionHypothesis behindNoReturn, cut, List.map_cons]

end Pipescript
