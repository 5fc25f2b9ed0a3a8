import Mathlib.Data.List.TakeWhile
import Pipescript.Gate.PieceText
import Pipescript.Proofs.Text.Ascii

/-!
# What a piece depends on

Which piece begins a text follows from the characters of the piece and the one character behind
them.  So two texts that go on differently have the same pieces up to where they part.  Behind
numbers, names and literals any character will do that could not belong to one.
-/

namespace Pipescript

/-- Whether any number, name or literal is over before a text. -/
def Text.EndsWord (text : Text) : Prop :=
  ∀ c, text.head? = some c → continuesName c = false ∧ c ≠ '.' ∧ isQuoteMark c = false

/-- Whether a word that ends before one text ends before another. -/
def Text.EndsAlike (other after : Text) : Prop :=
  other.head? = after.head? ∨ other.EndsWord

section Fronts

variable {front after other : Text}

theorem head?_append_of_sameNext
    (sameNext : other.head? = after.head?) :
    (front ++ other).head? = (front ++ after).head? := by
  cases front with
  | nil => exact sameNext
  | cons c front => rfl

theorem eq_cons_of_sameNext
    {c : Char} {rest : Text}
    (sameNext : (c :: rest).head? = after.head?) :
    ∃ behind, after = c :: behind := by
  cases after with
  | nil => simp at sameNext
  | cons d behind =>
      obtain rfl : c = d := by simpa using sameNext
      exact ⟨behind, rfl⟩

theorem exists_tail_of_cons_eq_append
    {c : Char} {rest : Text}
    (parts : c :: rest = front ++ after)
    (notEmpty : front ≠ []) :
    ∃ tail, front = c :: tail ∧ rest = tail ++ after := by
  obtain ⟨d, tail, rfl⟩ := List.exists_cons_of_ne_nil notEmpty
  obtain ⟨rfl, behind⟩ := List.cons.inj parts
  exact ⟨tail, rfl, behind⟩

theorem takeWhile_of_head?
    {p : Char → Bool}
    (taken : (front ++ after).takeWhile p = front)
    (stops : ∀ c, other.head? = some c → p c = false) :
    (front ++ other).takeWhile p = front := by
  induction front with
  | nil =>
      cases other with
      | nil => rfl
      | cons c rest => simp [stops c rfl]
  | cons c front inductionHypothesis =>
      cases holds : p c with
      | true =>
          simp only [List.cons_append, List.takeWhile_cons, holds, if_true, List.cons.injEq,
            true_and] at taken ⊢
          exact inductionHypothesis taken
      | false => simp [holds] at taken

theorem takeWhile_of_all
    {p : Char → Bool}
    (all : ∀ c ∈ front, p c)
    (stops : ∀ c, other.head? = some c → p c = false) :
    (front ++ other).takeWhile p = front := by
  have taken : (front ++ []).takeWhile p = front := by
    rw [List.append_nil]
    exact List.takeWhile_eq_self_iff.2 all
  exact takeWhile_of_head? taken stops

/-- Behind the characters that are taken comes one that is not. -/
theorem head?_of_takeWhile
    {p : Char → Bool} {c : Char}
    (taken : (front ++ after).takeWhile p = front)
    (next : after.head? = some c) :
    p c = false := by
  obtain ⟨behind, rfl⟩ : ∃ behind, after = c :: behind := @eq_cons_of_sameNext _ c [] next.symm
  induction front with
  | nil =>
      cases holds : p c with
      | true => simp [holds] at taken
      | false => rfl
  | cons d front inductionHypothesis =>
      cases holds : p d with
      | true =>
          simp only [List.cons_append, List.takeWhile_cons, holds, if_true, List.cons.injEq,
            true_and] at taken
          exact inductionHypothesis taken
      | false => simp [holds] at taken

theorem takeWhile_of_sameNext
    {p : Char → Bool}
    (taken : (front ++ after).takeWhile p = front)
    (sameNext : other.head? = after.head?) :
    (front ++ other).takeWhile p = front := by
  refine takeWhile_of_head? taken fun c next => ?_
  rw [sameNext] at next
  exact head?_of_takeWhile taken next

/-- Nothing that a name could go on with is taken from where a word ends. -/
theorem takeWhile_of_endsAlike
    {p : Char → Bool}
    (names : ∀ c, p c → continuesName c)
    (taken : (front ++ after).takeWhile p = front)
    (alike : other.EndsAlike after) :
    (front ++ other).takeWhile p = front := by
  rcases alike with sameNext | endsWord
  · exact takeWhile_of_sameNext taken sameNext
  · refine takeWhile_of_head? taken fun c next => Bool.eq_false_iff.2 fun holds => ?_
    exact Bool.eq_false_iff.1 (endsWord c next).1 (names c holds)

theorem endsAlike_append
    (alike : other.EndsAlike after) :
    Text.EndsAlike (front ++ other) (front ++ after) := by
  cases front with
  | nil => exact alike
  | cons c front => exact .inl rfl

theorem dropWhile_of_takeWhile
    {p : Char → Bool}
    (taken : (front ++ after).takeWhile p = front) :
    (front ++ after).dropWhile p = after := by
  have parts := List.takeWhile_append_dropWhile (p := p) (l := front ++ after)
  rw [taken] at parts
  exact List.append_cancel_left parts

end Fronts

/-! ## String literals -/

namespace Quote

theorem closed?_cons
    {quote : Quote} {c : Char}
    (notEscape : c ≠ '\\')
    (rest : Text) :
    quote.closed? (c :: rest) =
      if quote.text.isPrefixOf (c :: rest) then some quote.text
      else (quote.closed? rest).map (c :: ·) := by
  cases rest with
  | nil =>
      have opens : (quote.text.isPrefixOf [c] = true) = (quote.text = [c]) := by
        unfold text
        split <;> simp [List.isPrefixOf]
      simp only [closed?, notEscape, ne_eq, not_false_eq_true, true_and, opens]
      split
      · next same => rw [same]
      · rfl
  | cons next rest => rw [closed?, if_neg notEscape]

theorem text_isSuffix_of_closed?
    {quote : Quote} {rest inside : Text}
    (closed : quote.closed? rest = some inside) :
    quote.text <:+ inside := by
  fun_induction closed? quote rest generalizing inside with
  | case1 => simp at closed
  | case2 c condition =>
      obtain rfl : [c] = inside := by simpa using closed
      exact ⟨[], condition.2⟩
  | case3 => simp at closed
  | case4 next rest inductionHypothesis =>
      obtain ⟨before, found, rfl⟩ := Option.map_eq_some_iff.1 closed
      exact (inductionHypothesis found).trans
        ((List.suffix_cons _ _).trans (List.suffix_cons _ _))
  | case5 =>
      obtain rfl : quote.text = inside := by simpa using closed
      exact List.suffix_rfl
  | case6 c next rest escaped opens inductionHypothesis =>
      obtain ⟨before, found, rfl⟩ := Option.map_eq_some_iff.1 closed
      exact (inductionHypothesis found).trans (List.suffix_cons _ _)

/-- The closing quote itself closes a literal whatever follows. -/
theorem closed?_text_append
    {quote : Quote}
    (notEscape : quote.mark ≠ '\\')
    (other : Text) :
    quote.closed? (quote.text ++ other) = some quote.text := by
  obtain ⟨rest, shape⟩ : ∃ rest, quote.text = quote.mark :: rest := by
    unfold text
    split
    · exact ⟨_, rfl⟩
    · exact ⟨_, rfl⟩
  have front : quote.text ++ other = quote.mark :: (rest ++ other) := by
    rw [shape, List.cons_append]
  have opens : quote.text.isPrefixOf (quote.text ++ other) :=
    List.isPrefixOf_iff_prefix.2 (List.prefix_append _ _)
  rw [front, closed?_cons notEscape, ← front, if_pos opens]

/-- Where a literal closes does not depend on what follows it. -/
theorem closed?_append
    {quote : Quote} {inside after : Text}
    (notEscape : quote.mark ≠ '\\')
    (closed : quote.closed? (inside ++ after) = some inside)
    (other : Text) :
    quote.closed? (inside ++ other) = some inside := by
  generalize whole : inside ++ after = rest at closed
  fun_induction closed? quote rest generalizing inside with
  | case1 => simp at closed
  | case2 c condition =>
      obtain rfl : [c] = inside := by simpa using closed
      rw [← condition.2]
      exact closed?_text_append notEscape other
  | case3 => simp at closed
  | case4 next rest inductionHypothesis =>
      obtain ⟨before, found, rfl⟩ := Option.map_eq_some_iff.1 closed
      have parts : before ++ after = rest := by simpa using whole
      rw [List.cons_append, List.cons_append, closed?, if_pos rfl, inductionHypothesis parts found]
      rfl
  | case5 c next rest escaped opens =>
      obtain rfl : quote.text = inside := by simpa using closed
      exact closed?_text_append notEscape other
  | case6 c next rest escaped opens inductionHypothesis =>
      obtain ⟨before, found, rfl⟩ := Option.map_eq_some_iff.1 closed
      have parts : before ++ after = next :: rest := by simpa using whole
      -- The closing quote is in `before`, so whether the literal closes at once shows there.
      have closing : quote.text <:+ before := text_isSuffix_of_closed? found
      have stillOpen : ¬ quote.text.isPrefixOf (c :: (before ++ other)) := by
        intro opensOther
        have short : quote.text.length ≤ (c :: before).length :=
          Nat.le_succ_of_le closing.length_le
        have inBefore : quote.text <+: c :: before :=
          List.prefix_of_prefix_length_le (List.isPrefixOf_iff_prefix.1 opensOther)
            (List.prefix_append (c :: before) other) short
        refine opens (List.isPrefixOf_iff_prefix.2 ?_)
        rw [← parts, ← List.cons_append]
        exact inBefore.trans (List.prefix_append _ _)
      rw [List.cons_append, closed?_cons escaped, if_neg stillOpen, inductionHypothesis parts found]
      rfl

end Quote

section SingleQuote

variable {mark : Char}

theorem closedOnLine?_cons
    {c : Char}
    (notBreak : isLineBreakChar mark = false)
    (notEscape : c ≠ '\\')
    (rest : Text) :
    closedOnLine? mark (c :: rest) =
      if isLineBreakChar c then none
      else if c = mark then some [c]
      else (closedOnLine? mark rest).map (c :: ·) := by
  cases rest with
  | nil =>
      simp only [closedOnLine?, notEscape, ne_eq, not_false_eq_true, true_and]
      by_cases same : c = mark
      · simp [same, notBreak]
      · simp [same]
  | cons next rest => rw [closedOnLine?, if_neg notEscape]

theorem mark_isSuffix_of_closedOnLine?
    {rest inside : Text}
    (closed : closedOnLine? mark rest = some inside) :
    [mark] <:+ inside := by
  fun_induction closedOnLine? mark rest generalizing inside with
  | case1 => simp at closed
  | case2 c condition =>
      obtain rfl : [c] = inside := by simpa using closed
      obtain rfl : c = mark := condition.2
      exact List.suffix_rfl
  | case3 => simp at closed
  | case4 next rest inductionHypothesis =>
      obtain ⟨before, found, rfl⟩ := Option.map_eq_some_iff.1 closed
      exact (inductionHypothesis found).trans
        ((List.suffix_cons _ _).trans (List.suffix_cons _ _))
  | case5 => simp at closed
  | case6 =>
      obtain rfl : [mark] = inside := by simpa using closed
      exact List.suffix_rfl
  | case7 c next rest _ _ _ inductionHypothesis =>
      obtain ⟨before, found, rfl⟩ := Option.map_eq_some_iff.1 closed
      exact (inductionHypothesis found).trans (List.suffix_cons _ _)

theorem closedOnLine?_append
    {inside after : Text}
    (quoteMark : isQuoteMark mark)
    (closed : closedOnLine? mark (inside ++ after) = some inside)
    (other : Text) :
    closedOnLine? mark (inside ++ other) = some inside := by
  have notBreak : isLineBreakChar mark = false := by
    simp only [isQuoteMark, Bool.or_eq_true, beq_iff_eq] at quoteMark
    rcases quoteMark with rfl | rfl <;> rfl
  have notEscape : mark ≠ '\\' := by
    rintro rfl
    exact absurd quoteMark (by decide)
  generalize whole : inside ++ after = rest at closed
  fun_induction closedOnLine? mark rest generalizing inside with
  | case1 => simp at closed
  | case2 c condition =>
      obtain rfl : [c] = inside := by simpa using closed
      rw [List.singleton_append, condition.2, closedOnLine?_cons notBreak notEscape]
      simp [notBreak]
  | case3 => simp at closed
  | case4 next rest inductionHypothesis =>
      obtain ⟨before, found, rfl⟩ := Option.map_eq_some_iff.1 closed
      have parts : before ++ after = rest := by simpa using whole
      rw [List.cons_append, List.cons_append, closedOnLine?, if_pos rfl,
        inductionHypothesis parts found]
      rfl
  | case5 => simp at closed
  | case6 =>
      obtain rfl : [mark] = inside := by simpa using closed
      rw [List.singleton_append, closedOnLine?_cons notBreak notEscape]
      simp [notBreak]
  | case7 c next rest escaped noBreak different inductionHypothesis =>
      obtain ⟨before, found, rfl⟩ := Option.map_eq_some_iff.1 closed
      have parts : before ++ after = next :: rest := by simpa using whole
      rw [List.cons_append, closedOnLine?_cons notBreak escaped, if_neg noBreak, if_neg different,
        inductionHypothesis parts found]
      rfl

/-- Two marks in a row open a triple quote only if a third one follows them. -/
theorem not_isPrefixOf_of_endsAlike
    {inside after other : Text}
    (quoteMark : isQuoteMark mark)
    (closing : [mark] <:+ inside)
    (alike : other.EndsAlike after)
    (noTriple : [mark, mark].isPrefixOf (inside ++ after) = false) :
    [mark, mark].isPrefixOf (inside ++ other) = false := by
  match inside with
  | [] => simp at closing
  | [c] =>
      cases other with
      | nil => simp [List.isPrefixOf]
      | cons d other =>
          rcases alike with sameNext | endsWord
          · obtain ⟨rest, rfl⟩ := eq_cons_of_sameNext sameNext
            simpa [List.isPrefixOf] using noTriple
          · have different : (mark == d) = false := by
              refine beq_eq_false_iff_ne.2 ?_
              rintro rfl
              exact absurd quoteMark (by simp [(endsWord mark rfl).2.2])
            simp [List.isPrefixOf, different]
  | c :: d :: inside => simpa [List.isPrefixOf] using noTriple

end SingleQuote

namespace GatePiece

/-- A string literal depends only on its own text and on the character behind it. -/
theorem ofQuote_of_endsAlike
    {letters rest after other : Text} {mark : Char} {piece : GatePiece}
    (quoteMark : isQuoteMark mark)
    (found : ofQuote letters mark rest = some piece)
    (parts : letters ++ mark :: rest = piece.text ++ after)
    (alike : other.EndsAlike after) :
    ∃ otherRest,
      letters ++ mark :: otherRest = piece.text ++ other ∧
        ofQuote letters mark otherRest = some piece := by
  have notEscape : mark ≠ '\\' := by
    rintro rfl
    exact absurd quoteMark (by decide)
  obtain ⟨inside, closed, rfl⟩ := Option.map_eq_some_iff.1 found
  cases triple : [mark, mark].isPrefixOf rest with
  | true =>
      have quote : Quote.opening mark rest = ⟨mark, true⟩ := by rw [Quote.opening, triple]
      obtain ⟨deeper, rfl⟩ := List.isPrefixOf_iff_prefix.1 triple
      rw [quote] at closed parts ⊢
      have split : deeper = inside ++ after := by
        simpa [text, Quote.text] using parts
      refine ⟨[mark, mark] ++ (inside ++ other), by simp [text, Quote.text], ?_⟩
      have otherTriple : [mark, mark].isPrefixOf ([mark, mark] ++ (inside ++ other)) = true :=
        List.isPrefixOf_iff_prefix.2 (List.prefix_append _ _)
      have otherQuote : Quote.opening mark ([mark, mark] ++ (inside ++ other)) = ⟨mark, true⟩ := by
        rw [Quote.opening, otherTriple]
      have closedHere : Quote.closed? ⟨mark, true⟩ (inside ++ after) = some inside := by
        rw [← split]
        exact closed
      unfold ofQuote
      rw [otherQuote]
      exact Option.map_eq_some_iff.2
        ⟨inside, Quote.closed?_append notEscape closedHere other, rfl⟩
  | false =>
      have quote : Quote.opening mark rest = ⟨mark, false⟩ := by rw [Quote.opening, triple]
      rw [quote] at closed parts ⊢
      have split : rest = inside ++ after := by
        simpa [text, Quote.text] using parts
      refine ⟨inside ++ other, by simp [text, Quote.text], ?_⟩
      have closedHere : closedOnLine? mark (inside ++ after) = some inside := by
        rw [← split]
        exact closed
      have otherTriple : [mark, mark].isPrefixOf (inside ++ other) = false := by
        refine not_isPrefixOf_of_endsAlike quoteMark (mark_isSuffix_of_closedOnLine? closedHere)
          alike ?_
        rw [← split]
        exact triple
      have otherQuote : Quote.opening mark (inside ++ other) = ⟨mark, false⟩ := by
        rw [Quote.opening, otherTriple]
      unfold ofQuote
      rw [otherQuote]
      exact Option.map_eq_some_iff.2
        ⟨inside, closedOnLine?_append quoteMark closedHere other, rfl⟩

end GatePiece

/-! ## Number literals -/

theorem decimalPart_append_point
    {whole : Text}
    (digits : ∀ c ∈ whole, isDigitOrUnderscore c)
    (rest : Text) :
    Text.decimalPart (whole ++ '.' :: rest) =
      whole ++ '.' :: rest.takeWhile isDigitOrUnderscore := by
  have taken : (whole ++ '.' :: rest).takeWhile isDigitOrUnderscore = whole := by
    rw [List.takeWhile_append_of_pos digits]
    simp [isDigitOrUnderscore]
  unfold Text.decimalPart
  rw [dropWhile_of_takeWhile taken, taken]
  rfl

theorem decimalPart_append_noPoint
    {whole rest : Text}
    (taken : (whole ++ rest).takeWhile isDigitOrUnderscore = whole)
    (noPoint : rest.head? ≠ some '.') :
    Text.decimalPart (whole ++ rest) = whole := by
  unfold Text.decimalPart
  rw [dropWhile_of_takeWhile taken, taken]
  split
  · exact absurd rfl noPoint
  · rfl

theorem decimalPart_of_endsAlike
    {mantissa after other : Text}
    (found : (mantissa ++ after).decimalPart = mantissa)
    (alike : other.EndsAlike after) :
    (mantissa ++ other).decimalPart = mantissa := by
  obtain ⟨whole, rest, digits, taken, parts⟩ : ∃ whole rest : Text,
      (∀ c ∈ whole, isDigitOrUnderscore c) ∧
        (whole ++ rest).takeWhile isDigitOrUnderscore = whole ∧
        mantissa ++ after = whole ++ rest := by
    refine ⟨(mantissa ++ after).takeWhile isDigitOrUnderscore,
      (mantissa ++ after).dropWhile isDigitOrUnderscore,
      fun c member => List.mem_takeWhile_imp member, ?_, ?_⟩
    · rw [List.takeWhile_append_dropWhile]
    · rw [List.takeWhile_append_dropWhile]
  by_cases point : ∃ fraction, rest = '.' :: fraction
  · obtain ⟨fraction, rfl⟩ := point
    rw [parts, decimalPart_append_point digits] at found
    subst found
    have behind : fraction = fraction.takeWhile isDigitOrUnderscore ++ after := by
      simpa using parts.symm
    have takenFraction :
        (fraction.takeWhile isDigitOrUnderscore ++ other).takeWhile isDigitOrUnderscore =
          fraction.takeWhile isDigitOrUnderscore :=
      takeWhile_of_endsAlike @continuesName_of_isDigitOrUnderscore (by rw [← behind]) alike
    rw [List.append_assoc, List.cons_append, decimalPart_append_point digits, takenFraction]
  · have noPoint : rest.head? ≠ some '.' := by
      intro starts
      cases rest with
      | nil => simp at starts
      | cons c fraction =>
          obtain rfl : c = '.' := by simpa using starts
          exact point ⟨fraction, rfl⟩
    rw [parts, decimalPart_append_noPoint taken noPoint] at found
    subst found
    obtain rfl : after = rest := List.append_cancel_left parts
    have otherNoPoint : other.head? ≠ some '.' := by
      rcases alike with sameNext | endsWord
      · rwa [sameNext]
      · exact fun point => (endsWord '.' point).2.1 rfl
    exact decimalPart_append_noPoint
      (takeWhile_of_endsAlike @continuesName_of_isDigitOrUnderscore taken alike) otherNoPoint

theorem exponentMark?_eq_none_iff {text : Text} :
    text.exponentMark? = none ↔ text.head? ≠ some 'e' ∧ text.head? ≠ some 'E' := by
  cases text with
  | nil => simp [Text.exponentMark?]
  | cons mark rest =>
      by_cases isMark : (mark == 'e' || mark == 'E') = true
      · have isSome : (Text.exponentMark? (mark :: rest)).isSome := by
          cases rest with
          | nil => simp [Text.exponentMark?, isMark]
          | cons sign rest =>
              simp only [Text.exponentMark?, isMark, if_true]
              split <;> rfl
        obtain ⟨found, marked⟩ := Option.isSome_iff_exists.1 isSome
        rw [marked]
        simp only [Bool.or_eq_true, beq_iff_eq] at isMark
        rcases isMark with rfl | rfl <;> simp
      · have different : mark ≠ 'e' ∧ mark ≠ 'E' := by simpa using isMark
        simp [Text.exponentMark?, different]

theorem exponentMark?_append_cons
    {mark : Text}
    (notEmpty : mark ≠ [])
    (digit : Char)
    (rest other : Text) :
    Text.exponentMark? (mark ++ digit :: rest) = Text.exponentMark? (mark ++ digit :: other) := by
  match mark with
  | [] => exact absurd rfl notEmpty
  | [m] => rfl
  | m :: sign :: mark => rfl

theorem exponentMark?_ne_nil
    {text mark : Text}
    (marked : text.exponentMark? = some mark) :
    mark ≠ [] := by
  rintro rfl
  unfold Text.exponentMark? at marked
  split at marked
  · split at marked
    · split at marked
      · split at marked <;> simp at marked
      · simp at marked
    · simp at marked
  · simp at marked

/-- No exponent begins where a word ends. -/
theorem exponentMark?_of_endsAlike
    {after other : Text}
    (unmarked : after.exponentMark? = none)
    (alike : other.EndsAlike after) :
    other.exponentMark? = none := by
  rw [exponentMark?_eq_none_iff] at unmarked ⊢
  rcases alike with sameNext | endsWord
  · rwa [sameNext]
  · exact ⟨fun mark => absurd (endsWord 'e' mark).1 (by decide +kernel),
      fun mark => absurd (endsWord 'E' mark).1 (by decide +kernel)⟩

theorem exponentPart_of_endsAlike
    {exponent after other : Text}
    (found : exponentPart (exponent ++ after) = exponent)
    (noStrayMark : exponent = [] → after.exponentMark? = none)
    (alike : other.EndsAlike after) :
    exponentPart (exponent ++ other) = exponent := by
  cases marked : (exponent ++ after).exponentMark? with
  | none =>
      obtain rfl : exponent = [] := by
        rw [← found, exponentPart, marked]
      rw [List.nil_append, exponentPart, exponentMark?_of_endsAlike marked alike]
  | some mark =>
      have notEmpty : exponent ≠ [] := by
        rintro rfl
        rw [List.nil_append, noStrayMark rfl] at marked
        simp at marked
      obtain ⟨behind, parts⟩ := Text.exponentMark?_isPrefix marked
      have shape := found
      rw [exponentPart, marked, ← parts] at shape
      dsimp only at shape
      rw [List.drop_left] at shape
      split at shape
      · next digit digits =>
          split at shape
          · next isDigit =>
              subst shape
              have behindDigits : digits = digits.takeWhile isDigitOrUnderscore ++ after := by
                simpa using parts
              have taken :
                  (digits.takeWhile isDigitOrUnderscore ++ other).takeWhile isDigitOrUnderscore =
                    digits.takeWhile isDigitOrUnderscore :=
                takeWhile_of_endsAlike @continuesName_of_isDigitOrUnderscore
                  (by rw [← behindDigits]) alike
              rw [← parts, exponentMark?_append_cons (exponentMark?_ne_nil marked) digit _
                (digits.takeWhile isDigitOrUnderscore ++ other)] at marked
              rw [List.append_assoc, List.cons_append, exponentPart, marked]
              simp [isDigit, taken]
          · exact absurd shape.symm notEmpty
      · exact absurd shape.symm notEmpty

theorem imaginaryMark_of_endsAlike
    {suffix after other : Text}
    (found : (suffix ++ after).imaginaryMark = suffix)
    (alike : other.EndsAlike after) :
    (suffix ++ other).imaginaryMark = suffix := by
  have depends : ∀ {left right : Text}, left.head? = right.head? →
      left.imaginaryMark = right.imaginaryMark := by
    intro left right sameHead
    cases left with
    | nil =>
        cases right with
        | nil => rfl
        | cons d right => simp at sameHead
    | cons c left =>
        obtain ⟨right, rfl⟩ := eq_cons_of_sameNext sameHead
        rfl
  cases suffix with
  | nil =>
      rcases alike with sameNext | endsWord
      · exact (depends sameNext).trans found
      · cases other with
        | nil => rfl
        | cons c rest =>
            have noMark : (c == 'j' || c == 'J') = false := by
              refine Bool.eq_false_iff.2 fun isMark => ?_
              simp only [Bool.or_eq_true, beq_iff_eq] at isMark
              rcases isMark with rfl | rfl
              · exact absurd (endsWord 'j' rfl).1 (by decide +kernel)
              · exact absurd (endsWord 'J' rfl).1 (by decide +kernel)
            simp [Text.imaginaryMark, noMark]
  | cons mark suffix => exact (depends rfl).trans found

namespace GatePiece

namespace ofNumber

theorem bounded_append
    (literal rest : Text) :
    bounded (literal ++ rest) literal =
      if rest.head?.any continuesName then .error .badNumber else .ok (number literal) := by
  rw [bounded, List.drop_left]

theorem decimal_append
    {mantissa exponent suffix rest : Text}
    (mantissaFound : (mantissa ++ (exponent ++ (suffix ++ rest))).decimalPart = mantissa)
    (exponentFound : exponentPart (exponent ++ (suffix ++ rest)) = exponent)
    (suffixFound : (suffix ++ rest).imaginaryMark = suffix) :
    decimal (mantissa ++ (exponent ++ (suffix ++ rest))) =
      if exponent.isEmpty && (exponent ++ (suffix ++ rest)).exponentMark?.isSome then
        .error .badExponent
      else if rest.head?.any continuesName then .error .badNumber
      else .ok (number (mantissa ++ exponent ++ suffix)) := by
  have behind : (mantissa ++ (exponent ++ (suffix ++ rest))).drop
      (mantissa.length + exponent.length) = suffix ++ rest := by
    rw [← List.drop_drop, List.drop_left, List.drop_left]
  have whole : mantissa ++ (exponent ++ (suffix ++ rest)) =
      mantissa ++ exponent ++ suffix ++ rest := by
    simp only [List.append_assoc]
  unfold decimal
  dsimp only
  rw [mantissaFound, List.drop_left, exponentFound, behind, suffixFound, whole, bounded_append]

/-- Every text is its decimal literal, mantissa, exponent and imaginary mark, and a rest. -/
theorem exists_decimalParts (text : Text) :
    ∃ mantissa exponent suffix rest, text = mantissa ++ (exponent ++ (suffix ++ rest)) ∧
      text.decimalPart = mantissa ∧
      exponentPart (exponent ++ (suffix ++ rest)) = exponent ∧
      (suffix ++ rest).imaginaryMark = suffix := by
  obtain ⟨behindMantissa, mantissaParts⟩ := text.decimalPart_isPrefix
  obtain ⟨behindExponent, exponentParts⟩ := exponentPart_isPrefix behindMantissa
  obtain ⟨rest, suffixParts⟩ := Text.imaginaryMark_isPrefix behindExponent
  refine ⟨_, exponentPart behindMantissa, Text.imaginaryMark behindExponent, rest, ?_, rfl, ?_, ?_⟩
  · rw [suffixParts, exponentParts, mantissaParts]
  · rw [suffixParts, exponentParts]
  · rw [suffixParts]

/-- No name goes on where a word ends. -/
theorem bounded_of_endsAlike
    {after other : Text}
    (bounded : ¬ after.head?.any continuesName = true)
    (alike : other.EndsAlike after) :
    ¬ other.head?.any continuesName = true := by
  rcases alike with sameNext | endsWord
  · rwa [sameNext]
  · intro continued
    obtain ⟨c, next, continues⟩ := (Option.any_eq_true _ _).1 continued
    exact Bool.eq_false_iff.1 (endsWord c next).1 continues

theorem decimal_of_endsAlike
    {literal after other : Text}
    (found : decimal (literal ++ after) = .ok (number literal))
    (alike : other.EndsAlike after) :
    decimal (literal ++ other) = .ok (number literal) := by
  obtain ⟨mantissa, exponent, suffix, rest, parts, mantissaFound, exponentFound, suffixFound⟩ :=
    exists_decimalParts (literal ++ after)
  rw [parts] at mantissaFound found
  rw [decimal_append mantissaFound exponentFound suffixFound] at found
  split at found
  · simp at found
  next noStray =>
  split at found
  · simp at found
  next bounded =>
  obtain rfl : mantissa ++ exponent ++ suffix = literal := by simpa using found
  obtain rfl : after = rest := by simpa using parts
  have noStrayMark : exponent = [] → (suffix ++ after).exponentMark? = none := by
    rintro rfl
    simpa using noStray
  have alikeBehindExponent : Text.EndsAlike (suffix ++ other) (suffix ++ after) :=
    endsAlike_append alike
  have otherMantissa := decimalPart_of_endsAlike mantissaFound
    (@endsAlike_append exponent _ _ alikeBehindExponent)
  have otherExponent := exponentPart_of_endsAlike exponentFound noStrayMark alikeBehindExponent
  have otherSuffix := imaginaryMark_of_endsAlike suffixFound alike
  have otherStray :
      ¬ (exponent.isEmpty && (exponent ++ (suffix ++ other)).exponentMark?.isSome) = true := by
    cases exponent with
    | nil => simp [exponentMark?_of_endsAlike (noStrayMark rfl) alikeBehindExponent]
    | cons mark exponent => simp
  rw [List.append_assoc, List.append_assoc,
    decimal_append otherMantissa otherExponent otherSuffix, if_neg otherStray,
    if_neg (bounded_of_endsAlike bounded alike)]

end ofNumber

theorem ofNumber_of_announced
    {mark : Char} {base : Nat}
    (announced : announcedBase? mark = some base)
    (digits rest : Text)
    (taken : (digits ++ rest).takeWhile (fun c => isDigitOf base c || c == '_') = digits) :
    ofNumber ('0' :: mark :: (digits ++ rest)) =
      if digits.isEmpty then .error .badNumber
      else if rest.head?.any continuesName then .error .badNumber
      else .ok (number ('0' :: mark :: digits)) := by
  unfold ofNumber
  simp only [announced, taken]
  rw [← ofNumber.bounded_append]
  rfl

theorem ofNumber_of_notAnnounced
    {text : Text}
    (notAnnounced : ∀ mark rest, text = '0' :: mark :: rest → announcedBase? mark = none) :
    ofNumber text = ofNumber.decimal text := by
  unfold ofNumber
  split
  · next mark rest => rw [notAnnounced mark rest rfl]
  · rfl

theorem announcedBase?_of_noName
    {mark : Char}
    (noName : continuesName mark = false) :
    announcedBase? mark = none := by
  have noLetter : ∀ letter, continuesName letter = true → (mark == letter) = false := by
    intro letter names
    refine beq_eq_false_iff_ne.2 ?_
    rintro rfl
    exact Bool.eq_false_iff.1 noName names
  rw [announcedBase?, noLetter 'x' (by decide +kernel), noLetter 'X' (by decide +kernel),
    noLetter 'o' (by decide +kernel), noLetter 'O' (by decide +kernel),
    noLetter 'b' (by decide +kernel), noLetter 'B' (by decide +kernel)]
  rfl

/-- A number literal depends only on its own text and on the character behind it. -/
theorem ofNumber_of_endsAlike
    {c : Char} {tail after other : Text} {piece : GatePiece}
    (found : ofNumber (c :: tail ++ after) = .ok piece)
    (shape : piece.text = c :: tail)
    (alike : other.EndsAlike after) :
    ofNumber (c :: tail ++ other) = .ok piece := by
  by_cases announced : ∃ mark rest base,
      c :: tail ++ after = '0' :: mark :: rest ∧ announcedBase? mark = some base
  · obtain ⟨mark, rest, base, parts, announcedBase⟩ := announced
    have continuesName_of_digit : ∀ c, (isDigitOf base c || c == '_') = true →
        continuesName c := by
      intro c digit
      simp only [Bool.or_eq_true, beq_iff_eq] at digit
      rcases digit with digit | rfl
      · exact continuesName_of_isAlphanum (isAlphanum_of_isDigitOf digit)
      · decide +kernel
    have digitParts := List.takeWhile_append_dropWhile
      (p := fun c => isDigitOf base c || c == '_') (l := rest)
    generalize digitsFound : rest.takeWhile (fun c => isDigitOf base c || c == '_') = digits
      at digitParts
    rw [← digitParts] at digitsFound
    rw [parts, ← digitParts, ofNumber_of_announced announcedBase _ _ digitsFound] at found
    split at found
    · simp at found
    next notEmpty =>
    split at found
    · simp at found
    next bounded =>
    obtain rfl := Except.ok.inj found
    have literal : c :: tail = '0' :: mark :: digits := shape.symm
    obtain rfl : after = rest.dropWhile (fun c => isDigitOf base c || c == '_') := by
      rw [literal, ← digitParts] at parts
      simpa using parts
    rw [literal]
    show ofNumber ('0' :: mark :: (digits ++ other)) = _
    rw [ofNumber_of_announced announcedBase _ _
        (takeWhile_of_endsAlike continuesName_of_digit digitsFound alike),
      if_neg notEmpty, if_neg (ofNumber.bounded_of_endsAlike bounded alike)]
  · have notAnnounced : ∀ mark rest, c :: tail ++ after = '0' :: mark :: rest →
        announcedBase? mark = none := by
      intro mark rest parts
      cases announcedBase : announcedBase? mark with
      | none => rfl
      | some base => exact absurd ⟨mark, rest, base, parts, announcedBase⟩ announced
    have otherNotAnnounced : ∀ mark rest, c :: tail ++ other = '0' :: mark :: rest →
        announcedBase? mark = none := by
      intro mark rest parts
      obtain ⟨rfl, tailParts⟩ := List.cons.inj parts
      have second : (tail ++ other).head? = some mark := congrArg List.head? tailParts
      rcases @endsAlike_append tail _ _ alike with sameSecond | endsWord
      · rw [sameSecond] at second
        obtain ⟨behind, shown⟩ : ∃ behind, tail ++ after = mark :: behind :=
          @eq_cons_of_sameNext _ mark [] second.symm
        exact notAnnounced mark behind (congrArg ('0' :: ·) shown)
      · exact announcedBase?_of_noName (endsWord mark second).1
    rw [ofNumber_of_notAnnounced notAnnounced] at found
    rw [ofNumber_of_notAnnounced otherNotAnnounced]
    have isDecimal := ofNumber.decimal_eq_ok found
    rw [isDecimal] at shape found ⊢
    have literal : numberLiteral.decimal (c :: tail ++ after) = c :: tail := shape
    rw [literal] at found ⊢
    exact ofNumber.decimal_of_endsAlike found alike

theorem number_of_ofNumber
    {source : Text} {piece : GatePiece}
    (found : ofNumber source = .ok piece) :
    piece = number piece.text := by
  unfold ofNumber at found
  split at found
  · split at found
    · dsimp only at found
      split at found
      · simp at found
      · rw [ofNumber.bounded_eq_ok found]
        rfl
    · rw [ofNumber.decimal_eq_ok found]
      rfl
  · rw [ofNumber.decimal_eq_ok found]
    rfl

theorem string_of_ofQuote
    {letters rest : Text} {mark : Char} {piece : GatePiece}
    (found : ofQuote letters mark rest = some piece) :
    piece = string piece.text := by
  obtain ⟨inside, _, rfl⟩ := Option.map_eq_some_iff.1 found
  rfl

theorem continuesName_of_isQuoteMark
    {mark : Char}
    (quotes : isQuoteMark mark) :
    continuesName mark = false := by
  simp only [isQuoteMark, Bool.or_eq_true, beq_iff_eq] at quotes
  rcases quotes with rfl | rfl <;> decide +kernel

/-- Operators have at most two characters. -/
theorem operator_of_sameHead
    {c : Char} {left right : Text}
    (sameHead : left.head? = right.head?) :
    GateOperator.first? (c :: left) = GateOperator.first? (c :: right) := by
  have samePrefix : ∀ operator : GateOperator,
      operator.text.isPrefixOf (c :: left) = operator.text.isPrefixOf (c :: right) := by
    intro operator
    cases left with
    | nil =>
        obtain rfl : right = [] := by simpa using sameHead.symm
        rfl
    | cons d left =>
        obtain ⟨right, rfl⟩ := eq_cons_of_sameNext sameHead
        cases operator <;> simp [GateOperator.text, List.isPrefixOf]
  unfold GateOperator.first?
  exact congrArg (List.find? · GateOperator.all) (funext samePrefix)

theorem startsNumber_of_isQuoteMark
    {mark : Char}
    (quotes : isQuoteMark mark)
    (rest : Text) :
    startsNumber mark rest = false := by
  simp only [isQuoteMark, Bool.or_eq_true, beq_iff_eq] at quotes
  rcases quotes with rfl | rfl <;> rfl

theorem startsNumber_of_sameHead
    {c : Char} {left right : Text}
    (sameHead : left.head? = right.head?) :
    startsNumber c left = startsNumber c right := by
  rw [startsNumber, sameHead, startsNumber]

theorem startsNumber_of_endsAlike
    {c : Char} {after other : Text}
    (noNumber : startsNumber c after = false)
    (alike : other.EndsAlike after) :
    startsNumber c other = false := by
  rcases alike with sameHead | endsWord
  · rwa [startsNumber_of_sameHead sameHead]
  · rw [startsNumber, Bool.or_eq_false_iff] at noNumber ⊢
    have noDigit : other.head?.any Char.isDigit = false := by
      refine Bool.eq_false_iff.2 fun starts => ?_
      obtain ⟨digit, next, isDigit⟩ := (Option.any_eq_true _ _).1 starts
      exact Bool.eq_false_iff.1 (endsWord digit next).1
        (continuesName_of_isAlphanum (isAlphanum_of_isDigit isDigit))
    rw [noDigit, Bool.and_false]
    exact ⟨noNumber.1, rfl⟩

theorem IsBare.of_endsAlike
    {c : Char} {after other : Text}
    (bare : IsBare c after)
    (alike : other.EndsAlike after) :
    IsBare c other :=
  { bare with noNumber := startsNumber_of_endsAlike bare.noNumber alike }

/-- A number that starts with a point has a digit behind it. -/
theorem startsNumber_of_ofNumber
    {c : Char} {tail after other : Text} {piece : GatePiece}
    (counts : startsNumber c (tail ++ after))
    (counted : ofNumber (c :: tail ++ after) = .ok piece)
    (shape : piece.text = c :: tail) :
    startsNumber c (tail ++ other) := by
  cases tail with
  | cons d tail =>
      rw [startsNumber_of_sameHead (head?_append_of_sameNext rfl)] at counts ⊢
      exact counts
  | nil =>
      rw [startsNumber, Bool.or_eq_true] at counts ⊢
      refine .inl (counts.resolve_right fun pointed => ?_)
      simp only [Bool.and_eq_true, beq_iff_eq, List.nil_append] at pointed
      obtain ⟨rfl, starts⟩ := pointed
      obtain ⟨digit, next, isDigit⟩ := (Option.any_eq_true _ _).1 starts
      obtain ⟨behind, rfl⟩ : ∃ behind, after = digit :: behind :=
        @eq_cons_of_sameNext _ digit [] next.symm
      have isDecimal : piece = number (numberLiteral.decimal ('.' :: digit :: behind)) :=
        ofNumber.decimal_eq_ok counted
      have mantissa : Text.decimalPart ('.' :: digit :: behind) =
          '.' :: digit :: behind.takeWhile isDigitOrUnderscore := by
        simp [Text.decimalPart, isDigitOrUnderscore, isDigit]
      rw [isDecimal] at shape
      simp [text, numberLiteral.decimal, mantissa] at shape

/-- Letters end before the quote, so they are the same before any literal. -/
theorem begins_lettered_of_endsAlike
    {c mark : Char} {rest behind after other : Text} {piece : GatePiece}
    (bare : IsBare c rest)
    (names : startsName c)
    (dropped : rest.dropWhile continuesName = mark :: behind)
    (opens : (isQuoteMark mark && isStringLetters (c :: rest.takeWhile continuesName)) = true)
    (quoted : ofQuote (c :: rest.takeWhile continuesName) mark behind = some piece)
    (parts : c :: rest = piece.text ++ after)
    (alike : other.EndsAlike after) :
    ∃ otherRest, c :: otherRest = piece.text ++ other ∧ Begins c otherRest piece := by
  have quotes := (Bool.and_eq_true_iff.1 opens).1
  have restParts := List.takeWhile_append_dropWhile (p := continuesName) (l := rest)
  rw [dropped] at restParts
  have letters : ∀ d ∈ rest.takeWhile continuesName, continuesName d :=
    fun d member => List.mem_takeWhile_imp member
  generalize rest.takeWhile continuesName = word at *
  obtain ⟨otherBehind, otherParts, otherQuoted⟩ := ofQuote_of_endsAlike quotes quoted
    (by rw [List.cons_append, restParts, parts]) alike
  have sameHead : (word ++ mark :: otherBehind).head? = rest.head? := by
    rw [← restParts]
    exact head?_append_of_sameNext rfl
  have otherWord : (word ++ mark :: otherBehind).takeWhile continuesName = word := by
    rw [List.takeWhile_append_of_pos letters]
    simp [continuesName_of_isQuoteMark quotes]
  refine ⟨word ++ mark :: otherBehind, otherParts, ?_⟩
  refine .lettered piece mark otherBehind (bare.of_endsAlike (.inl sameHead)) names
    (dropWhile_of_takeWhile otherWord) ?_ ?_
  · rw [otherWord]
    exact opens
  · rw [otherWord]
    exact otherQuoted

theorem begins_name_of_endsAlike
    {c : Char} {rest after other : Text}
    (bare : IsBare c rest)
    (names : startsName c)
    (plain : ∀ mark behind, rest.dropWhile continuesName = mark :: behind →
      (isQuoteMark mark && isStringLetters (c :: rest.takeWhile continuesName)) = false)
    (parts : rest = rest.takeWhile continuesName ++ after)
    (alike : other.EndsAlike after) :
    Begins c (rest.takeWhile continuesName ++ other)
      (.name (c :: rest.takeWhile continuesName)) := by
  generalize word : rest.takeWhile continuesName = letters at *
  subst parts
  have otherWord : (letters ++ other).takeWhile continuesName = letters :=
    takeWhile_of_endsAlike (fun _ names => names) word alike
  rw [dropWhile_of_takeWhile word] at plain
  have named := @Begins.name c (letters ++ other)
    (bare.of_endsAlike (endsAlike_append alike)) names
  rw [otherWord, dropWhile_of_takeWhile otherWord] at named
  refine named fun mark behind shown => ?_
  rcases alike with sameNext | endsWord
  · obtain ⟨markBehind, same⟩ : ∃ markBehind, after = mark :: markBehind :=
      @eq_cons_of_sameNext _ mark behind (by rw [← shown, sameNext])
    exact plain mark markBehind same
  · rw [(endsWord mark (by rw [shown]; rfl)).2.2, Bool.false_and]

/-- Whether a piece is over before a text.  A comment hides whatever follows, and a star or a slash
may be the first of two. -/
def EndsBefore (piece : GatePiece) (other : Text) : Prop :=
  match piece with
  | .blank _ | .joint _ | .lineBreak _ => True
  | .comment _ => False
  | .number _ | .string _ | .name _ => other.EndsWord
  | .operator sign => sign ≠ .times ∧ sign ≠ .divide ∧ other.EndsWord

theorem operator_of_endsBefore
    {sign : GateOperator}
    (single : sign ≠ .times ∧ sign ≠ .divide)
    (other : Text) :
    GateOperator.first? (sign.text ++ other) = some sign := by
  cases sign with
  | times => exact absurd rfl single.1
  | divide => exact absurd rfl single.2
  | power | floorDivide | plus | minus | modulo | openParen | closeParen | openBracket
  | closeBracket | dot | comma | assign => rfl

/-- A piece depends only on its own text and on the character behind it. -/
theorem first_of_endsAlike
    {c : Char} {rest after other : Text} {piece : GatePiece}
    (begun : first c rest = .ok piece)
    (parts : c :: rest = piece.text ++ after)
    (alike : other.head? = after.head? ∨ piece.EndsBefore other) :
    ∃ otherRest, c :: otherRest = piece.text ++ other ∧ first c otherRest = .ok piece := by
  have wordAlike : ∀ {text : Text}, (piece.EndsBefore text → text.EndsWord) →
      text.head? = after.head? ∨ piece.EndsBefore text → text.EndsAlike after :=
    fun word => Or.imp id word
  simp only [first_eq_ok_iff] at begun ⊢
  cases begun with
  | blank margin => exact ⟨other, rfl, .blank margin⟩
  | comment comments =>
      have sameNext := alike.resolve_right id
      generalize taken : rest.takeWhile (· != '\n') = note at parts ⊢
      obtain rfl : rest = note ++ after := (List.cons.inj parts).2
      have commented : Begins c (note ++ other) _ := .comment comments
      rw [takeWhile_of_sameNext taken sameNext] at commented
      exact ⟨note ++ other, rfl, commented⟩
  | joint lineEnd escapes shape _ =>
      exact ⟨lineEnd ++ other, rfl, .joint lineEnd escapes shape (List.prefix_append _ _)⟩
  | lineBreak breaks => exact ⟨other, rfl, .lineBreak breaks⟩
  | number _ visible counts counted =>
      have isNumber := number_of_ofNumber counted
      have numberAlike : other.EndsAlike after :=
        wordAlike (fun ends => by rwa [isNumber] at ends) alike
      obtain ⟨tail, shape, rfl⟩ :=
        exists_tail_of_cons_eq_append parts (text_ofNumber_ne_nil counts counted)
      refine ⟨tail ++ other, by rw [shape, List.cons_append], ?_⟩
      exact .number piece visible (startsNumber_of_ofNumber counts counted shape)
        (ofNumber_of_endsAlike counted shape numberAlike)
  | quoted _ visible _ quotes quoted =>
      have isString := string_of_ofQuote quoted
      have stringAlike : other.EndsAlike after :=
        wordAlike (fun ends => by rwa [isString] at ends) alike
      obtain ⟨otherRest, otherParts, otherQuoted⟩ :=
        ofQuote_of_endsAlike quotes quoted parts stringAlike
      exact ⟨otherRest, otherParts,
        .quoted piece visible (startsNumber_of_isQuoteMark quotes otherRest) quotes otherQuoted⟩
  | lettered _ mark behind bare names dropped opens quoted =>
      have isString := string_of_ofQuote quoted
      have stringAlike : other.EndsAlike after :=
        wordAlike (fun ends => by rwa [isString] at ends) alike
      exact begins_lettered_of_endsAlike bare names dropped opens quoted parts stringAlike
  | name bare names plain =>
      exact ⟨rest.takeWhile continuesName ++ other, rfl,
        begins_name_of_endsAlike bare names plain (List.cons.inj parts).2 (wordAlike id alike)⟩
  | operator sign bare noName listed =>
      obtain ⟨tail, shape, rfl⟩ := exists_tail_of_cons_eq_append parts (GateOperator.text_ne_nil sign)
      have tailAlike : Text.EndsAlike (tail ++ other) (tail ++ after) :=
        endsAlike_append (wordAlike (fun ends => ends.2.2) alike)
      refine ⟨tail ++ other, by rw [shape, List.cons_append], ?_⟩
      refine .operator sign (bare.of_endsAlike tailAlike) noName ?_
      rcases alike with sameNext | ends
      · exact (operator_of_sameHead (head?_append_of_sameNext sameNext)).trans listed
      · have own := operator_of_endsBefore ⟨ends.1, ends.2.1⟩ other
        have signText : sign.text = c :: tail := shape
        rwa [signText] at own

end GatePiece

end Pipescript
