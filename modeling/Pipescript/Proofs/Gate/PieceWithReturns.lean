import Pipescript.Proofs.Gate.Candidate
import Pipescript.Proofs.Scan.LineWithReturns

/-!
# Pieces of gates in texts with carriage returns

What begins a text begins it with carriage returns before the line feeds, too, but for one thing: in
a literal with single quotes a backslash takes along one character, so it joins a line that ends in a
line feed and not one that ends in a carriage return and a line feed.
-/

namespace Pipescript

open Text

/-! ## Spread literals -/

/-- Whether a literal, which may begin with letters, has triple quotes. -/
def Text.isTripleQuoted (literal : Text) : Bool :=
  match literal.dropWhile (!isQuoteMark ·) with
  | mark :: rest => (Quote.opening mark rest).triple
  | [] => false

namespace GatePiece

/-- Whether a piece is a literal with single quotes that goes over a line end. -/
def isSpread : GatePiece → Bool
  | .string literal => literal.contains '\n' && !literal.isTripleQuoted
  | _ => false

/-- A piece with carriage returns before the line feeds of its text, for all pieces but line breaks. -/
def withReturns : GatePiece → GatePiece
  | .joint text => .joint text.withReturns
  | .string literal => .string literal.withReturns
  | piece => piece

/-- What a piece becomes, unless it is spread. -/
def withReturns? (piece : GatePiece) : Except GateFault GatePiece :=
  if piece.isSpread then .error .unclosedString else .ok piece.withReturns

end GatePiece

theorem GatePiece.exists_of_bind_withReturns?
    {begun : Except GateFault GatePiece} {returned : GatePiece}
    (found : begun.bind withReturns? = .ok returned) :
    ∃ piece, begun = .ok piece ∧ piece.isSpread = false ∧ returned = piece.withReturns := by
  cases begun with
  | error fault => cases found
  | ok piece =>
      have same : piece.withReturns? = .ok returned := found
      cases spread : piece.isSpread with
      | true => simp [withReturns?, spread] at same
      | false =>
          simp only [withReturns?, spread, if_neg, Bool.false_eq_true, not_false_eq_true] at same
          exact ⟨piece, rfl, spread, (Except.ok.inj same).symm⟩

theorem closedOnLine?_of_break
    {mark c : Char}
    (isMark : isQuoteMark mark)
    (isBreak : c = '\r' ∨ c = '\n')
    (rest : Text) :
    closedOnLine? mark (c :: rest) = none := by
  obtain ⟨noReturn, noFeed, -⟩ := ne_lineBreak_of_isQuoteMark isMark
  have markNoBreak : isLineBreakChar mark = false := by
    simp [isLineBreakChar, noReturn, noFeed]
  rcases isBreak with rfl | rfl <;>
    rw [closedOnLine?_cons markNoBreak (by decide), if_pos (by decide)]

theorem filter_map_append
    {front : Text}
    (noFeed : '\n' ∉ front)
    (inside? : Option Text) :
    (inside?.map (front ++ ·)).filter ('\n' ∉ ·) = (inside?.filter ('\n' ∉ ·)).map (front ++ ·) := by
  cases inside? with
  | none => rfl
  | some inside => by_cases feed : '\n' ∈ inside <;> simp [Option.filter_some, noFeed, feed]

/-- A backslash takes along the carriage return only, and the line feed ends the search. -/
theorem closedOnLine?_withReturns
    {mark : Char}
    (isMark : isQuoteMark mark)
    {text : Text}
    (noReturn : '\r' ∉ text) :
    closedOnLine? mark text.withReturns = (closedOnLine? mark text).filter ('\n' ∉ ·) := by
  obtain ⟨markNoReturn, markNoFeed, -⟩ := ne_lineBreak_of_isQuoteMark isMark
  have markNoBreak : isLineBreakChar mark = false := by
    simp [isLineBreakChar, markNoReturn, markNoFeed]
  induction size : text.length using Nat.strongRecOn generalizing text with
  | ind size inductionHypothesis =>
      cases text with
      | nil => rfl
      | cons c rest =>
          obtain ⟨notReturn, restNoReturn⟩ : ¬ '\r' = c ∧ '\r' ∉ rest := by simpa using noReturn
          rw [List.length_cons] at size
          by_cases feed : c = '\n'
          · subst feed
            rw [withReturns_feed, closedOnLine?_of_break isMark (.inl rfl),
              closedOnLine?_of_break isMark (.inr rfl)]
            rfl
          · rw [withReturns_cons feed]
            by_cases escape : c = '\\'
            · subst escape
              cases rest with
              | nil => rfl
              | cons next later =>
                  rw [List.length_cons] at size
                  by_cases nextFeed : next = '\n'
                  · subst nextFeed
                    rw [withReturns_feed, closedOnLine?, if_pos rfl,
                      closedOnLine?_of_break isMark (.inr rfl), closedOnLine?, if_pos rfl]
                    cases closedOnLine? mark later with
                    | none => rfl
                    | some inside => simp [Option.filter_some]
                  · have further := inductionHypothesis later.length (by omega)
                      (fun isReturn => restNoReturn (List.mem_cons_of_mem _ isReturn)) rfl
                    rw [withReturns_cons nextFeed, closedOnLine?, if_pos rfl, further, closedOnLine?,
                      if_pos rfl]
                    exact (@filter_map_append ['\\', next]
                      (by simpa using Ne.symm nextFeed) _).symm
            · have behind := inductionHypothesis rest.length (by omega) restNoReturn rfl
              have noBreak : isLineBreakChar c = false := by
                simp [isLineBreakChar, feed, Ne.symm notReturn]
              rw [closedOnLine?_cons markNoBreak escape, closedOnLine?_cons markNoBreak escape, noBreak,
                behind]
              split
              · next breaks => cases breaks
              split
              · simp [Option.filter_some, Ne.symm feed]
              · exact (@filter_map_append [c] (by simpa using Ne.symm feed) _).symm

/-- Behind the letters of a literal its quote shows whether it is triple. -/
theorem isTripleQuoted_append
    {letters rest inside : Text} {mark : Char}
    (noMark : ∀ c ∈ letters, isQuoteMark c = false)
    (isMark : isQuoteMark mark)
    (isFront : (Quote.opening mark rest).triple = false → inside <+: rest) :
    Text.isTripleQuoted (letters ++ (Quote.opening mark rest).text ++ inside) =
      (Quote.opening mark rest).triple := by
  have shown : ∀ later : Text, Text.isTripleQuoted (letters ++ mark :: later) =
      (Quote.opening mark later).triple := by
    intro later
    unfold Text.isTripleQuoted
    rw [List.dropWhile_append_of_pos (by simpa using noMark),
      List.dropWhile_cons_of_neg (by simp [isMark])]
  cases triple : (Quote.opening mark rest).triple with
  | true =>
      have quoteText : (Quote.opening mark rest).text = [mark, mark, mark] := by
        rw [Quote.text, if_pos triple]
        rfl
      rw [quoteText, List.append_assoc]
      refine (shown ([mark, mark] ++ inside)).trans ?_
      exact List.isPrefixOf_iff_prefix.2 (List.prefix_append _ _)
  | false =>
      have quoteText : (Quote.opening mark rest).text = [mark] := by
        rw [Quote.text, if_neg (by simp [triple])]
        rfl
      rw [quoteText, List.append_assoc]
      refine (shown inside).trans (Bool.eq_false_iff.2 fun twice => ?_)
      have restTwice : [mark, mark] <+: rest :=
        (List.isPrefixOf_iff_prefix.1 twice).trans (isFront triple)
      exact Bool.eq_false_iff.1 triple (List.isPrefixOf_iff_prefix.2 restTwice)

namespace GatePiece

theorem withReturns?_of_triple
    {literal : Text}
    (triple : literal.isTripleQuoted = true) :
    (string literal).withReturns? = .ok (string literal.withReturns) := by
  simp [withReturns?, isSpread, triple, withReturns]

theorem withReturns?_of_single
    {literal : Text}
    (single : literal.isTripleQuoted = false) :
    (string literal).withReturns? =
      if '\n' ∈ literal then .error .unclosedString else .ok (string literal) := by
  by_cases feed : '\n' ∈ literal
  · simp [withReturns?, isSpread, single, feed]
  · simp [withReturns?, isSpread, feed, withReturns, withReturns_of_noFeed feed]

theorem ofQuote_withReturns
    {letters rest : Text} {mark : Char}
    (noMark : ∀ c ∈ letters, isQuoteMark c = false)
    (lettersNoFeed : '\n' ∉ letters)
    (isMark : isQuoteMark mark)
    (noReturn : '\r' ∉ rest) :
    ofQuote letters mark rest.withReturns =
      (ofQuote letters mark rest).bind fun piece => piece.withReturns?.toOption := by
  have notFeed := (ne_lineBreak_of_isQuoteMark isMark).2.1
  have quoteNoFeed : '\n' ∉ (Quote.opening mark rest).text :=
    (@Quote.noBreak_text (Quote.opening mark rest) isMark).2
  have frontNoFeed : '\n' ∉ letters ++ (Quote.opening mark rest).text := by
    simp [lettersNoFeed, quoteNoFeed]
  unfold ofQuote
  dsimp only
  rw [Quote.opening_withReturns isMark]
  cases triple : (Quote.opening mark rest).triple with
  | true =>
      have isFront : [mark, mark] <+: rest := List.isPrefixOf_iff_prefix.1 triple
      have behind : rest.withReturns.drop 2 = Text.withReturns (rest.drop 2) :=
        @drop_withReturns [mark, mark] _ (by simp [Ne.symm notFeed]) isFront
      rw [if_pos rfl, if_pos rfl, behind,
        @Quote.closed?_withReturns (Quote.opening mark rest) isMark]
      cases closed : (Quote.opening mark rest).closed? (rest.drop 2) with
      | none => rfl
      | some inside =>
          have quoted := @isTripleQuoted_append _ _ inside _ noMark isMark
            fun single => absurd (triple.symm.trans single) (by decide)
          rw [triple] at quoted
          simp only [Option.map_some, Option.bind_some, withReturns?_of_triple quoted]
          rw [withReturns_append, withReturns_of_noFeed frontNoFeed]
          rfl
  | false =>
      rw [if_neg (by decide), if_neg (by decide), closedOnLine?_withReturns isMark noReturn]
      cases closed : closedOnLine? mark rest with
      | none => rfl
      | some inside =>
          have quoted := @isTripleQuoted_append _ _ inside _ noMark isMark
            fun _ => closedOnLine?_isPrefix closed
          rw [triple] at quoted
          have sameFeed : '\n' ∈ letters ++ (Quote.opening mark rest).text ++ inside ↔ '\n' ∈ inside := by
            rw [List.mem_append, or_iff_right frontNoFeed]
          simp only [Option.map_some, Option.bind_some, withReturns?_of_single quoted, sameFeed]
          by_cases feed : '\n' ∈ inside <;> simp [Option.filter_some, feed, Except.toOption]

/-! ## Pieces -/

theorem bounded_withReturns
    {literal text : Text}
    (noFeed : '\n' ∉ literal)
    (isFront : literal <+: text) :
    ofNumber.bounded text.withReturns literal = ofNumber.bounded text literal := by
  unfold ofNumber.bounded
  rw [drop_withReturns noFeed isFront,
    any_head?_withReturns (by decide +kernel) (by decide +kernel)]

theorem decimal_withReturns (text : Text) :
    ofNumber.decimal text.withReturns = ofNumber.decimal text := by
  obtain ⟨behindMantissa, behindExponent⟩ := drop_decimal_withReturns text
  have literal : '\n' ∉ numberLiteral.decimal text :=
    noFeed_of_numberChars fun c => isNumberChar_of_mem_decimal
  unfold ofNumber.decimal
  dsimp only
  rw [decimalPart_withReturns, behindMantissa, exponentPart_withReturns, exponentMark?_withReturns,
    behindExponent, imaginaryMark_withReturns]
  split
  · rfl
  · exact bounded_withReturns literal (numberLiteral.decimal_isPrefix text)

theorem ofNumber_withReturns (text : Text) : ofNumber text.withReturns = ofNumber text := by
  by_cases announced : ∃ mark rest base, text = '0' :: mark :: rest ∧ announcedBase? mark = some base
  · obtain ⟨mark, rest, base, rfl, announced⟩ := announced
    have notFeed : mark ≠ '\n' := by
      rintro rfl
      cases announced
    have stops : ∀ c, c = '\r' ∨ c = '\n' → (isDigitOf base c || c == '_') = false := by
      rintro c (rfl | rfl) <;> rfl
    have digitParts := List.takeWhile_append_dropWhile
      (p := fun c => isDigitOf base c || c == '_') (l := rest)
    have sameDigits := takeWhile_withReturns (p := fun c => isDigitOf base c || c == '_')
      (stops _ (.inl rfl)) (stops _ (.inr rfl)) rest
    have noFeed := noFeed_of_takeWhile (p := fun c => isDigitOf base c || c == '_')
      (stops _ (.inr rfl)) rest
    generalize taken : rest.takeWhile (fun c => isDigitOf base c || c == '_') = digits
      at digitParts sameDigits noFeed
    rw [← digitParts, withReturns_append, withReturns_of_noFeed noFeed] at sameDigits
    rw [← digitParts] at taken
    rw [withReturns_cons (by decide), withReturns_cons notFeed, ← digitParts, withReturns_append,
      withReturns_of_noFeed noFeed, ofNumber_of_announced announced _ _ sameDigits,
      ofNumber_of_announced announced _ _ taken,
      any_head?_withReturns (by decide +kernel) (by decide +kernel)]
  · have notAnnounced : ∀ mark rest, text = '0' :: mark :: rest → announcedBase? mark = none := by
      intro mark rest shape
      cases found : announcedBase? mark with
      | none => rfl
      | some base => exact absurd ⟨mark, rest, base, shape, found⟩ announced
    rw [ofNumber_of_notAnnounced fun mark rest => announced_withReturns notAnnounced,
      ofNumber_of_notAnnounced notAnnounced, decimal_withReturns]

/-- A literal becomes one with carriage returns, or none if it is spread. -/
theorem quoted_withReturns
    {letters rest : Text} {mark : Char}
    (noMark : ∀ c ∈ letters, isQuoteMark c = false)
    (lettersNoFeed : '\n' ∉ letters)
    (isMark : isQuoteMark mark)
    (noReturn : '\r' ∉ rest) :
    (match ofQuote letters mark rest.withReturns with
      | some piece => .ok piece
      | none => .error .unclosedString) =
      (match ofQuote letters mark rest with
        | some piece => Except.ok piece
        | none => .error GateFault.unclosedString).bind withReturns? := by
  rw [ofQuote_withReturns noMark lettersNoFeed isMark noReturn]
  cases ofQuote letters mark rest with
  | none => rfl
  | some piece =>
      cases spread : piece.isSpread <;>
        simp [withReturns?, spread, Except.toOption, Except.bind]

theorem joint_withReturns
    {rest : Text}
    (noReturn : '\r' ∉ rest) :
    first '\\' rest.withReturns = (first '\\' rest).bind withReturns? := by
  cases rest with
  | nil => rfl
  | cons c later =>
      by_cases feed : c = '\n'
      · subst feed
        rfl
      · have notReturn : c ≠ '\r' := by
          rintro rfl
          exact noReturn List.mem_cons_self
        have broken : ∀ behind : Text, first '\\' (c :: behind) = .error .brokenJoint := by
          intro behind
          simp [first, isMarginChar, List.isPrefixOf_cons_cons, beq_eq_false_iff_ne.2 (Ne.symm feed),
            beq_eq_false_iff_ne.2 (Ne.symm notReturn)]
        rw [withReturns_cons feed, broken, broken]
        rfl

theorem operator_withReturns (text : Text) :
    GateOperator.first? text.withReturns = GateOperator.first? text := by
  have noBreak : ∀ sign : GateOperator, '\r' ∉ sign.text ∧ '\n' ∉ sign.text := by
    intro sign
    cases sign <;> decide
  unfold GateOperator.first?
  exact List.find?_congr fun sign _ => isPrefixOf_withReturns (noBreak sign).1 (noBreak sign).2 text

/-- What begins a text, comments and line breaks apart, begins it with carriage returns, too, unless
it is spread. -/
theorem first_withReturns
    {c : Char} {rest : Text}
    (notFeed : c ≠ '\n')
    (notComment : c ≠ '#')
    (noReturn : '\r' ∉ c :: rest) :
    first c rest.withReturns = (first c rest).bind withReturns? := by
  obtain ⟨notReturn, restNoReturn⟩ : ¬ '\r' = c ∧ '\r' ∉ rest := by simpa using noReturn
  have noBreak : ¬ isLineBreakChar c = true := by
    simp [isLineBreakChar, notFeed, Ne.symm notReturn]
  have noName : continuesName '\r' = false ∧ continuesName '\n' = false := by decide +kernel
  by_cases escape : c = '\\'
  · subst escape
    exact joint_withReturns restNoReturn
  unfold first
  rw [if_neg notComment, if_neg escape, if_neg noBreak, if_neg notComment, if_neg escape,
    if_neg noBreak, startsNumber_withReturns, takeWhile_withReturns noName.1 noName.2,
    dropWhile_withReturns noName.1 noName.2, ← withReturns_cons notFeed, ofNumber_withReturns]
  split_ifs with margin counts quotes names
  · rfl
  · cases counted : ofNumber (c :: rest) with
    | error fault => rfl
    | ok piece =>
        rw [number_of_ofNumber counted]
        rfl
  · exact quoted_withReturns (by simp) List.not_mem_nil quotes restNoReturn
  · have wordNames : ∀ d ∈ c :: rest.takeWhile continuesName, continuesName d := by
      intro d member
      rcases List.mem_cons.1 member with rfl | later
      · unfold startsName at names
        unfold continuesName
        rw [Bool.or_right_comm, names, Bool.true_or]
      · exact List.mem_takeWhile_imp later
    have noMark : ∀ d ∈ c :: rest.takeWhile continuesName, isQuoteMark d = false := by
      intro d member
      refine Bool.eq_false_iff.2 fun isMark => ?_
      exact Bool.eq_false_iff.1 (continuesName_of_isQuoteMark isMark) (wordNames d member)
    have noFeed : '\n' ∉ c :: rest.takeWhile continuesName := fun feed =>
      Bool.eq_false_iff.1 noName.2 (wordNames '\n' feed)
    have afterNoReturn : '\r' ∉ rest.dropWhile continuesName := fun isReturn =>
      restNoReturn ((List.dropWhile_suffix continuesName).subset isReturn)
    cases behind : rest.dropWhile continuesName with
    | nil => rfl
    | cons mark after =>
        rw [behind] at afterNoReturn
        by_cases feed : mark = '\n'
        · subst feed
          rfl
        · rw [withReturns_cons feed]
          dsimp only
          split
          · next opens =>
              exact quoted_withReturns noMark noFeed (Bool.and_eq_true_iff.1 opens).1
                fun isReturn => afterNoReturn (List.mem_cons_of_mem _ isReturn)
          · rfl
  · rw [operator_withReturns]
    cases GateOperator.first? (c :: rest) <;> rfl

end GatePiece

end Pipescript
