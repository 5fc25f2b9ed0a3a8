import Pipescript.Gate.Token

/-!
# Which piece begins a text

A text begins with a margin, a comment, a joint, a line break, a number, a literal, a name or an
operator, and these are tried in order.  `Begins` lists the cases with all that is known in each of
them; `first_eq_ok_iff` says that there are no others.
-/

namespace Pipescript

namespace GatePiece

/-- Whether a character begins no margin, comment, joint or line break. -/
structure IsVisible (c : Char) : Prop where
  noMargin : isMarginChar c = false
  noComment : c ≠ '#'
  noJoint : c ≠ '\\'
  noBreak : isLineBreakChar c = false

/-- Whether a text begins with a name or an operator, if with anything. -/
structure IsBare (c : Char) (rest : Text) : Prop extends IsVisible c where
  noNumber : startsNumber c rest = false
  noQuote : isQuoteMark c = false

/-- The cases of what begins a text. -/
inductive Begins (c : Char) (rest : Text) : GatePiece → Prop
  | blank :
      isMarginChar c →
      Begins c rest (.blank [c])
  | comment :
      c = '#' →
      Begins c rest (.comment (c :: rest.takeWhile (· != '\n')))
  | joint (lineEnd : Text) :
      c = '\\' →
      lineEnd = ['\n'] ∨ lineEnd = ['\r', '\n'] →
      lineEnd <+: rest →
      Begins c rest (.joint (c :: lineEnd))
  | lineBreak :
      isLineBreakChar c →
      Begins c rest (.lineBreak c)
  | number (piece : GatePiece) :
      IsVisible c →
      startsNumber c rest →
      ofNumber (c :: rest) = .ok piece →
      Begins c rest piece
  | quoted (piece : GatePiece) :
      IsVisible c →
      startsNumber c rest = false →
      isQuoteMark c →
      ofQuote [] c rest = some piece →
      Begins c rest piece
  /-- A literal behind its letters. -/
  | lettered (piece : GatePiece) (mark : Char) (after : Text) :
      IsBare c rest →
      startsName c →
      rest.dropWhile continuesName = mark :: after →
      (isQuoteMark mark && isStringLetters (c :: rest.takeWhile continuesName)) = true →
      ofQuote (c :: rest.takeWhile continuesName) mark after = some piece →
      Begins c rest piece
  | name :
      IsBare c rest →
      startsName c →
      (∀ mark after, rest.dropWhile continuesName = mark :: after →
        (isQuoteMark mark && isStringLetters (c :: rest.takeWhile continuesName)) = false) →
      Begins c rest (.name (c :: rest.takeWhile continuesName))
  | operator (sign : GateOperator) :
      IsBare c rest →
      startsName c = false →
      GateOperator.first? (c :: rest) = some sign →
      Begins c rest (.operator sign)

variable {c : Char} {rest : Text} {piece : GatePiece}

/-! ## What each beginning leads to -/

theorem first_of_number
    (visible : IsVisible c)
    (counts : startsNumber c rest) :
    first c rest = ofNumber (c :: rest) := by
  simp [first, visible.noMargin, visible.noComment, visible.noJoint, visible.noBreak, counts]

theorem first_of_quote
    (visible : IsVisible c)
    (noNumber : startsNumber c rest = false)
    (quotes : isQuoteMark c) :
    first c rest = (ofQuote [] c rest).elim (.error .unclosedString) .ok := by
  simp only [first, visible.noMargin, visible.noComment, visible.noJoint, visible.noBreak,
    noNumber, quotes, Bool.false_eq_true, if_false, if_true]
  cases ofQuote [] c rest with
  | none => rfl
  | some piece => rfl

section Bare

variable (bare : IsBare c rest)
include bare

theorem first_of_letters
    {mark : Char} {after : Text}
    (names : startsName c)
    (behind : rest.dropWhile continuesName = mark :: after)
    (opens : (isQuoteMark mark && isStringLetters (c :: rest.takeWhile continuesName)) = true) :
    first c rest = (ofQuote (c :: rest.takeWhile continuesName) mark after).elim
      (.error .unclosedString) .ok := by
  simp only [first, bare.noMargin, bare.noComment, bare.noJoint, bare.noBreak, bare.noNumber,
    bare.noQuote, names, behind, opens, Bool.false_eq_true, if_false, if_true]
  cases ofQuote (c :: rest.takeWhile continuesName) mark after with
  | none => rfl
  | some piece => rfl

theorem first_of_name
    (names : startsName c)
    (plain : ∀ mark after, rest.dropWhile continuesName = mark :: after →
      (isQuoteMark mark && isStringLetters (c :: rest.takeWhile continuesName)) = false) :
    first c rest = .ok (.name (c :: rest.takeWhile continuesName)) := by
  simp only [first, bare.noMargin, bare.noComment, bare.noJoint, bare.noBreak, bare.noNumber,
    bare.noQuote, names, Bool.false_eq_true, if_false, if_true]
  split
  · next mark after behind => rw [plain mark after behind, if_neg (by decide)]
  · rfl

/-- What begins nothing else begins an operator, or no piece. -/
theorem first_of_sign
    (noName : startsName c = false) :
    first c rest = (GateOperator.first? (c :: rest)).elim (.error (.unexpectedCharacter c))
      fun sign => .ok (.operator sign) := by
  simp only [first, bare.noMargin, bare.noComment, bare.noJoint, bare.noBreak, bare.noNumber,
    bare.noQuote, noName, Bool.false_eq_true, if_false]
  cases GateOperator.first? (c :: rest) with
  | none => rfl
  | some sign => rfl

theorem begins_of_isBare
    (begun : first c rest = .ok piece) :
    Begins c rest piece := by
  cases names : startsName c with
  | false =>
      rw [first_of_sign bare names] at begun
      cases listed : GateOperator.first? (c :: rest) with
      | none => simp [listed] at begun
      | some sign =>
          rw [listed] at begun
          obtain rfl := Except.ok.inj begun
          exact .operator sign bare names listed
  | true =>
      by_cases lettered : ∃ mark after, rest.dropWhile continuesName = mark :: after ∧
          (isQuoteMark mark && isStringLetters (c :: rest.takeWhile continuesName)) = true
      · obtain ⟨mark, after, behind, opens⟩ := lettered
        rw [first_of_letters bare names behind opens] at begun
        cases quoted : ofQuote (c :: rest.takeWhile continuesName) mark after with
        | none => simp [quoted] at begun
        | some found =>
            rw [quoted] at begun
            obtain rfl := Except.ok.inj begun
            exact .lettered _ mark after bare names behind opens quoted
      · have plain : ∀ mark after, rest.dropWhile continuesName = mark :: after →
            (isQuoteMark mark && isStringLetters (c :: rest.takeWhile continuesName)) = false :=
          fun mark after behind => Bool.eq_false_iff.2 fun opens =>
            lettered ⟨mark, after, behind, opens⟩
        rw [first_of_name bare names plain] at begun
        obtain rfl := Except.ok.inj begun
        exact .name bare names plain

end Bare

/-! ## All cases -/

theorem begins_of_isVisible
    (visible : IsVisible c)
    (begun : first c rest = .ok piece) :
    Begins c rest piece := by
  cases counts : startsNumber c rest with
  | true =>
      rw [first_of_number visible counts] at begun
      exact .number piece visible counts begun
  | false =>
      cases quotes : isQuoteMark c with
      | true =>
          rw [first_of_quote visible counts quotes] at begun
          cases quoted : ofQuote [] c rest with
          | none => simp [quoted] at begun
          | some found =>
              rw [quoted] at begun
              obtain rfl := Except.ok.inj begun
              exact .quoted _ visible counts quotes quoted
      | false => exact begins_of_isBare ⟨visible, counts, quotes⟩ begun

theorem begins_of_first
    (begun : first c rest = .ok piece) :
    Begins c rest piece := by
  by_cases margin : isMarginChar c
  · rw [first, if_pos margin] at begun
    obtain rfl := Except.ok.inj begun
    exact .blank margin
  by_cases comments : c = '#'
  · rw [first, if_neg margin, if_pos comments] at begun
    obtain rfl := Except.ok.inj begun
    exact .comment comments
  by_cases escapes : c = '\\'
  · rw [first, if_neg margin, if_neg comments, if_pos escapes] at begun
    split at begun
    · next feed =>
        obtain rfl := Except.ok.inj begun
        exact escapes ▸ .joint ['\n'] escapes (.inl rfl) (List.isPrefixOf_iff_prefix.1 feed)
    split at begun
    · next feed =>
        obtain rfl := Except.ok.inj begun
        exact escapes ▸ .joint ['\r', '\n'] escapes (.inr rfl) (List.isPrefixOf_iff_prefix.1 feed)
    · simp at begun
  by_cases breaks : isLineBreakChar c
  · rw [first, if_neg margin, if_neg comments, if_neg escapes, if_pos breaks] at begun
    obtain rfl := Except.ok.inj begun
    exact .lineBreak breaks
  exact begins_of_isVisible
    ⟨Bool.eq_false_iff.2 margin, comments, escapes, Bool.eq_false_iff.2 breaks⟩ begun

theorem first_of_begins
    (begins : Begins c rest piece) :
    first c rest = .ok piece := by
  cases begins with
  | blank margin => rw [first, if_pos margin]
  | comment comments =>
      subst comments
      rw [first, if_neg (by decide), if_pos rfl]
  | joint lineEnd escapes shape front =>
      subst escapes
      rw [first, if_neg (by decide), if_neg (by decide), if_pos rfl]
      rcases shape with rfl | rfl
      · rw [if_pos (List.isPrefixOf_iff_prefix.2 front)]
      · obtain ⟨after, rfl⟩ := front
        rfl
  | lineBreak breaks =>
      obtain rfl | rfl : c = '\r' ∨ c = '\n' := by simpa [isLineBreakChar] using breaks
      · rfl
      · rfl
  | number _ visible counts found => rw [first_of_number visible counts, found]
  | quoted _ visible noNumber quotes found =>
      rw [first_of_quote visible noNumber quotes, found, Option.elim_some]
  | lettered _ mark after bare names behind opens found =>
      rw [first_of_letters bare names behind opens, found, Option.elim_some]
  | name bare names plain => exact first_of_name bare names plain
  | operator sign bare noName listed =>
      rw [first_of_sign bare noName, listed, Option.elim_some]

/-- What begins a text is one of the listed cases. -/
theorem first_eq_ok_iff : first c rest = .ok piece ↔ Begins c rest piece :=
  ⟨begins_of_first, first_of_begins⟩

end GatePiece

end Pipescript
