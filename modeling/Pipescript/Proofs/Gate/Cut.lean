import Pipescript.Proofs.Gate.Locality

/-!
# Cuts

How a text is cut into pieces, without the offsets.  Two texts with a common front are cut alike up
to the piece in which they part.  No piece begins with a colon.
-/

namespace Pipescript

/-- The pieces of a text. -/
inductive IsCut : Text → List GatePiece → Prop where
  | nil : IsCut [] []
  | cons
      {c : Char} {rest behind : Text} {piece : GatePiece} {later : List GatePiece}
      (begun : GatePiece.first c rest = .ok piece)
      (parts : c :: rest = piece.text ++ behind)
      (cut : IsCut behind later) :
      IsCut (c :: rest) (piece :: later)

theorem isCut_of_gatePieces
    {offset : Nat} {text : Text} {pieces : List GatePiece}
    (found : gatePieces offset text = .ok pieces) :
    IsCut text pieces := by
  fun_induction gatePieces offset text generalizing pieces with
  | case1 =>
      obtain rfl := Except.ok.inj found
      exact IsCut.nil
  | case2 => simp at found
  | case3 => simp at found
  | case4 offset c rest piece begun later cut inductionHypothesis =>
      obtain rfl := Except.ok.inj found
      refine IsCut.cons begun ?_ (inductionHypothesis cut)
      obtain ⟨behind, parts⟩ := GatePiece.text_first_isPrefix begun
      obtain ⟨first, shown, text⟩ := List.exists_cons_of_ne_nil (GatePiece.text_first_ne_nil begun)
      rw [text] at parts ⊢
      obtain ⟨rfl, rfl⟩ := List.cons.inj parts
      simp

theorem gatePieces_of_isCut
    {text : Text} {pieces : List GatePiece}
    (cut : IsCut text pieces)
    (offset : Nat) :
    gatePieces offset text = .ok pieces := by
  induction cut generalizing offset with
  | nil => rw [gatePieces]
  | @cons c rest behind piece later begun parts cut inductionHypothesis =>
      obtain ⟨first, tail, shape⟩ := List.exists_cons_of_ne_nil (GatePiece.text_first_ne_nil begun)
      have remaining : rest.drop (piece.text.length - 1) = behind := by
        rw [shape] at parts ⊢
        rw [(List.cons.inj parts).2]
        exact List.drop_left
      rw [gatePieces, begun]
      dsimp only
      rw [remaining, inductionHypothesis]

theorem gatePieces_eq_ok_iff
    {offset : Nat} {text : Text} {pieces : List GatePiece} :
    gatePieces offset text = .ok pieces ↔ IsCut text pieces :=
  ⟨isCut_of_gatePieces, fun cut => gatePieces_of_isCut cut offset⟩

namespace IsCut

theorem flatMap_text
    {text : Text} {pieces : List GatePiece}
    (cut : IsCut text pieces) :
    pieces.flatMap GatePiece.text = text :=
  flatMap_text_gatePieces (gatePieces_of_isCut cut 0)

theorem eq_nil
    {pieces : List GatePiece}
    (cut : IsCut [] pieces) :
    pieces = [] := by
  cases cut
  rfl

/-- A cut begins with the piece that begins the text. -/
theorem exists_later
    {c : Char} {rest behind : Text} {piece : GatePiece} {pieces : List GatePiece}
    (cut : IsCut (c :: rest) pieces)
    (begun : GatePiece.first c rest = .ok piece)
    (parts : c :: rest = piece.text ++ behind) :
    ∃ later, pieces = piece :: later ∧ IsCut behind later := by
  cases cut with
  | cons foundBegun foundParts later =>
      obtain rfl := Except.ok.inj (foundBegun.symm.trans begun)
      obtain rfl := List.append_cancel_left (foundParts.symm.trans parts)
      exact ⟨_, rfl, later⟩

/-- Whether pieces are over before one text as they are before another. -/
def OverAlike (front : List GatePiece) (other after : Text) : Prop :=
  other.head? = after.head? ∨ ∀ last, front.getLast? = some last → last.EndsBefore other

/-- What comes behind the first piece of a front decides that this piece is over. -/
theorem endsAlike_of_overAlike
    {piece : GatePiece} {front behind : List GatePiece} {text other : Text}
    (cut : IsCut text (front ++ behind))
    (alike : OverAlike (piece :: front) other (behind.flatMap GatePiece.text)) :
    (front.flatMap GatePiece.text ++ other).head? = text.head? ∨
      piece.EndsBefore (front.flatMap GatePiece.text ++ other) := by
  have wholeText := cut.flatMap_text
  rw [List.flatMap_append] at wholeText
  cases front with
  | nil =>
      rcases alike with sameNext | ends
      · exact .inl (by rw [← wholeText]; exact sameNext)
      · exact .inr (ends piece rfl)
  | cons next front =>
      cases cut with
      | cons begun _ _ =>
          obtain ⟨first, tail, shape⟩ :=
            List.exists_cons_of_ne_nil (GatePiece.text_first_ne_nil begun)
          rw [List.flatMap_cons, shape] at wholeText ⊢
          exact .inl (by rw [← wholeText]; rfl)

theorem overAlike_of_cons
    {piece : GatePiece} {front : List GatePiece} {other after : Text}
    (alike : OverAlike (piece :: front) other after) :
    OverAlike front other after := by
  refine alike.imp id fun ends last found => ends last ?_
  rw [List.getLast?_cons, found, Option.getD_some]

/-- A front that is cut before some text is cut alike before any text before which it is over. -/
theorem exists_behind
    {front behind pieces : List GatePiece} {text other : Text}
    (cut : IsCut text (front ++ behind))
    (alike : OverAlike front other (behind.flatMap GatePiece.text))
    (otherCut : IsCut (front.flatMap GatePiece.text ++ other) pieces) :
    ∃ otherBehind, pieces = front ++ otherBehind ∧ IsCut other otherBehind := by
  induction front generalizing text pieces with
  | nil => exact ⟨pieces, rfl, otherCut⟩
  | cons piece front inductionHypothesis =>
      rw [List.cons_append] at cut
      cases cut with
      | cons begun parts cut =>
          rw [List.flatMap_cons, List.append_assoc] at otherCut
          obtain ⟨otherRest, otherParts, otherBegun⟩ :=
            GatePiece.first_of_endsAlike begun parts (endsAlike_of_overAlike cut alike)
          rw [← otherParts] at otherCut
          obtain ⟨later, rfl, laterCut⟩ := otherCut.exists_later otherBegun otherParts
          obtain ⟨otherBehind, rfl, behindCut⟩ :=
            inductionHypothesis cut (overAlike_of_cons alike) laterCut
          exact ⟨otherBehind, rfl, behindCut⟩

/-- What is cut behind a front may be exchanged. -/
theorem exchange
    {front behind others : List GatePiece} {text other : Text}
    (cut : IsCut text (front ++ behind))
    (alike : OverAlike front other (behind.flatMap GatePiece.text))
    (otherCut : IsCut other others) :
    IsCut (front.flatMap GatePiece.text ++ other) (front ++ others) := by
  induction front generalizing text with
  | nil => exact otherCut
  | cons piece front inductionHypothesis =>
      rw [List.cons_append] at cut
      cases cut with
      | cons begun parts cut =>
          obtain ⟨otherRest, otherParts, otherBegun⟩ :=
            GatePiece.first_of_endsAlike begun parts (endsAlike_of_overAlike cut alike)
          have laterCut := inductionHypothesis cut (overAlike_of_cons alike)
          rw [List.flatMap_cons, List.append_assoc, ← otherParts]
          exact IsCut.cons otherBegun otherParts laterCut

end IsCut

/-! ## The characters of numbers -/

/-- Whether a character may stand in a number. -/
def isNumberChar (c : Char) : Bool :=
  continuesName c || ['.', '+', '-'].contains c

section NumberChars

variable {c : Char} {text : Text}

theorem isNumberChar_of_continuesName
    (names : continuesName c) :
    isNumberChar c := by
  rw [isNumberChar, names, Bool.true_or]

theorem isNumberChar_of_mem_digits
    (member : c ∈ text.takeWhile isDigitOrUnderscore) :
    isNumberChar c :=
  isNumberChar_of_continuesName
    (continuesName_of_isDigitOrUnderscore (List.mem_takeWhile_imp member))

theorem isNumberChar_of_mem_decimalPart
    (member : c ∈ text.decimalPart) :
    isNumberChar c := by
  unfold Text.decimalPart at member
  dsimp only at member
  split at member
  · rcases List.mem_append.1 member with member | member
    · exact isNumberChar_of_mem_digits member
    · rcases List.mem_cons.1 member with rfl | member
      · decide +kernel
      · exact isNumberChar_of_mem_digits member
  · exact isNumberChar_of_mem_digits member

theorem isNumberChar_of_mem_exponentMark?
    {mark : Text}
    (marked : text.exponentMark? = some mark)
    (member : c ∈ mark) :
    isNumberChar c := by
  have letter : ∀ {c : Char}, (c == 'e' || c == 'E') = true → isNumberChar c := by
    intro c isMark
    simp only [Bool.or_eq_true, beq_iff_eq] at isMark
    rcases isMark with rfl | rfl <;> decide +kernel
  unfold Text.exponentMark? at marked
  split at marked
  · split at marked
    · next isMark =>
        split at marked
        · split at marked
          · next isSign =>
              obtain rfl := Option.some.inj marked
              simp only [Bool.or_eq_true, beq_iff_eq] at isSign
              rcases List.mem_cons.1 member with rfl | member
              · exact letter isMark
              · rw [List.mem_singleton.1 member]
                rcases isSign with rfl | rfl <;> decide +kernel
          · obtain rfl := Option.some.inj marked
            rw [List.mem_singleton.1 member]
            exact letter isMark
        · obtain rfl := Option.some.inj marked
          rw [List.mem_singleton.1 member]
          exact letter isMark
    · simp at marked
  · simp at marked

theorem isNumberChar_of_mem_exponentPart
    (member : c ∈ exponentPart text) :
    isNumberChar c := by
  unfold exponentPart at member
  split at member
  · simp at member
  · next mark marked =>
      split at member
      · next digit rest _ =>
          split at member
          · next isDigit =>
              rcases List.mem_append.1 member with member | member
              · exact isNumberChar_of_mem_exponentMark? marked member
              · rcases List.mem_cons.1 member with rfl | member
                · exact isNumberChar_of_continuesName
                    (continuesName_of_isAlphanum (isAlphanum_of_isDigit isDigit))
                · exact isNumberChar_of_mem_digits member
          · simp at member
      · simp at member

theorem isNumberChar_of_mem_imaginaryMark
    (member : c ∈ text.imaginaryMark) :
    isNumberChar c := by
  unfold Text.imaginaryMark at member
  split at member
  · split at member
    · next isMark =>
        rw [List.mem_singleton.1 member]
        simp only [Bool.or_eq_true, beq_iff_eq] at isMark
        rcases isMark with rfl | rfl <;> decide +kernel
    · simp at member
  · simp at member

theorem isNumberChar_of_mem_decimal
    (member : c ∈ numberLiteral.decimal text) :
    isNumberChar c := by
  unfold numberLiteral.decimal at member
  simp only [List.mem_append] at member
  rcases member with (member | member) | member
  · exact isNumberChar_of_mem_decimalPart member
  · exact isNumberChar_of_mem_exponentPart member
  · exact isNumberChar_of_mem_imaginaryMark member

theorem isAlphanum_of_announcedBase?
    {base : Nat}
    (announced : announcedBase? c = some base) :
    c.isAlphanum := by
  unfold announcedBase? at announced
  simp only [Bool.or_eq_true, beq_iff_eq] at announced
  split at announced
  · next isMark => rcases isMark with rfl | rfl <;> decide
  split at announced
  · next isMark => rcases isMark with rfl | rfl <;> decide
  split at announced
  · next isMark => rcases isMark with rfl | rfl <;> decide
  · simp at announced

theorem isNumberChar_of_mem_ofNumber
    {piece : GatePiece}
    (found : GatePiece.ofNumber text = .ok piece)
    (member : c ∈ piece.text) :
    isNumberChar c := by
  have ofDecimal : piece = .number (numberLiteral.decimal text) → isNumberChar c := by
    rintro rfl
    exact isNumberChar_of_mem_decimal member
  unfold GatePiece.ofNumber at found
  split at found
  · next mark rest =>
      split at found
      · next base announced =>
          dsimp only at found
          split at found
          · simp at found
          · rw [GatePiece.ofNumber.bounded_eq_ok found] at member
            rcases List.mem_cons.1 member with rfl | member
            · decide +kernel
            rcases List.mem_cons.1 member with rfl | member
            · exact isNumberChar_of_continuesName
                (continuesName_of_isAlphanum (isAlphanum_of_announcedBase? announced))
            have digit := List.mem_takeWhile_imp member
            simp only [Bool.or_eq_true, beq_iff_eq] at digit
            rcases digit with digit | rfl
            · exact isNumberChar_of_continuesName
                (continuesName_of_isAlphanum (isAlphanum_of_isDigitOf digit))
            · decide +kernel
      · exact ofDecimal (GatePiece.ofNumber.decimal_eq_ok found)
  · exact ofDecimal (GatePiece.ofNumber.decimal_eq_ok found)

end NumberChars

/-! ## Literals and colons -/

namespace GatePiece

theorem exists_mark_of_ofQuote
    {letters rest : Text} {mark : Char} {piece : GatePiece}
    (found : ofQuote letters mark rest = some piece) :
    ∃ front, piece.text = front ++ [mark] := by
  obtain ⟨inside, closed, rfl⟩ := Option.map_eq_some_iff.1 found
  have closing : [mark] <:+ inside := by
    split at closed
    · refine List.IsSuffix.trans ?_ (Quote.text_isSuffix_of_closed? closed)
      unfold Quote.opening Quote.text
      dsimp only
      split
      · exact ⟨[mark, mark], rfl⟩
      · exact List.suffix_rfl
    · exact mark_isSuffix_of_closedOnLine? closed
  obtain ⟨front, rfl⟩ := closing
  exact ⟨letters ++ (Quote.opening mark rest).text ++ front, by simp [text]⟩

/-- A colon begins no piece. -/
theorem first_colon (rest : Text) : first ':' rest = .error (.unexpectedCharacter ':') := by
  have noNumber : startsNumber ':' rest = false := by
    have noDigit : ':'.isDigit = false := by decide
    have noPoint : (':' == '.') = false := by decide
    rw [startsNumber, noDigit, noPoint, Bool.false_and, Bool.or_false]
  have bare : IsBare ':' rest := ⟨⟨by decide, by decide, by decide, by decide⟩, noNumber, by decide⟩
  have noOperator : GateOperator.first? (':' :: rest) = none := rfl
  rw [first_of_sign bare (by decide +kernel), noOperator, Option.elim_none]

end GatePiece

namespace IsCut

theorem not_colon_cons
    {rest : Text} {pieces : List GatePiece} :
    ¬ IsCut (':' :: rest) pieces := by
  intro cut
  cases cut with
  | cons begun =>
      rw [GatePiece.first_colon] at begun
      simp at begun

end IsCut

end Pipescript
