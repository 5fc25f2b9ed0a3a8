import Pipescript.Proofs.Gate.Begins
import Pipescript.Script.LexemeText

/-!
# The texts of pieces

A text that can be cut into pieces is those pieces put together again, so a piece begins at the
byte offset at which the pieces before it end.
-/

namespace Pipescript

theorem closedOnLine?_isPrefix
    {mark : Char} {rest inside : Text}
    (closed : closedOnLine? mark rest = some inside) :
    inside <+: rest := by
  fun_induction closedOnLine? mark rest generalizing inside with
  | case1 => simp at closed
  | case2 c =>
      obtain rfl : [c] = inside := by simpa using closed
      exact List.prefix_rfl
  | case3 => simp at closed
  | case4 next rest inductionHypothesis =>
      obtain ⟨before, found, rfl⟩ := Option.map_eq_some_iff.1 closed
      obtain ⟨after, rfl⟩ := inductionHypothesis found
      exact ⟨after, rfl⟩
  | case5 => simp at closed
  | case6 next rest _ _ =>
      obtain rfl := Option.some.inj closed
      exact ⟨next :: rest, rfl⟩
  | case7 c next rest _ _ _ inductionHypothesis =>
      obtain ⟨before, found, rfl⟩ := Option.map_eq_some_iff.1 closed
      obtain ⟨after, equality⟩ := inductionHypothesis found
      exact ⟨after, by simp [equality]⟩

theorem GateOperator.text_ne_nil (operator : GateOperator) : operator.text ≠ [] := by
  cases operator <;> simp [text]

theorem GateOperator.first?_isPrefix
    {rest : Text} {operator : GateOperator}
    (found : first? rest = some operator) :
    operator.text <+: rest := by
  unfold first? at found
  exact List.isPrefixOf_iff_prefix.1
    (List.find?_some (p := fun listed : GateOperator => listed.text.isPrefixOf rest) found)

namespace GatePiece

theorem text_ofQuote_isPrefix
    {letters rest : Text} {mark : Char} {piece : GatePiece}
    (found : ofQuote letters mark rest = some piece) :
    piece.text <+: letters ++ mark :: rest := by
  obtain ⟨inside, closed, rfl⟩ := Option.map_eq_some_iff.1 found
  show letters ++ (Quote.opening mark rest).text ++ inside <+: _
  rw [List.append_assoc]
  refine (List.prefix_append_right_inj _).2
    (append_isPrefix_of_drop (Quote.text_opening_isPrefix mark rest) ?_)
  unfold Quote.text
  split at closed
  · next triple =>
      rw [if_pos triple]
      exact Quote.closed?_isPrefix closed
  · next single =>
      rw [if_neg single]
      exact closedOnLine?_isPrefix closed

theorem text_ofQuote_ne_nil
    {letters rest : Text} {mark : Char} {piece : GatePiece}
    (found : ofQuote letters mark rest = some piece) :
    piece.text ≠ [] := by
  obtain ⟨inside, _, rfl⟩ := Option.map_eq_some_iff.1 found
  simp [text, Quote.text_ne_nil]

theorem ofNumber.bounded_eq_ok
    {source literal : Text} {piece : GatePiece}
    (found : ofNumber.bounded source literal = .ok piece) :
    piece = number literal := by
  unfold bounded at found
  split at found
  · simp at found
  · exact (Except.ok.inj found).symm

theorem ofNumber.decimal_eq_ok
    {source : Text} {piece : GatePiece}
    (found : ofNumber.decimal source = .ok piece) :
    piece = number (numberLiteral.decimal source) := by
  unfold decimal at found
  dsimp only at found
  split at found
  · simp at found
  · exact bounded_eq_ok found

theorem text_ofNumber_isPrefix
    {source : Text} {piece : GatePiece}
    (found : ofNumber source = .ok piece) :
    piece.text <+: source := by
  unfold ofNumber at found
  split at found
  · split at found
    · dsimp only at found
      split at found
      · simp at found
      · rw [ofNumber.bounded_eq_ok found]
        exact (List.prefix_cons_inj _).2 ((List.prefix_cons_inj _).2 (List.takeWhile_prefix _))
    · rw [ofNumber.decimal_eq_ok found]
      exact numberLiteral.decimal_isPrefix _
  · rw [ofNumber.decimal_eq_ok found]
    exact numberLiteral.decimal_isPrefix _

theorem text_ofNumber_ne_nil
    {c : Char} {rest : Text} {piece : GatePiece}
    (starts : startsNumber c rest)
    (found : ofNumber (c :: rest) = .ok piece) :
    piece.text ≠ [] := by
  have decimal : piece = number (numberLiteral.decimal (c :: rest)) → piece.text ≠ [] := by
    rintro rfl
    simp [text, numberLiteral.decimal, decimalPart_ne_nil starts]
  unfold ofNumber at found
  split at found
  · split at found
    · dsimp only at found
      split at found
      · simp at found
      · rw [ofNumber.bounded_eq_ok found]
        exact List.cons_ne_nil _ _
    · exact decimal (ofNumber.decimal_eq_ok found)
  · exact decimal (ofNumber.decimal_eq_ok found)

theorem text_first_isPrefix
    {c : Char} {rest : Text} {piece : GatePiece}
    (found : first c rest = .ok piece) :
    piece.text <+: c :: rest := by
  cases first_eq_ok_iff.1 found with
  | blank | lineBreak => exact ⟨rest, rfl⟩
  | comment | name => exact (List.prefix_cons_inj c).2 (List.takeWhile_prefix _)
  | joint lineEnd _ _ front => exact (List.prefix_cons_inj c).2 front
  | number _ _ _ counted => exact text_ofNumber_isPrefix counted
  | quoted _ _ _ _ quoted => exact text_ofQuote_isPrefix quoted
  | lettered _ mark after _ _ behind _ quoted =>
      have parts := List.takeWhile_append_dropWhile (p := continuesName) (l := rest)
      rw [behind] at parts
      have opened := text_ofQuote_isPrefix quoted
      rwa [List.cons_append, parts] at opened
  | operator _ _ _ listed => exact GateOperator.first?_isPrefix listed

theorem text_first_ne_nil
    {c : Char} {rest : Text} {piece : GatePiece}
    (found : first c rest = .ok piece) :
    piece.text ≠ [] := by
  cases first_eq_ok_iff.1 found with
  | blank | comment | joint | lineBreak | name => exact List.cons_ne_nil _ _
  | number _ _ counts counted => exact text_ofNumber_ne_nil counts counted
  | quoted _ _ _ _ quoted | lettered _ _ _ _ _ _ _ quoted => exact text_ofQuote_ne_nil quoted
  | operator => exact GateOperator.text_ne_nil _

end GatePiece

/-- Nothing of a text is lost. -/
theorem flatMap_text_gatePieces
    {offset : Nat} {text : Text} {pieces : List GatePiece}
    (found : gatePieces offset text = .ok pieces) :
    pieces.flatMap GatePiece.text = text := by
  fun_induction gatePieces offset text generalizing pieces with
  | case1 =>
      obtain rfl := Except.ok.inj found
      rfl
  | case2 => simp at found
  | case3 => simp at found
  | case4 offset c rest piece begun later cut inductionHypothesis =>
      obtain rfl := Except.ok.inj found
      obtain ⟨behind, parts⟩ := GatePiece.text_first_isPrefix begun
      obtain ⟨first, shown, text⟩ := List.exists_cons_of_ne_nil (GatePiece.text_first_ne_nil begun)
      rw [List.flatMap_cons, inductionHypothesis cut]
      rw [text] at parts ⊢
      obtain ⟨rfl, rfl⟩ := List.cons.inj parts
      simp

end Pipescript
