import Pipescript.Script.Lexeme

/-!
# The texts of lexemes

Every lexeme is a part in front of what is left of its line, and none is empty.  So the lexemes put
together again are the line.
-/

namespace Pipescript

theorem exponentPart_isPrefix (text : Text) : exponentPart text <+: text := by
  unfold exponentPart
  split
  · exact List.nil_prefix
  · next mark found =>
      obtain ⟨behind, rfl⟩ := Text.exponentMark?_isPrefix found
      rw [List.drop_left]
      split
      · next digit rest =>
          split
          · exact (List.prefix_append_right_inj _).2
              ((List.prefix_cons_inj _).2 (List.takeWhile_prefix _))
          · exact List.nil_prefix
      · exact List.nil_prefix

/-- A part in front of a text followed by a part in front of the rest is in front of the text. -/
theorem append_isPrefix_of_drop
    {text front behind : Text}
    (frontPrefix : front <+: text)
    (behindPrefix : behind <+: text.drop front.length) :
    front ++ behind <+: text := by
  obtain ⟨rest, rfl⟩ := frontPrefix
  rw [List.drop_left] at behindPrefix
  exact (List.prefix_append_right_inj _).2 behindPrefix

theorem numberLiteral.decimal_isPrefix (text : Text) : numberLiteral.decimal text <+: text := by
  unfold numberLiteral.decimal
  refine append_isPrefix_of_drop
    (append_isPrefix_of_drop text.decimalPart_isPrefix (exponentPart_isPrefix _)) ?_
  rw [List.length_append]
  exact Text.imaginaryMark_isPrefix _

theorem numberLiteral_isPrefix (text : Text) : numberLiteral text <+: text := by
  unfold numberLiteral
  split
  · split
    · exact (List.prefix_cons_inj _).2 ((List.prefix_cons_inj _).2 (List.takeWhile_prefix _))
    · exact numberLiteral.decimal_isPrefix _
  · exact numberLiteral.decimal_isPrefix _

theorem operator?_isPrefixOf
    {text operator : Text}
    (found : operator? text = some operator) :
    operator.isPrefixOf text := by
  unfold operator? at found
  exact List.find?_some (p := fun listed => List.isPrefixOf listed text) found

theorem operator?_ne_nil
    {text operator : Text}
    (found : operator? text = some operator) :
    operator ≠ [] := by
  have nonempty : ∀ listed ∈ operators, listed ≠ [] := by decide
  exact nonempty operator (List.mem_of_find?_eq_some found)

theorem decimalPart_ne_nil
    {c : Char} {rest : Text}
    (starts : startsNumber c rest) :
    Text.decimalPart (c :: rest) ≠ [] := by
  unfold startsNumber at starts
  unfold Text.decimalPart
  dsimp only
  split
  · simp
  · next notPoint =>
      cases digit : isDigitOrUnderscore c with
      | true => simp [digit]
      | false =>
          have notDigit : c.isDigit = false := by
            unfold isDigitOrUnderscore at digit
            simp_all
          simp only [notDigit, Bool.false_or, Bool.and_eq_true, beq_iff_eq] at starts
          exact absurd (by rw [List.dropWhile_cons, digit, starts.1]; rfl) (notPoint rest)

theorem numberLiteral_ne_nil
    {c : Char} {rest : Text}
    (starts : startsNumber c rest) :
    numberLiteral (c :: rest) ≠ [] := by
  have decimal : numberLiteral.decimal (c :: rest) ≠ [] := by
    unfold numberLiteral.decimal
    simp [decimalPart_ne_nil starts]
  unfold numberLiteral
  split
  · split
    · simp
    · exact decimal
  · exact decimal

namespace Lexeme

theorem text_ofQuote_isPrefix (letters : Text) (mark : Char) (rest : Text) :
    (ofQuote letters mark rest).text <+: letters ++ mark :: rest := by
  unfold ofQuote
  dsimp only
  split
  · next inside closed =>
      rw [List.append_assoc]
      exact (List.prefix_append_right_inj _).2
        (append_isPrefix_of_drop (Quote.text_opening_isPrefix mark rest)
          (Quote.closed?_isPrefix closed))
  · split
    · exact List.prefix_rfl
    · exact (List.prefix_append_right_inj _).2 ⟨rest, rfl⟩

theorem text_first_isPrefix (c : Char) (rest : Text) : (first c rest).text <+: c :: rest := by
  fun_cases first c rest with
  | case1 => exact ⟨rest, rfl⟩
  | case2 => exact (List.prefix_cons_inj _).2 (List.takeWhile_prefix _)
  | case3 => exact List.prefix_rfl
  | case4 => exact List.prefix_rfl
  | case5 => exact ⟨rest, rfl⟩
  | case6 => exact text_ofQuote_isPrefix [] c rest
  | case7 => exact numberLiteral_isPrefix _
  | case8 _ _ _ _ _ _ _ name mark after dropped _ =>
      have parts := List.takeWhile_append_dropWhile (p := continuesName) (l := rest)
      rw [dropped] at parts
      have opened := text_ofQuote_isPrefix name mark after
      rwa [List.cons_append, parts] at opened
  | case9 => exact (List.prefix_cons_inj _).2 (List.takeWhile_prefix _)
  | case10 => exact (List.prefix_cons_inj _).2 (List.takeWhile_prefix _)
  | case11 _ _ _ _ _ _ _ operator found =>
      exact List.isPrefixOf_iff_prefix.1 (operator?_isPrefixOf found)
  | case12 => exact ⟨rest, rfl⟩

theorem text_ofQuote_ne_nil (letters : Text) (mark : Char) (rest : Text) :
    (ofQuote letters mark rest).text ≠ [] := by
  unfold ofQuote
  dsimp only
  split
  · simp [Quote.text_ne_nil]
  · split <;> simp

theorem text_first_ne_nil (c : Char) (rest : Text) : (first c rest).text ≠ [] := by
  fun_cases first c rest with
  | case1 | case2 | case3 | case4 | case5 | case9 | case10 | case12 => exact List.cons_ne_nil _ _
  | case6 => exact text_ofQuote_ne_nil [] c rest
  | case7 _ _ _ _ _ starts => exact numberLiteral_ne_nil starts
  | case8 _ _ _ _ _ _ _ name mark after => exact text_ofQuote_ne_nil name mark after
  | case11 _ _ _ _ _ _ _ operator found => exact operator?_ne_nil found

end Lexeme

/-- Nothing of a line is lost. -/
theorem flatMap_text_lexemes (line : Text) : (lexemes line).flatMap Lexeme.text = line := by
  fun_induction lexemes line with
  | case1 => rfl
  | case2 c rest lexeme inductionHypothesis =>
      obtain ⟨behind, parts⟩ := Lexeme.text_first_isPrefix c rest
      obtain ⟨first, later, text⟩ := List.exists_cons_of_ne_nil (Lexeme.text_first_ne_nil c rest)
      rw [List.flatMap_cons, inductionHypothesis]
      show (Lexeme.first c rest).text ++ rest.drop ((Lexeme.first c rest).text.length - 1) = _
      rw [text] at parts ⊢
      obtain ⟨rfl, rfl⟩ := List.cons.inj parts
      simp

end Pipescript
