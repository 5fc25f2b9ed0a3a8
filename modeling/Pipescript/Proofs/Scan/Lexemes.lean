import Pipescript.Script.LexemeText

/-!
# Going through a line

A line is empty, or its first lexeme stands before another line.  What is proved for lines in this
way needs neither columns nor lengths.
-/

namespace Pipescript

/-- The lexemes of a line are its first one and those of the text behind it. -/
theorem exists_lexemes_cons (c : Char) (rest : Text) :
    ∃ behind, c :: rest = (Lexeme.first c rest).text ++ behind ∧
      lexemes (c :: rest) = Lexeme.first c rest :: lexemes behind := by
  obtain ⟨behind, parts⟩ := Lexeme.text_first_isPrefix c rest
  refine ⟨behind, parts.symm, ?_⟩
  obtain ⟨first, later, text⟩ := List.exists_cons_of_ne_nil (Lexeme.text_first_ne_nil c rest)
  have remaining : rest.drop ((Lexeme.first c rest).text.length - 1) = behind := by
    rw [text] at parts ⊢
    rw [← (List.cons.inj parts).2]
    exact List.drop_left
  rw [lexemes, remaining]

@[simp]
theorem lexemes_nil : lexemes [] = [] := by
  rw [lexemes]

/-- A text is empty or a lexeme before a text. -/
@[elab_as_elim]
theorem lexemeInduction
    {motive : Text → Prop}
    (empty : motive [])
    (lexeme : ∀ (c : Char) (rest behind : Text),
      c :: rest = (Lexeme.first c rest).text ++ behind →
      lexemes (c :: rest) = Lexeme.first c rest :: lexemes behind →
      motive behind → motive (c :: rest))
    (text : Text) :
    motive text := by
  induction size : text.length using Nat.strongRecOn generalizing text with
  | ind size inductionHypothesis =>
      cases text with
      | nil => exact empty
      | cons c rest =>
          obtain ⟨behind, parts, cut⟩ := exists_lexemes_cons c rest
          refine lexeme c rest behind parts cut (inductionHypothesis behind.length ?_ behind rfl)
          have positive := List.length_pos_iff.2 (Lexeme.text_first_ne_nil c rest)
          have whole := congrArg List.length parts
          rw [List.length_append, size] at whole
          omega

namespace Lexeme

/-- What is known of a lexeme by its kind, where that matters. -/
def FitsKind (lexeme : Lexeme) (c : Char) (rest : Text) : Prop :=
  match lexeme.kind with
  | .blank => isMarginChar c ∧ lexeme.text = [c]
  | .joint => c = '\\' ∧ isLineEnd rest ∧ lexeme.text = c :: rest
  | .operator => operator? (c :: rest) = some lexeme.text
  | .openString quote => isQuoteMark quote.mark ∧ lexeme.text = c :: rest
  | _ => True

theorem ofQuote_fitsKind
    {letters after : Text} {mark c : Char} {rest : Text}
    (isMark : isQuoteMark mark)
    (parts : letters ++ mark :: after = c :: rest) :
    (ofQuote letters mark after).FitsKind c rest := by
  unfold ofQuote
  dsimp only
  split
  · trivial
  · split
    · exact ⟨isMark, parts⟩
    · trivial

theorem first_fitsKind (c : Char) (rest : Text) : (first c rest).FitsKind c rest := by
  fun_cases first c rest with
  | case1 margin => exact ⟨margin, rfl⟩
  | case2 | case3 | case5 | case7 | case9 | case10 | case12 => trivial
  | case4 _ _ _ escapes lineEnd => exact ⟨escapes, lineEnd, rfl⟩
  | case6 _ _ _ _ isMark => exact ofQuote_fitsKind isMark rfl
  | case8 _ _ _ _ _ _ _ name mark after dropped opens =>
      refine ofQuote_fitsKind (Bool.and_eq_true _ _ ▸ opens).1 ?_
      rw [← dropped]
      exact congrArg (c :: ·) List.takeWhile_append_dropWhile
  | case11 _ _ _ _ _ _ _ operator found => exact found

end Lexeme

end Pipescript
