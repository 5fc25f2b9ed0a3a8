import Pipescript.Proofs.Arrow.Order
import Pipescript.Proofs.Scan.TokenPlace

/-!
# Where arrows are found

Of the two forms of an arrow only the operator `->` occurs among the tokens of a script, because an
operator is the longest one at its place.  So the arrows of a script are its operators `->`, and
each of them stands in the script: a minus sign at its place and a greater-than sign behind it.
-/

namespace Pipescript

namespace Arrow

/-- Whether a script has an arrow at a place. -/
def StandsIn (script : Text) (arrow : Arrow) : Prop :=
  script.charAt? arrow.row arrow.column = some '-' ∧
    script.charAt? arrow.row (arrow.column + 1) = some '>'

/-- An arrow at the place of an operator `->`, or at that of a minus sign with a greater-than sign
behind it. -/
theorem mem_findFrom_cons
    {before? : Option Token} {token : Token} {later : List Token} {arrow : Arrow}
    (member : arrow ∈ findFrom before? (token :: later)) :
    (token.isOperator arrowText ∧ arrow = ⟨token.row - 1, token.column⟩) ∨
      (token.isOperator ['>'] ∧
        ∃ before, before? = some before ∧ isMinusBefore token before ∧
          arrow = ⟨token.row - 1, before.column⟩) ∨
      arrow ∈ findFrom (some token) later := by
  rw [findFrom] at member
  rcases List.mem_append.1 member with here | behind
  · split at here
    · next whole =>
        exact Or.inl ⟨whole, by simpa using here⟩
    · split at here
      · next greater =>
          obtain ⟨before, found, rfl⟩ := Option.map_eq_some_iff.1 (Option.mem_toList.1 here)
          obtain ⟨isBefore, minus⟩ := Option.filter_eq_some_iff.1 found
          exact Or.inr (Or.inl ⟨greater, before, isBefore, minus, rfl⟩)
      · simp at here
  · exact Or.inr (Or.inr behind)

theorem operator_of_isOperator
    {token : Token} {text : Text}
    (isOperator : token.isOperator text) :
    token.kind = .operator ∧ token.text = text := by
  simpa [Token.isOperator] using isOperator

/-- The characters of a token that is part of a row stand side by side from its place on. -/
theorem charAt?_of_isPartOf
    {script : Text} {token : Token} {index : Nat} {c : Char}
    (part : token.IsPartOf script)
    (inside : token.text[index]? = some c) :
    script.charAt? (token.row - 1) (token.column + index) = some c := by
  obtain ⟨row, line, sameRow, atRow, rest, parts⟩ := part
  refine Text.charAt?_eq_some_iff.2 ⟨line, by rw [sameRow]; exact atRow, ?_⟩
  obtain ⟨bound, _⟩ := List.getElem?_eq_some_iff.1 inside
  rw [← List.getElem?_drop, ← parts, List.getElem?_append_left bound]
  exact inside

/-- The operator `->` is an arrow. -/
theorem mem_findFrom_of_isOperator
    {before? : Option Token} {tokens : List Token} {token : Token}
    (member : token ∈ tokens)
    (whole : token.isOperator arrowText) :
    (⟨token.row - 1, token.column⟩ : Arrow) ∈ findFrom before? tokens := by
  induction tokens generalizing before? with
  | nil => exact absurd member List.not_mem_nil
  | cons first later inductionHypothesis =>
      rw [findFrom]
      rcases List.mem_cons.1 member with rfl | memberLater
      · rw [if_pos whole]
        exact List.mem_append_left _ List.mem_cons_self
      · exact List.mem_append_right _ (inductionHypothesis memberLater)

/-- A minus sign with a greater-than sign behind it is never scanned as two operators. -/
theorem not_isMinusBefore_of_scan
    {script : Text} {token before : Token}
    (member : token ∈ (scan script).tokens)
    (beforeMember : before ∈ (scan script).tokens)
    (greater : token.isOperator ['>']) :
    isMinusBefore token before = false := by
  refine Bool.eq_false_iff.2 fun isBefore => ?_
  simp only [isMinusBefore, Bool.and_eq_true, beq_iff_eq] at isBefore
  obtain ⟨⟨minus, sameRow⟩, adjacent⟩ := isBefore
  obtain ⟨operator, text⟩ := operator_of_isOperator greater
  obtain ⟨minusOperator, minusText⟩ := operator_of_isOperator minus
  obtain ⟨row, line, tokenRow, atRow, stands⟩ := isOperatorIn_of_scan member operator
  obtain ⟨otherRow, otherLine, beforeRow, atOtherRow, minusStands⟩ :=
    isOperatorIn_of_scan beforeMember minusOperator
  obtain rfl : otherRow = row := by omega
  obtain rfl : otherLine = line := Option.some.inj (atOtherRow.symm.trans atRow)
  unfold Token.IsOperatorIn at stands minusStands
  rw [text] at stands
  rw [minusText] at minusStands
  obtain ⟨behindGreater, greaterParts⟩ :=
    List.isPrefixOf_iff_prefix.1 (operator?_isPrefixOf stands)
  obtain ⟨behindMinus, minusParts⟩ :=
    List.isPrefixOf_iff_prefix.1 (operator?_isPrefixOf minusStands)
  have follows : otherLine.drop token.column = behindMinus := by
    rw [← adjacent, ← List.drop_drop, ← minusParts]
    rfl
  rw [← minusParts, ← follows, ← greaterParts] at minusStands
  have longest : operator? ('-' :: '>' :: behindGreater) = some arrowText := by
    simp [operator?, operators, arrowText]
  exact absurd (longest.symm.trans minusStands) (by decide)

/-- The arrows of a script are its operators `->`. -/
theorem mem_find_scan
    {script : Text} {arrow : Arrow} :
    arrow ∈ find (scan script).tokens ↔
      ∃ token ∈ (scan script).tokens, token.isOperator arrowText ∧
        arrow = ⟨token.row - 1, token.column⟩ := by
  constructor
  · have general : ∀ (tokens : List Token) (before? : Option Token),
        (∀ token ∈ before?.toList ++ tokens, token ∈ (scan script).tokens) →
        arrow ∈ findFrom before? tokens →
        ∃ token ∈ tokens, token.isOperator arrowText ∧
          arrow = ⟨token.row - 1, token.column⟩ := by
      intro tokens
      induction tokens with
      | nil =>
          intro before? _ member
          exact absurd member List.not_mem_nil
      | cons token later inductionHypothesis =>
          intro before? scanned member
          rcases mem_findFrom_cons member with
            ⟨whole, place⟩ | ⟨greater, before, rfl, minus, -⟩ | behind
          · exact ⟨token, List.mem_cons_self, whole, place⟩
          · have noMinus := not_isMinusBefore_of_scan (scanned token (by simp))
              (scanned before (by simp)) greater
            exact absurd minus (by simp [noMinus])
          · obtain ⟨found, foundMember, whole, place⟩ := inductionHypothesis (some token)
              (fun tested testedMember => scanned tested (List.mem_append_right _ testedMember))
              behind
            exact ⟨found, List.mem_cons_of_mem _ foundMember, whole, place⟩
    exact general _ none fun token member => member
  · rintro ⟨token, member, whole, rfl⟩
    exact mem_findFrom_of_isOperator member whole

/-- Every arrow that is found among the tokens of a script stands in the script. -/
theorem standsIn_of_find_scan
    {script : Text} {arrow : Arrow}
    (member : arrow ∈ find (scan script).tokens) :
    arrow.StandsIn script := by
  obtain ⟨token, tokenMember, whole, rfl⟩ := mem_find_scan.1 member
  obtain ⟨operator, text⟩ := operator_of_isOperator whole
  have part := operator_of_scan tokenMember operator
  have minus : token.text[0]? = some '-' := by rw [text]; rfl
  have greater : token.text[1]? = some '>' := by rw [text]; rfl
  exact ⟨charAt?_of_isPartOf part minus, charAt?_of_isPartOf part greater⟩

end Arrow

end Pipescript
