import Pipescript.Proofs.Arrow.Place
import Pipescript.Proofs.Scan.Lower
import Pipescript.Script.GateColon

/-!
# Arrows further down

Tokens some rows further down have their arrows as many rows further down, and rows that stand
further down are cut at them into the same pieces.
-/

namespace Pipescript

namespace Arrow

/-! ## Finding arrows -/

theorem isMinusBefore_lower (count : Nat) (token before : Token) :
    isMinusBefore (token.lower count) (before.lower count) = isMinusBefore token before := by
  have sameRow : (before.row + count == token.row + count) = (before.row == token.row) := by
    rw [Bool.eq_iff_iff, beq_iff_eq, beq_iff_eq, Nat.add_right_cancel_iff]
  simp only [isMinusBefore, Token.lower, Token.isOperator, sameRow]

/-- Rows of tokens count from one, those of arrows from zero. -/
theorem findFrom_lower
    {tokens : List Token}
    (rows : ∀ token ∈ tokens, token.kind = .operator → 0 < token.row)
    (count : Nat) (before? : Option Token) :
    findFrom (before?.map (Token.lower count)) (tokens.map (Token.lower count)) =
      (findFrom before? tokens).map (lower count) := by
  induction tokens generalizing before? with
  | nil => rfl
  | cons token later inductionHypothesis =>
      have laterFound := inductionHypothesis
        (fun tested member => rows tested (List.mem_cons_of_mem _ member)) (some token)
      have sameRow : token.kind = .operator → token.row + count - 1 = token.row - 1 + count := by
        intro operator
        have positive := rows token List.mem_cons_self operator
        omega
      have sameKind : ∀ text, (token.lower count).isOperator text = token.isOperator text :=
        fun text => rfl
      rw [Option.map_some] at laterFound
      rw [List.map_cons, findFrom, findFrom, laterFound, List.map_append]
      congr 1
      simp only [sameKind]
      split
      · next whole =>
          have operator : token.kind = .operator := by
            simp only [Token.isOperator, Bool.and_eq_true, beq_iff_eq] at whole
            exact whole.1
          simp [lower, Token.lower, sameRow operator]
      · split
        · next greater =>
            have operator : token.kind = .operator := by
              simp only [Token.isOperator, Bool.and_eq_true, beq_iff_eq] at greater
              exact greater.1
            cases before? with
            | none => rfl
            | some before =>
                rw [Option.map_some, Option.filter_some, Option.filter_some, isMinusBefore_lower]
                split
                · simp [lower, Token.lower, sameRow operator]
                · rfl
        · rfl

/-- What stands before the first token matters only if it is a minus sign. -/
theorem findFrom_some
    {before : Token}
    (noMinus : before.isOperator ['-'] = false)
    (tokens : List Token) :
    findFrom (some before) tokens = findFrom none tokens := by
  cases tokens with
  | nil => rfl
  | cons token later =>
      have notBefore : isMinusBefore token before = false := by
        rw [isMinusBefore, noMinus, Bool.false_and, Bool.false_and]
      simp [findFrom, Option.filter_some, notBefore]

theorem findFrom_append (before? : Option Token) (front : List Token) (last : Token)
    (later : List Token) :
    findFrom before? (front ++ last :: later) =
      findFrom before? (front ++ [last]) ++ findFrom (some last) later := by
  induction front generalizing before? with
  | nil => simp [findFrom]
  | cons token front inductionHypothesis =>
      rw [List.cons_append, List.cons_append, findFrom, findFrom, inductionHypothesis,
        List.append_assoc]

/-! ## Sorting arrows -/

theorem lower_inj {count : Nat} {left right : Arrow} :
    left.lower count = right.lower count ↔ left = right := by
  obtain ⟨row, column⟩ := left
  obtain ⟨otherRow, otherColumn⟩ := right
  simp [lower]

theorem precedes_lower (count : Nat) (left right : Arrow) :
    (left.lower count).precedes (right.lower count) = left.precedes right := by
  have sameLess : decide (left.row + count < right.row + count) =
      decide (left.row < right.row) := decide_eq_decide.2 Nat.add_lt_add_iff_right
  have sameRow : (left.row + count == right.row + count) = (left.row == right.row) := by
    rw [Bool.eq_iff_iff, beq_iff_eq, beq_iff_eq, Nat.add_right_cancel_iff]
  unfold precedes lower
  dsimp only
  rw [sameLess, sameRow]

theorem insertSorted_lower (count : Nat) (arrow : Arrow) (arrows : List Arrow) :
    insertSorted (arrow.lower count) (arrows.map (lower count)) =
      (insertSorted arrow arrows).map (lower count) := by
  induction arrows with
  | nil => rfl
  | cons first later inductionHypothesis =>
      rw [List.map_cons, insertSorted, insertSorted, inductionHypothesis, precedes_lower]
      simp only [lower_inj]
      split
      · rfl
      · split <;> rfl

theorem sort_lower (count : Nat) (arrows : List Arrow) :
    sort (arrows.map (lower count)) = (sort arrows).map (lower count) := by
  induction arrows with
  | nil => rfl
  | cons arrow later inductionHypothesis =>
      unfold sort at *
      rw [List.map_cons, List.foldr_cons, List.foldr_cons, inductionHypothesis,
        insertSorted_lower]

end Arrow

/-! ## Cutting rows -/

theorem cutRows_lower (count row : Nat) (arrows : List Arrow) (lines : List Text) :
    cutRows (row + count) (arrows.map (Arrow.lower count)) lines = cutRows row arrows lines := by
  induction lines generalizing row arrows with
  | nil =>
      rw [cutRows, cutRows, List.map_map]
      rfl
  | cons line lines inductionHypothesis =>
      have sameRow : (fun arrow : Arrow => decide (arrow.row ≤ row + count)) ∘ Arrow.lower count =
          fun arrow : Arrow => decide (arrow.row ≤ row) := by
        funext arrow
        simp [Arrow.lower]
      have nextRow : row + count + 1 = row + 1 + count := by omega
      have sameColumns : Arrow.column ∘ Arrow.lower count = Arrow.column := rfl
      rw [cutRows, cutRows, List.takeWhile_map, List.dropWhile_map, sameRow, nextRow,
        inductionHypothesis, List.map_map, sameColumns]

end Pipescript
