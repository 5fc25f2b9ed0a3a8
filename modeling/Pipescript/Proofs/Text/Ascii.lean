import Pipescript.Text.Digits

/-!
# Letters and digits one by one

Numbers are made of ASCII letters and digits.  All of them may continue a name.
-/

namespace Pipescript

/-- The code points of the ASCII letters and digits. -/
def alphanumPoints : List Nat :=
  List.range' 0x30 10 ++ List.range' 0x41 26 ++ List.range' 0x61 26

theorem isAlphanum_iff
    {c : Char} :
    c.isAlphanum ↔ (65 ≤ c.toNat ∧ c.toNat ≤ 90) ∨ (97 ≤ c.toNat ∧ c.toNat ≤ 122) ∨
      (48 ≤ c.toNat ∧ c.toNat ≤ 57) := by
  have ranges : c.isAlphanum =
      ((decide (65 ≤ c.val ∧ c.val ≤ 90) ||
        (decide (97 ≤ c.val) && decide (c.val ≤ 122))) ||
        (decide (48 ≤ c.val) && decide (c.val ≤ 57))) := rfl
  rw [ranges]
  simp only [Bool.or_eq_true, Bool.and_eq_true, decide_eq_true_eq, UInt32.le_iff_toNat_le]
  exact or_assoc

theorem mem_alphanumPoints_of_isAlphanum
    {c : Char}
    (alphanum : c.isAlphanum) :
    c.toNat ∈ alphanumPoints := by
  have bounds := isAlphanum_iff.1 alphanum
  simp only [alphanumPoints, List.mem_append, List.mem_range'_1]
  omega

/-- A property of characters holds of all letters and digits if it does of the listed ones. -/
theorem forall_isAlphanum
    {property : Char → Prop}
    (every : ∀ point ∈ alphanumPoints, property (Char.ofNat point))
    {c : Char}
    (alphanum : c.isAlphanum) :
    property c := by
  have found := every c.toNat (mem_alphanumPoints_of_isAlphanum alphanum)
  rwa [Char.ofNat_toNat] at found

theorem continuesName_of_isAlphanum
    {c : Char}
    (alphanum : c.isAlphanum) :
    continuesName c := by
  refine @forall_isAlphanum (fun c => continuesName c) ?_ c alphanum
  decide +kernel

theorem isAlphanum_of_isDigit
    {c : Char}
    (digit : c.isDigit) :
    c.isAlphanum := by
  simp [Char.isAlphanum, digit]

theorem continuesName_of_isDigitOrUnderscore
    {c : Char}
    (digit : isDigitOrUnderscore c) :
    continuesName c := by
  simp only [isDigitOrUnderscore, Bool.or_eq_true, beq_iff_eq] at digit
  rcases digit with digit | rfl
  · exact continuesName_of_isAlphanum (isAlphanum_of_isDigit digit)
  · decide +kernel

theorem isAlphanum_of_isDigitOf
    {base : Nat} {c : Char}
    (digit : isDigitOf base c) :
    c.isAlphanum := by
  obtain ⟨value, found, -⟩ := (Option.any_eq_true _ _).1 digit
  unfold digitValue? at found
  split at found
  · next digit => exact isAlphanum_of_isDigit digit
  split at found
  · next lower =>
      simp only [Bool.and_eq_true, decide_eq_true_eq] at lower
      have first : 97 ≤ c.toNat := UInt32.le_iff_toNat_le.1 lower.1
      have last : c.toNat ≤ 102 := UInt32.le_iff_toNat_le.1 lower.2
      exact isAlphanum_iff.2 (.inr (.inl ⟨first, by omega⟩))
  split at found
  · next upper =>
      simp only [Bool.and_eq_true, decide_eq_true_eq] at upper
      have first : 65 ≤ c.toNat := UInt32.le_iff_toNat_le.1 upper.1
      have last : c.toNat ≤ 70 := UInt32.le_iff_toNat_le.1 upper.2
      exact isAlphanum_iff.2 (.inl ⟨first, by omega⟩)
  · simp at found

end Pipescript
