import Pipescript.Proofs.Arrow.Place

/-!
# The order of arrows

Sorting keeps the arrows and puts each of them strictly before all later ones.
-/

namespace Pipescript

namespace Arrow

theorem precedes_iff {left right : Arrow} :
    left.precedes right ↔
      left.row < right.row ∨ (left.row = right.row ∧ left.column ≤ right.column) := by
  simp [precedes]

theorem precedes_refl (place : Arrow) : place.precedes place :=
  precedes_iff.2 (.inr ⟨rfl, Nat.le_refl _⟩)

theorem precedes_trans
    {left middle right : Arrow}
    (first : left.precedes middle)
    (second : middle.precedes right) :
    left.precedes right := by
  rw [precedes_iff] at *
  omega

theorem row_le_of_precedes {left right : Arrow} (ordered : left.precedes right) :
    left.row ≤ right.row := by
  rw [precedes_iff] at ordered
  omega

/-- Whether a place comes strictly before another one, row by row and column by column. -/
def Before (left right : Arrow) : Prop :=
  left.row < right.row ∨ (left.row = right.row ∧ left.column < right.column)

theorem Before.trans
    {left middle right : Arrow}
    (first : left.Before middle)
    (second : middle.Before right) :
    left.Before right := by
  unfold Before at *
  omega

theorem Before.row_le {left right : Arrow} (before : left.Before right) : left.row ≤ right.row := by
  unfold Before at before
  omega

instance : Std.Irrefl Before where
  irrefl place same := by
    unfold Before at same
    omega

instance : Std.Antisymm Before where
  antisymm left right first second := by
    unfold Before at first second
    omega

theorem before_of_precedes
    {left right : Arrow}
    (different : left ≠ right)
    (ordered : left.precedes right) :
    left.Before right := by
  obtain ⟨row, column⟩ := left
  obtain ⟨otherRow, otherColumn⟩ := right
  simp only [precedes_iff] at ordered
  simp only [ne_eq, mk.injEq, not_and] at different
  unfold Before
  dsimp only
  omega

theorem before_of_not_precedes
    {left right : Arrow}
    (unordered : ¬ left.precedes right) :
    right.Before left := by
  rw [precedes_iff] at unordered
  unfold Before
  omega

theorem mem_insertSorted {arrow tested : Arrow} {arrows : List Arrow} :
    tested ∈ insertSorted arrow arrows ↔ tested = arrow ∨ tested ∈ arrows := by
  induction arrows with
  | nil => simp [insertSorted]
  | cons first later inductionHypothesis =>
      rw [insertSorted]
      split
      · next same => simp [same]
      · split
        · simp
        · simp only [List.mem_cons, inductionHypothesis]
          exact or_left_comm

theorem pairwise_insertSorted
    {arrow : Arrow} {arrows : List Arrow}
    (ascending : arrows.Pairwise Before) :
    (insertSorted arrow arrows).Pairwise Before := by
  induction arrows with
  | nil => simp [insertSorted]
  | cons first later inductionHypothesis =>
      obtain ⟨firstBefore, laterAscending⟩ := List.pairwise_cons.1 ascending
      rw [insertSorted]
      split
      · exact ascending
      · next different =>
          split
          · next ordered =>
              have arrowBefore : arrow.Before first := before_of_precedes different ordered
              refine List.pairwise_cons.2 ⟨fun tested member => ?_, ascending⟩
              rcases List.mem_cons.1 member with rfl | memberLater
              · exact arrowBefore
              · exact arrowBefore.trans (firstBefore tested memberLater)
          · next unordered =>
              refine List.pairwise_cons.2
                ⟨fun tested member => ?_, inductionHypothesis laterAscending⟩
              rcases mem_insertSorted.1 member with rfl | memberLater
              · exact before_of_not_precedes unordered
              · exact firstBefore tested memberLater

theorem mem_sort {arrow : Arrow} {arrows : List Arrow} :
    arrow ∈ sort arrows ↔ arrow ∈ arrows := by
  induction arrows with
  | nil => rfl
  | cons first later inductionHypothesis =>
      rw [sort, List.foldr_cons]
      change arrow ∈ insertSorted first (sort later) ↔ _
      rw [mem_insertSorted, inductionHypothesis, List.mem_cons]

theorem pairwise_sort (arrows : List Arrow) : (sort arrows).Pairwise Before := by
  induction arrows with
  | nil => exact List.Pairwise.nil
  | cons first later inductionHypothesis => exact pairwise_insertSorted inductionHypothesis

end Arrow

end Pipescript
