import Pipescript.Proofs.Arrow.SealedColon

/-!
# The search for a gate

The search for the gate next to an arrow stops at a colon with nothing but blanks between the arrow
and it.  It finds the same gate as a search that looks at all colons would: the nearest one, if
there is any.
-/

namespace Pipescript

/-- The leftmost colon with an input gate before it. -/
structure IsNearestInputColon (segment gate behind : Text) : Prop
    extends IsInputColon segment gate behind where
  leftmost : ∀ earlier inside, gate = earlier ++ ':' :: inside →
    Pipescript.isGate .input earlier = false

section Search

variable {segment front gate behind : Text}

theorem isOutputColon_of_walkToGate
    (found : walkToGate .output [] segment.reverse = some (gate, front.reverse)) :
    IsOutputColon segment front gate := by
  obtain ⟨passed, colon, rfl, isGate, first⟩ := isFirst_of_walkToGate_eq_some found
  simp only [List.append_nil, GateSide.passedText] at isGate first ⊢
  have parts : segment = front ++ ':' :: passed.reverse := by
    simpa using congrArg List.reverse colon
  refine ⟨parts, isGate, fun inside later shape => ?_⟩
  refine Bool.eq_false_iff.2 fun laterGate => ?_
  have nearer := first later.reverse (inside.reverse ++ ':' :: front.reverse)
    (by rw [parts, shape]; simp) (by rwa [List.reverse_reverse])
  have longer := congrArg List.length shape
  simp only [List.length_reverse, List.length_append, List.length_cons] at nearer longer
  omega

theorem isNearestInputColon_of_walkToGate
    (found : walkToGate .input [] segment = some (gate.reverse, behind)) :
    IsNearestInputColon segment gate behind := by
  obtain ⟨passed, rfl, reached, isGate, first⟩ := isFirst_of_walkToGate_eq_some found
  simp only [List.append_nil, GateSide.passedText, List.reverse_reverse] at reached isGate first
  obtain rfl := List.reverse_injective reached
  refine ⟨⟨rfl, isGate⟩, fun earlier inside shape => ?_⟩
  refine Bool.eq_false_iff.2 fun earlierGate => ?_
  have nearer := first earlier (inside ++ ':' :: behind) (by rw [shape]; simp) earlierGate
  have longer := congrArg List.length shape
  simp only [List.length_append, List.length_cons] at longer
  omega

theorem walkToGate_output_eq_none_iff :
    walkToGate .output [] segment.reverse = none ↔
      ∀ front gate, segment = front ++ ':' :: gate → isGate .output gate = false := by
  constructor
  · rintro nothing front gate rfl
    simpa [GateSide.passedText] using isGate_of_walkToGate_eq_none nothing
      (show (front ++ ':' :: gate).reverse = gate.reverse ++ ':' :: front.reverse by simp)
  · intro noGate
    refine Option.eq_none_iff_forall_not_mem.2 ?_
    rintro ⟨gate, ahead⟩ found
    rw [← List.reverse_reverse ahead] at found
    have colon := isOutputColon_of_walkToGate found
    exact absurd colon.isGate (Bool.eq_false_iff.1 (noGate _ _ colon.parts))

theorem walkToGate_input_eq_none_iff :
    walkToGate .input [] segment = none ↔
      ∀ gate behind, segment = gate ++ ':' :: behind → isGate .input gate = false := by
  constructor
  · intro nothing gate behind colon
    simpa [GateSide.passedText] using isGate_of_walkToGate_eq_none nothing colon
  · intro noGate
    refine Option.eq_none_iff_forall_not_mem.2 ?_
    rintro ⟨reached, behind⟩ found
    rw [← List.reverse_reverse reached] at found
    have colon := isNearestInputColon_of_walkToGate found
    exact absurd colon.isGate (Bool.eq_false_iff.1 (noGate _ _ colon.parts))

/-- A search finds the colon that it should: there is one, so it finds some, and no other one is. -/
theorem walkToGate_output_eq_some_iff :
    walkToGate .output [] segment.reverse = some (gate, front.reverse) ↔
      IsOutputColon segment front gate := by
  refine ⟨isOutputColon_of_walkToGate, fun colon => ?_⟩
  cases found : walkToGate .output [] segment.reverse with
  | none =>
      have noGate := walkToGate_output_eq_none_iff.1 found _ _ colon.parts
      exact absurd colon.isGate (Bool.eq_false_iff.1 noGate)
  | some reached =>
      obtain ⟨reachedGate, ahead⟩ := reached
      rw [← List.reverse_reverse ahead] at found
      obtain ⟨sameFront, sameGate⟩ := colon.unique (isOutputColon_of_walkToGate found)
      rw [sameGate, ← sameFront, List.reverse_reverse]

theorem walkToGate_input_eq_some_iff :
    walkToGate .input [] segment = some (gate.reverse, behind) ↔
      IsNearestInputColon segment gate behind := by
  refine ⟨isNearestInputColon_of_walkToGate, fun colon => ?_⟩
  cases found : walkToGate .input [] segment with
  | none =>
      have noGate := walkToGate_input_eq_none_iff.1 found _ _ colon.parts
      exact absurd colon.isGate (Bool.eq_false_iff.1 noGate)
  | some reached =>
      obtain ⟨passed, ahead⟩ := reached
      rw [← List.reverse_reverse passed] at found
      obtain ⟨sameGate, sameBehind⟩ :=
        colon.toIsInputColon.unique (isNearestInputColon_of_walkToGate found).toIsInputColon
      rw [← sameGate, sameBehind, List.reverse_reverse]

end Search

/-- Of a segment the colon is sealed that is rightmost among those with an output gate behind them,
or leftmost among those with an input gate before them.  A search that stops early finds it whenever
there is one, and where it finds none, no colon of the segment has such a gate and the segment stays
as it is. -/
theorem walkToGate_finds_nearest (segment : Text) :
    (∀ front gate, IsOutputColon segment front gate ↔
      walkToGate .output [] segment.reverse = some (gate, front.reverse)) ∧
    (∀ front gate, IsOutputColon segment front gate →
      sealOutputGate segment = front ++ ',' :: gate) ∧
    (walkToGate .output [] segment.reverse = none ↔
      ∀ front gate, segment = front ++ ':' :: gate → isGate .output gate = false) ∧
    (walkToGate .output [] segment.reverse = none → sealOutputGate segment = segment) ∧
    (∀ gate behind, IsNearestInputColon segment gate behind ↔
      walkToGate .input [] segment = some (gate.reverse, behind)) ∧
    (∀ gate behind, IsNearestInputColon segment gate behind →
      sealInputGate segment = gate ++ ',' :: behind) ∧
    (walkToGate .input [] segment = none ↔
      ∀ gate behind, segment = gate ++ ':' :: behind → isGate .input gate = false) ∧
    (walkToGate .input [] segment = none → sealInputGate segment = segment) :=
  ⟨fun _ _ => walkToGate_output_eq_some_iff.symm, fun _ _ => sealOutputGate_of_colon,
    walkToGate_output_eq_none_iff, fun nothing => by rw [sealOutputGate, nothing],
    fun _ _ => walkToGate_input_eq_some_iff.symm,
    fun _ _ colon => sealInputGate_of_colon colon.toIsInputColon,
    walkToGate_input_eq_none_iff, fun nothing => by rw [sealInputGate, nothing]⟩

/-- A literal that begins with a colon does not end the search. -/
example : sealOutputGate "a:\':\' ".toList = "a,\':\' ".toList := by
  cbv

end Pipescript
