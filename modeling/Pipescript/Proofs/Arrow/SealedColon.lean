import Pipescript.Proofs.Arrow.Sealed

/-!
# The colons that are sealed

At most one colon of a stretch has an input gate before it, since no expression goes on with a colon.
Several colons may have output gates behind them, where one is in a literal of another gate; the
rightmost of them is sealed.
-/

namespace Pipescript

/-- A colon with an input gate before it. -/
structure IsInputColon (stretch gate behind : Text) : Prop where
  parts : stretch = gate ++ ':' :: behind
  isGate : isGate .input gate

/-- The rightmost colon with an output gate behind it. -/
structure IsOutputColon (stretch front gate : Text) : Prop where
  parts : stretch = front ++ ':' :: gate
  isGate : isGate .output gate
  rightmost : ∀ inside later, gate = inside ++ ':' :: later → Pipescript.isGate .output later = false

/-- Two characters of a text are the same one, or one stands behind the other. -/
theorem place_cases
    {front behind otherFront otherBehind : Text} {c d : Char}
    (same : front ++ c :: behind = otherFront ++ d :: otherBehind) :
    (otherFront = front ∧ d = c ∧ otherBehind = behind) ∨
      (∃ between, otherFront = front ++ c :: between ∧ behind = between ++ d :: otherBehind) ∨
      ∃ between, front = otherFront ++ d :: between ∧ otherBehind = between ++ c :: behind := by
  rcases List.append_eq_append_iff.1 same with ⟨more, rfl, shape⟩ | ⟨more, rfl, shape⟩
  · cases more with
    | nil =>
        obtain ⟨rfl, rfl⟩ := List.cons.inj shape
        exact .inl ⟨List.append_nil _, rfl, rfl⟩
    | cons e between =>
        obtain ⟨rfl, rfl⟩ := List.cons.inj shape
        exact .inr (.inl ⟨between, rfl, rfl⟩)
  · cases more with
    | nil =>
        obtain ⟨rfl, rfl⟩ := List.cons.inj shape
        exact .inl ⟨(List.append_nil _).symm, rfl, rfl⟩
    | cons e between =>
        obtain ⟨rfl, rfl⟩ := List.cons.inj shape
        exact .inr (.inr ⟨between, rfl, rfl⟩)

/-- If one comma comes from one colon, all commas that come from colons are this one. -/
theorem eq_of_replaced
    {front behind kept otherFront otherBehind : Text}
    (same : front ++ ':' :: behind = otherFront ++ ':' :: otherBehind)
    (replaced : front ++ ',' :: kept = otherFront ++ ',' :: otherBehind) :
    otherFront = front ∧ otherBehind = behind ∧ kept = behind := by
  rcases place_cases same with
    ⟨rfl, -, rfl⟩ | ⟨between, rfl, -⟩ | ⟨between, rfl, -⟩
  · exact ⟨rfl, rfl, (List.cons.inj (List.append_cancel_left replaced)).2⟩
  · rw [List.append_assoc] at replaced
    exact absurd (List.cons.inj (List.append_cancel_left replaced)).1 (by decide)
  · rw [List.append_assoc] at replaced
    exact absurd (List.cons.inj (List.append_cancel_left replaced)).1 (by decide)

section Colons

variable {stretch front gate behind : Text}

/-! ## The input gate -/

/-- A gate does not go on behind another one with a colon. -/
theorem not_isGate_gate_append
    {side : GateSide}
    (gateAlone : isGate side gate)
    (behind : Text) :
    isGate side (gate ++ ':' :: behind) = false := by
  refine Bool.eq_false_iff.2 fun longerGate => ?_
  obtain ⟨pieces, cut, noComment, reached, reading, finished, -⟩ := exists_standsAlone gateAlone
  obtain ⟨longerPieces, longerCut, -⟩ := exists_standsAlone longerGate
  have colonEnds : Text.EndsWord (':' :: behind) :=
    endsWord_cons (by decide +kernel) (by decide) (by decide) behind
  have ends := endsBefore_last reading (Expected.ne_operand_of_ends finished) noComment colonEnds
  rw [← cut.flatMap_text] at longerCut
  rw [← List.append_nil pieces] at cut
  obtain ⟨colonPieces, -, colonCut⟩ := cut.exists_behind (.inr ends) longerCut
  exact colonCut.not_colon_cons

theorem IsInputColon.unique
    {otherGate otherBehind : Text}
    (colon : IsInputColon stretch gate behind)
    (other : IsInputColon stretch otherGate otherBehind) :
    otherGate = gate ∧ otherBehind = behind := by
  rcases place_cases (colon.parts.symm.trans other.parts) with
    ⟨sameGate, -, sameBehind⟩ | ⟨between, rfl, -⟩ | ⟨between, rfl, -⟩
  · exact ⟨sameGate, sameBehind⟩
  · exact absurd other.isGate (Bool.eq_false_iff.1 (not_isGate_gate_append colon.isGate between))
  · exact absurd colon.isGate (Bool.eq_false_iff.1 (not_isGate_gate_append other.isGate between))

theorem sealInputGate_of_colon
    (colon : IsInputColon stretch gate behind) :
    sealInputGate stretch = gate ++ ',' :: behind := by
  have edit := isInputEdit_sealInputGate stretch
  generalize sealInputGate stretch = result at edit
  cases edit with
  | comma parts found =>
      obtain ⟨rfl, rfl⟩ := colon.unique ⟨parts, found⟩
      rfl
  | unchanged noGate => exact absurd colon.isGate (Bool.eq_false_iff.1 (noGate _ _ colon.parts))

theorem sealInputGate_of_noColon
    (noColon : ∀ gate behind, ¬ IsInputColon stretch gate behind) :
    sealInputGate stretch = stretch := by
  have edit := isInputEdit_sealInputGate stretch
  generalize sealInputGate stretch = result at edit
  cases edit with
  | comma parts found => exact absurd ⟨parts, found⟩ (noColon _ _)
  | unchanged => rfl

/-! ## The output gate -/

/-- A stretch has a rightmost colon with an output gate behind it, or none with one. -/
theorem outputColon_cases (stretch : Text) :
    (∃ front gate, IsOutputColon stretch front gate ∧
        sealOutputGate stretch = front ++ ',' :: gate) ∨
      ((∀ front gate, stretch = front ++ ':' :: gate → isGate .output gate = false) ∧
        sealOutputGate stretch = stretch) := by
  have edit := isOutputEdit_sealOutputGate stretch
  generalize sealOutputGate stretch = result at edit
  cases edit with
  | @comma front gate parts found rightmost =>
      refine .inl ⟨front, gate, ⟨parts, found, ?_⟩, rfl⟩
      rintro inside later rfl
      refine Bool.eq_false_iff.2 fun laterGate => ?_
      have shorter := rightmost (front ++ ':' :: inside) later (by rw [parts]; simp) laterGate
      rw [List.length_append, List.length_cons] at shorter
      omega
  | unchanged noGate => exact .inr ⟨noGate, rfl⟩

theorem IsOutputColon.unique
    {otherFront otherGate : Text}
    (colon : IsOutputColon stretch front gate)
    (other : IsOutputColon stretch otherFront otherGate) :
    otherFront = front ∧ otherGate = gate := by
  rcases place_cases (colon.parts.symm.trans other.parts) with
    ⟨sameFront, -, sameGate⟩ | ⟨between, -, parts⟩ | ⟨between, -, parts⟩
  · exact ⟨sameFront, sameGate⟩
  · exact absurd other.isGate (Bool.eq_false_iff.1 (colon.rightmost _ _ parts))
  · exact absurd colon.isGate (Bool.eq_false_iff.1 (other.rightmost _ _ parts))

theorem sealOutputGate_of_colon
    (colon : IsOutputColon stretch front gate) :
    sealOutputGate stretch = front ++ ',' :: gate := by
  rcases outputColon_cases stretch with ⟨otherFront, otherGate, other, sealed⟩ | ⟨noGate, -⟩
  · obtain ⟨rfl, rfl⟩ := colon.unique other
    exact sealed
  · exact absurd colon.isGate (Bool.eq_false_iff.1 (noGate _ _ colon.parts))

theorem sealOutputGate_eq_self_iff :
    sealOutputGate stretch = stretch ↔
      ∀ front gate, stretch = front ++ ':' :: gate → isGate .output gate = false := by
  constructor
  · intro same
    rcases outputColon_cases stretch with ⟨front, gate, colon, sealed⟩ | ⟨noGate, -⟩
    · have impossible := List.append_cancel_left (colon.parts.symm.trans (same.symm.trans sealed))
      exact absurd (List.cons.inj impossible).1 (by decide)
    · exact noGate
  · intro noGate
    rcases outputColon_cases stretch with ⟨front, gate, colon, -⟩ | ⟨-, same⟩
    · exact absurd colon.isGate (Bool.eq_false_iff.1 (noGate _ _ colon.parts))
    · exact same

/-- If a colon becomes a comma, it is the rightmost one with an output gate behind it, and nothing
else changes. -/
theorem isOutputColon_of_sealed
    {kept : Text}
    (parts : stretch = front ++ ':' :: gate)
    (sealed : sealOutputGate stretch = front ++ ',' :: kept) :
    kept = gate ∧ IsOutputColon stretch front gate := by
  rcases outputColon_cases stretch with ⟨otherFront, otherGate, colon, otherSealed⟩ | ⟨-, same⟩
  · obtain ⟨rfl, rfl, rfl⟩ := eq_of_replaced (parts.symm.trans colon.parts)
      (sealed.symm.trans otherSealed)
    exact ⟨rfl, colon⟩
  · have impossible := List.append_cancel_left (parts.symm.trans (same.symm.trans sealed))
    exact absurd (List.cons.inj impossible).1 (by decide)

theorem sealOutputGate_ne_of_twoColons
    {second : Text}
    (parts : stretch = front ++ ':' :: (second ++ ':' :: gate)) :
    sealOutputGate stretch ≠ front ++ ',' :: (second ++ ',' :: gate) := by
  intro sealed
  obtain ⟨impossible, -⟩ := isOutputColon_of_sealed parts sealed
  exact absurd (List.cons.inj (List.append_cancel_left impossible)).1 (by decide)

end Colons

end Pipescript
