import Pipescript.Proofs.Arrow.SealedColon
import Pipescript.Proofs.Gate.WithReturns
import Pipescript.Proofs.Scan.WithReturns

/-!
# Arrows and gates of texts with carriage returns

With carriage returns before its line feeds a script has the same arrows, so it is cut into the same
stretches.  Of each stretch the same colons become commas, unless the gate of one of them has a
literal with single quotes that goes over a line end.
-/

namespace Pipescript

open Text

/-! ## Stretches -/

namespace Arrow

/-- The text and the arrows between its stretches determine the stretches. -/
theorem stretches_unique
    {left right : List Text}
    (place : Arrow)
    (leftNotEmpty : left ≠ [])
    (rightNotEmpty : right ≠ [])
    (sameText : arrowText.intercalate left = arrowText.intercalate right)
    (samePlaces : place.between left = place.between right) :
    left = right := by
  induction left generalizing place right with
  | nil => exact absurd rfl leftNotEmpty
  | cons first later inductionHypothesis =>
      obtain ⟨other, otherLater, rfl⟩ := List.exists_cons_of_ne_nil rightNotEmpty
      have sameLength := congrArg List.length samePlaces
      rw [length_between, length_between] at sameLength
      cases later with
      | nil =>
          obtain rfl := List.length_eq_zero_iff.1 sameLength.symm
          simpa using sameText
      | cons next later =>
          obtain ⟨otherNext, otherLater, rfl⟩ := List.exists_cons_of_length_eq_add_one sameLength.symm
          rw [List.intercalate_cons_cons, List.intercalate_cons_cons, List.append_assoc,
            List.append_assoc] at sameText
          rw [between, between] at samePlaces
          obtain ⟨firstPlace, laterPlaces⟩ := List.cons.inj samePlaces
          obtain rfl := eq_of_behind_eq sameText firstPlace
          have laterText := List.append_cancel_left (List.append_cancel_left sameText)
          rw [inductionHypothesis _ (by simp) (by simp) laterText laterPlaces]

theorem between_withReturns (place : Arrow) (stretches : List Text) :
    place.between (stretches.map withReturns) = place.between stretches := by
  induction stretches generalizing place with
  | nil => rfl
  | cons first later inductionHypothesis =>
      cases later with
      | nil => rfl
      | cons next later =>
          rw [between, ← inductionHypothesis]
          simp only [List.map_cons, between, behind_withReturns]

end Arrow

theorem intercalate_withReturns
    {separator : Text}
    (noFeed : '\n' ∉ separator)
    (stretches : List Text) :
    separator.intercalate (stretches.map withReturns) =
      withReturns (separator.intercalate stretches) := by
  induction stretches with
  | nil => rfl
  | cons first later inductionHypothesis =>
      cases later with
      | nil => simp
      | cons next later =>
          rw [List.map_cons] at inductionHypothesis
          rw [List.map_cons, List.map_cons, List.intercalate_cons_cons, inductionHypothesis,
            List.intercalate_cons_cons, withReturns_append, withReturns_append,
            withReturns_of_noFeed noFeed]

theorem subset_intercalate
    {stretches : List Text} {stretch : Text}
    (separator : Text)
    (member : stretch ∈ stretches) :
    stretch ⊆ separator.intercalate stretches := by
  induction stretches with
  | nil => cases member
  | cons first later inductionHypothesis =>
      intro c inStretch
      cases later with
      | nil =>
          obtain rfl := List.mem_singleton.1 member
          simpa using inStretch
      | cons next later =>
          rw [List.intercalate_cons_cons]
          rcases List.mem_cons.1 member with rfl | memberLater
          · exact List.mem_append_left _ (List.mem_append_left _ inStretch)
          · exact List.mem_append_right _ (inductionHypothesis memberLater inStretch)

/-- With carriage returns a script is cut into the same stretches. -/
theorem segments_withReturns
    {script : Text}
    (noReturn : '\r' ∉ script) :
    segments script.withReturns (withoutArrows script).2 =
      (segments script (withoutArrows script).2).map withReturns := by
  obtain ⟨parts, places⟩ := segments_withoutArrows script
  obtain ⟨returnedParts, returnedPlaces⟩ := segments_withoutArrows script.withReturns
  rw [arrows_withReturns noReturn] at returnedParts returnedPlaces
  refine Arrow.stretches_unique .start (by simp [segments, Pieces.toList])
    (by simp [segments, Pieces.toList]) ?_ ?_
  · rw [returnedParts, intercalate_withReturns (by decide), parts]
  · rw [returnedPlaces, Arrow.between_withReturns, places]

/-! ## One stretch -/

section Stretch

variable {stretch : Text}

/-- The colons are the same ones. -/
theorem exists_colon_of_withReturns
    {front behind : Text}
    (parts : stretch.withReturns = front ++ ':' :: behind) :
    ∃ before after : Text, stretch = before ++ ':' :: after ∧ front = before.withReturns ∧
      behind = after.withReturns :=
  exists_parts_of_withReturns (by decide) (by decide) parts

theorem withReturns_colon (front behind : Text) :
    withReturns (front ++ ':' :: behind) = front.withReturns ++ ':' :: behind.withReturns := by
  rw [withReturns_append, withReturns_cons (by decide)]

theorem withReturns_comma (front behind : Text) :
    withReturns (front ++ ',' :: behind) = front.withReturns ++ ',' :: behind.withReturns := by
  rw [withReturns_append, withReturns_cons (by decide)]

/-- An input gate without spread literals is sealed alike. -/
theorem sealInputGate_withReturns
    (noReturn : '\r' ∉ stretch)
    (whole : ∀ gate behind, IsInputColon stretch gate behind → gate.holdsSpread = false) :
    sealInputGate stretch.withReturns = withReturns (sealInputGate stretch) := by
  by_cases some : ∃ gate behind, IsInputColon stretch gate behind
  · obtain ⟨gate, behind, colon⟩ := some
    have gateNoReturn : '\r' ∉ gate := fun isReturn =>
      noReturn (colon.parts ▸ List.mem_append_left _ isReturn)
    rw [sealInputGate_of_colon colon, withReturns_comma]
    refine sealInputGate_of_colon ⟨?_, ?_⟩
    · rw [colon.parts, withReturns_colon]
    · simp [isGate_withReturns gateNoReturn, colon.isGate, whole gate behind colon]
  · have noColon : ∀ gate behind, ¬ IsInputColon stretch gate behind := by simpa using some
    rw [sealInputGate_of_noColon noColon]
    refine sealInputGate_of_noColon fun gate behind colon => ?_
    obtain ⟨before, after, rfl, rfl, rfl⟩ := exists_colon_of_withReturns colon.parts
    have gate := colon.isGate
    rw [isGate_withReturns fun isReturn => noReturn (List.mem_append_left _ isReturn),
      Bool.and_eq_true] at gate
    exact noColon before after ⟨rfl, gate.1⟩

/-- An input gate with a spread literal is left. -/
theorem sealInputGate_withReturns_of_spread
    {gate behind : Text}
    (noReturn : '\r' ∉ stretch)
    (colon : IsInputColon stretch gate behind)
    (spread : gate.holdsSpread = true) :
    sealInputGate stretch.withReturns = stretch.withReturns := by
  refine sealInputGate_of_noColon fun otherGate otherBehind other => ?_
  obtain ⟨before, after, parts, rfl, rfl⟩ := exists_colon_of_withReturns other.parts
  have returnedGate := other.isGate
  rw [isGate_withReturns fun isReturn => noReturn (parts ▸ List.mem_append_left _ isReturn),
    Bool.and_eq_true] at returnedGate
  obtain ⟨rfl, -⟩ := colon.unique ⟨parts, returnedGate.1⟩
  simp [spread] at returnedGate

theorem isOutputColon_withReturns
    {front gate : Text}
    (noReturn : '\r' ∉ gate)
    (parts : stretch = front ++ ':' :: gate)
    (found : isGate .output gate)
    (whole : gate.holdsSpread = false)
    (rightmost : ∀ inside later, gate = inside ++ ':' :: later → isGate .output later = false) :
    IsOutputColon stretch.withReturns front.withReturns gate.withReturns where
  parts := by rw [parts, withReturns_colon]
  isGate := by simp [isGate_withReturns noReturn, found, whole]
  rightmost inside later same := by
    obtain ⟨before, after, rfl, -, rfl⟩ := exists_colon_of_withReturns same
    rw [isGate_withReturns fun isReturn => noReturn (by simp [isReturn]), rightmost before after rfl]
    rfl

/-- An output gate is sealed alike just if it has no spread literals. -/
theorem sealOutputGate_withReturns_iff
    (noReturn : '\r' ∉ stretch) :
    sealOutputGate stretch.withReturns = withReturns (sealOutputGate stretch) ↔
      ∀ front gate, IsOutputColon stretch front gate → gate.holdsSpread = false := by
  constructor
  · intro same front gate colon
    rw [sealOutputGate_of_colon colon, withReturns_comma] at same
    have returnedParts := congrArg withReturns colon.parts
    rw [withReturns_colon] at returnedParts
    obtain ⟨-, returnedColon⟩ := isOutputColon_of_sealed returnedParts same
    have gateNoReturn : '\r' ∉ gate := fun isReturn =>
      noReturn (colon.parts ▸ List.mem_append_right _ (List.mem_cons_of_mem _ isReturn))
    simpa [isGate_withReturns gateNoReturn, colon.isGate] using returnedColon.isGate
  · intro whole
    rcases outputColon_cases stretch with ⟨front, gate, colon, sealed⟩ | ⟨noGate, same⟩
    · have gateNoReturn : '\r' ∉ gate := fun isReturn =>
        noReturn (colon.parts ▸ List.mem_append_right _ (List.mem_cons_of_mem _ isReturn))
      rw [sealed, withReturns_comma]
      exact sealOutputGate_of_colon (isOutputColon_withReturns gateNoReturn colon.parts colon.isGate
        (whole front gate colon) colon.rightmost)
    · rw [same]
      refine sealOutputGate_eq_self_iff.2 fun front gate parts => ?_
      obtain ⟨before, after, rfl, rfl, rfl⟩ := exists_colon_of_withReturns parts
      rw [isGate_withReturns fun isReturn => noReturn (by simp [isReturn]), noGate before after rfl]
      rfl

end Stretch

/-- A stretch with the gates beside its arrows sealed. -/
def sealStretch (arrowBefore arrowBehind : Prop) [Decidable arrowBefore] [Decidable arrowBehind]
    (stretch : Text) : Text :=
  let middle := if arrowBefore then sealInputGate stretch else stretch
  if arrowBehind then sealOutputGate middle else middle

/-- Whether the same colons of a stretch become commas with carriage returns.  No gate that is sealed
has a spread literal, unless it is an input gate with a colon that would be that of the output gate
of the stretch, otherwise without one. -/
structure SealsAlike (arrowBefore arrowBehind : Prop) [Decidable arrowBefore] (stretch : Text) :
    Prop where
  input : ∀ gate behind, arrowBefore → IsInputColon stretch gate behind → gate.holdsSpread →
    arrowBehind ∧ isGate .output behind ∧ behind.holdsSpread = false ∧
      sealOutputGate (gate ++ ',' :: behind) = gate ++ ',' :: behind
  output : arrowBehind → ∀ front gate,
    IsOutputColon (if arrowBefore then sealInputGate stretch else stretch) front gate →
      gate.holdsSpread = false

section Stretch

variable {stretch : Text} {arrowBefore arrowBehind : Prop} [Decidable arrowBefore]

theorem noReturn_sealInputGate
    (noReturn : '\r' ∉ stretch) :
    '\r' ∉ sealInputGate stretch := by
  have edit := isInputEdit_sealInputGate stretch
  generalize sealInputGate stretch = result at edit
  cases edit with
  | comma parts =>
      subst parts
      simpa using noReturn
  | unchanged => exact noReturn

/-- With a spread literal in its input gate a stretch is sealed alike only where its colon is that of
an output gate, too. -/
theorem sealOutputGate_withReturns_of_spread
    {gate behind : Text}
    (noReturn : '\r' ∉ stretch)
    (parts : stretch = gate ++ ':' :: behind) :
    sealOutputGate stretch.withReturns = withReturns (sealOutputGate (gate ++ ',' :: behind)) ↔
      isGate .output behind ∧ behind.holdsSpread = false ∧
        sealOutputGate (gate ++ ',' :: behind) = gate ++ ',' :: behind := by
  have behindNoReturn : '\r' ∉ behind := fun isReturn =>
    noReturn (parts ▸ List.mem_append_right _ (List.mem_cons_of_mem _ isReturn))
  have returnedParts := congrArg withReturns parts
  rw [withReturns_colon] at returnedParts
  constructor
  · intro same
    rcases outputColon_cases (gate ++ ',' :: behind) with ⟨front, other, colon, sealed⟩ | ⟨-, kept⟩
    · exfalso
      rw [sealed] at same
      rcases place_cases colon.parts with
        ⟨-, impossible, -⟩ | ⟨between, rfl, rfl⟩ | ⟨between, rfl, rfl⟩
      · exact absurd impossible (by decide)
      · rw [List.append_assoc, List.cons_append, withReturns_comma, withReturns_comma] at same
        rw [withReturns_colon] at returnedParts
        exact sealOutputGate_ne_of_twoColons returnedParts same
      · rw [withReturns_comma, withReturns_comma] at same
        rw [withReturns_colon, List.append_assoc, List.cons_append] at returnedParts
        exact sealOutputGate_ne_of_twoColons returnedParts same
    · rw [kept, withReturns_comma] at same
      obtain ⟨-, returnedColon⟩ := isOutputColon_of_sealed returnedParts same
      have returnedGate := returnedColon.isGate
      rw [isGate_withReturns behindNoReturn] at returnedGate
      exact ⟨by simpa using (Bool.and_eq_true_iff.1 returnedGate).1,
        by simpa using (Bool.and_eq_true_iff.1 returnedGate).2, kept⟩
  · rintro ⟨found, whole, kept⟩
    rw [kept, withReturns_comma]
    refine sealOutputGate_of_colon (isOutputColon_withReturns behindNoReturn parts found whole ?_)
    rintro inside later rfl
    exact sealOutputGate_eq_self_iff.1 kept (gate ++ ',' :: inside) later (by simp)

theorem sealsAlike_iff_of_spread
    {gate behind : Text}
    (before : arrowBefore)
    (colon : IsInputColon stretch gate behind)
    (spread : gate.holdsSpread) :
    SealsAlike arrowBefore arrowBehind stretch ↔
      arrowBehind ∧ isGate .output behind ∧ behind.holdsSpread = false ∧
        sealOutputGate (gate ++ ',' :: behind) = gate ++ ',' :: behind := by
  constructor
  · exact fun alike => alike.input gate behind before colon spread
  · intro exception
    refine ⟨fun otherGate otherBehind _ other _ => ?_, fun _ front other outputColon => ?_⟩
    · obtain ⟨rfl, rfl⟩ := colon.unique other
      exact exception
    · rw [if_pos before, sealInputGate_of_colon colon] at outputColon
      have noGate := sealOutputGate_eq_self_iff.1 exception.2.2.2 front other outputColon.parts
      exact absurd outputColon.isGate (Bool.eq_false_iff.1 noGate)

theorem sealsAlike_iff_of_whole
    (whole : arrowBefore → ∀ gate behind, IsInputColon stretch gate behind →
      gate.holdsSpread = false) :
    SealsAlike arrowBefore arrowBehind stretch ↔
      (arrowBehind → ∀ front gate,
        IsOutputColon (if arrowBefore then sealInputGate stretch else stretch) front gate →
          gate.holdsSpread = false) := by
  refine ⟨SealsAlike.output, fun output => ⟨fun gate behind before colon spread => ?_, output⟩⟩
  exact absurd spread (Bool.eq_false_iff.1 (whole before gate behind colon))

/-- A stretch without carriage returns is sealed alike with them just where `SealsAlike` says so. -/
theorem sealStretch_withReturns_iff
    [Decidable arrowBehind]
    (noReturn : '\r' ∉ stretch) :
    sealStretch arrowBefore arrowBehind stretch.withReturns =
        withReturns (sealStretch arrowBefore arrowBehind stretch) ↔
      SealsAlike arrowBefore arrowBehind stretch := by
  unfold sealStretch
  dsimp only
  by_cases spread : ∃ gate behind, arrowBefore ∧ IsInputColon stretch gate behind ∧ gate.holdsSpread
  · obtain ⟨gate, behind, before, colon, holds⟩ := spread
    rw [sealsAlike_iff_of_spread before colon holds, if_pos before, if_pos before,
      sealInputGate_withReturns_of_spread noReturn colon holds, sealInputGate_of_colon colon]
    by_cases arrow : arrowBehind
    · rw [if_pos arrow, if_pos arrow, sealOutputGate_withReturns_of_spread noReturn colon.parts]
      exact (and_iff_right arrow).symm
    · rw [if_neg arrow, if_neg arrow, colon.parts, withReturns_colon, withReturns_comma]
      simp [arrow]
  · have whole : arrowBefore → ∀ gate behind, IsInputColon stretch gate behind →
        gate.holdsSpread = false := by
      intro before gate behind colon
      exact Bool.eq_false_iff.2 fun holds => spread ⟨gate, behind, before, colon, holds⟩
    have sameMiddle : (if arrowBefore then sealInputGate stretch.withReturns else stretch.withReturns) =
        withReturns (if arrowBefore then sealInputGate stretch else stretch) := by
      split
      · next before => exact sealInputGate_withReturns noReturn (whole before)
      · rfl
    have middleNoReturn : '\r' ∉ if arrowBefore then sealInputGate stretch else stretch := by
      split
      · exact noReturn_sealInputGate noReturn
      · exact noReturn
    rw [sealsAlike_iff_of_whole whole, sameMiddle]
    by_cases arrow : arrowBehind
    · rw [if_pos arrow, if_pos arrow, sealOutputGate_withReturns_iff middleNoReturn]
      exact ⟨fun output _ => output, fun output => output arrow⟩
    · rw [if_neg arrow, if_neg arrow]
      simp [arrow]

end Stretch

/-! ## The whole script -/

theorem OnlySealsColons.withReturns
    {stretch edited : Text}
    (sealed : OnlySealsColons stretch edited) :
    OnlySealsColons stretch.withReturns edited.withReturns := by
  unfold OnlySealsColons at sealed ⊢
  induction sealed with
  | nil => exact .nil
  | @cons c d _ _ kept _ inductionHypothesis =>
      by_cases feed : c = '\n'
      · subst feed
        obtain rfl : d = '\n' := by simpa using kept
        exact .cons (.inl rfl) (.cons (.inl rfl) inductionHypothesis)
      · have notFeed : d ≠ '\n' := by
          rcases kept with rfl | ⟨-, rfl⟩
          · exact feed
          · decide
        rw [withReturns_cons feed, withReturns_cons notFeed]
        exact .cons kept inductionHypothesis

/-- What becomes of stretches can be read off when they have been put together. -/
theorem edited_unique
    {separator : Text} {stretches left right : List Text}
    (leftPairs : List.Forall₂ OnlySealsColons stretches left)
    (rightPairs : List.Forall₂ OnlySealsColons stretches right)
    (sameText : separator.intercalate left = separator.intercalate right) :
    left = right := by
  induction leftPairs generalizing right with
  | nil =>
      cases rightPairs
      rfl
  | @cons stretch first later firstLater firstSealed leftTail inductionHypothesis =>
      cases rightPairs with
      | @cons _ second _ secondLater secondSealed rightTail =>
          have sameLength : first.length = second.length :=
            firstSealed.length_eq.symm.trans secondSealed.length_eq
          cases leftTail with
          | nil =>
              cases rightTail
              simpa using sameText
          | cons leftNext leftRest =>
              cases rightTail with
              | cons rightNext rightRest =>
                  rw [List.intercalate_cons_cons, List.intercalate_cons_cons, List.append_assoc,
                    List.append_assoc] at sameText
                  obtain ⟨rfl, laterText⟩ := List.append_inj sameText sameLength
                  rw [inductionHypothesis (.cons rightNext rightRest)
                    (List.append_cancel_left laterText)]

theorem getElem?_sealGates_eq (stretches : List Text) (index : Nat) :
    (sealGates stretches)[index]? =
      stretches[index]?.map (sealStretch (0 < index) (index + 1 < stretches.length)) :=
  getElem?_sealGates stretches index

/-- With carriage returns the arrows of a script are replaced alike just if each of its stretches is
sealed alike. -/
theorem text_withReturns_iff
    {script : Text}
    (noReturn : '\r' ∉ script) :
    (withoutArrows script.withReturns).1 = withReturns (withoutArrows script).1 ↔
      ∀ index stretch, (segments script (withoutArrows script).2)[index]? = some stretch →
        SealsAlike (0 < index) (index < (withoutArrows script).2.length) stretch := by
  have parts := (segments_withoutArrows script).1
  have count := length_segments script (withoutArrows script).2
  rw [text_withoutArrows, arrows_withReturns noReturn, segments_withReturns noReturn,
    text_withoutArrows]
  generalize segments script (withoutArrows script).2 = stretches at parts count ⊢
  have stretchNoReturn : ∀ stretch ∈ stretches, '\r' ∉ stretch := fun stretch member isReturn =>
    noReturn (parts ▸ subset_intercalate arrowText member isReturn)
  have sameSeals : joinSegments (sealGates (stretches.map withReturns)) =
        withReturns (joinSegments (sealGates stretches)) ↔
      sealGates (stretches.map withReturns) = (sealGates stretches).map withReturns := by
    unfold joinSegments
    rw [← intercalate_withReturns (by decide)]
    refine ⟨edited_unique (forall₂_sealGates _) ?_, fun same => by rw [same]⟩
    rw [List.forall₂_map_left_iff, List.forall₂_map_right_iff]
    exact (forall₂_sealGates stretches).imp fun _ _ => OnlySealsColons.withReturns
  rw [sameSeals, List.ext_getElem?_iff]
  refine forall_congr' fun index => ?_
  rw [getElem?_sealGates_eq, List.getElem?_map, List.getElem?_map, getElem?_sealGates_eq,
    List.length_map, count]
  cases here : stretches[index]? with
  | none => simp
  | some stretch =>
      have noReturnHere := stretchNoReturn stretch (List.mem_of_getElem? here)
      simp only [Option.map_some, Option.some.injEq, sealStretch_withReturns_iff noReturnHere,
        Nat.add_lt_add_iff_right]
      exact ⟨fun alike other same => same ▸ alike, fun alike => alike stretch rfl⟩

end Pipescript
