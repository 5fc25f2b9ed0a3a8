import Pipescript.Proofs.Arrow.Found
import Pipescript.Proofs.Arrow.Stretches
import Pipescript.Proofs.Gate.BorderColon

/-!
# What becomes of the arrows and gates of a script

A script is its stretches with arrows between them.  The arrows become separators, and of each
stretch two colons at most become commas: the leftmost one with an input gate before it, if an arrow
precedes the stretch, and then the rightmost one with an output gate behind it, if an arrow follows.
-/

namespace Pipescript

/-! ## One stretch -/

/-- The leftmost colon with an input gate before it becomes a comma. -/
inductive IsInputEdit (stretch : Text) : Text → Prop where
  | comma
      {front behind : Text}
      (colon : stretch = front ++ ':' :: behind)
      (gate : isGate .input front)
      (leftmost : ∀ earlier later, stretch = earlier ++ ':' :: later →
        isGate .input earlier → front.length ≤ earlier.length) :
      IsInputEdit stretch (front ++ ',' :: behind)
  | unchanged
      (noGate : ∀ front behind, stretch = front ++ ':' :: behind → isGate .input front = false) :
      IsInputEdit stretch stretch

/-- The rightmost colon with an output gate behind it becomes a comma. -/
inductive IsOutputEdit (stretch : Text) : Text → Prop where
  | comma
      {front behind : Text}
      (colon : stretch = front ++ ':' :: behind)
      (gate : isGate .output behind)
      (rightmost : ∀ earlier later, stretch = earlier ++ ':' :: later →
        isGate .output later → behind.length ≤ later.length) :
      IsOutputEdit stretch (front ++ ',' :: behind)
  | unchanged
      (noGate : ∀ front behind, stretch = front ++ ':' :: behind → isGate .output behind = false) :
      IsOutputEdit stretch stretch

/-- What becomes of a stretch with or without an arrow before it and an arrow behind it: the input
gate is sealed first. -/
def IsGateEdit (arrowBefore arrowBehind : Prop) (stretch result : Text) : Prop :=
  ∃ middle,
    (arrowBefore → IsInputEdit stretch middle) ∧ (¬ arrowBefore → middle = stretch) ∧
    (arrowBehind → IsOutputEdit middle result) ∧ (¬ arrowBehind → result = middle)

/-! ## The walk to a gate -/

theorem isGate_of_blank
    {candidate : Text}
    (side : GateSide)
    (blank : candidate.all isBlank) :
    isGate side candidate = false := by
  have stripped : stripJoints candidate = [] := by
    rw [stripJoints, List.dropWhile_eq_nil_iff.2 (List.all_eq_true.1 blank)]
    rfl
  simp [isGate, stripped]

theorem GateSide.all_passedText
    (side : GateSide)
    (passed : Text)
    (p : Char → Bool) :
    (side.passedText passed).all p = passed.all p := by
  cases side with
  | output => rfl
  | input => exact List.all_reverse

/-- A walk that finds no gate has passed no colon with a gate. -/
theorem isGate_of_walkToGate_eq_none
    {side : GateSide} {passed ahead : Text}
    (nothing : walkToGate side passed ahead = none)
    {front behind : Text}
    (colon : ahead = front ++ ':' :: behind) :
    isGate side (side.passedText (front.reverse ++ passed)) = false := by
  fun_induction walkToGate side passed ahead generalizing front with
  | case1 => simp at colon
  | case2 passed ahead blank =>
      cases front with
      | nil => exact isGate_of_blank side (by rwa [GateSide.all_passedText])
      | cons c front =>
          obtain ⟨rfl, rfl⟩ := List.cons.inj colon
          rw [List.reverse_cons, List.append_assoc]
          exact not_isGate_passed_colon side blank front.reverse
  | case3 => simp at nothing
  | case4 passed ahead notBlank noGate inductionHypothesis =>
      cases front with
      | nil => simpa using noGate
      | cons c front =>
          obtain ⟨rfl, rfl⟩ := List.cons.inj colon
          rw [List.reverse_cons, List.append_assoc]
          exact inductionHypothesis nothing rfl
  | case5 passed c ahead noColon inductionHypothesis =>
      cases front with
      | nil => exact absurd (List.cons.inj colon).1 noColon
      | cons d front =>
          obtain ⟨rfl, rfl⟩ := List.cons.inj colon
          rw [List.reverse_cons, List.append_assoc]
          exact inductionHypothesis nothing rfl

/-- A walk that finds a gate finds the first one. -/
theorem isFirst_of_walkToGate_eq_some
    {side : GateSide} {passed ahead reached behind : Text}
    (found : walkToGate side passed ahead = some (reached, behind)) :
    ∃ front, ahead = front ++ ':' :: behind ∧ reached = front.reverse ++ passed ∧
      isGate side (side.passedText reached) ∧
      ∀ earlier later, ahead = earlier ++ ':' :: later →
        isGate side (side.passedText (earlier.reverse ++ passed)) →
          front.length ≤ earlier.length := by
  fun_induction walkToGate side passed ahead with
  | case1 => simp at found
  | case2 => simp at found
  | case3 passed ahead notBlank gate =>
      obtain ⟨rfl, rfl⟩ := Prod.mk.inj (Option.some.inj found)
      exact ⟨[], rfl, rfl, gate, fun _ _ _ _ => Nat.zero_le _⟩
  | case4 passed ahead notBlank noGate inductionHypothesis =>
      obtain ⟨front, rfl, rfl, gate, first⟩ := inductionHypothesis found
      refine ⟨':' :: front, rfl, by simp, gate, fun earlier later colon earlierGate => ?_⟩
      cases earlier with
      | nil => exact absurd earlierGate noGate
      | cons c earlier =>
          obtain ⟨rfl, parts⟩ := List.cons.inj colon
          rw [List.reverse_cons, List.append_assoc] at earlierGate
          exact Nat.succ_le_succ (first earlier later parts earlierGate)
  | case5 passed c ahead noColon inductionHypothesis =>
      obtain ⟨front, rfl, rfl, gate, first⟩ := inductionHypothesis found
      refine ⟨c :: front, rfl, by simp, gate, fun earlier later colon earlierGate => ?_⟩
      cases earlier with
      | nil => exact absurd (List.cons.inj colon).1 noColon
      | cons d earlier =>
          obtain ⟨rfl, parts⟩ := List.cons.inj colon
          rw [List.reverse_cons, List.append_assoc] at earlierGate
          exact Nat.succ_le_succ (first earlier later parts earlierGate)

theorem isInputEdit_sealInputGate (stretch : Text) :
    IsInputEdit stretch (sealInputGate stretch) := by
  unfold sealInputGate
  split
  · next reached behind found =>
      obtain ⟨front, colon, rfl, gate, first⟩ := isFirst_of_walkToGate_eq_some found
      simp only [List.append_nil, GateSide.passedText, List.reverse_reverse] at gate first ⊢
      exact .comma colon gate first
  · next nothing =>
      refine .unchanged fun front behind colon => ?_
      simpa [GateSide.passedText] using isGate_of_walkToGate_eq_none nothing colon

theorem isOutputEdit_sealOutputGate (stretch : Text) :
    IsOutputEdit stretch (sealOutputGate stretch) := by
  have reversed : ∀ {front behind : Text}, stretch = front ++ ':' :: behind →
      stretch.reverse = behind.reverse ++ ':' :: front.reverse := by
    rintro front behind rfl
    simp
  unfold sealOutputGate
  split
  · next reached ahead found =>
      obtain ⟨front, colon, rfl, gate, first⟩ := isFirst_of_walkToGate_eq_some found
      simp only [List.append_nil, GateSide.passedText] at gate first ⊢
      refine .comma (by simpa using congrArg List.reverse colon) gate
        fun earlier later colon laterGate => ?_
      simpa using first _ _ (reversed colon) (by simpa using laterGate)
  · next nothing =>
      refine .unchanged fun front behind colon => ?_
      simpa [GateSide.passedText] using isGate_of_walkToGate_eq_none nothing (reversed colon)

/-! ## Counting the changes -/

/-- Every character is kept, except for colons that become commas. -/
def OnlySealsColons (stretch result : Text) : Prop :=
  List.Forall₂ (fun c d => d = c ∨ (c = ':' ∧ d = ',')) stretch result

/-- The number of characters that are not kept. -/
def countChanges (stretch result : Text) : Nat :=
  (stretch.zip result).countP fun pair => pair.1 != pair.2

theorem onlySealsColons_refl (stretch : Text) : OnlySealsColons stretch stretch :=
  List.forall₂_same.2 fun _ _ => .inl rfl

theorem OnlySealsColons.trans
    {stretch middle result : Text}
    (first : OnlySealsColons stretch middle)
    (second : OnlySealsColons middle result) :
    OnlySealsColons stretch result := by
  unfold OnlySealsColons at *
  induction first generalizing result with
  | nil =>
      cases second
      exact .nil
  | cons kept _ inductionHypothesis =>
      cases second with
      | cons keptAgain later =>
          refine .cons ?_ (inductionHypothesis later)
          rcases kept with rfl | ⟨rfl, rfl⟩
          · exact keptAgain
          · rcases keptAgain with rfl | ⟨impossible, -⟩
            · exact .inr ⟨rfl, rfl⟩
            · exact absurd impossible (by decide)

theorem countChanges_self (stretch : Text) : countChanges stretch stretch = 0 := by
  induction stretch with
  | nil => rfl
  | cons c stretch inductionHypothesis => simpa [countChanges] using inductionHypothesis

theorem countChanges_cons (c d : Char) (stretch result : Text) :
    countChanges (c :: stretch) (d :: result) =
      countChanges stretch result + if c = d then 0 else 1 := by
  by_cases same : c = d <;> simp [countChanges, same]

theorem countChanges_le_add
    {stretch middle : Text}
    (first : OnlySealsColons stretch middle)
    {result : Text}
    (second : OnlySealsColons middle result) :
    countChanges stretch result ≤ countChanges stretch middle + countChanges middle result := by
  unfold OnlySealsColons at *
  induction first generalizing result with
  | nil =>
      cases second
      exact Nat.zero_le _
  | @cons c d _ _ _ _ inductionHypothesis =>
      cases second with
      | @cons _ e _ _ _ later =>
          rw [countChanges_cons, countChanges_cons, countChanges_cons]
          have step := inductionHypothesis later
          have triangle : (if c = e then 0 else 1) ≤
              (if c = d then 0 else 1) + if d = e then 0 else 1 := by
            split <;> split <;> split <;> simp_all
          omega

theorem onlySealsColons_comma (front behind : Text) :
    OnlySealsColons (front ++ ':' :: behind) (front ++ ',' :: behind) := by
  induction front with
  | nil => exact .cons (.inr ⟨rfl, rfl⟩) (onlySealsColons_refl behind)
  | cons c front inductionHypothesis => exact .cons (.inl rfl) inductionHypothesis

theorem countChanges_comma (front behind : Text) :
    countChanges (front ++ ':' :: behind) (front ++ ',' :: behind) = 1 := by
  induction front with
  | nil =>
      rw [List.nil_append, List.nil_append, countChanges_cons, countChanges_self]
      rfl
  | cons c front inductionHypothesis =>
      rw [List.cons_append, List.cons_append, countChanges_cons, inductionHypothesis, if_pos rfl]

section Edits

variable {stretch result : Text}

theorem IsInputEdit.changes
    (edit : IsInputEdit stretch result) :
    OnlySealsColons stretch result ∧ countChanges stretch result ≤ 1 := by
  cases edit with
  | comma colon =>
      subst colon
      exact ⟨onlySealsColons_comma _ _, (countChanges_comma _ _).le⟩
  | unchanged => exact ⟨onlySealsColons_refl _, (countChanges_self _).trans_le (Nat.zero_le 1)⟩

theorem IsOutputEdit.changes
    (edit : IsOutputEdit stretch result) :
    OnlySealsColons stretch result ∧ countChanges stretch result ≤ 1 := by
  cases edit with
  | comma colon =>
      subst colon
      exact ⟨onlySealsColons_comma _ _, (countChanges_comma _ _).le⟩
  | unchanged => exact ⟨onlySealsColons_refl _, (countChanges_self _).trans_le (Nat.zero_le 1)⟩

theorem IsGateEdit.changes
    {arrowBefore arrowBehind : Prop}
    (edit : IsGateEdit arrowBefore arrowBehind stretch result) :
    OnlySealsColons stretch result ∧ countChanges stretch result ≤ 2 := by
  have unchanged : ∀ text : Text, OnlySealsColons text text ∧ countChanges text text ≤ 1 :=
    fun text => ⟨onlySealsColons_refl text, (countChanges_self text).trans_le (Nat.zero_le 1)⟩
  obtain ⟨middle, input, noInput, output, noOutput⟩ := edit
  have first : OnlySealsColons stretch middle ∧ countChanges stretch middle ≤ 1 := by
    by_cases before : arrowBefore
    · exact (input before).changes
    · rw [noInput before]
      exact unchanged stretch
  have second : OnlySealsColons middle result ∧ countChanges middle result ≤ 1 := by
    by_cases behind : arrowBehind
    · exact (output behind).changes
    · rw [noOutput behind]
      exact unchanged middle
  exact ⟨first.1.trans second.1, (countChanges_le_add first.1 second.1).trans
    (Nat.add_le_add first.2 second.2)⟩

end Edits

/-! ## All stretches -/

/-- Beside one arrow two neighbouring stretches are sealed, each on its side. -/
theorem getElem?_sealBeside (stretches : List Text) (arrow index : Nat) :
    (sealBeside stretches arrow)[index]? = stretches[index]?.map fun stretch =>
      if index = arrow then sealOutputGate stretch
      else if index = arrow + 1 then sealInputGate stretch
      else stretch := by
  unfold sealBeside
  rw [List.getElem?_modify, List.getElem?_modify]
  cases stretches[index]? with
  | none => rfl
  | some stretch =>
      by_cases before : arrow = index
      · subst before
        simp
      · by_cases behind : arrow + 1 = index
        · subst behind
          simp
        · simp [before, behind, Ne.symm before, Ne.symm behind]

theorem length_sealBeside (stretches : List Text) (arrow : Nat) :
    (sealBeside stretches arrow).length = stretches.length := by
  simp [sealBeside]

/-- What the first arrows have done.  A stretch between two of them is sealed for both, first for
the arrow before it. -/
theorem getElem?_foldl_sealBeside (stretches : List Text) (count index : Nat) :
    ((List.range count).foldl sealBeside stretches)[index]? = stretches[index]?.map fun stretch =>
      let middle := if 0 < index ∧ index ≤ count then sealInputGate stretch else stretch
      if index < count then sealOutputGate middle else middle := by
  induction count with
  | zero =>
      have noArrow : ¬(0 < index ∧ index = 0) := by omega
      simp [noArrow]
  | succ count inductionHypothesis =>
      rw [List.range_succ, List.foldl_append, List.foldl_cons, List.foldl_nil,
        getElem?_sealBeside, inductionHypothesis, Option.map_map]
      congr 1
      funext stretch
      rw [Function.comp_apply]
      rcases Nat.lt_trichotomy index count with earlier | rfl | later
      · have done : index ≠ count ∧ index ≠ count + 1 := by omega
        have same : index ≤ count ↔ index ≤ count + 1 := by omega
        simp [done, same, earlier, Nat.lt_succ_of_lt earlier]
      · simp
      · by_cases next : index = count + 1
        · subst next
          have untouched : ¬ count + 1 < count ∧ ¬ count + 1 ≤ count := by omega
          simp [untouched]
        · have untouched : ¬ index < count ∧ ¬ index ≤ count ∧ index ≠ count := by omega
          have ahead : ¬ index < count + 1 ∧ ¬ index ≤ count + 1 := by omega
          simp [untouched, ahead, next]

theorem length_sealGates (stretches : List Text) :
    (sealGates stretches).length = stretches.length := by
  have kept : ∀ (arrows : List Nat) (current : List Text),
      (arrows.foldl sealBeside current).length = current.length := by
    intro arrows
    induction arrows with
    | nil => exact fun _ => rfl
    | cons arrow later inductionHypothesis =>
        intro current
        rw [List.foldl_cons, inductionHypothesis, length_sealBeside]
  exact kept _ _

/-- Each stretch is sealed by itself, for the arrow before it and then for the arrow behind it. -/
theorem getElem?_sealGates (stretches : List Text) (index : Nat) :
    (sealGates stretches)[index]? = stretches[index]?.map fun stretch =>
      let middle := if 0 < index then sealInputGate stretch else stretch
      if index + 1 < stretches.length then sealOutputGate middle else middle := by
  unfold sealGates
  rw [getElem?_foldl_sealBeside]
  cases here : stretches[index]? with
  | none => rfl
  | some stretch =>
      obtain ⟨inside, -⟩ := List.getElem?_eq_some_iff.1 here
      have before : (0 < index ∧ index ≤ stretches.length - 1) ↔ 0 < index := by omega
      have behind : index < stretches.length - 1 ↔ index + 1 < stretches.length := by omega
      simp only [before, behind]

theorem isGateEdit_of_sealGates
    {stretches : List Text} {index : Nat} {stretch result : Text}
    (here : stretches[index]? = some stretch)
    (sealed : (sealGates stretches)[index]? = some result) :
    IsGateEdit (0 < index) (index + 1 < stretches.length) stretch result := by
  rw [getElem?_sealGates, here, Option.map_some, Option.some.injEq] at sealed
  subst sealed
  refine ⟨if 0 < index then sealInputGate stretch else stretch, fun before => ?_,
    fun noBefore => if_neg noBefore, fun behind => ?_, fun noBehind => if_neg noBehind⟩
  · rw [if_pos before]
    exact isInputEdit_sealInputGate stretch
  · dsimp only
    rw [if_pos behind]
    exact isOutputEdit_sealOutputGate _

/-! ## The whole script -/

theorem arrows_withoutArrows (script : Text) :
    (withoutArrows script).2 = Arrow.sort (Arrow.find (scan script).tokens) := by
  unfold withoutArrows
  dsimp only
  split
  · next nothing => exact (List.isEmpty_iff.1 nothing).symm
  · rfl

/-- A script is the segments that it is cut into, with its arrows between them. -/
theorem segments_withoutArrows (script : Text) :
    arrowText.intercalate (segments script (withoutArrows script).2) = script ∧
      Arrow.start.between (segments script (withoutArrows script).2) =
        (withoutArrows script).2 := by
  rw [arrows_withoutArrows]
  exact segments_of_standsIn (Arrow.pairwise_sort _) fun arrow member =>
    Arrow.standsIn_of_find_scan (Arrow.mem_sort.1 member)

theorem segments_of_noArrows
    {script : Text}
    (noArrows : (withoutArrows script).2 = []) :
    segments script [] = [script] := by
  have parts := (segments_withoutArrows script).1
  have single := length_segments script (withoutArrows script).2
  rw [noArrows] at parts single
  obtain ⟨only, shape⟩ := List.length_eq_one_iff.1 single
  rw [shape] at parts ⊢
  rw [← parts]
  simp [List.intercalate]

theorem text_withoutArrows (script : Text) :
    (withoutArrows script).1 =
      joinSegments (sealGates (segments script (withoutArrows script).2)) := by
  by_cases noArrows : (withoutArrows script).2 = []
  · have same : (withoutArrows script).1 = script := by
      rw [arrows_withoutArrows] at noArrows
      simp [withoutArrows, noArrows]
    rw [same, noArrows, segments_of_noArrows noArrows]
    simp [sealGates, joinSegments, List.intercalate]
  · rw [arrows_withoutArrows] at noArrows ⊢
    simp [withoutArrows, noArrows]

/-- What replacing the arrows of a script does: its stretches stay where they are with separators
for arrows between them, and in each of them the colons of its gates become commas. -/
theorem withoutArrows_edits (script : Text) :
    ∃ stretches edited : List Text,
      arrowText.intercalate stretches = script ∧
      Arrow.start.between stretches = (withoutArrows script).2 ∧
      stretches.length = (withoutArrows script).2.length + 1 ∧
      separatorText.intercalate edited = (withoutArrows script).1 ∧
      edited.length = stretches.length ∧
      (∀ (index : Nat) (stretch result : Text),
        stretches[index]? = some stretch → edited[index]? = some result →
          IsGateEdit (0 < index) (index + 1 < stretches.length) stretch result ∧
            OnlySealsColons stretch result ∧ countChanges stretch result ≤ 2) ∧
      ((withoutArrows script).2 = [] → (withoutArrows script).1 = script) := by
  obtain ⟨parts, places⟩ := segments_withoutArrows script
  refine ⟨segments script (withoutArrows script).2,
    sealGates (segments script (withoutArrows script).2), parts, places, length_segments script _,
    (text_withoutArrows script).symm, length_sealGates _, ?_, ?_⟩
  · intro index stretch result here sealed
    have edit := isGateEdit_of_sealGates here sealed
    exact ⟨edit, edit.changes⟩
  · intro noArrows
    rw [arrows_withoutArrows] at noArrows
    simp [withoutArrows, noArrows]

end Pipescript
