import Pipescript.Proofs.Arrow.PassThrough
import Pipescript.Proofs.Arrow.SealedColon
import Pipescript.Proofs.Scan.ColonToken

/-!
# The tokens of sealed colons

The search for a gate looks at the characters of a stretch and at no tokens, so not every colon that
becomes a comma is an operator by itself.  The gate before a colon is scanned up to the colon, which
may be part of an assignment.  The gate behind a colon tells nothing about what stands before the
colon: there a literal or a comment may begin that goes on into the gate.
-/

namespace Pipescript

open Arrow

/-! ## Between stretches -/

theorem intercalate_cons (separator first : Text) (later : List Text) :
    separator.intercalate (first :: later) = first ++ later.flatMap (separator ++ ·) := by
  induction later generalizing first with
  | nil => simp
  | cons next later inductionHypothesis =>
      rw [List.intercalate_cons_cons, inductionHypothesis, List.flatMap_cons]
      simp only [List.append_assoc]

/-- Stretches put together, seen from one of them. -/
theorem intercalate_append_cons (separator : Text) (earlier later : List Text) (stretch : Text) :
    separator.intercalate (earlier ++ stretch :: later) =
      earlier.flatMap (· ++ separator) ++ (stretch ++ later.flatMap (separator ++ ·)) := by
  induction earlier with
  | nil => exact intercalate_cons separator stretch later
  | cons first earlier inductionHypothesis =>
      obtain ⟨next, others, shape⟩ : ∃ next others, earlier ++ stretch :: later = next :: others :=
        List.exists_cons_of_ne_nil (by simp)
      rw [List.cons_append, shape, List.intercalate_cons_cons, ← shape, inductionHypothesis]
      simp only [List.flatMap_cons, List.append_assoc]

/-- A colon stands in one of the stretches. -/
theorem exists_stretch_of_colon
    {stretches : List Text} {front behind : Text}
    (parts : arrowText.intercalate stretches = front ++ ':' :: behind) :
    ∃ earlier later before after, stretches = earlier ++ (before ++ ':' :: after) :: later ∧
      front = earlier.flatMap (· ++ arrowText) ++ before ∧
      behind = after ++ later.flatMap (arrowText ++ ·) := by
  induction stretches generalizing front with
  | nil => simp at parts
  | cons first later inductionHypothesis =>
      rw [intercalate_cons] at parts
      rcases append_cons_eq_append parts.symm with ⟨after, rfl, rfl⟩ | ⟨crossing, rfl, laterParts⟩
      · exact ⟨[], later, front, after, rfl, rfl, rfl⟩
      · cases later with
        | nil => simp at laterParts
        | cons next later =>
            rw [List.flatMap_cons, List.append_assoc, ← intercalate_cons] at laterParts
            rcases append_cons_eq_append laterParts.symm with
              ⟨after, inArrow, -⟩ | ⟨inside, rfl, insideParts⟩
            · have colon : ':' ∈ arrowText := inArrow ▸ by simp
              exact absurd colon (by decide)
            · obtain ⟨earlier, others, before, after, shape, rfl, rfl⟩ :=
                inductionHypothesis insideParts
              exact ⟨first :: earlier, others, before, after, by rw [shape]; rfl, by simp, rfl⟩

/-- Behind each stretch but the last one there is an arrow. -/
theorem behind_mem_between (place : Arrow) (earlier later : List Text) (stretch next : Text) :
    place.behind (earlier.flatMap (· ++ arrowText) ++ stretch) ∈
      place.between (earlier ++ stretch :: next :: later) := by
  induction earlier generalizing place with
  | nil => exact List.mem_cons_self
  | cons first earlier inductionHypothesis =>
      obtain ⟨second, others, shape⟩ :
          ∃ second others, earlier ++ stretch :: next :: later = second :: others :=
        List.exists_cons_of_ne_nil (by simp)
      have further := inductionHypothesis ((place.behind first).behind arrowText)
      rw [List.flatMap_cons, List.append_assoc, List.append_assoc, behind_append, behind_append,
        List.cons_append, shape]
      rw [shape] at further
      exact List.mem_cons_of_mem _ further

theorem length_flatMap_append
    {stretches edited : List Text}
    (pairs : List.Forall₂ OnlySealsColons stretches edited) :
    (edited.flatMap (· ++ separatorText)).length =
      (stretches.flatMap (· ++ arrowText)).length := by
  induction pairs with
  | nil => rfl
  | cons head _ inductionHypothesis =>
      have sameLength := head.length_eq
      simp only [List.flatMap_cons, List.length_append, inductionHypothesis, sameLength]
      rfl

/-! ## The stretch of a sealed colon -/

/-- Whether a colon of a script becomes a comma where the arrows are replaced. -/
def SealsColon (script front behind : Text) : Prop :=
  script = front ++ ':' :: behind ∧ (withoutArrows script).1[front.length]? = some ','

theorem exists_stretch_of_sealsColon
    {script front behind : Text}
    (seals : SealsColon script front behind) :
    ∃ earlier later before after result,
      segments script (withoutArrows script).2 = earlier ++ (before ++ ':' :: after) :: later ∧
      front = earlier.flatMap (· ++ arrowText) ++ before ∧
      behind = after ++ later.flatMap (arrowText ++ ·) ∧
      IsGateEdit (0 < earlier.length) (0 < later.length) (before ++ ':' :: after) result ∧
      result[before.length]? = some ',' := by
  obtain ⟨rfl, comma⟩ := seals
  have joined := (segments_withoutArrows (front ++ ':' :: behind)).1
  rw [text_withoutArrows, joinSegments] at comma
  generalize segments _ _ = stretches at joined comma ⊢
  obtain ⟨earlier, later, before, after, rfl, rfl, rfl⟩ := exists_stretch_of_colon joined
  have pairs := forall₂_sealGates (earlier ++ (before ++ ':' :: after) :: later)
  have edit :=
    @isGateEdit_of_sealGates (earlier ++ (before ++ ':' :: after) :: later) earlier.length
  have arrowBehind : (earlier.length + 1 < (earlier ++ (before ++ ':' :: after) :: later).length) =
      (0 < later.length) := by
    rw [List.length_append, List.length_cons]
    exact propext (by omega)
  rw [arrowBehind] at edit
  generalize sealGates _ = edited at comma pairs edit
  have bound : earlier.length < edited.length := by
    rw [← pairs.length_eq, List.length_append, List.length_cons]
    omega
  have stretchEdit := @edit (before ++ ':' :: after) edited[earlier.length] (by simp)
    (List.getElem?_eq_getElem bound)
  refine ⟨earlier, later, before, after, edited[earlier.length], rfl, rfl, rfl, stretchEdit, ?_⟩
  have editedParts : edited = edited.take earlier.length ++
      edited[earlier.length] :: edited.drop (earlier.length + 1) := by
    rw [List.getElem_cons_drop, List.take_append_drop]
  have earlierPairs := List.forall₂_take earlier.length pairs
  rw [List.take_left] at earlierPairs
  have sameLength := stretchEdit.changes.1.length_eq
  rw [editedParts, intercalate_append_cons, List.length_append,
    ← length_flatMap_append earlierPairs, List.getElem?_append_right (Nat.le_add_right _ _),
    Nat.add_sub_cancel_left, List.getElem?_append_left] at comma
  · exact comma
  · rw [← sameLength, List.length_append, List.length_cons]
    omega

/-! ## The edit of a stretch -/

/-- The colon that becomes a comma is found by its place. -/
theorem eq_of_comma_at
    {front behind otherFront otherBehind : Text}
    (same : front ++ ':' :: behind = otherFront ++ ':' :: otherBehind)
    (comma : (otherFront ++ ',' :: otherBehind)[front.length]? = some ',') :
    otherFront = front ∧ otherBehind = behind := by
  rcases place_cases same with ⟨rfl, -, rfl⟩ | ⟨between, rfl, -⟩ | ⟨between, rfl, rfl⟩
  · exact ⟨rfl, rfl⟩
  · rw [List.append_assoc, List.getElem?_append_right (Nat.le_refl _), Nat.sub_self] at comma
    exact absurd (Option.some.inj comma) (by decide)
  · have sameLength :
        (otherFront ++ ':' :: between).length = (otherFront ++ ',' :: between).length := by
      simp
    rw [sameLength, ← List.cons_append, ← List.append_assoc,
      List.getElem?_append_right (Nat.le_refl _), Nat.sub_self] at comma
    exact absurd (Option.some.inj comma) (by decide)

theorem OnlySealsColons.exists_colon
    {front behind sealed : Text}
    (seals : OnlySealsColons (front ++ ':' :: behind) sealed) :
    ∃ sealedFront d sealedBehind, sealed = sealedFront ++ d :: sealedBehind ∧
      sealedFront.length = front.length ∧ (d = ':' ∨ d = ',') ∧
      OnlySealsColons behind sealedBehind := by
  unfold OnlySealsColons at seals
  induction front generalizing sealed with
  | nil =>
      obtain ⟨d, sealedBehind, kept, later, rfl⟩ := List.forall₂_cons_left_iff.1 seals
      exact ⟨[], d, sealedBehind, rfl, rfl, kept.imp_right And.right, later⟩
  | cons c front inductionHypothesis =>
      obtain ⟨d, rest, -, later, rfl⟩ := List.forall₂_cons_left_iff.1 seals
      obtain ⟨sealedFront, e, sealedBehind, rfl, sameLength, kept, behindSeals⟩ :=
        inductionHypothesis later
      exact ⟨d :: sealedFront, e, sealedBehind, rfl, congrArg Nat.succ sameLength, kept,
        behindSeals⟩

/-- A colon that becomes a comma has an arrow and an input gate before it, or an output gate, of
which a colon may have become a comma already, and an arrow behind it. -/
theorem gate_of_gateEdit
    {arrowBefore arrowBehind : Prop} {before after result : Text}
    (edit : IsGateEdit arrowBefore arrowBehind (before ++ ':' :: after) result)
    (comma : result[before.length]? = some ',') :
    (arrowBefore ∧ isGate .input before) ∨
      (arrowBehind ∧ ∃ gate, OnlySealsColons after gate ∧ isGate .output gate) := by
  obtain ⟨middle, input, noInput, output, noOutput⟩ := edit
  have colon : (before ++ ':' :: after)[before.length]? = some ':' := by simp
  by_cases already : middle[before.length]? = some ','
  · left
    have precedes : arrowBefore := by
      by_contra noArrow
      rw [noInput noArrow, colon] at already
      cases already
    refine ⟨precedes, ?_⟩
    have inputEdit := input precedes
    cases inputEdit with
    | comma parts gate =>
        obtain ⟨rfl, -⟩ := eq_of_comma_at parts already
        exact gate
    | unchanged =>
        rw [colon] at already
        cases already
  · right
    have follows : arrowBehind := by
      by_contra noArrow
      rw [noOutput noArrow] at comma
      exact already comma
    refine ⟨follows, ?_⟩
    have middleSeals : OnlySealsColons (before ++ ':' :: after) middle := by
      by_cases precedes : arrowBefore
      · exact (input precedes).changes.1
      · rw [noInput precedes]
        exact onlySealsColons_refl _
    obtain ⟨sealedFront, d, gate, rfl, sameLength, kept, seals⟩ := middleSeals.exists_colon
    rw [← sameLength] at already comma
    obtain rfl : d = ':' := kept.resolve_right fun isComma => already (by simp [isComma])
    have outputEdit := output follows
    cases outputEdit with
    | comma parts isGate =>
        obtain ⟨-, rfl⟩ := eq_of_comma_at parts comma
        exact ⟨_, seals, isGate⟩
    | unchanged => exact absurd comma already

/-! ## The gates of a script -/

/-- Whether a gate stands between an arrow of a script and the end of a front part. -/
def HasInputGate (script front gate : Text) : Prop :=
  isGate .input gate ∧
    ∃ outer, front = outer ++ arrowText ++ gate ∧ start.behind outer ∈ (withoutArrows script).2

/-- Whether a gate stands between a colon behind a front part and an arrow of a script.  A colon in
it may have become a comma before it is seen to be a gate. -/
def HasOutputGate (script front behind gate : Text) : Prop :=
  (∃ seen, OnlySealsColons gate seen ∧ isGate .output seen) ∧
    ∃ rest, behind = gate ++ arrowText ++ rest ∧
      start.behind (front ++ ':' :: gate) ∈ (withoutArrows script).2

section Gates

variable {script front behind gate : Text}

theorem exists_gate_of_sealsColon
    (seals : SealsColon script front behind) :
    (∃ gate, HasInputGate script front gate) ∨ ∃ gate, HasOutputGate script front behind gate := by
  obtain ⟨earlier, later, before, after, result, stretches, rfl, rfl, edit, comma⟩ :=
    exists_stretch_of_sealsColon seals
  have arrows := (segments_withoutArrows script).2
  rw [stretches] at arrows
  rcases gate_of_gateEdit edit comma with ⟨precedes, isGate⟩ | ⟨follows, seen, gateSeals, isGate⟩
  · obtain ⟨others, last, rfl⟩ :=
      (List.eq_nil_or_concat' earlier).resolve_left (List.length_pos_iff.1 precedes)
    refine .inl ⟨before, isGate, others.flatMap (· ++ arrowText) ++ last, by simp, ?_⟩
    rw [← arrows, List.append_assoc]
    exact behind_mem_between start others later last _
  · obtain ⟨next, others, rfl⟩ := List.exists_cons_of_ne_nil (List.length_pos_iff.1 follows)
    refine .inr ⟨after, ⟨seen, gateSeals, isGate⟩, next ++ others.flatMap (arrowText ++ ·),
      by simp, ?_⟩
    rw [← arrows, List.append_assoc]
    exact behind_mem_between start earlier others _ next

/-- A colon with an input gate before it is scanned and shown, unless a carriage return of the gate
stands by itself. -/
theorem shown_of_inputGate
    (parts : script = front ++ ':' :: behind)
    (hasGate : HasInputGate script front gate)
    (returns : gate.ReturnsBeforeFeeds) :
    front ++ [':'] <+: scannedPart script ∧ (scan script).Shows (start.behind front) := by
  obtain ⟨isGate, outer, rfl, arrow⟩ := hasGate
  have gateParts : script = outer ++ arrowText ++ (gate ++ ':' :: behind) := by
    rw [parts, List.append_assoc]
  obtain ⟨later, depth, earlier, onward, whole⟩ := exists_scansOn_behind_arrow gateParts arrow
  obtain ⟨colonScan, tokens, colonOnward, yields⟩ :=
    onward.exists_before_colon isGate (returns.fedBefore _)
  obtain ⟨sign, rest, text, shape, -, signYields⟩ := colonOnward.exists_behind_colon
  have content := (yields.trans signYields).content
  rw [← behind_append] at content
  generalize place : start.behind (outer ++ arrowText ++ gate) = colonPlace at content
  have inContent : ⟨.operator, sign, colonPlace.row + 1, colonPlace.column⟩ ∈ later.content := by
    rw [content]
    simp
  have member :
      ⟨.operator, sign, colonPlace.row + 1, colonPlace.column⟩ ∈ (scan script).tokens := by
    rw [whole]
    exact List.mem_append_right earlier (List.mem_filter.1 inContent).1
  obtain ⟨more, rfl⟩ : ∃ more, sign = ':' :: more := by
    rcases shape with rfl | rfl <;> exact ⟨_, rfl⟩
  rw [← place]
  exact shown_of_operator_at parts member rfl rfl place.symm

theorem not_isGate_equals (side : GateSide) (rest : Text) : isGate side ('=' :: rest) = false := by
  refine Bool.eq_false_iff.2 fun isGate => ?_
  obtain ⟨pieces, cut, -, reached, reading, -⟩ := exists_standsAlone isGate
  cases cut with
  | cons begun _ _ =>
      rw [GatePiece.first_equals] at begun
      obtain rfl := Except.ok.inj begun
      cases reading

theorem HasOutputGate.noEquals
    (hasGate : HasOutputGate script front behind gate) :
    behind.head? ≠ some '=' := by
  obtain ⟨⟨seen, gateSeals, isGate⟩, rest, rfl, -⟩ := hasGate
  intro equals
  cases gateSeals with
  | nil => exact absurd (Option.some.inj equals) (by decide)
  | cons kept _ =>
      obtain rfl := Option.some.inj equals
      rcases kept with rfl | ⟨impossible, -⟩
      · rw [not_isGate_equals] at isGate
        cases isGate
      · exact absurd impossible (by decide)

/-- A colon with an output gate behind it is scanned.  If it is hidden, what hides it reaches into
the gate and ends there. -/
theorem scanned_of_outputGate
    (parts : script = front ++ ':' :: behind)
    (hasGate : HasOutputGate script front behind gate) :
    front ++ [':'] <+: scannedPart script ∧
      (¬ (scan script).Shows (start.behind front) → ∃ c ∈ gate, isQuoteMark c ∨ c = '\n') := by
  obtain ⟨-, rest, rfl, arrow⟩ := hasGate
  have gateParts : script = front ++ ':' :: gate ++ (arrowText ++ rest) := by
    rw [parts]
    simp
  rw [arrows_withoutArrows, mem_sort, mem_find_scan] at arrow
  obtain ⟨token, member, isArrow, place⟩ := arrow
  obtain ⟨operator, text⟩ := operator_of_isOperator isArrow
  constructor
  · have arrowParts : script = front ++ ':' :: gate ++ '-' :: '>' :: rest := gateParts
    obtain ⟨scanned, -⟩ := shown_of_operator_at arrowParts member operator text place.symm
    have colonFront : front ++ [':'] <+: front ++ ':' :: gate ++ ['-'] :=
      ⟨gate ++ ['-'], by simp⟩
    exact colonFront.trans scanned
  · exact exists_mark_or_feed gateParts member operator place.symm

end Gates

/-- A colon that becomes a comma is an operator by itself if it is scanned and shown and no equals
sign follows it.  With a gate before it, it is scanned and shown unless a carriage return of the
gate stands by itself.  With a gate behind it, it is scanned and no equals sign follows it, and it
is shown unless the gate has a quotation mark or a line feed. -/
theorem hasColon_of_sealsColon
    {script front behind : Text}
    (seals : SealsColon script front behind) :
    ((scan script).HasColon (start.behind front) ↔
      front ++ [':'] <+: scannedPart script ∧ (scan script).Shows (start.behind front) ∧
        behind.head? ≠ some '=') ∧
    ((∃ gate, HasInputGate script front gate ∧
        (gate.ReturnsBeforeFeeds →
          front ++ [':'] <+: scannedPart script ∧ (scan script).Shows (start.behind front))) ∨
      ∃ gate, HasOutputGate script front behind gate ∧
        front ++ [':'] <+: scannedPart script ∧ behind.head? ≠ some '=' ∧
          (¬ (scan script).Shows (start.behind front) → ∃ c ∈ gate, isQuoteMark c ∨ c = '\n')) := by
  refine ⟨hasColon_iff seals.1, ?_⟩
  rcases exists_gate_of_sealsColon seals with ⟨gate, input⟩ | ⟨gate, output⟩
  · exact .inl ⟨gate, input, shown_of_inputGate seals.1 input⟩
  · obtain ⟨scanned, hidden⟩ := scanned_of_outputGate seals.1 output
    exact .inr ⟨gate, output, scanned, output.noEquals, hidden⟩

/-- A sign of assignment directly behind the input gate of an arrow. -/
def assignedBehindArrow : Text :=
  "x -> 1:=y\n".toList

theorem sealsColon_assignedBehindArrow :
    SealsColon assignedBehindArrow "x -> 1".toList "=y\n".toList := by
  have sealed : (withoutArrows assignedBehindArrow).1 = "x ;  1,=y\n".toList := by
    cbv
  exact ⟨rfl, by rw [sealed]; rfl⟩

theorem hasColon_of_sealsColon_assignedBehindArrow :
    SealsColon assignedBehindArrow "x -> 1".toList "=y\n".toList ∧
      ¬ (scan assignedBehindArrow).HasColon (start.behind "x -> 1".toList) :=
  ⟨sealsColon_assignedBehindArrow, fun alone =>
    ((hasColon_of_sealsColon sealsColon_assignedBehindArrow).1.1 alone).2.2 rfl⟩

/-- A colon in a literal, and a longer literal directly behind that.  From the colon on the text is
a gate: there the quotation mark that closes the first literal opens the second one. -/
def adjacentLiterals : Text :=
  "'x:''''a''' -> b\n".toList

theorem sealsColon_adjacentLiterals :
    SealsColon adjacentLiterals "'x".toList "''''a''' -> b\n".toList := by
  have sealed : (withoutArrows adjacentLiterals).1 = "'x,''''a''' ;  b\n".toList := by
    cbv
  exact ⟨rfl, by rw [sealed]; rfl⟩

theorem noColon_adjacentLiterals :
    (scan adjacentLiterals).tokens.any (·.isOperator [':']) = false := by
  cbv

/-- The colon of the first literal becomes a comma. -/
theorem sealsColon_hidden_adjacentLiterals :
    ¬ ∀ front behind, SealsColon adjacentLiterals front behind →
      (scan adjacentLiterals).HasColon (start.behind front) := by
  intro alone
  obtain ⟨token, member, isColon, -⟩ := alone _ _ sealsColon_adjacentLiterals
  exact List.any_eq_false.1 noColon_adjacentLiterals token member isColon

end Pipescript
