import Pipescript.Proofs.Arrow.GateEdit

/-!
# Sealed texts

Replacing the arrows of a script seals it: some of its arrows become separators and some of its
colons become commas.  Which ones does not matter for how a scan reads the rest, so all that is kept
of the replacement is this relation between the two texts.
-/

namespace Pipescript

/-- Whether a text becomes another one by turning some arrows into separators and some colons into
commas. -/
inductive Sealed : Text → Text → Prop
  | nil : Sealed [] []
  | keep
      (c : Char) {text changed : Text} :
      Sealed text changed →
      Sealed (c :: text) (c :: changed)
  | comma
      {text changed : Text} :
      Sealed text changed →
      Sealed (':' :: text) (',' :: changed)
  | separator
      {text changed : Text} :
      Sealed text changed →
      Sealed ('-' :: '>' :: text) (';' :: ' ' :: changed)

/-- What replacing arrows may do to a character. -/
def ArrowChange (c d : Char) : Prop :=
  d = c ∨ (c = '-' ∧ d = ';') ∨ (c = '>' ∧ d = ' ') ∨ (c = ':' ∧ d = ',')

namespace Sealed

variable {text changed : Text}

theorem refl (text : Text) : Sealed text text := by
  induction text with
  | nil => exact nil
  | cons c rest inductionHypothesis => exact keep c inductionHypothesis

theorem append
    {rest changedRest : Text}
    (front : Sealed text changed)
    (behind : Sealed rest changedRest) :
    Sealed (text ++ rest) (changed ++ changedRest) := by
  induction front with
  | nil => exact behind
  | keep c _ inductionHypothesis => exact keep c inductionHypothesis
  | comma _ inductionHypothesis => exact comma inductionHypothesis
  | separator _ inductionHypothesis => exact separator inductionHypothesis

/-- A text comes before the rest of both texts only if the rests are sealed. -/
theorem behind
    {front rest changedRest : Text}
    (sealed : Sealed (front ++ rest) (front ++ changedRest)) :
    Sealed rest changedRest := by
  induction front with
  | nil => exact sealed
  | cons c front inductionHypothesis =>
      rw [List.cons_append, List.cons_append] at sealed
      generalize left : front ++ rest = text, right : front ++ changedRest = changed at sealed
      cases sealed with
      | keep _ later =>
          apply inductionHypothesis
          rw [left, right]
          exact later

theorem length_eq (sealed : Sealed text changed) : changed.length = text.length := by
  induction sealed with
  | nil => rfl
  | keep _ _ inductionHypothesis | comma _ inductionHypothesis | separator _ inductionHypothesis =>
      simp only [List.length_cons, inductionHypothesis]

/-! ## Sealing a script -/

theorem forall₂ (sealed : Sealed text changed) : List.Forall₂ ArrowChange text changed := by
  induction sealed with
  | nil => exact .nil
  | keep c _ inductionHypothesis => exact .cons (.inl rfl) inductionHypothesis
  | comma _ inductionHypothesis =>
      exact .cons (.inr (.inr (.inr ⟨rfl, rfl⟩))) inductionHypothesis
  | separator _ inductionHypothesis =>
      exact .cons (.inr (.inl ⟨rfl, rfl⟩)) (.cons (.inr (.inr (.inl ⟨rfl, rfl⟩)))
        inductionHypothesis)

theorem of_onlySealsColons (edited : OnlySealsColons text changed) : Sealed text changed := by
  unfold OnlySealsColons at edited
  induction edited with
  | nil => exact nil
  | cons first _ inductionHypothesis =>
      rcases first with rfl | ⟨rfl, rfl⟩
      · exact keep _ inductionHypothesis
      · exact comma inductionHypothesis

/-- Stretches with arrows between them become edited stretches with separators between them. -/
theorem intercalate
    {stretches edited : List Text}
    (pairs : List.Forall₂ OnlySealsColons stretches edited) :
    Sealed (arrowText.intercalate stretches) (separatorText.intercalate edited) := by
  induction pairs with
  | nil => exact nil
  | @cons first editedFirst later editedLater head tail inductionHypothesis =>
      cases tail with
      | nil => simpa using of_onlySealsColons head
      | cons next others =>
          rw [List.intercalate_cons_cons, List.intercalate_cons_cons]
          exact ((of_onlySealsColons head).append (separator nil)).append inductionHypothesis

end Sealed

theorem forall₂_sealGates (stretches : List Text) :
    List.Forall₂ OnlySealsColons stretches (sealGates stretches) := by
  refine List.forall₂_of_length_eq_of_get (length_sealGates stretches).symm ?_
  intro index bound sealedBound
  exact (isGateEdit_of_sealGates (List.getElem?_eq_getElem bound)
    (List.getElem?_eq_getElem sealedBound)).changes.1

theorem sealed_withoutArrows (script : Text) : Sealed script (withoutArrows script).1 := by
  have whole := Sealed.intercalate (forall₂_sealGates (segments script (withoutArrows script).2))
  rwa [(segments_withoutArrows script).1, ← joinSegments, ← text_withoutArrows] at whole

/-! ## Cutting sealed texts -/

/-- The characters with which a change begins, before the change and behind it. -/
def sealMarks : List Char :=
  [':', '-', ',', ';']

/-- The characters that sealing may change or make. -/
def sealChars : List Char :=
  sealMarks ++ ['>', ' ']

namespace Sealed

variable {text changed : Text}

/-- A cut that does not come between a minus sign and what follows it cuts sealed texts alike. -/
theorem exists_cut
    {front behind : Text}
    (sealed : Sealed (front ++ behind) changed)
    (noMinus : front.getLast? ≠ some '-') :
    ∃ changedFront changedBehind, changed = changedFront ++ changedBehind ∧
      Sealed front changedFront ∧ Sealed behind changedBehind := by
  generalize whole : front ++ behind = text at sealed
  have tail : ∀ {c : Char} {rest : Text}, (c :: rest).getLast? ≠ some '-' →
      rest.getLast? ≠ some '-' := by
    rintro c rest notLast last
    rw [List.getLast?_cons, last] at notLast
    exact notLast rfl
  induction sealed generalizing front with
  | nil =>
      obtain ⟨rfl, rfl⟩ := List.append_eq_nil_iff.1 whole
      exact ⟨[], [], rfl, nil, nil⟩
  | @keep c text changed later inductionHypothesis =>
      cases front with
      | nil =>
          obtain rfl : behind = c :: text := whole
          exact ⟨[], _, rfl, nil, keep c later⟩
      | cons d front =>
          obtain ⟨rfl, parts⟩ := List.cons.inj whole
          obtain ⟨changedFront, changedBehind, rfl, frontSealed, behindSealed⟩ :=
            inductionHypothesis (tail noMinus) parts
          exact ⟨d :: changedFront, changedBehind, rfl, keep d frontSealed, behindSealed⟩
  | @comma text changed later inductionHypothesis =>
      cases front with
      | nil =>
          obtain rfl : behind = ':' :: text := whole
          exact ⟨[], _, rfl, nil, comma later⟩
      | cons d front =>
          obtain ⟨rfl, parts⟩ := List.cons.inj whole
          obtain ⟨changedFront, changedBehind, rfl, frontSealed, behindSealed⟩ :=
            inductionHypothesis (tail noMinus) parts
          exact ⟨',' :: changedFront, changedBehind, rfl, comma frontSealed, behindSealed⟩
  | @separator text changed later inductionHypothesis =>
      match front, whole with
      | [], whole =>
          obtain rfl : behind = '-' :: '>' :: text := whole
          exact ⟨[], _, rfl, nil, separator later⟩
      | [d], whole =>
          obtain ⟨rfl, -⟩ := List.cons.inj whole
          exact absurd rfl noMinus
      | d :: e :: front, whole =>
          obtain ⟨rfl, secondParts⟩ := List.cons.inj whole
          obtain ⟨rfl, parts⟩ : e = '>' ∧ front ++ behind = text := List.cons.inj secondParts
          obtain ⟨changedFront, changedBehind, rfl, frontSealed, behindSealed⟩ :=
            inductionHypothesis (tail (tail noMinus)) parts
          exact ⟨';' :: ' ' :: changedFront, changedBehind, rfl, separator frontSealed,
            behindSealed⟩

/-- A text without marks is in front of the changed text if it is in front of the text. -/
theorem exists_append
    {front rest : Text}
    (noMark : ∀ c ∈ front, c ∉ sealMarks)
    (sealed : Sealed (front ++ rest) changed) :
    ∃ changedRest, changed = front ++ changedRest ∧ Sealed rest changedRest := by
  induction front generalizing changed with
  | nil => exact ⟨changed, rfl, sealed⟩
  | cons c front inductionHypothesis =>
      have laterNoMark : ∀ d ∈ front, d ∉ sealMarks :=
        fun d member => noMark d (List.mem_cons_of_mem _ member)
      have firstNoMark : c ∉ sealMarks := noMark c List.mem_cons_self
      rw [List.cons_append] at sealed
      generalize front ++ rest = text at sealed inductionHypothesis
      cases sealed with
      | keep _ later =>
          obtain ⟨changedRest, rfl, restSealed⟩ := inductionHypothesis laterNoMark later
          exact ⟨changedRest, rfl, restSealed⟩
      | comma => exact absurd (by decide) firstNoMark
      | separator => exact absurd (by decide) firstNoMark

/-- A text without marks is in front of the text if it is in front of the changed text. -/
theorem exists_append_of_changed
    {front changedRest : Text}
    (noMark : ∀ c ∈ front, c ∉ sealMarks)
    (sealed : Sealed text (front ++ changedRest)) :
    ∃ rest, text = front ++ rest ∧ Sealed rest changedRest := by
  induction front generalizing text with
  | nil => exact ⟨text, rfl, sealed⟩
  | cons c front inductionHypothesis =>
      have laterNoMark : ∀ d ∈ front, d ∉ sealMarks :=
        fun d member => noMark d (List.mem_cons_of_mem _ member)
      have firstNoMark : c ∉ sealMarks := noMark c List.mem_cons_self
      rw [List.cons_append] at sealed
      generalize front ++ changedRest = changed at sealed inductionHypothesis
      cases sealed with
      | keep _ later =>
          obtain ⟨rest, rfl, restSealed⟩ := inductionHypothesis laterNoMark later
          exact ⟨rest, rfl, restSealed⟩
      | comma => exact absurd (by decide) firstNoMark
      | separator => exact absurd (by decide) firstNoMark

theorem isPrefixOf_eq
    {front : Text}
    (noMark : ∀ c ∈ front, c ∉ sealMarks)
    (sealed : Sealed text changed) :
    front.isPrefixOf changed = front.isPrefixOf text := by
  rw [Bool.eq_iff_iff, List.isPrefixOf_iff_prefix, List.isPrefixOf_iff_prefix]
  constructor
  · rintro ⟨changedRest, rfl⟩
    obtain ⟨rest, rfl, -⟩ := exists_append_of_changed noMark sealed
    exact ⟨rest, rfl⟩
  · rintro ⟨rest, rfl⟩
    obtain ⟨changedRest, rfl, -⟩ := exists_append noMark sealed
    exact ⟨changedRest, rfl⟩

/-- A text without marks is the one text if it is the other. -/
theorem eq_iff
    {fixed : Text}
    (noMark : ∀ c ∈ fixed, c ∉ sealMarks)
    (sealed : Sealed text changed) :
    changed = fixed ↔ text = fixed := by
  constructor
  · rintro rfl
    rw [← List.append_nil changed] at sealed
    obtain ⟨rest, rfl, nothing⟩ := exists_append_of_changed noMark sealed
    cases nothing
    exact List.append_nil changed
  · rintro rfl
    rw [← List.append_nil text] at sealed
    obtain ⟨rest, rfl, nothing⟩ := exists_append noMark sealed
    cases nothing
    exact List.append_nil text

/-- What stops at every mark takes the same from both texts. -/
theorem takeWhile_eq
    {p : Char → Bool}
    (stops : sealMarks.any p = false)
    (sealed : Sealed text changed) :
    changed.takeWhile p = text.takeWhile p := by
  simp only [sealMarks, List.any_cons, List.any_nil, Bool.or_eq_false_iff] at stops
  obtain ⟨noColon, noMinus, noComma, noSemicolon, -⟩ := stops
  induction sealed with
  | nil => rfl
  | keep c _ inductionHypothesis =>
      rw [List.takeWhile_cons, List.takeWhile_cons, inductionHypothesis]
  | comma => simp [noColon, noComma]
  | separator => simp [noMinus, noSemicolon]

theorem dropWhile
    {p : Char → Bool}
    (stops : sealMarks.any p = false)
    (sealed : Sealed text changed) :
    Sealed (text.dropWhile p) (changed.dropWhile p) := by
  have same := takeWhile_eq stops sealed
  rw [← List.takeWhile_append_dropWhile (p := p) (l := text),
    ← List.takeWhile_append_dropWhile (p := p) (l := changed), same] at sealed
  exact sealed.behind

/-- A cut behind all characters up to one that sealing neither changes nor makes. -/
theorem takeWhile_dropWhile
    {p : Char → Bool}
    (passes : sealChars.all p)
    (sealed : Sealed text changed) :
    Sealed (text.takeWhile p) (changed.takeWhile p) ∧
      Sealed (text.dropWhile p) (changed.dropWhile p) := by
  simp only [sealChars, sealMarks, List.all_append, List.all_cons, List.all_nil, Bool.and_eq_true]
    at passes
  obtain ⟨⟨passesColon, passesMinus, passesComma, passesSemicolon, -⟩, passesGreater, passesBlank,
    -⟩ := passes
  induction sealed with
  | nil => exact ⟨nil, nil⟩
  | @keep c text changed later inductionHypothesis =>
      by_cases passed : p c
      · simp only [List.takeWhile_cons, List.dropWhile_cons, passed, if_true]
        exact ⟨keep c inductionHypothesis.1, inductionHypothesis.2⟩
      · simp only [List.takeWhile_cons, List.dropWhile_cons, passed]
        exact ⟨nil, keep c later⟩
  | comma _ inductionHypothesis =>
      simp only [List.takeWhile_cons, List.dropWhile_cons, passesColon, passesComma,
        if_true]
      exact ⟨comma inductionHypothesis.1, inductionHypothesis.2⟩
  | separator _ inductionHypothesis =>
      simp only [List.takeWhile_cons, List.dropWhile_cons, passesMinus, passesGreater,
        passesSemicolon, passesBlank, if_true]
      exact ⟨separator inductionHypothesis.1, inductionHypothesis.2⟩

end Sealed

end Pipescript
