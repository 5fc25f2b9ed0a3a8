import Pipescript.Proofs.Arrow.Sealed
import Pipescript.Proofs.Script.AssignmentRow
import Pipescript.Script.PlainScript

/-!
# Rows and columns stay

None of the three passes that make a script plain moves a character: each of them replaces
characters one by one and touches no line feed.  Neither the macros nor the assignments make an
arrow, so the arrows that the last pass replaces stand in the script itself.
-/

namespace Pipescript

/-! ## The passes, character by character -/

/-- What replacing macros may do to a character. -/
def MacroChange (c d : Char) : Prop :=
  d = c ∨ (c ≠ '\n' ∧ d ≠ '\n' ∧ d ≠ '-' ∧ d ≠ '>')

theorem macroChange_keepsFeeds : Text.KeepsFeeds MacroChange := by
  rintro c d (rfl | ⟨noFeed, changedNoFeed, -⟩)
  · rfl
  · simp [noFeed, changedNoFeed]

theorem arrowChange_keepsFeeds : Text.KeepsFeeds ArrowChange := by
  rintro c d (rfl | ⟨rfl, rfl⟩ | ⟨rfl, rfl⟩ | ⟨rfl, rfl⟩)
  · rfl
  · decide
  · decide
  · decide

theorem environmentMacro?_parts
    {rest name behind : Text}
    (found : environmentMacro? rest = some (name, behind)) :
    ∃ first later, name = first :: later ∧ (∀ c ∈ name, isWordChar c) ∧
      rest = name ++ '!' :: behind := by
  have parts := List.takeWhile_append_dropWhile (p := isWordChar) (l := rest)
  have word : ∀ c ∈ rest.takeWhile isWordChar, isWordChar c :=
    fun c member => List.mem_takeWhile_imp member
  unfold environmentMacro? at found
  split at found
  · next first later _ taken dropped =>
      obtain ⟨rfl, rfl⟩ := Prod.mk.inj (Option.some.inj found)
      rw [taken, dropped] at parts
      rw [taken] at word
      exact ⟨first, later, rfl, word, parts.symm⟩
  · simp at found

theorem macroChange_of_isWordChar
    {c d : Char}
    (word : isWordChar c)
    (changedWord : isWordChar d) :
    MacroChange c d := by
  have different : ∀ {other : Char}, isWordChar other = false → d ≠ other := by
    rintro other noWord rfl
    simp [noWord] at changedWord
  refine .inr ⟨?_, different (by decide +kernel), different (by decide +kernel),
    different (by decide +kernel)⟩
  rintro rfl
  exact absurd word (by decide +kernel)

/-- The name of a macro moves left by one character, before its quote. -/
theorem forall₂_macroName
    {first : Char} {later behind changed : Text}
    (word : ∀ c ∈ first :: later, isWordChar c)
    (pairs : List.Forall₂ MacroChange behind changed) :
    List.Forall₂ MacroChange (first :: later ++ '!' :: behind)
      (later ++ '\'' :: '+' :: changed) := by
  have noFeed : ∀ {c : Char}, isWordChar c → c ≠ '\n' := by
    rintro c isWord rfl
    exact absurd isWord (by decide +kernel)
  induction later generalizing first with
  | nil =>
      refine .cons (.inr ⟨noFeed (word first List.mem_cons_self), ?_⟩) (.cons (.inr ?_) pairs)
      · decide
      · decide
  | cons second later inductionHypothesis =>
      have laterWord : ∀ c ∈ second :: later, isWordChar c :=
        fun c member => word c (List.mem_cons_of_mem _ member)
      exact .cons
        (macroChange_of_isWordChar (word first List.mem_cons_self)
          (laterWord second List.mem_cons_self))
        (inductionHypothesis laterWord)

theorem forall₂_withoutMacros (script : Text) :
    List.Forall₂ MacroChange script (withoutMacros script) := by
  fun_induction withoutMacros script with
  | case1 => exact .nil
  | case2 rest name behind found inductionHypothesis =>
      obtain ⟨first, later, rfl, word, rfl⟩ := environmentMacro?_parts found
      exact .cons (.inr (by decide)) (forall₂_macroName word inductionHypothesis)
  | case3 rest _ inductionHypothesis => exact .cons (.inl rfl) inductionHypothesis
  | case4 c rest _ inductionHypothesis => exact .cons (.inl rfl) inductionHypothesis

/-! ## The arrows -/

theorem arrowChange_of_onlySealsColons
    {stretch result : Text}
    (edited : OnlySealsColons stretch result) :
    List.Forall₂ ArrowChange stretch result :=
  edited.imp fun _ _ kept => kept.imp_right fun comma => .inr (.inr comma)

theorem forall₂_withoutArrows (script : Text) :
    List.Forall₂ ArrowChange script (withoutArrows script).1 :=
  (sealed_withoutArrows script).forall₂

/-- Where an arrow stands between stretches, a separator stands between the edited ones. -/
theorem exists_parts_of_mem_between
    {stretches edited : List Text} {arrow : Arrow}
    (pairs : List.Forall₂ OnlySealsColons stretches edited)
    {place : Arrow}
    (member : arrow ∈ place.between stretches) :
    ∃ front behind editedFront editedBehind,
      arrowText.intercalate stretches = front ++ arrowText ++ behind ∧
      place.behind front = arrow ∧
      separatorText.intercalate edited = editedFront ++ separatorText ++ editedBehind ∧
      place.behind editedFront = arrow := by
  induction pairs generalizing place with
  | nil => simp [Arrow.between] at member
  | @cons first editedFirst later editedLater head tail inductionHypothesis =>
      cases tail with
      | nil => simp [Arrow.between] at member
      | @cons second editedSecond others editedOthers next rest =>
          have sameBehind : place.behind editedFirst = place.behind first :=
            Arrow.behind_of_forall₂ arrowChange_keepsFeeds (arrowChange_of_onlySealsColons head) place
          rw [List.intercalate_cons_cons, List.intercalate_cons_cons]
          rcases List.mem_cons.1 member with rfl | laterMember
          · exact ⟨first, _, editedFirst, _, rfl, rfl, rfl, sameBehind⟩
          · obtain ⟨front, behind, editedFront, editedBehind, parts, here, editedParts, editedHere⟩ :=
              inductionHypothesis laterMember
            refine ⟨first ++ arrowText ++ front, behind,
              editedFirst ++ separatorText ++ editedFront, editedBehind, ?_, ?_, ?_, ?_⟩
            · rw [parts]
              simp only [List.append_assoc]
            · rw [Arrow.behind_append, Arrow.behind_append, here]
            · rw [editedParts]
              simp only [List.append_assoc]
            · rw [Arrow.behind_append, Arrow.behind_append, sameBehind]
              exact editedHere

/-- Each arrow stands in the script, and the separator in its place. -/
theorem standsIn_withoutArrows
    {script : Text} {arrow : Arrow}
    (member : arrow ∈ (withoutArrows script).2) :
    arrow.StandsIn script ∧
      (withoutArrows script).1.charAt? arrow.row arrow.column = some ';' ∧
      (withoutArrows script).1.charAt? arrow.row (arrow.column + 1) = some ' ' := by
  obtain ⟨joined, places⟩ := segments_withoutArrows script
  rw [← places] at member
  obtain ⟨front, behind, editedFront, editedBehind, parts, rfl, editedParts, samePlace⟩ :=
    exists_parts_of_mem_between (forall₂_sealGates _) member
  rw [text_withoutArrows, joinSegments, editedParts]
  rw [joined] at parts
  constructor
  · rw [Arrow.StandsIn, parts]
    exact Text.charAt?_pair (by decide) front '>' behind
  · rw [← samePlace]
    exact Text.charAt?_pair (by decide) editedFront ' ' editedBehind

/-- An arrow behind the first two passes was there before them. -/
theorem charAt?_of_passes
    {script : Text} {row column : Nat} {c : Char}
    (isArrow : c = '-' ∨ c = '>')
    (found : (withoutAssignments (withoutMacros script)).1.charAt? row column = some c) :
    script.charAt? row column = some c := by
  have noSign : c ≠ '=' ∧ c ≠ ' ' := by
    rcases isArrow with rfl | rfl <;> decide
  obtain ⟨middle, between, assigned⟩ := Text.exists_related_of_charAt? assignmentChange_keepsFeeds
    (forall₂_withoutAssignments (withoutMacros script)) found
  obtain ⟨original, before, replaced⟩ := Text.exists_related_of_charAt? macroChange_keepsFeeds
    (forall₂_withoutMacros script) between
  obtain rfl : c = middle := by
    rcases assigned with same | ⟨-, equals | blank⟩
    · exact same
    · exact absurd equals noSign.1
    · exact absurd blank noSign.2
  obtain rfl : c = original := by
    rcases replaced with same | ⟨-, -, noMinus, noGreater⟩
    · exact same
    · rcases isArrow with minus | greater
      · exact absurd minus noMinus
      · exact absurd greater noGreater
  exact before

/-! ## All passes -/

namespace PlainScript

theorem text_ofScript (script : Text) :
    (ofScript script).text = (withoutArrows (withoutAssignments (withoutMacros script)).1).1 := rfl

theorem arrows_ofScript (script : Text) :
    (ofScript script).arrows = (withoutArrows (withoutAssignments (withoutMacros script)).1).2 := rfl

theorem changedRows_ofScript (script : Text) :
    (ofScript script).changedRows = (withoutAssignments (withoutMacros script)).2.insertAll
      ((ofScript script).arrows.map Arrow.row) := rfl

/-- Lines with line feeds in the same columns only. -/
def SameFeeds (rowText changed : Text) : Prop :=
  changed.length = rowText.length ∧
    ∀ column : Nat, changed[column]? = some '\n' ↔ rowText[column]? = some '\n'

theorem SameFeeds.trans
    {line middle changed : Text}
    (first : SameFeeds line middle)
    (second : SameFeeds middle changed) :
    SameFeeds line changed :=
  ⟨second.1.trans first.1, fun column => (second.2 column).trans (first.2 column)⟩

theorem sameFeeds_of_forall₂
    {related : Char → Char → Prop}
    (keepsFeeds : Text.KeepsFeeds related)
    {rowText changed : Text}
    (pairs : List.Forall₂ related rowText changed) :
    SameFeeds rowText changed := by
  refine ⟨pairs.length_eq.symm, fun column => ?_⟩
  have here := Text.rel_getElem?_of_forall₂ pairs column
  generalize rowText[column]? = c, changed[column]? = d at here ⊢
  cases here with
  | none => rfl
  | some kept => simpa using (keepsFeeds _ _ kept).symm

theorem sameFeeds_toLines
    {related : Char → Char → Prop}
    (keepsFeeds : Text.KeepsFeeds related)
    {text changed : Text}
    (pairs : List.Forall₂ related text changed) :
    List.Forall₂ SameFeeds text.toLines changed.toLines :=
  (Text.forall₂_toLines keepsFeeds pairs).imp fun _ _ => sameFeeds_of_forall₂ keepsFeeds

theorem forall₂_sameFeeds_trans
    {lines middle changed : List Text}
    (first : List.Forall₂ SameFeeds lines middle)
    (second : List.Forall₂ SameFeeds middle changed) :
    List.Forall₂ SameFeeds lines changed := by
  induction first generalizing changed with
  | nil => exact second
  | cons head _ inductionHypothesis =>
      cases second with
      | cons next later => exact .cons (head.trans next) (inductionHypothesis later)

/-- Making a script plain moves nothing: its lines keep their number, their lengths and their line
feeds, and each arrow stands in the script where its separator stands in the plain text. -/
theorem ofScript_keepsLayout (script : Text) :
    (ofScript script).text.toLines.length = script.toLines.length ∧
      List.Forall₂ SameFeeds script.toLines (ofScript script).text.toLines ∧
      ∀ arrow ∈ (ofScript script).arrows,
        script.charAt? arrow.row arrow.column = some '-' ∧
        script.charAt? arrow.row (arrow.column + 1) = some '>' ∧
        (ofScript script).text.charAt? arrow.row arrow.column = some ';' ∧
        (ofScript script).text.charAt? arrow.row (arrow.column + 1) = some ' ' := by
  have lines : List.Forall₂ SameFeeds script.toLines (ofScript script).text.toLines :=
    forall₂_sameFeeds_trans
      (forall₂_sameFeeds_trans
        (sameFeeds_toLines macroChange_keepsFeeds (forall₂_withoutMacros script))
        (sameFeeds_toLines assignmentChange_keepsFeeds (forall₂_withoutAssignments _)))
      (sameFeeds_toLines arrowChange_keepsFeeds (forall₂_withoutArrows _))
  refine ⟨lines.length_eq.symm, lines, ?_⟩
  · intro arrow member
    obtain ⟨⟨minus, greater⟩, separator⟩ := standsIn_withoutArrows member
    exact ⟨charAt?_of_passes (.inl rfl) minus, charAt?_of_passes (.inr rfl) greater, separator⟩

end PlainScript

end Pipescript
