import Mathlib
import Pipescript.Proofs.Arrow.WithReturns
import Pipescript.Proofs.Script.Layout

/-!
# Line ends of scripts

A script may be written with a carriage return before each of its line feeds.  Its plain text then
is the same one with carriage returns, but for gates with a literal that goes over a line end.
-/

namespace Pipescript

open Text

/-! ## Environment macros -/

theorem environmentMacro?_withReturns (rest : Text) :
    environmentMacro? rest.withReturns =
      (environmentMacro? rest).map fun made => (made.1, made.2.withReturns) := by
  have noWord : isWordChar '\r' = false ∧ isWordChar '\n' = false := by decide +kernel
  unfold environmentMacro?
  rw [takeWhile_withReturns noWord.1 noWord.2, dropWhile_withReturns noWord.1 noWord.2]
  cases rest.takeWhile isWordChar with
  | nil => rfl
  | cons first later =>
      cases rest.dropWhile isWordChar with
      | nil => rfl
      | cons mark behind =>
          by_cases feed : mark = '\n'
          · subst feed
            rfl
          · rw [withReturns_cons feed]
            by_cases ends : mark = '!'
            · subst ends
              rfl
            · simp [ends]

theorem withoutMacros_withReturns (script : Text) :
    withoutMacros script.withReturns = withReturns (withoutMacros script) := by
  fun_induction withoutMacros script with
  | case1 => rw [withReturns_nil, withoutMacros]
  | case2 rest name behind found inductionHypothesis =>
      have returnedFound : environmentMacro? (withReturns rest) = some (name, behind.withReturns) := by
        rw [environmentMacro?_withReturns, found, Option.map_some]
      obtain ⟨-, -, -, word, -⟩ := environmentMacro?_parts found
      have nameNoFeed : '\n' ∉ name.drop 1 := fun feed =>
        absurd (word '\n' (List.mem_of_mem_drop feed)) (by decide +kernel)
      rw [withReturns_cons (by decide), withoutMacros, if_pos rfl]
      split
      · next made madeBehind same =>
          obtain ⟨rfl, rfl⟩ := Prod.mk.inj (Option.some.inj (same.symm.trans returnedFound))
          rw [inductionHypothesis, withReturns_append, withReturns_cons (by decide),
            withReturns_cons (by decide), withReturns_cons (by decide), withReturns_of_noFeed nameNoFeed]
      · next nothing => cases nothing.symm.trans returnedFound
  | case3 rest nothing inductionHypothesis =>
      have returnedNothing : environmentMacro? (withReturns rest) = none := by
        rw [environmentMacro?_withReturns, nothing, Option.map_none]
      rw [withReturns_cons (by decide), withoutMacros, if_pos rfl, withReturns_cons (by decide)]
      split
      · next same => cases same.symm.trans returnedNothing
      · rw [inductionHypothesis]
  | case4 c rest noDollar inductionHypothesis =>
      by_cases feed : c = '\n'
      · subst feed
        rw [withReturns_feed, withoutMacros, if_neg (by decide), withoutMacros, if_neg (by decide),
          inductionHypothesis, withReturns_feed]
      · rw [withReturns_cons feed, withoutMacros, if_neg noDollar, inductionHypothesis,
          withReturns_cons feed]

theorem noReturn_withoutMacros
    {script : Text}
    (noReturn : '\r' ∉ script) :
    '\r' ∉ withoutMacros script := by
  fun_induction withoutMacros script with
  | case1 => exact noReturn
  | case2 rest name behind found inductionHypothesis =>
      obtain ⟨-, -, -, -, rfl⟩ := environmentMacro?_parts found
      simp only [List.mem_cons, List.mem_append, not_or] at noReturn inductionHypothesis ⊢
      obtain ⟨-, nameNoReturn, -, behindNoReturn⟩ := noReturn
      refine ⟨⟨by decide, fun isReturn => nameNoReturn (List.mem_of_mem_drop isReturn)⟩, by decide,
        by decide, inductionHypothesis behindNoReturn⟩
  | case3 rest _ inductionHypothesis =>
      simp only [List.mem_cons, not_or] at noReturn ⊢
      exact ⟨noReturn.1, inductionHypothesis noReturn.2⟩
  | case4 c rest _ inductionHypothesis =>
      simp only [List.mem_cons, not_or] at noReturn ⊢
      exact ⟨noReturn.1, inductionHypothesis noReturn.2⟩

/-! ## Assignments -/

theorem withoutDoubleColons_cons
    {c : Char}
    (notColon : c ≠ ':')
    (rest : Text) :
    withoutDoubleColons (c :: rest) = c :: withoutDoubleColons rest :=
  withoutDoubleColons_append notColon [] rest

theorem withoutDoubleColons_withReturns (line : Text) :
    withoutDoubleColons line.withReturns = withReturns (withoutDoubleColons line) := by
  fun_induction withoutDoubleColons line with
  | case1 rest inductionHypothesis =>
      rw [withReturns_cons (by decide), withReturns_cons (by decide), withoutDoubleColons,
        inductionHypothesis, withReturns_cons (by decide), withReturns_cons (by decide)]
  | case2 c rest noColons inductionHypothesis =>
      by_cases feed : c = '\n'
      · subst feed
        rw [withReturns_feed, withoutDoubleColons_cons (by decide), withoutDoubleColons_cons (by decide),
          inductionHypothesis, withReturns_feed]
      · rw [withReturns_cons feed, withReturns_cons feed, ← inductionHypothesis]
        refine withoutDoubleColons.eq_2 c (withReturns rest) fun behind isColon colons => ?_
        obtain ⟨before, after, rfl, nothing, -⟩ := @exists_parts_of_withReturns _ [] _ _
          (by decide) (by decide) colons
        obtain rfl := withReturns_eq_nil_iff.1 nothing.symm
        exact noColons after isColon rfl
  | case3 => rfl

theorem includes_withReturns
    {part : Text}
    (noReturn : '\r' ∉ part)
    (noFeed : '\n' ∉ part)
    (notEmpty : part ≠ [])
    (text : Text) :
    Text.includes part text.withReturns = Text.includes part text := by
  induction text with
  | nil => rfl
  | cons c rest inductionHypothesis =>
      have samePrefix := isPrefixOf_withReturns noReturn noFeed (c :: rest)
      by_cases feed : c = '\n'
      · subst feed
        have notHere : part.isPrefixOf ('\n' :: withReturns rest) = false := by
          obtain ⟨first, later, rfl⟩ := List.exists_cons_of_ne_nil notEmpty
          have notFirst : first ≠ '\n' := fun isFeed => noFeed (isFeed ▸ List.mem_cons_self)
          simp [List.isPrefixOf_cons_cons, beq_eq_false_iff_ne.2 notFirst]
        rw [withReturns_feed] at samePrefix ⊢
        rw [Text.includes, Text.includes, Text.includes, samePrefix, notHere, inductionHypothesis,
          Bool.false_or]
      · rw [withReturns_cons feed] at samePrefix ⊢
        rw [Text.includes, Text.includes, samePrefix, inductionHypothesis]

theorem assignmentRows_withReturns (row : Nat) (lines : List Text) :
    assignmentRows row (lines.map withReturns) = assignmentRows row lines := by
  induction lines generalizing row with
  | nil => rfl
  | cons line lines inductionHypothesis =>
      have sameColons := @includes_withReturns [':', ':'] (by decide) (by decide)
        (List.cons_ne_nil _ _) line
      rw [List.map_cons, assignmentRows, assignmentRows, sameColons, inductionHypothesis]

theorem withoutAssignments_withReturns (script : Text) :
    withoutAssignments script.withReturns =
      (withReturns (withoutAssignments script).1, (withoutAssignments script).2) := by
  unfold withoutAssignments
  dsimp only
  rw [toLines_withReturns, assignmentRows_withReturns, List.map_map]
  have sameLines : withoutDoubleColons ∘ withReturns = withReturns ∘ withoutDoubleColons :=
    funext withoutDoubleColons_withReturns
  rw [sameLines, ← List.map_map, flatten_map_withReturns]

theorem noReturn_withoutAssignments
    {script : Text}
    (noReturn : '\r' ∉ script) :
    '\r' ∉ (withoutAssignments script).1 := by
  have pairs := forall₂_withoutAssignments script
  generalize (withoutAssignments script).1 = assigned at pairs
  induction pairs with
  | nil => exact noReturn
  | cons change _ inductionHypothesis =>
      simp only [List.mem_cons, not_or] at noReturn ⊢
      refine ⟨?_, inductionHypothesis noReturn.2⟩
      rcases change with rfl | ⟨-, rfl | rfl⟩
      · exact noReturn.1
      · decide
      · decide

/-! ## Plain scripts -/

namespace PlainScript

/-- With carriage returns before its line feeds a script has the same arrows and changed rows, and
its plain text is the same one with carriage returns just if each stretch between arrows is sealed
alike. -/
theorem ofScript_withReturns
    {script : Text}
    (noReturn : '\r' ∉ script) :
    (ofScript script.withReturns).arrows = (ofScript script).arrows ∧
      (ofScript script.withReturns).changedRows = (ofScript script).changedRows ∧
      ((ofScript script.withReturns).text = (ofScript script).text.withReturns ↔
        ∀ index stretch,
          (segments (withoutAssignments (withoutMacros script)).1 (ofScript script).arrows)[index]? =
              some stretch →
            SealsAlike (0 < index) (index < (ofScript script).arrows.length) stretch) := by
  have assignedNoReturn := noReturn_withoutAssignments (noReturn_withoutMacros noReturn)
  have sameArrows := arrows_withReturns assignedNoReturn
  have text := text_withReturns_iff assignedNoReturn
  unfold ofScript
  rw [withoutMacros_withReturns, withoutAssignments_withReturns]
  generalize withoutAssignments (withoutMacros script) = assigned at *
  dsimp only
  rw [sameArrows]
  exact ⟨rfl, rfl, text⟩

/-- Gates with a comment and with a literal in triple quotes, each on two rows. -/
def spreadGatesScript : Text :=
  "a::M()\na:(1 # one\n ) -> \'\'\'p\nq\'\'\':b\n".toList

theorem ofScript_withReturns_spreadGates :
    '\r' ∉ spreadGatesScript ∧
      (ofScript spreadGatesScript.withReturns).arrows = (ofScript spreadGatesScript).arrows ∧
      (ofScript spreadGatesScript.withReturns).changedRows =
        (ofScript spreadGatesScript).changedRows ∧
      ∀ index stretch,
        (segments (withoutAssignments (withoutMacros spreadGatesScript)).1
            (ofScript spreadGatesScript).arrows)[index]? = some stretch →
          SealsAlike (0 < index) (index < (ofScript spreadGatesScript).arrows.length) stretch := by
  have noReturn : '\r' ∉ spreadGatesScript := by decide
  have sameText : (ofScript spreadGatesScript.withReturns).text =
      (ofScript spreadGatesScript).text.withReturns := by
    cbv
  obtain ⟨sameArrows, sameRows, text⟩ := ofScript_withReturns noReturn
  exact ⟨noReturn, sameArrows, sameRows, text.1 sameText⟩

/-- A gate that is a literal with single quotes, joined over a line end. -/
def jointLiteralScript : Text :=
  "a:\'p\\\nq\' -> b\n".toList

theorem text_ofScript_jointLiteral :
    (ofScript jointLiteralScript).text = "a,\'p\\\nq\' ;  b\n".toList := by
  cbv

theorem text_ofScript_jointLiteral_withReturns :
    (ofScript jointLiteralScript.withReturns).text = "a:\'p\\\r\nq\' ;  b\r\n".toList := by
  cbv

/-- With carriage returns the gate is none, and its colon stays. -/
theorem withReturns_misses_jointLiteral :
    '\r' ∉ jointLiteralScript ∧
      (ofScript jointLiteralScript.withReturns).text ≠ (ofScript jointLiteralScript).text.withReturns := by
  refine ⟨by decide, fun same => ?_⟩
  rw [text_ofScript_jointLiteral, text_ofScript_jointLiteral_withReturns] at same
  exact absurd same (by decide)

end PlainScript

end Pipescript
