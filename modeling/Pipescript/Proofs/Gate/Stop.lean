import Pipescript.Proofs.Gate.Recognition

/-!
# Where a reader may stop

A candidate for a gate is read twice, in parentheses and between operators.  Where both go on, the
candidate by itself is read to its end: an operator may follow only where no bracket and no line
break is left, and a closing parenthesis only where no operand is missing.
-/

namespace Pipescript

/-- Whether a piece means nothing inside a bracket and hides nothing behind it. -/
def GatePiece.isQuiet : GatePiece → Bool
  | .blank _ | .joint _ | .lineBreak _ => true
  | _ => false

namespace Expected

variable {expected : Expected} {brackets opened : List GateBracket} {kind : GateTokenKind}
variable {reader reached : Expected × List GateBracket}

theorem finishes_iff {pieces : List GatePiece} :
    finishes reader pieces ↔
      ∃ reached, run reader pieces = some reached ∧ reached.1.ends reached.2 := by
  unfold finishes
  rw [Option.any_eq_true]

/-! ## Arguments -/

theorem closeBracket_argument
    (closed : GateState.closeBracket brackets kind = .ok (.argument, opened)) :
    opened.head? = some .call := by
  unfold GateState.closeBracket at closed
  split at closed
  · simp at closed
  · simp at closed
  · obtain ⟨-, rfl⟩ := Prod.mk.inj (Except.ok.inj closed)
    rfl
  · split at closed <;> simp at closed

theorem beginOperand_ne_argument :
    GateState.beginOperand brackets kind ≠ .ok (.argument, opened) := by
  unfold GateState.beginOperand
  split
  · simp
  · simp
  · split <;> simp
  · simp
  · simp
  · simp
  · simp

theorem continueOperand_argument
    {afterString : Bool}
    (continued :
      GateState.continueOperand afterString brackets kind = .ok (.argument, opened)) :
    opened.head? = some .call := by
  unfold GateState.continueOperand at continued
  split at continued
  · simp at continued
  · simp at continued
  · obtain ⟨-, rfl⟩ := Prod.mk.inj (Except.ok.inj continued)
    rfl
  · split at continued
    · simp at continued
    · exact closeBracket_argument continued
  · split at continued
    · simp at continued
    · exact closeBracket_argument continued
  · exact closeBracket_argument continued

theorem ofState_argument
    {state : GateState}
    (stepped : ofState state brackets kind = some (.plain .argument, opened)) :
    opened.head? = some .call := by
  obtain ⟨following, found, same⟩ := ofState_eq_some_iff.1 stepped
  obtain rfl : GateState.argument = following := Expected.plain.inj same
  cases state with
  | operand => exact absurd found beginOperand_ne_argument
  | argument =>
      rw [GateState.step] at found
      split at found
      · exact closeBracket_argument found
      · exact absurd found beginOperand_ne_argument
  | «attribute» =>
      cases kind <;> cases found
  | suffix afterString => exact continueOperand_argument found
  | ending => exact closeBracket_argument found

/-- An argument is waited for only just inside a call. -/
theorem step_argument
    (stepped : expected.step brackets kind = some (.plain .argument, opened)) :
    opened.head? = some .call := by
  unfold step at stepped
  split at stepped
  · simp at stepped
  · exact ofState_argument stepped
  · simp at stepped
  · split at stepped
    · simp at stepped
    · exact ofState_argument stepped

theorem run_argument
    {pieces : List GatePiece}
    (reading : run reader pieces = some reached)
    (inCall : reader.1 = .plain .argument → reader.2.head? = some .call) :
    reached.1 = .plain .argument → reached.2.head? = some .call := by
  induction pieces generalizing reader with
  | nil =>
      obtain rfl := Option.some.inj reading
      exact inCall
  | cons piece later inductionHypothesis =>
      obtain ⟨middle, stepped, laterReading⟩ := Option.bind_eq_some_iff.1 reading
      refine inductionHypothesis laterReading ?_
      have token : ∀ {kind : GateTokenKind}, reader.1.step reader.2 kind = some middle →
          middle.1 = .plain .argument → middle.2.head? = some .call := by
        rintro kind tokenStepped isArgument
        obtain ⟨next, opened⟩ := middle
        obtain rfl : next = .plain .argument := isArgument
        exact step_argument tokenStepped
      cases piece with
      | blank text | comment text | joint text =>
          obtain rfl := Option.some.inj stepped
          exact inCall
      | lineBreak c =>
          rw [stepPiece] at stepped
          split at stepped
          · next noBrackets =>
              rw [← noBrackets] at stepped
              exact token stepped
          · obtain rfl := Option.some.inj stepped
            exact inCall
      | number text | string text | name text | operator sign => exact token stepped

/-! ## Line breaks -/

theorem step_lineBreak_nil
    (stepped : expected.step [] .lineBreak = some reached) :
    reached.1 = .plain .ending := by
  obtain ⟨next, opened⟩ := reached
  by_cases finished : expected = .plain .ending
  · subst finished
    exact (lineBreak_of_ending stepped).2.1
  · rcases step_cases stepped finished with ⟨-, -, ending, -⟩ | ⟨-, changes⟩
    · exact ending
    · exact absurd rfl changes.notBreak

theorem run_ending
    {pieces : List GatePiece}
    (reading : run (.plain .ending, []) pieces = some reached) :
    reached = (.plain .ending, []) := by
  induction pieces with
  | nil => exact (Option.some.inj reading).symm
  | cons piece later inductionHypothesis =>
      obtain ⟨middle, stepped, laterReading⟩ := Option.bind_eq_some_iff.1 reading
      have token : ∀ kind : GateTokenKind,
          (plain .ending).step [] kind = some middle → middle = (.plain .ending, []) := by
        intro kind tokenStepped
        obtain ⟨next, opened⟩ := middle
        obtain ⟨-, rfl, rfl⟩ := lineBreak_of_ending tokenStepped
        rfl
      have stays : middle = (.plain .ending, []) := by
        cases piece with
        | blank text | comment text | joint text => exact (Option.some.inj stepped).symm
        | lineBreak c => exact token .lineBreak stepped
        | number text => exact token .number stepped
        | string text => exact token .string stepped
        | name text => exact token (.name text) stepped
        | operator sign => exact token (.operator sign) stepped
      subst stays
      exact inductionHypothesis laterReading

/-- The expression has ended just if one of the tokens is a line break. -/
theorem lineBreak_mem_iff
    {pieces : List GatePiece}
    (reading : run reader pieces = some reached)
    (unfinished : reader.1 ≠ .plain .ending)
    (offset : Nat) :
    .lineBreak ∈ (gateTokens offset reader.2.length pieces).map GateToken.kind ↔
      reached.1 = .plain .ending := by
  induction pieces generalizing offset reader with
  | nil =>
      obtain rfl := Option.some.inj reading
      simp [gateTokens, unfinished]
  | cons piece later inductionHypothesis =>
      obtain ⟨expected, brackets⟩ := reader
      obtain ⟨⟨next, opened⟩, stepped, laterReading⟩ := Option.bind_eq_some_iff.1 reading
      have token : ∀ {kind : GateTokenKind} (behind : Nat), kind ≠ .lineBreak →
          expected.step brackets kind = some (next, opened) →
          (.lineBreak ∈ kind ::
              (gateTokens behind (kind.depthAfter brackets.length) later).map GateToken.kind ↔
            reached.1 = .plain .ending) := by
        intro kind behind noBreak tokenStepped
        have settled : IsSettled (expected, brackets) := fun ending => absurd ending unfinished
        rw [← (isSettled_of_step tokenStepped settled).2, List.mem_cons]
        rcases step_cases tokenStepped unfinished with ⟨-, isBreak, -, -⟩ | ⟨notEnding, -⟩
        · exact absurd isBreak noBreak
        · rw [← inductionHypothesis laterReading notEnding behind]
          exact or_iff_right (Ne.symm noBreak)
      cases piece with
      | blank text | comment text | joint text =>
          obtain ⟨rfl, rfl⟩ := Prod.mk.inj (Option.some.inj stepped)
          exact inductionHypothesis laterReading unfinished _
      | lineBreak c =>
          cases brackets with
          | nil =>
              rcases step_cases stepped unfinished with ⟨-, -, rfl, rfl⟩ | ⟨-, changes⟩
              · rw [run_ending laterReading]
                simp [gateTokens]
              · exact absurd rfl changes.notBreak
          | cons bracket outer =>
              obtain ⟨rfl, rfl⟩ := Prod.mk.inj (Option.some.inj stepped)
              exact inductionHypothesis laterReading unfinished _
      | number text | string text | name text | operator sign =>
          exact token _ (by simp) stepped

/-- By itself a text is one expression just if it can be read to its end and no line break has ended
it before. -/
theorem expression_iff {pieces : List GatePiece} :
    (GateTokenKind.lineBreak ∉ (gateTokens 0 0 pieces).map GateToken.kind ∧
        GateCategory.expression.Derives ((gateTokens 0 0 pieces).map GateToken.kind)) ↔
      ∃ reached, run (.plain .operand, []) pieces = some reached ∧
        reached.1.ends reached.2 ∧ reached.1 ≠ .plain .ending := by
  have settled : IsSettled (.plain .operand, []) := fun ending => absurd ending (by simp)
  have accepted : (plain .operand).accepts [] ((gateTokens 0 0 pieces).map GateToken.kind) =
      finishes (.plain .operand, []) pieces := accepts_gateTokens settled 0 pieces
  constructor
  · rintro ⟨noBreak, derivation⟩
    obtain ⟨reached, reading, ends⟩ :=
      finishes_iff.1 (accepted.symm.trans (accepts_of_expression derivation))
    refine ⟨reached, reading, ends, fun ending => noBreak ?_⟩
    exact (lineBreak_mem_iff reading (by simp) 0).2 ending
  · rintro ⟨reached, reading, ends, notEnding⟩
    have noBreak : GateTokenKind.lineBreak ∉ (gateTokens 0 0 pieces).map GateToken.kind :=
      fun member => notEnding ((lineBreak_mem_iff reading (by simp) 0).1 member)
    have finished := accepted.trans (finishes_iff.2 ⟨reached, reading, ends⟩)
    obtain ⟨front, count, derivation, shape⟩ := accepts_operand_iff.1 finished
    refine ⟨noBreak, ?_⟩
    cases count with
    | zero => rwa [shape, List.replicate_zero, List.append_nil]
    | succ count => simp [shape] at noBreak

/-! ## Quiet pieces -/

theorem run_quiet
    {pieces : List GatePiece}
    (quiet : pieces.all GatePiece.isQuiet)
    (bracketed : reader.2 ≠ []) :
    run reader pieces = some reader := by
  induction pieces with
  | nil => rfl
  | cons piece later inductionHypothesis =>
      obtain ⟨pieceQuiet, laterQuiet⟩ := Bool.and_eq_true_iff.1 (List.all_cons ▸ quiet)
      have stays : stepPiece reader piece = some reader := by
        cases piece with
        | blank text | joint text => rfl
        | lineBreak c => exact if_neg bracketed
        | comment text | number text | string text | name text | operator sign => cases pieceQuiet
      exact Option.bind_eq_some_iff.2 ⟨reader, stays, inductionHypothesis laterQuiet⟩

/-! ## What may follow -/

/-- Behind an arithmetic operator there has to be an operand. -/
theorem step_arithmetic
    {sign : GateOperator}
    (arithmetic : sign.isArithmetic)
    (stepped : expected.step brackets (.operator sign) = some reached) :
    reached.1 = .plain .operand := by
  obtain ⟨next, opened⟩ := reached
  have behind : ∀ state : GateState,
      ofState state brackets (.operator sign) = some (next, opened) → next = .plain .operand := by
    intro state found
    obtain ⟨following, found, rfl⟩ := ofState_eq_some_iff.1 found
    cases state with
    | operand | argument | «attribute» | suffix afterString | ending =>
        cases sign <;> cases arithmetic <;> cases brackets <;> cases found <;> rfl
  match expected with
  | .plain .operand => exact behind .operand stepped
  | .plain .argument => exact behind .argument stepped
  | .plain .attribute => exact behind .attribute stepped
  | .plain (.suffix afterString) => exact behind (.suffix afterString) stepped
  | .plain .ending => exact behind .ending stepped
  | .named text =>
      have noAssign : sign ≠ .assign := by
        rintro rfl
        cases arithmetic
      rw [step] at stepped
      · split at stepped
        · simp at stepped
        · exact behind (.suffix false) stepped
      · simpa using noAssign

/-- Where an expression may end, an operator may go on with it. -/
theorem step_arithmetic_of_ends
    {sign : GateOperator}
    (arithmetic : sign.isArithmetic)
    (ends : expected.ends [])
    (unfinished : expected ≠ .plain .ending) :
    expected.step [] (.operator sign) = some (.plain .operand, []) := by
  match expected with
  | .plain .operand | .plain .argument | .plain .attribute => cases ends
  | .plain .ending => exact absurd rfl unfinished
  | .plain (.suffix afterString) => cases sign <;> first | rfl | cases arithmetic
  | .named text =>
      have noKeyword : ¬ hostKeywords.contains text = true := by
        simpa [Expected.ends] using ends
      cases sign <;> first | exact if_neg noKeyword | cases arithmetic

/-- Where an expression may end, a parenthesis around it may close. -/
theorem step_closeParen_of_ends
    (ends : expected.ends [])
    (unfinished : expected ≠ .plain .ending) :
    expected.step [.group] (.operator .closeParen) = some (.plain (.suffix false), []) := by
  match expected with
  | .plain .operand | .plain .argument | .plain .attribute => cases ends
  | .plain .ending => exact absurd rfl unfinished
  | .plain (.suffix afterString) => rfl
  | .named text =>
      have noKeyword : ¬ hostKeywords.contains text = true := by
        simpa [Expected.ends] using ends
      exact if_neg noKeyword

/-- An expression ends with no bracket open. -/
theorem eq_nil_of_ends
    (ends : expected.ends brackets)
    (unfinished : expected ≠ .plain .ending) :
    brackets = [] := by
  cases brackets with
  | nil => rfl
  | cons bracket outer =>
      match expected with
      | .plain .operand | .plain .argument | .plain .attribute | .plain (.suffix _) => cases ends
      | .plain .ending => exact absurd rfl unfinished
      | .named text => simp [Expected.ends] at ends

theorem step_closeParen_nil : expected.step [] (.operator .closeParen) = none := by
  match expected with
  | .plain .operand | .plain .argument | .plain .attribute | .plain (.suffix _)
  | .plain .ending => rfl
  | .named text =>
      have behind : ofState (.suffix false) [] (.operator .closeParen) = none := rfl
      rw [step, behind, ite_self]
      simp

/-- Only where an expression may end, the parenthesis around it closes for good. -/
theorem ends_of_step_closeParen
    (stepped : expected.step (brackets ++ [.group]) (.operator .closeParen) = some reached)
    (ends : reached.1.ends reached.2)
    (unfinished : expected ≠ .plain .ending)
    (noArgument : expected = .plain .argument → brackets.head? = some .call) :
    brackets = [] ∧ expected.ends [] := by
  obtain ⟨next, opened⟩ := reached
  have nextUnfinished : next ≠ .plain .ending := by
    rcases step_cases stepped unfinished with ⟨-, isBreak, -, -⟩ | ⟨notEnding, -⟩
    · cases isBreak
    · exact notEnding
  have depth := (isSettled_of_step stepped fun ending => absurd ending unfinished).2
  obtain rfl : opened = [] := eq_nil_of_ends ends nextUnfinished
  have noBrackets : brackets = [] := by
    refine List.length_eq_zero_iff.1 ?_
    simpa [GateTokenKind.depthAfter, GateOperator.depthAfter] using depth.symm
  subst noBrackets
  refine ⟨rfl, ?_⟩
  cases expected with
  | plain expected =>
      cases expected with
      | operand | «attribute» => cases stepped
      | argument => cases noArgument rfl
      | ending => exact absurd rfl unfinished
      | suffix afterString => rfl
  | named text =>
      have noKeyword : hostKeywords.contains text = false := by
        refine Bool.eq_false_iff.2 fun keyword => ?_
        have failed : (named text).step [.group] (.operator .closeParen) = none := if_pos keyword
        rw [List.nil_append, failed] at stepped
        cases stepped
      simp only [Expected.ends, noKeyword]
      rfl

end Expected

end Pipescript
