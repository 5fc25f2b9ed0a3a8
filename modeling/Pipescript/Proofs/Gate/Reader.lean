import Pipescript.Proofs.Gate.Cut
import Pipescript.Proofs.Gate.OnePass

/-!
# Reading piece by piece

The pass over a gate expression looks one token ahead, behind the name of an argument.  The reader
here takes one piece at a time instead, remembering such a name, and knows its depth from its open
brackets.  Inside an outer bracket it does the same as outside, except that line breaks do not count;
so a text that can be read up to some point does not close a bracket opened before it.
-/

namespace Pipescript

/-- What the reader goes on with. -/
inductive Expected where
  | plain (state : GateState)
  /-- Behind a name that either is an argument or names one. -/
  | named (text : Text)
  deriving DecidableEq, Repr

namespace Expected

/-- Read a token in a state of the reader. -/
def ofState (state : GateState) (brackets : List GateBracket) (kind : GateTokenKind) :
    Option (Expected × List GateBracket) :=
  match state.step brackets kind with
  | .ok (next, opened) => some (.plain next, opened)
  | .error _ => none

/-- Read a token. -/
def step (expected : Expected) (brackets : List GateBracket) (kind : GateTokenKind) :
    Option (Expected × List GateBracket) :=
  match expected, kind with
  | .plain .argument, .name text => some (.named text, brackets)
  | .plain state, kind => ofState state brackets kind
  | .named _, .operator .assign => some (.plain .operand, brackets)
  | .named text, kind =>
      if hostKeywords.contains text then none else ofState (.suffix false) brackets kind

/-- Whether an expression may end. -/
def ends (expected : Expected) (brackets : List GateBracket) : Bool :=
  match expected with
  | .plain state => (state.endFault? brackets).isNone
  | .named text => !hostKeywords.contains text && brackets.isEmpty

/-- Whether tokens bring an expression to its end. -/
def accepts (expected : Expected) (brackets : List GateBracket) : List GateTokenKind → Bool
  | [] => expected.ends brackets
  | kind :: later =>
      match expected.step brackets kind with
      | some (next, opened) => next.accepts opened later
      | none => false

/-- A name that names no argument is an operand. -/
theorem accepts_named
    {text : Text} {brackets : List GateBracket} {kinds : List GateTokenKind}
    (noAssign : kinds.head? ≠ some (.operator .assign)) :
    (named text).accepts brackets kinds =
      (!hostKeywords.contains text && (plain (.suffix false)).accepts brackets kinds) := by
  cases kinds with
  | nil => cases brackets <;> simp [accepts, ends, GateState.endFault?]
  | cons kind later =>
      have different : kind ≠ .operator .assign := by simpa using noAssign
      have stepped : (named text).step brackets kind =
          if hostKeywords.contains text then none else ofState (.suffix false) brackets kind := by
        rw [step]
        exact fun same => different same
      have unnamed : (plain (.suffix false)).step brackets kind =
          ofState (.suffix false) brackets kind := by
        cases kind <;> rfl
      rw [accepts, accepts, stepped, unnamed]
      cases hostKeywords.contains text <;> simp

theorem accepts_plain_cons
    {state : GateState} {brackets : List GateBracket}
    {kind : GateTokenKind} {later : List GateTokenKind}
    (noAssign : ∀ text, state = .argument → kind = .name text →
      later.head? ≠ some (.operator .assign)) :
    (plain state).accepts brackets (kind :: later) =
      match state.step brackets kind with
      | .ok (next, opened) => (plain next).accepts opened later
      | .error _ => false := by
  by_cases naming : ∃ text, state = .argument ∧ kind = .name text
  · obtain ⟨text, rfl, rfl⟩ := naming
    show (named text).accepts brackets later = _
    rw [accepts_named (noAssign text rfl rfl), GateState.step, if_neg (by simp),
      GateState.beginOperand]
    cases hostKeywords.contains text <;> simp
  · have unnamed : (plain state).step brackets kind = ofState state brackets kind := by
      rw [step]
      exact fun text isName isArgument => naming ⟨text, isArgument, isName⟩
    rw [accepts, unnamed, ofState]
    cases state.step brackets kind <;> rfl

/-- Reading token by token finds the same texts to be expressions. -/
theorem isOk_read (stop : Nat) (state : GateState) (brackets : List GateBracket)
    (tokens : List GateToken) :
    (state.read stop brackets tokens).isOk =
      (plain state).accepts brackets (tokens.map GateToken.kind) := by
  have noAssign : ∀ {state : GateState} {token : GateToken} {later : List GateToken},
      (∀ (text : Text) (offset other : Nat) (behind : List GateToken),
        state = .argument → token = ⟨.name text, offset⟩ →
        later = ⟨.operator .assign, other⟩ :: behind → False) →
      ∀ text, state = .argument → token.kind = .name text →
        (later.map GateToken.kind).head? ≠ some (.operator .assign) := by
    rintro state ⟨kind, offset⟩ later noKeyword text isArgument rfl assigns
    cases later with
    | nil => simp at assigns
    | cons first behind =>
        obtain ⟨kind, other⟩ := first
        obtain rfl : kind = .operator .assign := by simpa using assigns
        exact noKeyword text offset other behind isArgument rfl rfl
  fun_induction GateState.read stop state brackets tokens with
  | case1 state brackets noFault => simp [accepts, ends, noFault, Except.isOk, Except.toBool]
  | case2 state brackets fault isFault =>
      simp [accepts, ends, isFault, Except.isOk, Except.toBool]
  | case3 brackets text _ _ later inductionHypothesis =>
      rw [inductionHypothesis]
      rfl
  | case4 state brackets token later noKeyword fault failed =>
      rw [List.map_cons, accepts_plain_cons (noAssign noKeyword), failed]
      rfl
  | case5 state brackets token later noKeyword next opened stepped inductionHypothesis =>
      rw [List.map_cons, accepts_plain_cons (noAssign noKeyword), stepped, inductionHypothesis]

/-! ## What a step does to the open brackets -/

end Expected

/-- The bracket depth behind a token. -/
def GateTokenKind.depthAfter (kind : GateTokenKind) (depth : Nat) : Nat :=
  match kind with
  | .operator sign => sign.depthAfter depth
  | _ => depth

/-- A change of the open brackets touches only the innermost ones, does the same over any others,
and agrees with the depth. -/
structure IsInnerChange (change : List GateBracket → List GateBracket → Prop)
    (kind : GateTokenKind) (brackets opened : List GateBracket) : Prop where
  notBreak : kind ≠ .lineBreak
  inner : ∃ popped pushed outer, brackets = popped ++ outer ∧ opened = pushed ++ outer ∧
    (∀ other, change (popped ++ other) (pushed ++ other)) ∧
    ∀ depth, kind.depthAfter (popped.length + depth) = pushed.length + depth

namespace IsInnerChange

variable {change : List GateBracket → List GateBracket → Prop} {kind : GateTokenKind}

theorem keep
    (notBreak : kind ≠ .lineBreak)
    (brackets : List GateBracket)
    (always : ∀ other, change other other)
    (depth : ∀ depth, kind.depthAfter depth = depth) :
    IsInnerChange change kind brackets brackets :=
  ⟨notBreak, [], [], brackets, rfl, rfl, always, fun outside => by simpa using depth outside⟩

theorem push
    (notBreak : kind ≠ .lineBreak)
    (bracket : GateBracket)
    (brackets : List GateBracket)
    (always : ∀ other, change other (bracket :: other))
    (depth : ∀ depth, kind.depthAfter depth = 1 + depth) :
    IsInnerChange change kind brackets (bracket :: brackets) :=
  ⟨notBreak, [], [bracket], brackets, rfl, rfl, always, fun outside => by simpa using depth outside⟩

theorem mono
    {wider : List GateBracket → List GateBracket → Prop}
    {brackets opened : List GateBracket}
    (changes : IsInnerChange change kind brackets opened)
    (implies : ∀ before after, change before after → wider before after) :
    IsInnerChange wider kind brackets opened := by
  obtain ⟨notBreak, popped, pushed, outer, before, after, always, depth⟩ := changes
  exact ⟨notBreak, popped, pushed, outer, before, after,
    fun other => implies _ _ (always other), depth⟩

end IsInnerChange

namespace GateState

variable {brackets opened : List GateBracket} {kind : GateTokenKind} {next : GateState}

theorem closeBracket_cases
    (closed : closeBracket brackets kind = .ok (next, opened)) :
    (brackets = [] ∧ kind = .lineBreak ∧ next = .ending ∧ opened = []) ∨
      (next ≠ .ending ∧
        IsInnerChange (fun before after => closeBracket before kind = .ok (next, after)) kind
          brackets opened) := by
  unfold closeBracket at closed
  split at closed
  · obtain ⟨rfl, rfl⟩ := Prod.mk.inj (Except.ok.inj closed)
    exact .inl ⟨rfl, rfl, rfl, rfl⟩
  · simp at closed
  · next outer =>
      obtain ⟨rfl, rfl⟩ := Prod.mk.inj (Except.ok.inj closed)
      refine .inr ⟨by simp, by simp, [.call], [.call], outer, rfl, rfl, fun other => rfl, ?_⟩
      exact fun depth => rfl
  · next kind bracket outer notComma =>
      split at closed
      · next closes =>
          obtain ⟨rfl, rfl⟩ := Prod.mk.inj (Except.ok.inj closed)
          refine .inr ⟨by simp, by simp [closes], [bracket], [], outer, rfl, rfl, ?_, ?_⟩
          · intro other
            rw [closes]
            cases bracket <;> rfl
          · intro depth
            rw [closes, List.length_singleton, List.length_nil]
            cases bracket <;>
              simp [GateTokenKind.depthAfter, GateOperator.depthAfter, GateBracket.closing]
      · simp at closed

theorem beginOperand_cases
    (begun : beginOperand brackets kind = .ok (next, opened)) :
    next ≠ .ending ∧
      IsInnerChange (fun before after => beginOperand before kind = .ok (next, after)) kind
        brackets opened := by
  unfold beginOperand at begun
  split at begun
  · obtain ⟨rfl, rfl⟩ := Prod.mk.inj (Except.ok.inj begun)
    exact ⟨by simp, .keep (by simp) _ (fun other => rfl) fun depth => rfl⟩
  · obtain ⟨rfl, rfl⟩ := Prod.mk.inj (Except.ok.inj begun)
    exact ⟨by simp, .keep (by simp) _ (fun other => rfl) fun depth => rfl⟩
  · split at begun
    · simp at begun
    · next noKeyword =>
        obtain ⟨rfl, rfl⟩ := Prod.mk.inj (Except.ok.inj begun)
        exact ⟨by simp, .keep (by simp) _ (fun other => if_neg noKeyword) fun depth => rfl⟩
  · obtain ⟨rfl, rfl⟩ := Prod.mk.inj (Except.ok.inj begun)
    exact ⟨by simp, .keep (by simp) _ (fun other => rfl) fun depth => rfl⟩
  · obtain ⟨rfl, rfl⟩ := Prod.mk.inj (Except.ok.inj begun)
    exact ⟨by simp, .keep (by simp) _ (fun other => rfl) fun depth => rfl⟩
  · obtain ⟨rfl, rfl⟩ := Prod.mk.inj (Except.ok.inj begun)
    exact ⟨by simp, .push (by simp) _ _ (fun other => rfl) fun depth => Nat.add_comm depth 1⟩
  · simp at begun

theorem continueOperand_cases
    {afterString : Bool}
    (continued : continueOperand afterString brackets kind = .ok (next, opened)) :
    (brackets = [] ∧ kind = .lineBreak ∧ next = .ending ∧ opened = []) ∨
      (next ≠ .ending ∧
        IsInnerChange
          (fun before after => continueOperand afterString before kind = .ok (next, after)) kind
          brackets opened) := by
  unfold continueOperand at continued
  split at continued
  · obtain ⟨rfl, rfl⟩ := Prod.mk.inj (Except.ok.inj continued)
    exact .inr ⟨by simp, .keep (by simp) _ (fun other => rfl) fun depth => rfl⟩
  · obtain ⟨rfl, rfl⟩ := Prod.mk.inj (Except.ok.inj continued)
    exact .inr
      ⟨by simp, .push (by simp) _ _ (fun other => rfl) fun depth => Nat.add_comm depth 1⟩
  · obtain ⟨rfl, rfl⟩ := Prod.mk.inj (Except.ok.inj continued)
    exact .inr
      ⟨by simp, .push (by simp) _ _ (fun other => rfl) fun depth => Nat.add_comm depth 1⟩
  · next sign noDot noSubscript noCall =>
      have sameStep : ∀ other, continueOperand afterString other (.operator sign) =
          if sign.isArithmetic then .ok (.operand, other)
          else closeBracket other (.operator sign) := by
        intro other
        rw [continueOperand]
        · exact noDot
        · exact noSubscript
        · exact noCall
      simp only [sameStep]
      split at continued
      · next arithmetic =>
          obtain ⟨rfl, rfl⟩ := Prod.mk.inj (Except.ok.inj continued)
          refine .inr ⟨by simp, .keep (by simp) _ (fun other => if_pos arithmetic) ?_⟩
          intro depth
          cases sign <;> first | rfl | simp [GateOperator.isArithmetic] at arithmetic
      · next notArithmetic =>
          rcases closeBracket_cases continued with breaks | ⟨notEnding, changes⟩
          · exact .inl breaks
          · exact .inr ⟨notEnding, changes.mono fun _ _ closed => (if_neg notArithmetic).trans closed⟩
  · next stringKind =>
      split at continued
      · next follows =>
          obtain ⟨rfl, rfl⟩ := Prod.mk.inj (Except.ok.inj continued)
          exact .inr ⟨by simp, .keep (by simp) _ (fun other => if_pos follows) fun depth => rfl⟩
      · next alone =>
          rcases closeBracket_cases continued with breaks | ⟨notEnding, changes⟩
          · exact .inl breaks
          · exact .inr ⟨notEnding, changes.mono fun _ _ closed => (if_neg alone).trans closed⟩
  · next noDot noSubscript noCall noOperator noString =>
      have sameStep : ∀ other,
          continueOperand afterString other kind = closeBracket other kind := by
        intro other
        rw [continueOperand] <;> assumption
      simp only [sameStep]
      exact closeBracket_cases continued

/-- What a step can do: the line break that ends an expression, and the changes of the innermost
brackets. -/
theorem step_cases
    {state : GateState}
    (stepped : state.step brackets kind = .ok (next, opened))
    (unfinished : state ≠ .ending) :
    (brackets = [] ∧ kind = .lineBreak ∧ next = .ending ∧ opened = []) ∨
      (next ≠ .ending ∧
        IsInnerChange (fun before after => state.step before kind = .ok (next, after)) kind
          brackets opened) := by
  match state, stepped, unfinished with
  | .operand, stepped, _ => exact .inr (beginOperand_cases stepped)
  | .argument, stepped, _ =>
      simp only [step] at stepped ⊢
      split at stepped
      · next closes =>
          simp only [if_pos closes]
          exact closeBracket_cases stepped
      · next notClosing =>
          simp only [if_neg notClosing]
          exact .inr (beginOperand_cases stepped)
  | .attribute, stepped, _ =>
      simp only [step] at stepped
      split at stepped
      · obtain ⟨rfl, rfl⟩ := Prod.mk.inj (Except.ok.inj stepped)
        exact .inr ⟨by simp, .keep (by simp) _ (fun other => rfl) fun depth => rfl⟩
      · simp at stepped
  | .suffix _, stepped, _ => exact continueOperand_cases stepped
  | .ending, _, unfinished => exact absurd rfl unfinished

/-- Behind its end an expression has only line breaks. -/
theorem lineBreak_of_ending
    (stepped : ending.step brackets kind = .ok (next, opened)) :
    kind = .lineBreak ∧ next = .ending ∧ opened = [] := by
  unfold step closeBracket at stepped
  dsimp only at stepped
  split at stepped
  · obtain ⟨rfl, rfl⟩ := Prod.mk.inj (Except.ok.inj stepped)
    exact ⟨rfl, rfl, rfl⟩
  · simp at stepped
  all_goals contradiction

end GateState

namespace Expected

variable {expected next : Expected} {brackets opened : List GateBracket} {kind : GateTokenKind}

theorem ofState_eq_some_iff {state : GateState} :
    ofState state brackets kind = some (next, opened) ↔
      ∃ following, state.step brackets kind = .ok (following, opened) ∧
        next = .plain following := by
  unfold ofState
  cases state.step brackets kind with
  | error fault => simp
  | ok reached =>
      obtain ⟨following, after⟩ := reached
      constructor
      · intro equality
        obtain ⟨rfl, rfl⟩ := Prod.mk.inj (Option.some.inj equality)
        exact ⟨following, rfl, rfl⟩
      · rintro ⟨_, equality, rfl⟩
        obtain ⟨rfl, rfl⟩ := Prod.mk.inj (Except.ok.inj equality)
        rfl

theorem ofState_cases
    {state : GateState}
    (stepped : ofState state brackets kind = some (next, opened))
    (unfinished : state ≠ .ending) :
    (brackets = [] ∧ kind = .lineBreak ∧ next = .plain .ending ∧ opened = []) ∨
      (next ≠ .plain .ending ∧
        IsInnerChange (fun before after => ofState state before kind = some (next, after)) kind
          brackets opened) := by
  obtain ⟨following, found, rfl⟩ := ofState_eq_some_iff.1 stepped
  rcases GateState.step_cases found unfinished with
    ⟨noBrackets, isBreak, rfl, closed⟩ | ⟨notEnding, changes⟩
  · exact .inl ⟨noBrackets, isBreak, rfl, closed⟩
  · refine .inr ⟨by simpa using notEnding, changes.mono fun before after found => ?_⟩
    exact ofState_eq_some_iff.2 ⟨following, found, rfl⟩

theorem step_cases
    (stepped : expected.step brackets kind = some (next, opened))
    (unfinished : expected ≠ .plain .ending) :
    (brackets = [] ∧ kind = .lineBreak ∧ next = .plain .ending ∧ opened = []) ∨
      (next ≠ .plain .ending ∧
        IsInnerChange (fun before after => expected.step before kind = some (next, after)) kind
          brackets opened) := by
  unfold step at stepped
  split at stepped
  · obtain ⟨rfl, rfl⟩ := Prod.mk.inj (Option.some.inj stepped)
    exact .inr ⟨by simp, .keep (by simp) _ (fun other => rfl) fun depth => rfl⟩
  · next state noName =>
      have sameStep : ∀ other, (plain state).step other kind = ofState state other kind := by
        intro other
        rw [step]
        exact noName
      simp only [sameStep]
      exact ofState_cases stepped (by simpa using unfinished)
  · obtain ⟨rfl, rfl⟩ := Prod.mk.inj (Option.some.inj stepped)
    exact .inr ⟨by simp, .keep (by simp) _ (fun other => rfl) fun depth => rfl⟩
  · next text noAssign =>
      have sameStep : ∀ other, (named text).step other kind =
          if hostKeywords.contains text then none else ofState (.suffix false) other kind := by
        intro other
        rw [step]
        exact noAssign
      simp only [sameStep]
      split at stepped
      · simp at stepped
      · next noKeyword =>
          simp only [if_neg noKeyword]
          exact ofState_cases stepped (by simp)

theorem lineBreak_of_ending
    (stepped : (plain .ending).step brackets kind = some (next, opened)) :
    kind = .lineBreak ∧ next = .plain .ending ∧ opened = [] := by
  have sameStep : (plain .ending).step brackets kind = ofState .ending brackets kind := by
    cases kind <;> rfl
  rw [sameStep] at stepped
  obtain ⟨following, found, rfl⟩ := ofState_eq_some_iff.1 stepped
  obtain ⟨isBreak, rfl, closed⟩ := GateState.lineBreak_of_ending found
  exact ⟨isBreak, rfl, closed⟩


/-! ## Pieces -/

/-- Read a piece.  The reader is as deep as it has open brackets. -/
def stepPiece (reader : Expected × List GateBracket) (piece : GatePiece) :
    Option (Expected × List GateBracket) :=
  match piece with
  | .blank _ | .comment _ | .joint _ => some reader
  | .lineBreak _ => if reader.2 = [] then reader.1.step [] .lineBreak else some reader
  | .number _ => reader.1.step reader.2 .number
  | .string _ => reader.1.step reader.2 .string
  | .name text => reader.1.step reader.2 (.name text)
  | .operator sign => reader.1.step reader.2 (.operator sign)

/-- Read pieces. -/
def run (reader : Expected × List GateBracket) (pieces : List GatePiece) :
    Option (Expected × List GateBracket) :=
  pieces.foldlM stepPiece reader

/-- A text is read to its end. -/
def finishes (reader : Expected × List GateBracket) (pieces : List GatePiece) : Bool :=
  (run reader pieces).any fun reached => reached.1.ends reached.2

theorem run_append
    {reader middle : Expected × List GateBracket} {front : List GatePiece}
    (reading : run reader front = some middle)
    (behind : List GatePiece) :
    run reader (front ++ behind) = run middle behind := by
  unfold run at reading ⊢
  rw [List.foldlM_append, reading]
  rfl

theorem exists_run_of_run
    {reader reached : Expected × List GateBracket} {front behind : List GatePiece}
    (reading : run reader (front ++ behind) = some reached) :
    ∃ middle, run reader front = some middle ∧ run middle behind = some reached := by
  unfold run at reading ⊢
  rw [List.foldlM_append] at reading
  exact Option.bind_eq_some_iff.1 reading

/-- A finished expression has closed its brackets. -/
def IsSettled (reader : Expected × List GateBracket) : Prop :=
  reader.1 = .plain .ending → reader.2 = []

theorem isSettled_of_step
    (stepped : expected.step brackets kind = some (next, opened))
    (settled : IsSettled (expected, brackets)) :
    IsSettled (next, opened) ∧ opened.length = kind.depthAfter brackets.length := by
  by_cases finished : expected = .plain .ending
  · subst finished
    obtain ⟨rfl, rfl, rfl⟩ := lineBreak_of_ending stepped
    obtain rfl : brackets = [] := settled rfl
    exact ⟨fun _ => rfl, rfl⟩
  · rcases step_cases stepped finished with
      ⟨rfl, rfl, rfl, rfl⟩ | ⟨notEnding, _, popped, pushed, outer, rfl, rfl, _, depth⟩
    · exact ⟨fun _ => rfl, rfl⟩
    · refine ⟨fun ending => absurd ending notEnding, ?_⟩
      rw [List.length_append, List.length_append]
      exact (depth outer.length).symm

theorem finishes_cons (reader : Expected × List GateBracket) (piece : GatePiece)
    (later : List GatePiece) :
    finishes reader (piece :: later) =
      (stepPiece reader piece).any fun reached => finishes reached later := by
  unfold finishes run
  rw [List.foldlM_cons]
  cases stepPiece reader piece <;> rfl

/-- The tokens of pieces are read as the pieces are. -/
theorem accepts_gateTokens
    {reader : Expected × List GateBracket}
    (settled : IsSettled reader)
    (offset : Nat)
    (pieces : List GatePiece) :
    reader.1.accepts reader.2
        ((gateTokens offset reader.2.length pieces).map GateToken.kind) =
      finishes reader pieces := by
  induction pieces generalizing offset reader with
  | nil => rfl
  | cons piece later inductionHypothesis =>
      obtain ⟨expected, brackets⟩ := reader
      have token : ∀ (kind : GateTokenKind) (behind : Nat),
          expected.accepts brackets (kind ::
              (gateTokens behind (kind.depthAfter brackets.length) later).map GateToken.kind) =
            (expected.step brackets kind).any fun reached => finishes reached later := by
        intro kind behind
        rw [accepts]
        cases stepped : expected.step brackets kind with
        | none => rfl
        | some reached =>
            obtain ⟨next, opened⟩ := reached
            obtain ⟨nextSettled, depth⟩ := isSettled_of_step stepped settled
            rw [← depth]
            exact inductionHypothesis nextSettled behind
      rw [finishes_cons]
      cases piece with
      | blank text | comment text | joint text => exact inductionHypothesis settled _
      | lineBreak c =>
          cases brackets with
          | nil => exact token .lineBreak _
          | cons bracket outer => exact inductionHypothesis settled _
      | number text => exact token .number _
      | string text => exact token .string _
      | name text => exact token (.name text) _
      | operator sign => exact token (.operator sign) _

end Expected

theorem exists_cut_of_isGateText
    {text : Text}
    (expression : isGateText text) :
    ∃ pieces, IsCut text pieces ∧ Expected.finishes (.plain .operand, []) pieces := by
  unfold isGateText checkGate at expression
  split at expression
  · simp [Except.isOk, Except.toBool] at expression
  · next pieces found =>
      refine ⟨pieces, isCut_of_gatePieces found, ?_⟩
      rw [GateReader.read_eq_read, Expected.isOk_read] at expression
      rwa [← Expected.accepts_gateTokens (fun ending => by simp at ending) 0 pieces]

namespace Expected

/-! ## Inside an outer bracket -/

/-- A reader inside outer brackets that has read the same as a reader outside of them.  Behind the
end of the expression the reader inside still waits for the bracket to close. -/
inductive Encloses (outer : List GateBracket) :
    Expected × List GateBracket → Expected × List GateBracket → Prop where
  | same
      {expected : Expected} {brackets : List GateBracket}
      (unfinished : expected ≠ .plain .ending) :
      Encloses outer (expected, brackets) (expected, brackets ++ outer)
  | finished
      {expected : Expected}
      (unfinished : expected ≠ .plain .ending) :
      Encloses outer (.plain .ending, []) (expected, outer)

section Enclosed

variable {outer : List GateBracket} {reader reached enclosed : Expected × List GateBracket}

theorem step_enclosed
    {expected next : Expected} {brackets opened : List GateBracket} {kind : GateTokenKind}
    (noBreak : kind ≠ .lineBreak)
    (stepped : expected.step brackets kind = some (next, opened))
    (unfinished : expected ≠ .plain .ending) :
    expected.step (brackets ++ outer) kind = some (next, opened ++ outer) ∧
      next ≠ .plain .ending := by
  rcases step_cases stepped unfinished with
    ⟨-, isBreak, -, -⟩ | ⟨notEnding, _, popped, pushed, inner, rfl, rfl, always, -⟩
  · exact absurd isBreak noBreak
  · rw [List.append_assoc, List.append_assoc]
    exact ⟨always (inner ++ outer), notEnding⟩

theorem stepPiece_enclosed_same
    {expected : Expected} {brackets : List GateBracket} {piece : GatePiece}
    (outerOpen : outer ≠ [])
    (unfinished : expected ≠ .plain .ending)
    (stepped : stepPiece (expected, brackets) piece = some reached) :
    ∃ next, stepPiece (expected, brackets ++ outer) piece = some next ∧
      Encloses outer reached next := by
  have token : ∀ kind : GateTokenKind, kind ≠ .lineBreak →
      expected.step brackets kind = some reached →
      ∃ next, expected.step (brackets ++ outer) kind = some next ∧
        Encloses outer reached next := by
    intro kind noBreak stepped
    obtain ⟨nextExpected, opened⟩ := reached
    have inside : expected.step (brackets ++ outer) kind = some (nextExpected, opened ++ outer) ∧
        nextExpected ≠ .plain .ending := step_enclosed noBreak stepped unfinished
    exact ⟨_, inside.1, .same inside.2⟩
  cases piece with
  | blank text | comment text | joint text =>
      obtain rfl := Option.some.inj stepped
      exact ⟨_, rfl, .same unfinished⟩
  | lineBreak c =>
      have skipped : stepPiece (expected, brackets ++ outer) (.lineBreak c) =
          some (expected, brackets ++ outer) := by
        rw [stepPiece, if_neg (by simp [outerOpen])]
      refine ⟨_, skipped, ?_⟩
      rw [stepPiece] at stepped
      split at stepped
      · next noBrackets =>
          obtain rfl : brackets = [] := noBrackets
          obtain ⟨next, opened⟩ := reached
          rcases step_cases stepped unfinished with ⟨-, -, rfl, rfl⟩ | ⟨-, changes⟩
          · exact .finished unfinished
          · exact absurd rfl changes.notBreak
      · obtain rfl := Option.some.inj stepped
        exact .same unfinished
  | number text => exact token .number (by simp) stepped
  | string text => exact token .string (by simp) stepped
  | name text => exact token (.name text) (by simp) stepped
  | operator sign => exact token (.operator sign) (by simp) stepped

/-- Behind the end of an expression only margin and line breaks are read. -/
theorem stepPiece_enclosed_finished
    {expected : Expected} {piece : GatePiece}
    (outerOpen : outer ≠ [])
    (unfinished : expected ≠ .plain .ending)
    (stepped : stepPiece (.plain .ending, []) piece = some reached) :
    ∃ next, stepPiece (expected, outer) piece = some next ∧ Encloses outer reached next := by
  have token : ∀ kind : GateTokenKind, kind ≠ .lineBreak →
      (plain .ending).step [] kind ≠ some reached := by
    intro kind noBreak stepped
    obtain ⟨next, opened⟩ := reached
    exact noBreak (lineBreak_of_ending stepped).1
  cases piece with
  | blank text | comment text | joint text =>
      obtain rfl := Option.some.inj stepped
      exact ⟨_, rfl, .finished unfinished⟩
  | lineBreak c =>
      have skipped : stepPiece (expected, outer) (.lineBreak c) = some (expected, outer) := by
        rw [stepPiece, if_neg outerOpen]
      obtain rfl : reached = (plain .ending, []) := (Option.some.inj stepped).symm
      exact ⟨_, skipped, .finished unfinished⟩
  | number text => exact absurd stepped (token .number (by simp))
  | string text => exact absurd stepped (token .string (by simp))
  | name text => exact absurd stepped (token (.name text) (by simp))
  | operator sign => exact absurd stepped (token (.operator sign) (by simp))

theorem stepPiece_enclosed
    {piece : GatePiece}
    (outerOpen : outer ≠ [])
    (encloses : Encloses outer reader enclosed)
    (stepped : stepPiece reader piece = some reached) :
    ∃ next, stepPiece enclosed piece = some next ∧ Encloses outer reached next := by
  cases encloses with
  | same unfinished => exact stepPiece_enclosed_same outerOpen unfinished stepped
  | finished unfinished => exact stepPiece_enclosed_finished outerOpen unfinished stepped

theorem run_enclosed
    {pieces : List GatePiece}
    (outerOpen : outer ≠ [])
    (encloses : Encloses outer reader enclosed)
    (reading : run reader pieces = some reached) :
    ∃ next, run enclosed pieces = some next ∧ Encloses outer reached next := by
  induction pieces generalizing reader enclosed with
  | nil =>
      obtain rfl := Option.some.inj reading
      exact ⟨enclosed, rfl, encloses⟩
  | cons piece later inductionHypothesis =>
      obtain ⟨middle, stepped, later⟩ := Option.bind_eq_some_iff.1 reading
      obtain ⟨next, insideStepped, encloses⟩ := stepPiece_enclosed outerOpen encloses stepped
      obtain ⟨last, insideLater, encloses⟩ := inductionHypothesis encloses later
      exact ⟨last, Option.bind_eq_some_iff.2 ⟨next, insideStepped, insideLater⟩, encloses⟩

/-- Inside an open bracket no expression ends. -/
theorem not_ends_of_encloses
    (outerOpen : outer ≠ [])
    (encloses : Encloses outer reader enclosed) :
    enclosed.1.ends enclosed.2 = false := by
  have open_not_ends : ∀ {expected : Expected} {brackets : List GateBracket},
      expected ≠ .plain .ending → brackets ≠ [] → expected.ends brackets = false := by
    intro expected brackets unfinished notClosed
    obtain ⟨bracket, others, rfl⟩ := List.exists_cons_of_ne_nil notClosed
    match expected with
    | .plain .operand | .plain .argument | .plain .attribute | .plain (.suffix _) => rfl
    | .plain .ending => exact absurd rfl unfinished
    | .named text => simp [ends]
  cases encloses with
  | same unfinished => exact open_not_ends unfinished (by simp [outerOpen])
  | finished unfinished => exact open_not_ends unfinished outerOpen

end Enclosed

end Expected

end Pipescript
