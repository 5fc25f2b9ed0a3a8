import Pipescript.Gate.Expression

/-!
# Gate expressions in one pass

Every arithmetic operator takes a signed operand on its right, so precedence does not matter for
what is a gate expression.  One pass over the tokens with a stack of open brackets reads it as well
as the descent through the levels of the grammar does: with the same answer, and with the same fault
at the same place.
-/

namespace Pipescript

namespace GateOperator

/-- Whether an operator joins two operands. -/
def isArithmetic : GateOperator → Bool
  | power | floorDivide | plus | minus | times | divide | modulo => true
  | _ => false

theorem isArithmetic_of_isSign
    {sign : GateOperator}
    (isSign : sign.isSign) :
    sign.isArithmetic := by
  cases sign <;> first | rfl | cases isSign

theorem isArithmetic_of_isFactorSign
    {sign : GateOperator}
    (isFactorSign : sign.isFactorSign) :
    sign.isArithmetic := by
  cases sign <;> first | rfl | cases isFactorSign

theorem sign_or_factorSign_or_power
    {sign : GateOperator}
    (arithmetic : sign.isArithmetic) :
    sign.isSign ∨ sign.isFactorSign ∨ sign = .power := by
  cases sign <;> simp [isArithmetic, isSign, isFactorSign] at arithmetic ⊢

/-- How far out in the grammar an operator is read, counted from the atoms. -/
def level : GateOperator → Nat
  | dot | openBracket | openParen => 0
  | power => 1
  | times | divide | floorDivide | modulo => 2
  | plus | minus => 3
  | comma => 4
  | closeParen | closeBracket | assign => 5

theorem isSign_of_level
    {sign : GateOperator}
    (level : sign.level = 3) :
    sign.isSign := by
  cases sign <;> first | rfl | cases level

theorem isFactorSign_of_level
    {sign : GateOperator}
    (level : sign.level = 2) :
    sign.isFactorSign := by
  cases sign <;> first | rfl | cases level

theorem eq_power_of_level
    {sign : GateOperator}
    (level : sign.level = 1) :
    sign = .power := by
  cases sign <;> first | rfl | cases level

theorem eq_comma_of_level
    {sign : GateOperator}
    (level : sign.level = 4) :
    sign = .comma := by
  cases sign <;> first | rfl | cases level

end GateOperator

/-! ## The pass -/

/-- An open bracket of a gate expression. -/
inductive GateBracket where
  | group
  | subscript
  | call
  deriving DecidableEq, Repr

namespace GateBracket

/-- The operator that closes a bracket. -/
def closing : GateBracket → GateOperator
  | group | call => .closeParen
  | subscript => .closeBracket

end GateBracket

/-- What a gate expression may go on with. -/
inductive GateState where
  /-- A signed operand. -/
  | operand
  /-- A signed operand, with or without a name for it, or the end of the call. -/
  | argument
  /-- The name of an attribute. -/
  | attribute
  /-- Whatever follows an operand; behind a string that is another string, too. -/
  | suffix (afterString : Bool)
  /-- Nothing but line breaks. -/
  | ending
  deriving DecidableEq, Repr

namespace GateState

/-- Read a token where an operand has to begin. -/
def beginOperand (brackets : List GateBracket) :
    GateTokenKind → Except GateFault (GateState × List GateBracket)
  | .number => .ok (.suffix false, brackets)
  | .string => .ok (.suffix true, brackets)
  | .name text =>
      if hostKeywords.contains text then .error (.keyword text) else .ok (.suffix false, brackets)
  | .operator .plus | .operator .minus => .ok (.operand, brackets)
  | .operator .openParen => .ok (.operand, .group :: brackets)
  | _ => .error .missingOperand

/-- Read a token that does not go on with the operand before it. -/
def closeBracket :
    List GateBracket → GateTokenKind → Except GateFault (GateState × List GateBracket)
  | [], .lineBreak => .ok (.ending, [])
  | [], _ => .error .trailingInput
  | .call :: outer, .operator .comma => .ok (.argument, .call :: outer)
  | bracket :: outer, kind =>
      if kind = .operator bracket.closing then .ok (.suffix false, outer)
      else .error (.missing bracket.closing)

/-- Read a token behind an operand. -/
def continueOperand (afterString : Bool) (brackets : List GateBracket) :
    GateTokenKind → Except GateFault (GateState × List GateBracket)
  | .operator .dot => .ok (.attribute, brackets)
  | .operator .openBracket => .ok (.operand, .subscript :: brackets)
  | .operator .openParen => .ok (.argument, .call :: brackets)
  | .operator operator =>
      if operator.isArithmetic then .ok (.operand, brackets)
      else closeBracket brackets (.operator operator)
  | .string => if afterString then .ok (.suffix true, brackets) else closeBracket brackets .string
  | kind => closeBracket brackets kind

/-- Read one token. -/
def step (state : GateState) (brackets : List GateBracket) (kind : GateTokenKind) :
    Except GateFault (GateState × List GateBracket) :=
  match state with
  | .operand => beginOperand brackets kind
  | .argument =>
      if kind = .operator .closeParen then closeBracket brackets kind
      else beginOperand brackets kind
  | .attribute =>
      match kind with
      | .name _ => .ok (.suffix false, brackets)
      | _ => .error .missingAttribute
  | .suffix afterString => continueOperand afterString brackets kind
  | .ending => closeBracket [] kind

/-- The fault of an expression that ends here, if that is one. -/
def endFault? (state : GateState) (brackets : List GateBracket) : Option GateFault :=
  match state with
  | .operand | .argument => some .missingOperand
  | .attribute => some .missingAttribute
  | .suffix _ => brackets.head?.map fun bracket => .missing bracket.closing
  | .ending => none

/-- Read the rest of an expression, which ends at the offset `stop`. -/
def read (stop : Nat) : GateState → List GateBracket → List GateToken → Except GateError Unit
  | state, brackets, [] =>
      match state.endFault? brackets with
      | none => .ok ()
      | some fault => .error ⟨stop, fault⟩
  | .argument, brackets, ⟨.name _, _⟩ :: ⟨.operator .assign, _⟩ :: later =>
      read stop .operand brackets later
  | state, brackets, token :: later =>
      match state.step brackets token.kind with
      | .error fault => .error ⟨token.offset, fault⟩
      | .ok (next, opened) => read stop next opened later

end GateState

namespace GateReader

/-- No operator comes next that is read further in than a level. -/
def IsPast (level : Nat) (tokens : List GateToken) : Prop :=
  ∀ sign offset later, tokens = ⟨.operator sign, offset⟩ :: later → level ≤ sign.level

/-- A phrase takes its part in a pass: a fault of the phrase is the fault of the pass, and behind
the phrase the pass goes on as behind an operand, with operators of a level or further out. -/
inductive Agrees (stop level : Nat) (brackets : List GateBracket) (pass : Except GateError Unit)
    {P : List GateToken → Prop} : Except GateError (Subtype P) → Prop
  | fault {error : GateError} :
      pass = .error error →
      Agrees stop level brackets pass (.error error)
  | goesOn {rest : List GateToken} {fits : P rest} :
      pass = (GateState.suffix false).read stop brackets rest →
      IsPast level rest →
      Agrees stop level brackets pass (.ok ⟨rest, fits⟩)

section Phrases

variable {stop : Nat} {tokens rest : List GateToken} {brackets : List GateBracket}
  {wanted : GateOperator → Bool} {shorter : rest.length < tokens.length}

/-- Phrases side by side take their parts one after the other. -/
theorem Agrees.bind
    {low high : Nat} {inner outer : List GateBracket} {pass : Except GateError Unit}
    {P Q : List GateToken → Prop}
    {phrase : Except GateError (Subtype P)} {next : Subtype P → Except GateError (Subtype Q)}
    (agrees : Agrees stop low inner pass phrase)
    (nextAgrees : ∀ rest fits, IsPast low rest →
      Agrees stop high outer ((GateState.suffix false).read stop inner rest) (next ⟨rest, fits⟩)) :
    Agrees stop high outer pass (phrase >>= next) := by
  cases agrees with
  | fault failed => exact .fault failed
  | goesOn reached past =>
      rw [reached]
      exact nextAgrees _ _ past

/-! ## Operators -/

theorem eq_cons_of_skip?
    (found : skip? wanted tokens = some ⟨rest, shorter⟩) :
    ∃ sign offset, wanted sign ∧ tokens = ⟨.operator sign, offset⟩ :: rest := by
  unfold skip? at found
  split at found
  · next sign offset later =>
      split at found
      · next isWanted =>
          cases found
          exact ⟨sign, offset, isWanted, rfl⟩
      · cases found
  · cases found

/-- A pass reads one token, unless that is the name of an argument. -/
theorem read_cons
    {state : GateState}
    (notArgument : state ≠ .argument)
    (token : GateToken) (later : List GateToken) :
    state.read stop brackets (token :: later) =
      match state.step brackets token.kind with
      | .error fault => .error ⟨token.offset, fault⟩
      | .ok (next, opened) => next.read stop opened later := by
  rw [GateState.read]
  exact fun _ _ _ _ isArgument _ => absurd isArgument notArgument

theorem read_of_skip?
    {state next : GateState} {opened : List GateBracket}
    (found : skip? wanted tokens = some ⟨rest, shorter⟩)
    (stepped : ∀ sign, wanted sign → state.step brackets (.operator sign) = .ok (next, opened)) :
    state.read stop brackets tokens = next.read stop opened rest := by
  obtain ⟨sign, offset, isWanted, rfl⟩ := eq_cons_of_skip? found
  rw [GateState.read, stepped sign isWanted]
  rintro text other another behind - ⟨⟩

theorem read_of_skip?_eq
    {sign : GateOperator} {state next : GateState} {opened : List GateBracket}
    (found : skip? (· == sign) tokens = some ⟨rest, shorter⟩)
    (stepped : state.step brackets (.operator sign) = .ok (next, opened)) :
    state.read stop brackets tokens = next.read stop opened rest := by
  refine read_of_skip? found fun other same => ?_
  rwa [eq_of_beq same]

theorem read_suffix_arithmetic
    (found : skip? wanted tokens = some ⟨rest, shorter⟩)
    (allArithmetic : ∀ sign : GateOperator, wanted sign → sign.isArithmetic) :
    (GateState.suffix false).read stop brackets tokens =
      GateState.operand.read stop brackets rest := by
  refine read_of_skip? found fun sign isWanted => ?_
  have arithmetic := allArithmetic sign isWanted
  cases sign <;> first | rfl | cases arithmetic

theorem read_operand_sign
    (found : skip? GateOperator.isSign tokens = some ⟨rest, shorter⟩) :
    GateState.operand.read stop brackets tokens = GateState.operand.read stop brackets rest := by
  refine read_of_skip? found fun sign isSign => ?_
  cases sign <;> first | rfl | cases isSign

theorem read_suffix_dot
    (found : skip? (· == .dot) tokens = some ⟨rest, shorter⟩) :
    (GateState.suffix false).read stop brackets tokens =
      GateState.attribute.read stop brackets rest :=
  read_of_skip?_eq found rfl

theorem read_suffix_openBracket
    (found : skip? (· == .openBracket) tokens = some ⟨rest, shorter⟩) :
    (GateState.suffix false).read stop brackets tokens =
      GateState.operand.read stop (.subscript :: brackets) rest :=
  read_of_skip?_eq found rfl

theorem read_suffix_openParen
    (found : skip? (· == .openParen) tokens = some ⟨rest, shorter⟩) :
    (GateState.suffix false).read stop brackets tokens =
      GateState.argument.read stop (.call :: brackets) rest :=
  read_of_skip?_eq found rfl

theorem read_suffix_comma
    (found : skip? (· == .comma) tokens = some ⟨rest, shorter⟩) :
    (GateState.suffix false).read stop (.call :: brackets) tokens =
      GateState.argument.read stop (.call :: brackets) rest :=
  read_of_skip?_eq found rfl

theorem read_suffix_power
    (found : skip? (· == .power) tokens = some ⟨rest, shorter⟩) :
    (GateState.suffix false).read stop brackets tokens =
      GateState.operand.read stop brackets rest :=
  read_of_skip?_eq found rfl

theorem read_argument_closeParen
    (found : skip? (· == .closeParen) tokens = some ⟨rest, shorter⟩) :
    GateState.argument.read stop (.call :: brackets) tokens =
      (GateState.suffix false).read stop brackets rest :=
  read_of_skip?_eq found rfl

theorem read_suffix_closing
    {bracket : GateBracket}
    (found : skip? (· == bracket.closing) tokens = some ⟨rest, shorter⟩) :
    (GateState.suffix false).read stop (bracket :: brackets) tokens =
      (GateState.suffix false).read stop brackets rest :=
  read_of_skip?_eq found (by cases bracket <;> rfl)

/-! ## What comes next -/

theorem isPast_zero (tokens : List GateToken) : IsPast 0 tokens :=
  fun _ _ _ _ => Nat.zero_le _

theorem IsPast.mono
    {low high : Nat}
    (past : IsPast high tokens)
    (below : low ≤ high) :
    IsPast low tokens :=
  fun sign offset later shape => Nat.le_trans below (past sign offset later shape)

/-- An operator that is looked for in vain does not come next. -/
theorem IsPast.next
    {level : Nat}
    (past : IsPast level tokens)
    (notFound : skip? wanted tokens = none)
    (allWanted : ∀ sign : GateOperator, sign.level = level → wanted sign) :
    IsPast (level + 1) tokens := by
  rintro sign offset later rfl
  have unwanted : ¬ wanted sign := fun isWanted => by simp [skip?, isWanted] at notFound
  have above : level ≤ sign.level := past sign offset later rfl
  exact Nat.lt_of_le_of_ne above fun same => unwanted (allWanted sign same.symm)

theorem isPast_of_noTrailer
    (noDot : skip? (· == .dot) tokens = none)
    (noSubscript : skip? (· == .openBracket) tokens = none)
    (noCall : skip? (· == .openParen) tokens = none) :
    IsPast 1 tokens := by
  rintro sign offset later rfl
  cases sign with
  | dot => simp [skip?] at noDot
  | openBracket => simp [skip?] at noSubscript
  | openParen => simp [skip?] at noCall
  | _ => decide

theorem isPast_closeParen
    (found : skip? (· == .closeParen) tokens = some ⟨rest, shorter⟩) :
    IsPast 5 tokens := by
  obtain ⟨sign, offset, closes, rfl⟩ := eq_cons_of_skip? found
  obtain rfl := eq_of_beq closes
  rintro _ _ _ ⟨⟩
  decide

/-! ## Faults -/

/-- Behind an operand only the operator of the open bracket goes on. -/
theorem read_suffix_fault
    {bracket : GateBracket}
    (past : IsPast 4 tokens)
    (pastComma : bracket = .call → IsPast 5 tokens)
    (notFound : skip? (· == bracket.closing) tokens = none) :
    (GateState.suffix false).read stop (bracket :: brackets) tokens =
      .error (faultAt stop tokens (.missing bracket.closing)) := by
  match tokens with
  | [] => rfl
  | ⟨.number, _⟩ :: _ | ⟨.string, _⟩ :: _ | ⟨.name _, _⟩ :: _ | ⟨.lineBreak, _⟩ :: _ =>
      rw [read_cons (by simp)]
      cases bracket <;> rfl
  | ⟨.operator sign, offset⟩ :: later =>
      have notClosing : sign ≠ bracket.closing := fun same => by simp [skip?, same] at notFound
      have far : 4 ≤ sign.level := past sign offset later rfl
      have notComma : bracket = .call → 5 ≤ sign.level :=
        fun isCall => pastComma isCall sign offset later rfl
      rw [read_cons (by simp)]
      cases sign <;> cases bracket <;>
        first
          | rfl
          | exact absurd rfl notClosing
          | exact absurd far (by decide)
          | exact absurd (notComma rfl) (by decide)

theorem agrees_expect
    {bracket : GateBracket}
    (past : IsPast 4 tokens)
    (pastComma : bracket = .call → IsPast 5 tokens) :
    Agrees stop 0 brackets ((GateState.suffix false).read stop (bracket :: brackets) tokens)
      (expect stop bracket.closing tokens) := by
  unfold expect
  cases found : skip? (· == bracket.closing) tokens with
  | some behind => exact .goesOn (read_suffix_closing found) (isPast_zero _)
  | none => exact .fault (read_suffix_fault past pastComma found)

theorem agrees_attributeName (tokens : List GateToken) :
    Agrees stop 0 brackets (GateState.attribute.read stop brackets tokens)
      (attributeName stop tokens) := by
  unfold attributeName
  split
  · next later => exact .goesOn (read_cons (by simp) _ _) (isPast_zero later)
  · next noName =>
      refine .fault ?_
      match tokens, noName with
      | [], _ => rfl
      | ⟨.name text, offset⟩ :: later, noName => exact absurd rfl (noName text offset later)
      | ⟨.number, _⟩ :: _, _ | ⟨.string, _⟩ :: _, _ | ⟨.operator _, _⟩ :: _, _
      | ⟨.lineBreak, _⟩ :: _, _ => exact read_cons (by simp) _ _

/-- Nothing else begins an operand. -/
theorem read_operand_fault
    (noSign : skip? GateOperator.isSign tokens = none)
    (noNumber : ∀ offset later, tokens ≠ ⟨.number, offset⟩ :: later)
    (noString : ∀ offset later, tokens ≠ ⟨.string, offset⟩ :: later)
    (noName : ∀ text offset later, tokens ≠ ⟨.name text, offset⟩ :: later)
    (noGroup : ∀ offset later, tokens ≠ ⟨.operator .openParen, offset⟩ :: later) :
    GateState.operand.read stop brackets tokens = .error (faultAt stop tokens .missingOperand) := by
  match tokens with
  | [] => rfl
  | ⟨.number, offset⟩ :: later => exact absurd rfl (noNumber offset later)
  | ⟨.string, offset⟩ :: later => exact absurd rfl (noString offset later)
  | ⟨.name text, offset⟩ :: later => exact absurd rfl (noName text offset later)
  | ⟨.lineBreak, offset⟩ :: later => exact read_cons (by simp) _ _
  | ⟨.operator sign, offset⟩ :: later =>
      rw [read_cons (by simp)]
      cases sign <;> first
        | rfl
        | exact absurd rfl (noGroup offset later)
        | exact absurd noSign (by simp [skip?, GateOperator.isSign])

/-! ## Operands -/

/-- Adjacent strings are one operand. -/
theorem read_suffix_true (tokens : List GateToken) :
    (GateState.suffix true).read stop brackets tokens =
      (GateState.suffix false).read stop brackets
        (tokens.dropWhile (·.kind == .string)) := by
  induction tokens with
  | nil => rfl
  | cons token later inductionHypothesis =>
      by_cases isString : token.kind = .string
      · rw [read_cons (by simp), isString, List.dropWhile_cons_of_pos (by simp [isString])]
        exact inductionHypothesis
      · have sameStep : (GateState.suffix true).step brackets token.kind =
            (GateState.suffix false).step brackets token.kind := by
          cases kind : token.kind with
          | string => exact absurd kind isString
          | number | name text | lineBreak => rfl
          | operator sign => cases sign <;> rfl
        rw [List.dropWhile_cons_of_neg (by simpa using isString), read_cons (by simp),
          read_cons (by simp), sameStep]

theorem read_operand_name (text : Text) (offset : Nat) (later : List GateToken) :
    GateState.operand.read stop brackets (⟨.name text, offset⟩ :: later) =
      if hostKeywords.contains text then .error ⟨offset, .keyword text⟩
      else (GateState.suffix false).read stop brackets later := by
  rw [read_cons (by simp), GateState.step, GateState.beginOperand]
  cases hostKeywords.contains text <;> rfl

/-- Behind its name an argument is read as an operand is, if there is one. -/
theorem read_argument
    (notClosing : skip? (· == .closeParen) tokens = none) :
    GateState.argument.read stop brackets tokens =
      GateState.operand.read stop brackets (skipArgumentName tokens).1 := by
  unfold skipArgumentName
  split
  · rfl
  · next noName =>
      cases tokens with
      | nil => rfl
      | cons token later =>
          obtain ⟨kind, offset⟩ := token
          have notClosed : kind ≠ .operator .closeParen := by
            rintro rfl
            simp [skip?] at notClosing
          have sameStep : GateState.argument.step brackets kind =
              GateState.operand.step brackets kind := if_neg notClosed
          show GateState.argument.read stop brackets (⟨kind, offset⟩ :: later) =
            GateState.operand.read stop brackets (⟨kind, offset⟩ :: later)
          rw [GateState.read, sameStep, read_cons (by simp)]
          rintro text other another behind - ⟨⟩ rfl
          exact noName text offset another behind rfl

/-! ## The end -/

theorem read_ending (tokens : List GateToken) :
    GateState.ending.read stop [] tokens =
      let rest := tokens.dropWhile (·.kind == .lineBreak)
      if rest.isEmpty then return () else throw (faultAt stop rest .trailingInput) := by
  induction tokens with
  | nil => rfl
  | cons token later inductionHypothesis =>
      rw [read_cons (by simp)]
      by_cases isBreak : token.kind = .lineBreak
      · rw [isBreak, List.dropWhile_cons_of_pos (by simp [isBreak])]
        exact inductionHypothesis
      · have fault : GateState.ending.step [] token.kind = .error .trailingInput := by
          cases kind : token.kind with
          | lineBreak => exact absurd kind isBreak
          | number | string | name text | operator sign => rfl
        rw [fault, List.dropWhile_cons_of_neg (by simpa using isBreak)]
        rfl

/-- With no bracket open an operand ends an expression as it ends a pass. -/
theorem read_suffix_nil
    (past : IsPast 4 tokens) :
    (GateState.suffix false).read stop [] tokens = GateState.ending.read stop [] tokens := by
  match tokens with
  | [] => rfl
  | ⟨.number, _⟩ :: _ | ⟨.string, _⟩ :: _ | ⟨.name _, _⟩ :: _ | ⟨.lineBreak, _⟩ :: _ =>
      rw [read_cons (by simp), read_cons (by simp)]
      rfl
  | ⟨.operator sign, offset⟩ :: later =>
      have far : 4 ≤ sign.level := past sign offset later rfl
      rw [read_cons (by simp), read_cons (by simp)]
      cases sign <;> first | rfl | exact absurd far (by decide)

end Phrases

/-! ## The descent -/

section Descent

variable {stop : Nat}

-- The induction follows the descent.  Each phrase takes all operators of its level and further in,
-- so with no more than the closing operator of its bracket ahead both sides fail alike.
mutual

theorem agrees_sum (tokens : List GateToken) (brackets : List GateBracket) :
    Agrees stop 4 brackets (GateState.operand.read stop brackets tokens) (sum stop tokens) := by
  rw [sum]
  refine (agrees_product tokens brackets).bind fun behind _ past => ?_
  exact (agrees_summands past brackets).bind fun _ _ past => .goesOn rfl past
termination_by (tokens.length, 5)

theorem agrees_summands {tokens : List GateToken} (past : IsPast 3 tokens)
    (brackets : List GateBracket) :
    Agrees stop 4 brackets ((GateState.suffix false).read stop brackets tokens)
      (summands stop tokens) := by
  rw [summands]
  split
  · next next _ found =>
      rw [read_suffix_arithmetic found fun _ => GateOperator.isArithmetic_of_isSign]
      refine (agrees_product next brackets).bind fun behind _ past => ?_
      exact (agrees_summands past brackets).bind fun _ _ past => .goesOn rfl past
  · next notFound =>
      exact .goesOn rfl (past.next notFound fun _ => GateOperator.isSign_of_level)
termination_by (tokens.length, 0)

theorem agrees_product (tokens : List GateToken) (brackets : List GateBracket) :
    Agrees stop 3 brackets (GateState.operand.read stop brackets tokens) (product stop tokens) := by
  rw [product]
  refine (agrees_signed tokens brackets).bind fun behind _ past => ?_
  exact (agrees_factors past brackets).bind fun _ _ past => .goesOn rfl past
termination_by (tokens.length, 4)

theorem agrees_factors {tokens : List GateToken} (past : IsPast 2 tokens)
    (brackets : List GateBracket) :
    Agrees stop 3 brackets ((GateState.suffix false).read stop brackets tokens)
      (factors stop tokens) := by
  rw [factors]
  split
  · next next _ found =>
      rw [read_suffix_arithmetic found fun _ => GateOperator.isArithmetic_of_isFactorSign]
      refine (agrees_signed next brackets).bind fun behind _ past => ?_
      exact (agrees_factors past brackets).bind fun _ _ past => .goesOn rfl past
  · next notFound =>
      exact .goesOn rfl (past.next notFound fun _ => GateOperator.isFactorSign_of_level)
termination_by (tokens.length, 0)

theorem agrees_signed (tokens : List GateToken) (brackets : List GateBracket) :
    Agrees stop 2 brackets (GateState.operand.read stop brackets tokens) (signed stop tokens) := by
  rw [signed]
  split
  · next later _ found =>
      rw [read_operand_sign found]
      exact (agrees_signed later brackets).bind fun _ _ past => .goesOn rfl past
  · next noSign => exact agrees_power noSign brackets
termination_by (tokens.length, 3)

theorem agrees_power {tokens : List GateToken}
    (noSign : skip? GateOperator.isSign tokens = none) (brackets : List GateBracket) :
    Agrees stop 2 brackets (GateState.operand.read stop brackets tokens) (power stop tokens) := by
  rw [power]
  refine (agrees_operand noSign brackets).bind fun behind _ past => ?_
  dsimp only
  split
  · next exponent _ found =>
      rw [read_suffix_power found]
      exact (agrees_signed exponent brackets).bind fun _ _ past => .goesOn rfl past
  · next notFound =>
      exact .goesOn rfl
        (past.next notFound fun _ level => beq_of_eq (GateOperator.eq_power_of_level level))
termination_by (tokens.length, 2)

theorem agrees_operand {tokens : List GateToken}
    (noSign : skip? GateOperator.isSign tokens = none) (brackets : List GateBracket) :
    Agrees stop 1 brackets (GateState.operand.read stop brackets tokens) (operand stop tokens) := by
  rw [operand]
  refine (agrees_atom noSign brackets).bind fun behind _ _ => ?_
  exact (agrees_trailers behind brackets).bind fun _ _ past => .goesOn rfl past
termination_by (tokens.length, 1)

theorem agrees_trailers (tokens : List GateToken) (brackets : List GateBracket) :
    Agrees stop 1 brackets ((GateState.suffix false).read stop brackets tokens)
      (trailers stop tokens) := by
  rw [trailers]
  split
  · next name _ found =>
      rw [read_suffix_dot found]
      refine (agrees_attributeName name).bind fun behind _ _ => ?_
      exact (agrees_trailers behind brackets).bind fun _ _ past => .goesOn rfl past
  · next noDot =>
      split
      · next index _ found =>
          rw [read_suffix_openBracket found]
          refine (agrees_sum index (.subscript :: brackets)).bind fun behind _ past => ?_
          refine (agrees_expect past (by simp)).bind fun closed _ _ => ?_
          exact (agrees_trailers closed brackets).bind fun _ _ past => .goesOn rfl past
      · next noSubscript =>
          split
          · next passed _ found =>
              rw [read_suffix_openParen found]
              refine (agrees_call passed brackets).bind fun closed _ _ => ?_
              exact (agrees_trailers closed brackets).bind fun _ _ past => .goesOn rfl past
          · next noCall =>
              exact .goesOn rfl (isPast_of_noTrailer noDot noSubscript noCall)
termination_by (tokens.length, 0)

theorem agrees_call (tokens : List GateToken) (brackets : List GateBracket) :
    Agrees stop 0 brackets (GateState.argument.read stop (.call :: brackets) tokens)
      (call stop tokens) := by
  rw [call]
  split
  · next rest found =>
      exact .goesOn (read_argument_closeParen found) (isPast_zero _)
  · next notClosing =>
      refine (agrees_arguments notClosing brackets).bind fun behind _ past => ?_
      refine (agrees_expect (past.mono (by decide)) fun _ => past).bind fun _ _ past => ?_
      exact .goesOn rfl past
termination_by (tokens.length, 8)

theorem agrees_arguments {tokens : List GateToken}
    (notClosing : skip? (· == .closeParen) tokens = none) (brackets : List GateBracket) :
    Agrees stop 5 (.call :: brackets) (GateState.argument.read stop (.call :: brackets) tokens)
      (arguments stop tokens) := by
  rw [arguments]
  refine (agrees_argument notClosing (.call :: brackets)).bind fun behind _ past => ?_
  exact (agrees_moreArguments past brackets).bind fun _ _ past => .goesOn rfl past
termination_by (tokens.length, 7)

theorem agrees_moreArguments {tokens : List GateToken} (past : IsPast 4 tokens)
    (brackets : List GateBracket) :
    Agrees stop 5 (.call :: brackets)
      ((GateState.suffix false).read stop (.call :: brackets) tokens)
      (moreArguments stop tokens) := by
  rw [moreArguments]
  split
  · next next _ found =>
      rw [read_suffix_comma found]
      cases closing : skip? (· == .closeParen) next with
      | some behind =>
          -- The closing parenthesis is left to the call.
          have closes : skip? (· == GateBracket.call.closing) next = some behind := closing
          refine .goesOn ?_ (isPast_closeParen closing)
          rw [read_argument_closeParen closing, read_suffix_closing closes]
      | none =>
          refine (agrees_argument closing (.call :: brackets)).bind fun behind _ past => ?_
          exact (agrees_moreArguments past brackets).bind fun _ _ past => .goesOn rfl past
  · next notFound =>
      exact .goesOn rfl
        (past.next notFound fun _ level => beq_of_eq (GateOperator.eq_comma_of_level level))
termination_by (tokens.length, 0)

theorem agrees_argument {tokens : List GateToken}
    (notClosing : skip? (· == .closeParen) tokens = none) (brackets : List GateBracket) :
    Agrees stop 4 brackets (GateState.argument.read stop brackets tokens)
      (argument stop tokens) := by
  rw [argument, read_argument notClosing]
  have noLonger := (skipArgumentName tokens).2
  exact (agrees_sum (skipArgumentName tokens).1 brackets).bind fun _ _ past => .goesOn rfl past
termination_by (tokens.length, 6)
decreasing_by exact Prod.Lex.right' _ noLonger (by decide)

theorem agrees_atom {tokens : List GateToken}
    (noSign : skip? GateOperator.isSign tokens = none) (brackets : List GateBracket) :
    Agrees stop 0 brackets (GateState.operand.read stop brackets tokens) (atom stop tokens) := by
  rw [atom.eq_def]
  split
  · next later => exact .goesOn (read_cons (by simp) _ _) (isPast_zero _)
  · next later =>
      refine .goesOn ?_ (isPast_zero _)
      rw [read_cons (by simp)]
      exact read_suffix_true later
  · next text offset later =>
      rw [read_operand_name]
      split
      · exact .fault rfl
      · exact .goesOn rfl (isPast_zero _)
  · next later =>
      rw [read_cons (by simp)]
      refine (agrees_sum later (.group :: brackets)).bind fun behind _ past => ?_
      exact (agrees_expect past (by simp)).bind fun _ _ past => .goesOn rfl past
  · next noNumber noString noName noGroup =>
      exact .fault (read_operand_fault noSign noNumber noString noName noGroup)
termination_by (tokens.length, 0)

end

/-- The descent and the pass read the same expressions and find the same faults. -/
theorem read_eq_read (stop : Nat) (tokens : List GateToken) :
    read stop tokens = GateState.operand.read stop [] tokens := by
  unfold read
  cases whole : sum stop tokens with
  | error error =>
      cases whole ▸ agrees_sum tokens [] with
      | fault failed => exact failed.symm
  | ok behind =>
      cases whole ▸ agrees_sum tokens [] with
      | goesOn reached past =>
          rw [reached, read_suffix_nil past, read_ending]
          rfl

end Descent

end GateReader

end Pipescript
