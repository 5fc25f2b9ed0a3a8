import Pipescript.Proofs.Gate.Grammar
import Pipescript.Proofs.Gate.Reader

/-!
# What the reader recognises

The reader goes through the tokens once, with a stack of open brackets and no levels of precedence,
and accepts what the descent through the levels accepts.  That is just the phrases of the grammar:
the reader finds its way through each of them, and whatever it accepts can be grouped into one.
-/

namespace Pipescript

open GateCategory

namespace Expected

variable {brackets : List GateBracket} {afterString : Bool}

/-! ## Steps of the reader -/

theorem accepts_operand_sign
    {sign : GateOperator}
    (isSign : sign.isSign)
    (later : List GateTokenKind) :
    (plain .operand).accepts brackets (.operator sign :: later) =
      (plain .operand).accepts brackets later := by
  cases sign <;> first | rfl | cases isSign

theorem accepts_operand_name
    {name : Text}
    (noKeyword : hostKeywords.contains name = false)
    (later : List GateTokenKind) :
    (plain .operand).accepts brackets (.name name :: later) =
      (plain (.suffix false)).accepts brackets later := by
  rw [accepts_plain_cons (by simp), GateState.step, GateState.beginOperand, noKeyword]
  rfl

theorem accepts_operand_group
    (later : List GateTokenKind) :
    (plain .operand).accepts brackets (.operator .openParen :: later) =
      (plain .operand).accepts (.group :: brackets) later := rfl

theorem accepts_suffix_arithmetic
    {sign : GateOperator}
    (arithmetic : sign.isArithmetic)
    (later : List GateTokenKind) :
    (plain (.suffix afterString)).accepts brackets (.operator sign :: later) =
      (plain .operand).accepts brackets later := by
  cases sign <;> first | rfl | cases arithmetic

theorem accepts_strings
    (count : Nat) (rest : List GateTokenKind) :
    (plain (.suffix true)).accepts brackets (List.replicate count .string ++ rest) =
      (plain (.suffix true)).accepts brackets rest := by
  induction count with
  | zero => rfl
  | succ count inductionHypothesis => exact inductionHypothesis

/-- An argument without a name is read as an operand is. -/
theorem accepts_argument
    {kinds : List GateTokenKind}
    (notClosing : kinds.head? ≠ some (.operator .closeParen))
    (notNamed : ∀ name later, kinds ≠ .name name :: .operator .assign :: later) :
    (plain .argument).accepts brackets kinds = (plain .operand).accepts brackets kinds := by
  cases kinds with
  | nil => rfl
  | cons kind later =>
      have noAssign : ∀ name, kind = .name name → later.head? ≠ some (.operator .assign) := by
        rintro name rfl assigns
        obtain ⟨behind, rfl⟩ : ∃ behind, later = .operator .assign :: behind := by
          cases later with
          | nil => simp at assigns
          | cons first behind => exact ⟨behind, by simpa using assigns⟩
        exact notNamed name behind rfl
      have different : kind ≠ .operator .closeParen := by simpa using notClosing
      have sameStep : GateState.argument.step brackets kind =
          GateState.operand.step brackets kind := by
        rw [GateState.step.eq_def, GateState.step.eq_def]
        exact if_neg different
      rw [accepts_plain_cons (fun name _ => noAssign name), accepts_plain_cons (by simp), sameStep]

/-! ## Every phrase is read -/

/-- What it means for a phrase of a category that the reader finds its way through it. -/
def IsRead (category : GateCategory) (kinds : List GateTokenKind) : Prop :=
  match category with
  | .expression | .product | .signed | .power | .operand | .atom =>
      ∃ afterString, ∀ brackets rest,
        (plain .operand).accepts brackets (kinds ++ rest) =
          (plain (.suffix afterString)).accepts brackets rest
  | .summands | .factors | .trailers | .trailer =>
      ∀ afterString, ∃ afterLastString, ∀ brackets rest,
        (plain (.suffix afterString)).accepts brackets (kinds ++ rest) =
          (plain (.suffix afterLastString)).accepts brackets rest
  | .argument =>
      ∃ afterString, ∀ brackets rest,
        rest.head? = some (.operator .comma) ∨ rest.head? = some (.operator .closeParen) →
          (plain .argument).accepts brackets (kinds ++ rest) =
            (plain (.suffix afterString)).accepts brackets rest
  | .arguments =>
      ∀ brackets rest,
        (plain .argument).accepts (.call :: brackets) (kinds ++ .operator .closeParen :: rest) =
          (plain (.suffix false)).accepts brackets rest
  | .moreArguments =>
      ∀ afterString brackets rest,
        (plain (.suffix afterString)).accepts (.call :: brackets)
            (kinds ++ .operator .closeParen :: rest) =
          (plain (.suffix false)).accepts brackets rest

theorem isRead_append
    {first later : List GateTokenKind}
    (firstRead : IsRead .operand first)
    (laterRead : IsRead .trailers later) :
    IsRead .operand (first ++ later) := by
  obtain ⟨afterString, readFirst⟩ := firstRead
  obtain ⟨afterLastString, readLater⟩ := laterRead afterString
  refine ⟨afterLastString, fun brackets rest => ?_⟩
  rw [List.append_assoc, readFirst, readLater]

/-- An expression is no argument with a name. -/
theorem isRead_argument
    {value : List GateTokenKind}
    (valueRead : IsRead .expression value) :
    IsRead .argument value := by
  obtain ⟨afterString, readValue⟩ := valueRead
  -- By itself the value is accepted, so it neither is empty nor goes on behind a name with an
  -- equals sign.
  have alone : (plain .operand).accepts [] value := by
    rw [← List.append_nil value, readValue]
    rfl
  refine ⟨afterString, fun brackets rest follows => ?_⟩
  rw [← readValue]
  cases value with
  | nil => simp [accepts, ends, GateState.endFault?] at alone
  | cons kind later =>
      refine accepts_argument ?_ ?_
      · rw [List.cons_append, List.head?_cons]
        intro closing
        obtain rfl := Option.some.inj closing
        simp [accepts, step, ofState, GateState.step, GateState.beginOperand] at alone
      · intro name behind shape
        obtain ⟨rfl, laterShape⟩ := List.cons.inj shape
        cases later with
        | nil =>
            obtain rfl : rest = .operator .assign :: behind := laterShape
            simp at follows
        | cons second others =>
            obtain ⟨rfl, -⟩ := List.cons.inj laterShape
            by_cases keyword : hostKeywords.contains name = true
            · rw [accepts_plain_cons (by simp), GateState.step, GateState.beginOperand,
                if_pos keyword] at alone
              exact Bool.false_ne_true alone
            · rw [accepts_operand_name (Bool.eq_false_iff.2 keyword)] at alone
              exact Bool.false_ne_true alone

/-- The reader finds its way through every phrase of the grammar. -/
theorem isRead_of_derives
    {category : GateCategory} {kinds : List GateTokenKind}
    (derivation : category.Derives kinds) :
    IsRead category kinds := by
  induction derivation with
  | expression _ _ firstRead laterRead => exact isRead_append firstRead laterRead
  | product _ _ firstRead laterRead => exact isRead_append firstRead laterRead
  | operand _ _ atomRead laterRead => exact isRead_append atomRead laterRead
  | noSummand | noFactor | noTrailer => exact fun afterString => ⟨afterString, fun _ _ => rfl⟩
  | @summand sign _ _ isSign _ _ nextRead laterRead =>
      intro afterString
      obtain ⟨afterLastString, readNext⟩ := isRead_append nextRead laterRead
      refine ⟨afterLastString, fun brackets rest => ?_⟩
      have arithmetic := GateOperator.isArithmetic_of_isSign isSign
      rw [List.cons_append, List.cons_append, accepts_suffix_arithmetic arithmetic, readNext]
  | @factor sign _ _ isFactorSign _ _ nextRead laterRead =>
      intro afterString
      obtain ⟨afterLastString, readNext⟩ := isRead_append nextRead laterRead
      refine ⟨afterLastString, fun brackets rest => ?_⟩
      have arithmetic := GateOperator.isArithmetic_of_isFactorSign isFactorSign
      rw [List.cons_append, List.cons_append, accepts_suffix_arithmetic arithmetic, readNext]
  | sign isSign _ laterRead =>
      obtain ⟨afterString, readLater⟩ := laterRead
      refine ⟨afterString, fun brackets rest => ?_⟩
      rw [List.cons_append, accepts_operand_sign isSign, readLater]
  | unsigned _ powerRead => exact powerRead
  | base _ operandRead => exact operandRead
  | raised _ _ operandRead exponentRead =>
      obtain ⟨afterBase, readBase⟩ := operandRead
      obtain ⟨afterString, readExponent⟩ := exponentRead
      refine ⟨afterString, fun brackets rest => ?_⟩
      rw [List.append_assoc, readBase, List.cons_append, accepts_suffix_arithmetic rfl,
        readExponent]
  | nextTrailer _ _ nextRead laterRead =>
      intro afterString
      obtain ⟨afterNext, readNext⟩ := nextRead afterString
      obtain ⟨afterLastString, readLater⟩ := laterRead afterNext
      refine ⟨afterLastString, fun brackets rest => ?_⟩
      rw [List.append_assoc, readNext, readLater]
  | dotted name => exact fun afterString => ⟨false, fun _ _ => rfl⟩
  | subscript _ indexRead =>
      intro afterString
      obtain ⟨afterIndex, readIndex⟩ := indexRead
      refine ⟨false, fun brackets rest => ?_⟩
      rw [List.append_assoc, List.cons_append]
      exact readIndex (.subscript :: brackets) (.operator .closeBracket :: rest)
  | emptyCall => exact fun afterString => ⟨false, fun _ _ => rfl⟩
  | call _ passedRead =>
      intro afterString
      refine ⟨false, fun brackets rest => ?_⟩
      rw [List.append_assoc, List.cons_append]
      exact passedRead brackets rest
  | @arguments first later _ laterDerivation firstRead laterRead =>
      intro brackets rest
      obtain ⟨afterString, readFirst⟩ := firstRead
      rw [List.append_assoc, readFirst, laterRead]
      cases laterDerivation with
      | noArgument => exact .inr rfl
      | lastComma => exact .inl rfl
      | nextArgument => exact .inl rfl
  | noArgument => exact fun afterString brackets rest => rfl
  | lastComma => exact fun afterString brackets rest => rfl
  | @nextArgument next later _ laterDerivation nextRead laterRead =>
      intro afterString brackets rest
      obtain ⟨afterNext, readNext⟩ := nextRead
      have comma : (plain (.suffix afterString)).accepts (.call :: brackets)
            (.operator .comma :: (next ++ (later ++ .operator .closeParen :: rest))) =
          (plain .argument).accepts (.call :: brackets)
            (next ++ (later ++ .operator .closeParen :: rest)) := rfl
      rw [List.cons_append, List.cons_append, List.append_assoc, comma, readNext, laterRead]
      cases laterDerivation with
      | noArgument => exact .inr rfl
      | lastComma => exact .inl rfl
      | nextArgument => exact .inl rfl
  | bareArgument _ valueRead => exact isRead_argument valueRead
  | namedArgument name _ valueRead =>
      obtain ⟨afterString, readValue⟩ := valueRead
      refine ⟨afterString, fun brackets rest _ => ?_⟩
      exact readValue brackets rest
  | number => exact ⟨false, fun _ _ => rfl⟩
  | strings count => exact ⟨true, fun brackets rest => accepts_strings count rest⟩
  | name noKeyword => exact ⟨false, fun brackets rest => accepts_operand_name noKeyword rest⟩
  | group _ insideRead =>
      obtain ⟨afterString, readInside⟩ := insideRead
      refine ⟨false, fun brackets rest => ?_⟩
      rw [List.append_assoc, List.cons_append, accepts_operand_group]
      exact readInside (.group :: brackets) (.operator .closeParen :: rest)

/-- By itself an expression is accepted. -/
theorem accepts_of_expression
    {kinds : List GateTokenKind}
    (derivation : expression.Derives kinds) :
    (plain .operand).accepts [] kinds := by
  obtain ⟨afterString, readWhole⟩ := isRead_of_derives derivation
  rw [← List.append_nil kinds, readWhole]
  rfl

theorem ne_nil_of_expression
    {kinds : List GateTokenKind}
    (derivation : expression.Derives kinds) :
    kinds ≠ [] := by
  rintro rfl
  exact Bool.false_ne_true (accepts_of_expression derivation)

/-! ## Whatever is accepted is a phrase -/

/-- Whether the tokens behind an expression end it and are accepted then. -/
def Closes (brackets : List GateBracket) : List GateTokenKind → Prop
  | [] => brackets = []
  | kind :: later =>
      ∃ next opened, GateState.closeBracket brackets kind = .ok (next, opened) ∧
        (plain next).accepts opened later

/-- Whether the tokens behind an opened call pass arguments, close it and are accepted then. -/
def ClosesCall (brackets : List GateBracket) (kinds : List GateTokenKind) : Prop :=
  ∃ passed rest, kinds = passed ++ .operator .closeParen :: rest ∧
    (passed = [] ∨ arguments.Derives passed) ∧ (plain (.suffix false)).accepts brackets rest

theorem closes_closing
    {bracket : GateBracket} {brackets : List GateBracket} {rest : List GateTokenKind}
    (notCall : bracket ≠ .call)
    (closed : Closes (bracket :: brackets) rest) :
    ∃ later, rest = .operator bracket.closing :: later ∧
      (plain (.suffix false)).accepts brackets later := by
  cases rest with
  | nil => exact absurd closed (List.cons_ne_nil _ _)
  | cons kind later =>
      obtain ⟨next, opened, stepped, accepted⟩ := closed
      have onlyClosing : GateState.closeBracket (bracket :: brackets) kind =
          if kind = .operator bracket.closing then .ok (.suffix false, brackets)
          else .error (.missing bracket.closing) := by
        cases bracket with
        | call => exact absurd rfl notCall
        | group | subscript => rfl
      rw [onlyClosing] at stepped
      split at stepped
      · next closes =>
          obtain ⟨rfl, rfl⟩ := Prod.mk.inj (Except.ok.inj stepped)
          exact ⟨later, by rw [closes], accepted⟩
      · simp at stepped

theorem closes_call
    {brackets : List GateBracket} {rest : List GateTokenKind}
    (closed : Closes (.call :: brackets) rest) :
    (∃ later, rest = .operator .closeParen :: later ∧
        (plain (.suffix false)).accepts brackets later) ∨
      ∃ later, rest = .operator .comma :: later ∧
        (plain .argument).accepts (.call :: brackets) later := by
  cases rest with
  | nil => exact absurd closed (List.cons_ne_nil _ _)
  | cons kind later =>
      obtain ⟨next, opened, stepped, accepted⟩ := closed
      by_cases comma : kind = .operator .comma
      · subst comma
        obtain ⟨rfl, rfl⟩ := Prod.mk.inj (Except.ok.inj stepped)
        exact .inr ⟨later, rfl, accepted⟩
      · have onlyClosing : GateState.closeBracket (.call :: brackets) kind =
            if kind = .operator .closeParen then .ok (.suffix false, brackets)
            else .error (.missing .closeParen) := by
          rw [GateState.closeBracket]
          · rfl
          · exact fun isComma _ => comma isComma
        rw [onlyClosing] at stepped
        split at stepped
        · next closes =>
            obtain ⟨rfl, rfl⟩ := Prod.mk.inj (Except.ok.inj stepped)
            exact .inl ⟨later, by rw [closes], accepted⟩
        · simp at stepped

/-- An operand that more may be said of: behind strings there may be another string. -/
def IsBegun (afterString : Bool) (front : List GateTokenKind) : Prop :=
  operand.Derives front ∧
    (afterString = true → ∃ count, front = List.replicate (count + 1) .string)

/-- What is known of fewer accepted tokens than a number. -/
structure Recognises (size : Nat) : Prop where
  operand :
    ∀ {brackets : List GateBracket} {kinds : List GateTokenKind},
      kinds.length < size →
      (plain .operand).accepts brackets kinds →
      ∃ front rest, kinds = front ++ rest ∧ expression.Derives front ∧ Closes brackets rest
  suffix :
    ∀ {afterString : Bool} {begun : List GateTokenKind} {brackets : List GateBracket}
      {kinds : List GateTokenKind},
      kinds.length < size →
      IsBegun afterString begun →
      (plain (.suffix afterString)).accepts brackets kinds →
      ∃ front rest, kinds = front ++ rest ∧ expression.Derives (begun ++ front) ∧
        Closes brackets rest
  argument :
    ∀ {brackets : List GateBracket} {kinds : List GateTokenKind},
      kinds.length < size →
      (plain .argument).accepts (.call :: brackets) kinds →
      ClosesCall brackets kinds

section Step

variable {size : Nat} {brackets : List GateBracket} {kinds : List GateTokenKind}
variable (shorter : Recognises size)
include shorter

/-- An atom that has been read whole is an operand, and its expression goes on behind it. -/
theorem expression_of_atom
    {afterString : Bool} {atom later : List GateTokenKind}
    (bound : later.length < size)
    (derivation : GateCategory.atom.Derives atom)
    (strings : afterString = true → ∃ count, atom = List.replicate (count + 1) .string)
    (accepted : (plain (.suffix afterString)).accepts brackets later) :
    ∃ front rest, atom ++ later = front ++ rest ∧ expression.Derives front ∧
      Closes brackets rest := by
  have begun : IsBegun afterString atom := ⟨.operand_of_atom derivation, strings⟩
  obtain ⟨front, rest, rfl, whole, closed⟩ := shorter.suffix bound begun accepted
  exact ⟨atom ++ front, rest, (List.append_assoc _ _ _).symm, whole, closed⟩

theorem recognises_operand
    (bound : kinds.length < size + 1)
    (accepted : (plain .operand).accepts brackets kinds) :
    ∃ front rest, kinds = front ++ rest ∧ expression.Derives front ∧ Closes brackets rest := by
  cases kinds with
  | nil => cases accepted
  | cons kind later =>
      have laterBound : later.length < size := Nat.lt_of_succ_lt_succ bound
      cases kind with
      | number => exact expression_of_atom shorter laterBound .number (by simp) accepted
      | string =>
          exact expression_of_atom shorter laterBound (.strings 0) (fun _ => ⟨0, rfl⟩) accepted
      | lineBreak => cases accepted
      | name text =>
          rw [accepts_plain_cons (by simp), GateState.step, GateState.beginOperand] at accepted
          cases keyword : hostKeywords.contains text with
          | true =>
              rw [keyword] at accepted
              cases accepted
          | false =>
              rw [keyword] at accepted
              exact expression_of_atom shorter laterBound (.name keyword) (by simp) accepted
      | operator sign =>
          have signed : ∀ {sign : GateOperator}, sign.isSign →
              (plain .operand).accepts brackets (.operator sign :: later) →
              ∃ front rest, .operator sign :: later = front ++ rest ∧ expression.Derives front ∧
                Closes brackets rest := by
            intro sign isSign accepted
            rw [accepts_operand_sign isSign] at accepted
            obtain ⟨front, rest, rfl, derivation, closed⟩ := shorter.operand laterBound accepted
            exact ⟨.operator sign :: front, rest, rfl, .expression_sign isSign derivation, closed⟩
          cases sign with
          | plus => exact signed rfl accepted
          | minus => exact signed rfl accepted
          | openParen =>
              rw [accepts_operand_group] at accepted
              obtain ⟨inside, closing, rfl, derivation, closed⟩ :=
                shorter.operand laterBound accepted
              obtain ⟨behind, rfl, behindAccepted⟩ := closes_closing (by simp) closed
              have behindBound : behind.length < size := by
                simp only [List.length_append, List.length_cons] at laterBound
                omega
              have grouped := expression_of_atom shorter behindBound (.group derivation) (by simp)
                behindAccepted
              simpa [GateBracket.closing] using grouped
          | power | floorDivide | times | divide | modulo | closeParen | openBracket
          | closeBracket | dot | comma | assign => cases accepted

theorem expression_of_trailer
    {afterString : Bool} {begun next later : List GateTokenKind}
    (bound : later.length < size)
    (isBegun : IsBegun afterString begun)
    (derivation : trailer.Derives next)
    (accepted : (plain (.suffix false)).accepts brackets later) :
    ∃ front rest, next ++ later = front ++ rest ∧ expression.Derives (begun ++ front) ∧
      Closes brackets rest := by
  have longer : IsBegun false (begun ++ next) :=
    ⟨.operand_append_trailer isBegun.1 derivation, by simp⟩
  obtain ⟨front, rest, rfl, whole, closed⟩ := shorter.suffix bound longer accepted
  refine ⟨next ++ front, rest, (List.append_assoc _ _ _).symm, ?_, closed⟩
  rwa [← List.append_assoc]

theorem recognises_suffix
    {afterString : Bool} {begun : List GateTokenKind}
    (bound : kinds.length < size + 1)
    (isBegun : IsBegun afterString begun)
    (accepted : (plain (.suffix afterString)).accepts brackets kinds) :
    ∃ front rest, kinds = front ++ rest ∧ expression.Derives (begun ++ front) ∧
      Closes brackets rest := by
  have ended : Closes brackets kinds →
      ∃ front rest, kinds = front ++ rest ∧ expression.Derives (begun ++ front) ∧
        Closes brackets rest := by
    intro closed
    refine ⟨[], kinds, rfl, ?_, closed⟩
    rw [List.append_nil]
    exact .expression_of_operand isBegun.1
  cases kinds with
  | nil =>
      refine ended ?_
      cases brackets with
      | nil => rfl
      | cons bracket outer => cases accepted
  | cons kind later =>
      have laterBound : later.length < size := Nat.lt_of_succ_lt_succ bound
      have closing : GateState.continueOperand afterString brackets kind =
            GateState.closeBracket brackets kind →
          Closes brackets (kind :: later) := by
        intro same
        rw [accepts_plain_cons (by simp), GateState.step, same] at accepted
        cases closed : GateState.closeBracket brackets kind with
        | error fault =>
            rw [closed] at accepted
            cases accepted
        | ok reached =>
            obtain ⟨next, opened⟩ := reached
            rw [closed] at accepted
            exact ⟨next, opened, closed, accepted⟩
      have joined : ∀ {sign : GateOperator}, sign.isArithmetic → kind = .operator sign →
          ∃ front rest, kind :: later = front ++ rest ∧ expression.Derives (begun ++ front) ∧
            Closes brackets rest := by
        rintro sign arithmetic rfl
        rw [accepts_suffix_arithmetic arithmetic] at accepted
        obtain ⟨front, rest, rfl, derivation, closed⟩ := shorter.operand laterBound accepted
        exact ⟨.operator sign :: front, rest, rfl,
          .expression_join arithmetic isBegun.1 derivation, closed⟩
      cases kind with
      | number | name text | lineBreak => exact ended (closing rfl)
      | string =>
          cases afterString with
          | false => exact ended (closing rfl)
          | true =>
              obtain ⟨count, rfl⟩ := isBegun.2 rfl
              have longer : IsBegun true (List.replicate (count + 2) .string) :=
                ⟨.operand_of_atom (.strings (count + 1)), fun _ => ⟨count + 1, rfl⟩⟩
              obtain ⟨front, rest, rfl, derivation, closed⟩ :=
                shorter.suffix laterBound longer accepted
              refine ⟨.string :: front, rest, rfl, ?_, closed⟩
              rwa [List.append_cons, ← List.replicate_succ']
      | operator sign =>
          cases sign with
          | plus | minus | times | divide | floorDivide | modulo | power => exact joined rfl rfl
          | closeParen | closeBracket | comma | assign => exact ended (closing rfl)
          | dot =>
              cases later with
              | nil => cases accepted
              | cons second behind =>
                  cases second with
                  | name text =>
                      have behindBound : behind.length < size := by
                        rw [List.length_cons] at laterBound
                        omega
                      exact expression_of_trailer shorter behindBound isBegun (.dotted text) accepted
                  | number | string | operator sign | lineBreak => cases accepted
          | openBracket =>
              obtain ⟨index, closed, rfl, derivation, closes⟩ := shorter.operand laterBound accepted
              obtain ⟨behind, rfl, behindAccepted⟩ := closes_closing (by simp) closes
              have behindBound : behind.length < size := by
                simp only [List.length_append, List.length_cons] at laterBound
                omega
              have found := expression_of_trailer shorter behindBound isBegun
                (.subscript derivation) behindAccepted
              simpa [GateBracket.closing] using found
          | openParen =>
              obtain ⟨passed, behind, rfl, derivation, behindAccepted⟩ :=
                shorter.argument laterBound accepted
              have behindBound : behind.length < size := by
                simp only [List.length_append, List.length_cons] at laterBound
                omega
              rcases derivation with rfl | derivation
              · exact expression_of_trailer shorter behindBound isBegun .emptyCall behindAccepted
              · have found := expression_of_trailer shorter behindBound isBegun
                  (.call derivation) behindAccepted
                simpa using found

/-- Behind an argument the call is closed, or a comma leads to the next argument or its end. -/
theorem closesCall_of_argument
    {value rest : List GateTokenKind}
    (bound : rest.length < size)
    (derivation : GateCategory.argument.Derives value)
    (closed : Closes (.call :: brackets) rest) :
    ClosesCall brackets (value ++ rest) := by
  rcases closes_call closed with ⟨later, rfl, accepted⟩ | ⟨later, rfl, accepted⟩
  · have only : arguments.Derives (value ++ []) := .arguments derivation .noArgument
    rw [List.append_nil] at only
    exact ⟨value, later, rfl, .inr only, accepted⟩
  · have laterBound : later.length < size := by
      rw [List.length_cons] at bound
      omega
    obtain ⟨passed, behind, rfl, more, behindAccepted⟩ := shorter.argument laterBound accepted
    have following : moreArguments.Derives (.operator .comma :: passed) := by
      rcases more with rfl | more
      · exact .lastComma
      · cases more with
        | arguments next others => exact .nextArgument next others
    refine ⟨value ++ .operator .comma :: passed, behind, by simp, .inr ?_, behindAccepted⟩
    exact .arguments derivation following

theorem recognises_argument
    (bound : kinds.length < size + 1)
    (accepted : (plain .argument).accepts (.call :: brackets) kinds) :
    ClosesCall brackets kinds := by
  by_cases closes : kinds.head? = some (.operator .closeParen)
  · cases kinds with
    | nil => cases closes
    | cons kind later =>
        obtain rfl := Option.some.inj closes
        exact ⟨[], later, rfl, .inl rfl, accepted⟩
  by_cases named : ∃ name later, kinds = .name name :: .operator .assign :: later
  · obtain ⟨name, later, rfl⟩ := named
    have laterBound : later.length < size := by
      simp only [List.length_cons] at bound
      omega
    obtain ⟨value, rest, rfl, derivation, closed⟩ := shorter.operand laterBound accepted
    have restBound : rest.length < size := by
      rw [List.length_append] at laterBound
      omega
    exact closesCall_of_argument shorter restBound (.namedArgument name derivation) closed
  · rw [accepts_argument closes fun name later shape => named ⟨name, later, shape⟩] at accepted
    obtain ⟨value, rest, rfl, derivation, closed⟩ := recognises_operand shorter bound accepted
    have restBound : rest.length < size := by
      have positive := List.length_pos_iff.2 (ne_nil_of_expression derivation)
      rw [List.length_append] at bound
      omega
    exact closesCall_of_argument shorter restBound (.bareArgument derivation) closed

end Step

theorem recognises (size : Nat) : Recognises size := by
  induction size with
  | zero =>
      refine ⟨?_, ?_, ?_⟩ <;> intros <;> omega
  | succ size inductionHypothesis =>
      exact ⟨recognises_operand inductionHypothesis, recognises_suffix inductionHypothesis,
        recognises_argument inductionHypothesis⟩

/-! ## Whole texts -/

/-- Behind the end of an expression there are only line breaks. -/
theorem eq_replicate_of_ending
    {kinds : List GateTokenKind}
    (accepted : (plain .ending).accepts [] kinds) :
    ∃ count, kinds = List.replicate count .lineBreak := by
  induction kinds with
  | nil => exact ⟨0, rfl⟩
  | cons kind later inductionHypothesis =>
      rw [accepts] at accepted
      cases stepped : (plain .ending).step [] kind with
      | none => simp [stepped] at accepted
      | some reached =>
          obtain ⟨next, opened⟩ := reached
          obtain ⟨rfl, rfl, rfl⟩ := lineBreak_of_ending stepped
          rw [stepped] at accepted
          obtain ⟨count, rfl⟩ := inductionHypothesis accepted
          exact ⟨count + 1, rfl⟩

theorem accepts_lineBreaks
    (count : Nat) :
    (plain .ending).accepts [] (List.replicate count .lineBreak) := by
  induction count with
  | zero => rfl
  | succ count inductionHypothesis => exact inductionHypothesis

/-- With no bracket open, expressions with line breaks behind them are accepted, and nothing
else. -/
theorem accepts_operand_iff {kinds : List GateTokenKind} :
    (plain .operand).accepts [] kinds ↔
      ∃ front count, expression.Derives front ∧
        kinds = front ++ List.replicate count .lineBreak := by
  constructor
  · intro accepted
    obtain ⟨front, rest, rfl, derivation, closed⟩ :=
      (recognises (kinds.length + 1)).operand (Nat.lt_succ_self _) accepted
    refine ⟨front, ?_⟩
    cases rest with
    | nil => exact ⟨0, derivation, rfl⟩
    | cons kind later =>
        obtain ⟨next, opened, stepped, laterAccepted⟩ := closed
        cases kind with
        | lineBreak =>
            obtain ⟨rfl, rfl⟩ := Prod.mk.inj (Except.ok.inj stepped)
            obtain ⟨count, rfl⟩ := eq_replicate_of_ending laterAccepted
            exact ⟨count + 1, derivation, rfl⟩
        | number | string | name text | operator sign => cases stepped
  · rintro ⟨front, count, derivation, rfl⟩
    obtain ⟨afterString, readFront⟩ := isRead_of_derives derivation
    rw [readFront]
    cases count with
    | zero => rfl
    | succ count => exact accepts_lineBreaks count

end Expected

/-- A text is checked to be a gate expression just if it can be cut into pieces whose tokens make up
an expression of the grammar, with line breaks behind it. -/
theorem isOk_checkGate_iff (text : Text) :
    (checkGate text).isOk ↔
      ∃ pieces, gatePieces 0 text = .ok pieces ∧
        ∃ front count, expression.Derives front ∧
          (gateTokens 0 0 pieces).map GateToken.kind =
            front ++ List.replicate count .lineBreak := by
  unfold checkGate
  cases found : gatePieces 0 text with
  | error fault => simp [Except.isOk, Except.toBool]
  | ok pieces =>
      dsimp only
      rw [GateReader.read_eq_read, Expected.isOk_read, Expected.accepts_operand_iff]
      simp

end Pipescript
