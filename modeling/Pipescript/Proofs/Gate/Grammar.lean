import Pipescript.Proofs.Gate.OnePass

/-!
# The grammar of gate expressions

A gate expression is a sum of products of signed operands, an operand being an atom with attributes,
subscripts and calls behind it.  The grammar says so level by level.  Behind any arithmetic operator
a whole expression may follow, whatever the level of the operator: the levels decide only how an
expression is grouped, not what is one.
-/

namespace Pipescript

/-- The categories of the grammar. -/
inductive GateCategory where
  | expression
  /-- What may follow the first product of a sum. -/
  | summands
  | product
  /-- What may follow the first signed operand of a product. -/
  | factors
  | signed
  | power
  | operand
  | trailers
  | trailer
  | arguments
  /-- What may follow the first argument of a call. -/
  | moreArguments
  | argument
  | atom
  deriving DecidableEq, Repr

namespace GateCategory

/-- Whether tokens make up a phrase of a category. -/
inductive Derives : GateCategory → List GateTokenKind → Prop
  /-- A product, and any number of signs with products behind them. -/
  | expression
      {first later : List GateTokenKind} :
      Derives product first →
      Derives summands later →
      Derives expression (first ++ later)
  | noSummand : Derives summands []
  | summand
      {sign : GateOperator} {next later : List GateTokenKind} :
      sign.isSign →
      Derives product next →
      Derives summands later →
      Derives summands (.operator sign :: next ++ later)
  /-- A signed operand, and any number of factor signs with signed operands behind them. -/
  | product
      {first later : List GateTokenKind} :
      Derives signed first →
      Derives factors later →
      Derives product (first ++ later)
  | noFactor : Derives factors []
  | factor
      {sign : GateOperator} {next later : List GateTokenKind} :
      sign.isFactorSign →
      Derives signed next →
      Derives factors later →
      Derives factors (.operator sign :: next ++ later)
  | sign
      {sign : GateOperator} {later : List GateTokenKind} :
      sign.isSign →
      Derives signed later →
      Derives signed (.operator sign :: later)
  | unsigned
      {power : List GateTokenKind} :
      Derives .power power →
      Derives signed power
  /-- An operand, perhaps raised to a signed operand. -/
  | base
      {operand : List GateTokenKind} :
      Derives .operand operand →
      Derives power operand
  | raised
      {operand exponent : List GateTokenKind} :
      Derives .operand operand →
      Derives signed exponent →
      Derives power (operand ++ .operator .power :: exponent)
  /-- An atom, and any number of trailers. -/
  | operand
      {atom later : List GateTokenKind} :
      Derives .atom atom →
      Derives trailers later →
      Derives operand (atom ++ later)
  | noTrailer : Derives trailers []
  | nextTrailer
      {next later : List GateTokenKind} :
      Derives trailer next →
      Derives trailers later →
      Derives trailers (next ++ later)
  /-- Any name may be that of an attribute. -/
  | dotted
      (name : Text) :
      Derives trailer [.operator .dot, .name name]
  | subscript
      {index : List GateTokenKind} :
      Derives .expression index →
      Derives trailer (.operator .openBracket :: index ++ [.operator .closeBracket])
  | emptyCall : Derives trailer [.operator .openParen, .operator .closeParen]
  | call
      {passed : List GateTokenKind} :
      Derives arguments passed →
      Derives trailer (.operator .openParen :: passed ++ [.operator .closeParen])
  /-- An argument, any number of commas with arguments behind them, and perhaps a last comma. -/
  | arguments
      {first later : List GateTokenKind} :
      Derives argument first →
      Derives moreArguments later →
      Derives arguments (first ++ later)
  | noArgument : Derives moreArguments []
  | lastComma : Derives moreArguments [.operator .comma]
  | nextArgument
      {next later : List GateTokenKind} :
      Derives argument next →
      Derives moreArguments later →
      Derives moreArguments (.operator .comma :: next ++ later)
  | bareArgument
      {value : List GateTokenKind} :
      Derives .expression value →
      Derives argument value
  /-- Any name may be that of an argument. -/
  | namedArgument
      (name : Text) {value : List GateTokenKind} :
      Derives .expression value →
      Derives argument (.name name :: .operator .assign :: value)
  | number : Derives atom [.number]
  /-- Strings side by side are one atom. -/
  | strings
      (count : Nat) :
      Derives atom (List.replicate (count + 1) .string)
  | name
      {name : Text} :
      hostKeywords.contains name = false →
      Derives atom [.name name]
  | group
      {inside : List GateTokenKind} :
      Derives .expression inside →
      Derives atom (.operator .openParen :: inside ++ [.operator .closeParen])

namespace Derives

/-! ## Short phrases -/

theorem operand_of_atom
    {atom : List GateTokenKind}
    (derivation : GateCategory.atom.Derives atom) :
    GateCategory.operand.Derives atom := by
  simpa using operand derivation noTrailer

theorem signed_of_operand
    {operand : List GateTokenKind}
    (derivation : GateCategory.operand.Derives operand) :
    signed.Derives operand :=
  unsigned (base derivation)

theorem product_of_signed
    {first : List GateTokenKind}
    (derivation : signed.Derives first) :
    GateCategory.product.Derives first := by
  simpa using product derivation noFactor

theorem expression_of_operand
    {operand : List GateTokenKind}
    (derivation : GateCategory.operand.Derives operand) :
    GateCategory.expression.Derives operand := by
  simpa using expression (product_of_signed (signed_of_operand derivation)) noSummand

theorem trailers_append
    {front behind : List GateTokenKind}
    (frontDerivation : trailers.Derives front)
    (behindDerivation : trailers.Derives behind) :
    trailers.Derives (front ++ behind) := by
  generalize category : trailers = tested at frontDerivation
  induction frontDerivation with
  | noTrailer => exact behindDerivation
  | nextTrailer next _ _ inductionHypothesis =>
      rw [List.append_assoc]
      exact nextTrailer next (inductionHypothesis category)
  | _ => cases category

theorem operand_append_trailer
    {front next : List GateTokenKind}
    (derivation : GateCategory.operand.Derives front)
    (trailerDerivation : trailer.Derives next) :
    GateCategory.operand.Derives (front ++ next) := by
  cases derivation with
  | operand atom later =>
      have last : trailers.Derives (next ++ []) := nextTrailer trailerDerivation noTrailer
      rw [List.append_nil] at last
      rw [List.append_assoc]
      exact operand atom (trailers_append later last)

/-! ## Expressions behind operators -/

/-- An expression begins with a signed operand, which may be exchanged. -/
theorem expression_exchange
    {whole : List GateTokenKind}
    (derivation : GateCategory.expression.Derives whole) :
    ∃ first later, whole = first ++ later ∧ signed.Derives first ∧
      (∀ other, signed.Derives other → GateCategory.expression.Derives (other ++ later)) ∧
      (∀ other sign, GateOperator.isFactorSign sign → signed.Derives other →
        GateCategory.expression.Derives (other ++ .operator sign :: whole)) := by
  cases derivation with
  | expression productDerivation moreProducts =>
      cases productDerivation with
      | @product first factors signedDerivation moreFactors =>
          refine ⟨first, _, List.append_assoc _ _ _, signedDerivation, ?_, ?_⟩
          · intro other otherDerivation
            rw [← List.append_assoc]
            exact expression (product otherDerivation moreFactors) moreProducts
          · intro other sign isFactorSign otherDerivation
            have longer := product otherDerivation (factor isFactorSign signedDerivation moreFactors)
            simpa using expression longer moreProducts

theorem expression_sign
    {sign : GateOperator} {later : List GateTokenKind}
    (isSign : sign.isSign)
    (derivation : GateCategory.expression.Derives later) :
    GateCategory.expression.Derives (.operator sign :: later) := by
  obtain ⟨first, behind, rfl, firstDerivation, exchange, -⟩ := expression_exchange derivation
  exact exchange (.operator sign :: first) (Derives.sign isSign firstDerivation)

/-- An operand, an arithmetic operator and an expression make up an expression. -/
theorem expression_join
    {front later : List GateTokenKind} {sign : GateOperator}
    (arithmetic : sign.isArithmetic)
    (frontDerivation : GateCategory.operand.Derives front)
    (derivation : GateCategory.expression.Derives later) :
    GateCategory.expression.Derives (front ++ .operator sign :: later) := by
  have frontSigned : signed.Derives front := signed_of_operand frontDerivation
  obtain ⟨first, behind, parts, firstDerivation, exchange, multiply⟩ :=
    expression_exchange derivation
  rcases GateOperator.sign_or_factorSign_or_power arithmetic with
    isSign | isFactorSign | rfl
  · cases derivation with
    | expression productDerivation moreProducts =>
        exact expression (product_of_signed frontSigned)
          (summand isSign productDerivation moreProducts)
  · exact multiply front sign isFactorSign frontSigned
  · subst parts
    have raisedFront : signed.Derives (front ++ .operator .power :: first) :=
      unsigned (raised frontDerivation firstDerivation)
    simpa using exchange _ raisedFront

end Derives

end GateCategory

end Pipescript
