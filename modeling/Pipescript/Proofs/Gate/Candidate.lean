import Pipescript.Proofs.Gate.Probe

/-!
# Candidates

A candidate numbers a gate just if it is one expression by itself.  The side of the arrow makes no
difference, and whatever is accepted has closed its brackets and its string literals.
-/

namespace Pipescript

open GateCategory

/-! ## Balanced brackets -/

namespace GateTokenKind

/-- Whether a token opens or closes a bracket. -/
def isBracket : GateTokenKind → Bool
  | .operator .openParen | .operator .closeParen | .operator .openBracket
  | .operator .closeBracket => true
  | _ => false

/-- Whether every bracket among tokens is closed by one of its own kind, inner ones first. -/
inductive Balanced : List GateTokenKind → Prop
  | nil : Balanced []
  | token
      {kind : GateTokenKind} {later : List GateTokenKind} :
      kind.isBracket = false →
      Balanced later →
      Balanced (kind :: later)
  | parens
      {inside later : List GateTokenKind} :
      Balanced inside →
      Balanced later →
      Balanced (.operator .openParen :: inside ++ .operator .closeParen :: later)
  | brackets
      {inside later : List GateTokenKind} :
      Balanced inside →
      Balanced later →
      Balanced (.operator .openBracket :: inside ++ .operator .closeBracket :: later)

theorem Balanced.append
    {front behind : List GateTokenKind}
    (frontBalanced : Balanced front)
    (behindBalanced : Balanced behind) :
    Balanced (front ++ behind) := by
  induction frontBalanced with
  | nil => exact behindBalanced
  | token noBracket _ inductionHypothesis => exact token noBracket inductionHypothesis
  | parens insideBalanced _ _ inductionHypothesis =>
      have whole := parens insideBalanced inductionHypothesis
      simpa using whole
  | brackets insideBalanced _ _ inductionHypothesis =>
      have whole := brackets insideBalanced inductionHypothesis
      simpa using whole

end GateTokenKind

open GateTokenKind in
/-- The phrases of every category are balanced. -/
theorem GateCategory.Derives.balanced
    {category : GateCategory} {kinds : List GateTokenKind}
    (derivation : category.Derives kinds) :
    Balanced kinds := by
  have sign : ∀ {sign : GateOperator}, sign.isSign ∨ sign.isFactorSign →
      (GateTokenKind.operator sign).isBracket = false := by
    intro sign joins
    cases sign <;> first | rfl | (rcases joins with joins | joins <;> cases joins)
  induction derivation with
  | expression _ _ first later | product _ _ first later | operand _ _ first later
  | nextTrailer _ _ first later | arguments _ _ first later => exact first.append later
  | noSummand | noFactor | noTrailer | noArgument => exact .nil
  | summand isSign _ _ next later => exact .token (sign (.inl isSign)) (next.append later)
  | factor isFactorSign _ _ next later => exact .token (sign (.inr isFactorSign)) (next.append later)
  | sign isSign _ later => exact .token (sign (.inl isSign)) later
  | unsigned _ same | base _ same | bareArgument _ same => exact same
  | raised _ _ front behind => exact front.append (.token rfl behind)
  | dotted name => exact .token rfl (.token rfl .nil)
  | subscript _ inside => exact .brackets inside .nil
  | emptyCall => exact .parens .nil .nil
  | call _ inside | group _ inside => exact .parens inside .nil
  | lastComma => exact .token rfl .nil
  | nextArgument _ _ next later => exact .token rfl (next.append later)
  | namedArgument name _ value => exact .token rfl (.token rfl value)
  | number => exact .token rfl .nil
  | strings count =>
      induction count with
      | zero => exact .token rfl .nil
      | succ count inductionHypothesis => exact .token rfl inductionHypothesis
  | name => exact .token rfl .nil

/-! ## Closed literals -/

/-- Whether a text is a string literal with its letters, its quote, and inside of it first the
closing quote. -/
def IsClosedLiteral (text : Text) : Prop :=
  ∃ letters inside : Text, ∃ quote : Quote,
    text = letters ++ quote.text ++ inside ∧ isQuoteMark quote.mark ∧
      (letters = [] ∨ isStringLetters letters) ∧ quote.text <:+ inside

theorem isClosedLiteral_of_ofQuote
    {letters rest literal : Text} {mark : Char}
    (quotes : isQuoteMark mark)
    (opens : letters = [] ∨ isStringLetters letters)
    (quoted : GatePiece.ofQuote letters mark rest = some (.string literal)) :
    IsClosedLiteral literal := by
  obtain ⟨inside, closed, same⟩ := Option.map_eq_some_iff.1 quoted
  obtain rfl := GatePiece.string.inj same
  refine ⟨letters, inside, Quote.opening mark rest, rfl, quotes, opens, ?_⟩
  split at closed
  · exact Quote.text_isSuffix_of_closed? closed
  · next single =>
      unfold Quote.text
      rw [if_neg single]
      exact mark_isSuffix_of_closedOnLine? closed

theorem isClosedLiteral_of_mem
    {text literal : Text} {pieces : List GatePiece}
    (cut : IsCut text pieces)
    (member : .string literal ∈ pieces) :
    IsClosedLiteral literal := by
  induction cut with
  | nil => cases member
  | cons begun parts cut inductionHypothesis =>
      rcases List.mem_cons.1 member with rfl | member
      · cases GatePiece.first_eq_ok_iff.1 begun with
        | number _ _ _ counted => cases GatePiece.number_of_ofNumber counted
        | quoted _ _ _ quotes quoted => exact isClosedLiteral_of_ofQuote quotes (.inl rfl) quoted
        | lettered _ _ _ _ _ _ opens quoted =>
            obtain ⟨quotes, letters⟩ := Bool.and_eq_true_iff.1 opens
            exact isClosedLiteral_of_ofQuote quotes (.inr letters) quoted
      · exact inductionHypothesis member

/-! ## Candidates -/

theorem standsAlone_iff {text : Text} {pieces : List GatePiece} :
    StandsAlone text pieces ↔
      gatePieces 0 text = .ok pieces ∧ (∀ note, pieces.getLast? ≠ some (.comment note)) ∧
        .lineBreak ∉ (gateTokens 0 0 pieces).map GateToken.kind ∧
        expression.Derives ((gateTokens 0 0 pieces).map GateToken.kind) := by
  constructor
  · rintro ⟨cut, noComment, reading⟩
    exact ⟨gatePieces_eq_ok_iff.2 cut, noComment, Expected.expression_iff.2 reading⟩
  · rintro ⟨found, noComment, isExpression⟩
    exact ⟨gatePieces_eq_ok_iff.1 found, noComment, Expected.expression_iff.1 isExpression⟩

theorem isGate_iff_standsAlone {side : GateSide} {candidate : Text} :
    isGate side candidate ↔ ∃ pieces, StandsAlone candidate pieces :=
  ⟨exists_standsAlone, fun ⟨_, alone⟩ => isGate_of_standsAlone side alone⟩

/-- A candidate numbers a gate, on either side of an arrow, just if it can be cut into pieces by
itself, its last piece is no comment, and its tokens, none of them a line break, make up one
expression.  Then its brackets are balanced and its string literals closed. -/
theorem isGate_iff_alone (candidate : Text) :
    (∀ side, isGate side candidate ↔
      ∃ pieces, gatePieces 0 candidate = .ok pieces ∧
        (∀ note, pieces.getLast? ≠ some (.comment note)) ∧
        .lineBreak ∉ (gateTokens 0 0 pieces).map GateToken.kind ∧
        expression.Derives ((gateTokens 0 0 pieces).map GateToken.kind)) ∧
      isGate .output candidate = isGate .input candidate ∧
      (∀ side, isGate side candidate →
        ∃ pieces, gatePieces 0 candidate = .ok pieces ∧
          GateTokenKind.Balanced ((gateTokens 0 0 pieces).map GateToken.kind) ∧
          ∀ literal, .string literal ∈ pieces → IsClosedLiteral literal) := by
  refine ⟨?_, ?_, ?_⟩
  · intro side
    simp only [isGate_iff_standsAlone, standsAlone_iff]
  · rw [Bool.eq_iff_iff, isGate_iff_standsAlone, isGate_iff_standsAlone]
  · intro side gate
    obtain ⟨pieces, alone⟩ := exists_standsAlone gate
    obtain ⟨found, -, -, derivation⟩ := standsAlone_iff.1 alone
    exact ⟨pieces, found, derivation.balanced, fun literal => isClosedLiteral_of_mem alone.cut⟩

end Pipescript
