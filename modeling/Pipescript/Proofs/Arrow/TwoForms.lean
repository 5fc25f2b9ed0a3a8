import Pipescript.Proofs.Arrow.Found

/-!
# The two forms of an arrow

Among tokens an arrow is one operator, or a minus sign and a greater-than sign with nothing between
them.  The search for arrows looks back at one token only, and only for a minus sign there.  The
operator `->` is none, and neither is the greater-than sign that ends an arrow in two pieces.  So
behind an arrow of either form the search goes on as if it began there, and it makes no difference
in which form an arrow is written.
-/

namespace Pipescript

namespace Token

/-- The first character of an arrow operator as an operator of its own. -/
def minusPiece (token : Token) : Token :=
  ⟨.operator, ['-'], token.row, token.column⟩

/-- The second character of an arrow operator as an operator of its own. -/
def greaterPiece (token : Token) : Token :=
  ⟨.operator, ['>'], token.row, token.column + 1⟩

def inTwoPieces (token : Token) : List Token :=
  [token.minusPiece, token.greaterPiece]

end Token

namespace Arrow

/-- A token at a position of a list, in two pieces if it is an arrow operator and chosen. -/
def splitIfChosen (isChosen : Nat → Bool) : Token × Nat → List Token
  | (token, position) =>
      if isChosen position && token.isOperator arrowText then token.inTwoPieces else [token]

/-- Tokens with some of their arrow operators in two pieces: those at chosen positions. -/
def splitChosen (isChosen : Nat → Bool) (tokens : List Token) : List Token :=
  tokens.zipIdx.flatMap (splitIfChosen isChosen)

/-- Whether an arrow is written as two tokens: a minus sign, and a greater-than sign next to it. -/
def IsPair (arrow : Arrow) (minus greater : Token) : Prop :=
  greater.isOperator ['>'] ∧ isMinusBefore greater minus ∧ arrow = ⟨greater.row - 1, minus.column⟩

/-- Whether an arrow is written among tokens, in either form. -/
def IsWrittenIn (tokens : List Token) (arrow : Arrow) : Prop :=
  (∃ token ∈ tokens, token.isOperator arrowText ∧ arrow = ⟨token.row - 1, token.column⟩) ∨
    ∃ minus greater, [minus, greater] <:+: tokens ∧ arrow.IsPair minus greater

variable {before? : Option Token} {token : Token} {arrow : Arrow} {later : List Token}

/-! ## Which arrows are found -/

theorem mem_findFrom_cons_iff :
    arrow ∈ findFrom before? (token :: later) ↔
      (token.isOperator arrowText ∧ arrow = ⟨token.row - 1, token.column⟩) ∨
        (∃ before, before? = some before ∧ arrow.IsPair before token) ∨
        arrow ∈ findFrom (some token) later := by
  constructor
  · intro member
    rcases mem_findFrom_cons member with whole | ⟨greater, before, found, pair⟩ | behind
    · exact .inl whole
    · exact .inr (.inl ⟨before, found, greater, pair⟩)
    · exact .inr (.inr behind)
  · rw [findFrom, List.mem_append]
    rintro (⟨whole, rfl⟩ | ⟨before, rfl, greater, minus, rfl⟩ | behind)
    · simp [whole]
    · have notWhole : token.isOperator arrowText = false := by
        have text := (operator_of_isOperator greater).2
        simp [Token.isOperator, text, arrowText]
      simp [notWhole, greater, minus]
    · exact .inr behind

/-- Two tokens side by side are the first two, or they are side by side behind the first one. -/
theorem exists_pair_iff :
    (∃ minus greater, [minus, greater] <:+: before?.toList ++ token :: later ∧
        arrow.IsPair minus greater) ↔
      (∃ before, before? = some before ∧ arrow.IsPair before token) ∨
        ∃ minus greater, [minus, greater] <:+: token :: later ∧ arrow.IsPair minus greater := by
  cases before? with
  | none => simp
  | some before =>
      constructor
      · rintro ⟨minus, greater, sideBySide, pair⟩
        rcases List.infix_cons_iff.1 sideBySide with first | behind
        · obtain ⟨rfl, rest⟩ := List.cons_prefix_cons.1 first
          obtain ⟨rfl, -⟩ := List.cons_prefix_cons.1 rest
          exact .inl ⟨minus, rfl, pair⟩
        · exact .inr ⟨minus, greater, behind, pair⟩
      · rintro (⟨minus, same, pair⟩ | ⟨minus, greater, sideBySide, pair⟩)
        · obtain rfl := Option.some.inj same
          exact ⟨before, token, (List.prefix_append [before, token] later).isInfix, pair⟩
        · exact ⟨minus, greater, List.infix_cons sideBySide, pair⟩

/-- The arrows that are found are those written among the tokens, with the one in front of them. -/
theorem mem_findFrom_iff {tokens : List Token} :
    arrow ∈ findFrom before? tokens ↔
      (∃ token ∈ tokens, token.isOperator arrowText ∧ arrow = ⟨token.row - 1, token.column⟩) ∨
        ∃ minus greater, [minus, greater] <:+: before?.toList ++ tokens ∧
          arrow.IsPair minus greater := by
  induction tokens generalizing before? with
  | nil =>
      have noPair (minus greater : Token) : ¬ [minus, greater] <:+: before?.toList := by
        intro sideBySide
        have atMost := sideBySide.length_le
        cases before? <;> simp at atMost
      simp [findFrom, noPair]
  | cons token later inductionHypothesis =>
      rw [mem_findFrom_cons_iff, inductionHypothesis, exists_pair_iff, List.exists_mem_cons_iff,
        or_assoc]
      exact or_congr_right or_left_comm

/-! ## Behind an arrow -/

/-- A token that is no minus sign is the same as none in front. -/
theorem findFrom_of_noMinus
    (noMinus : ∀ before ∈ before?, before.isOperator ['-'] = false)
    (tokens : List Token) :
    findFrom before? tokens = find tokens := by
  cases tokens with
  | nil => rfl
  | cons token later =>
      have notBefore : before?.filter (isMinusBefore token) = none := by
        refine Option.filter_eq_none_iff.2 fun before member => ?_
        simp [isMinusBefore, noMinus before member]
      rw [find, findFrom, findFrom, notBefore]
      rfl

theorem findFrom_cons_of_isOperator
    (whole : token.isOperator arrowText)
    (later : List Token) :
    findFrom before? (token :: later) = ⟨token.row - 1, token.column⟩ :: find later := by
  obtain ⟨operator, text⟩ := operator_of_isOperator whole
  have noMinus : token.isOperator ['-'] = false := by
    simp [Token.isOperator, text, arrowText]
  rw [findFrom, if_pos whole, findFrom_of_noMinus (by simpa using noMinus)]
  rfl

theorem findFrom_inTwoPieces (later : List Token) :
    findFrom before? (token.inTwoPieces ++ later) =
      ⟨token.row - 1, token.column⟩ :: find later := by
  have noMinus : token.greaterPiece.isOperator ['-'] = false := rfl
  have found : findFrom before? (token.inTwoPieces ++ later) =
      ⟨token.row - 1, token.column⟩ :: findFrom (some token.greaterPiece) later := by
    simp [Token.inTwoPieces, Token.minusPiece, Token.greaterPiece, findFrom, Option.filter_some,
      isMinusBefore, Token.isOperator, arrowText]
  rw [found, findFrom_of_noMinus (by simpa using noMinus)]

theorem findFrom_splitIfChosen (isChosen : Nat → Bool) (tokens : List Token) (position : Nat) :
    findFrom before? ((tokens.zipIdx position).flatMap (splitIfChosen isChosen)) =
      findFrom before? tokens := by
  induction tokens generalizing before? position with
  | nil => rfl
  | cons token later inductionHypothesis =>
      rw [List.zipIdx_cons, List.flatMap_cons, splitIfChosen]
      split
      · next chosen =>
          -- The two searches now have different tokens in front, but neither is a minus sign.
          obtain ⟨-, whole⟩ := Bool.and_eq_true_iff.1 chosen
          rw [findFrom_inTwoPieces, findFrom_cons_of_isOperator whole, find, inductionHypothesis]
          rfl
      · rw [List.singleton_append, findFrom, inductionHypothesis]
        rfl

/-- Arrow operators, any of them, may as well be written in two pieces: the same arrows are found at
the same places and in the same order, namely those that are written among the tokens. -/
theorem find_splitChosen (isChosen : Nat → Bool) (tokens : List Token) :
    find (splitChosen isChosen tokens) = find tokens ∧
      ∀ arrow, arrow ∈ find tokens ↔ IsWrittenIn tokens arrow :=
  ⟨findFrom_splitIfChosen isChosen tokens 0, fun _ => mem_findFrom_iff⟩

/-- A minus sign in front of an arrow and a greater-than sign behind it do not mix with its
pieces. -/
example :
    find [⟨.operator, ['-'], 1, 0⟩, ⟨.operator, ['-'], 1, 1⟩, ⟨.operator, ['>'], 1, 2⟩,
      ⟨.operator, ['>'], 1, 3⟩] = [⟨0, 1⟩] := by
  decide

end Arrow

end Pipescript
