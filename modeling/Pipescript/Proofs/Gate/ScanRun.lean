import Pipescript.Proofs.Gate.Alone
import Pipescript.Proofs.Gate.ScanStep

/-!
# Scanning a gate expression

Where a gate expression can be read, a scan comes through it piece by piece.  It is as deep as the
reader, apart from the brackets that were open before, and an operator is not followed by one with
which a scan would join it.  Only behind the end of the expression can an indentation stop the scan.
-/

namespace Pipescript

open Arrow

/-! ## Cuts up to a text -/

/-- The pieces of a text up to where another one begins. -/
inductive IsCutUpTo (stop : Text) : Text → List GatePiece → Prop where
  | nil : IsCutUpTo stop stop []
  | cons
      {c : Char} {rest behind : Text} {piece : GatePiece} {later : List GatePiece}
      (begun : GatePiece.first c rest = .ok piece)
      (parts : c :: rest = piece.text ++ behind)
      (cut : IsCutUpTo stop behind later) :
      IsCutUpTo stop (c :: rest) (piece :: later)

theorem IsCut.isCutUpTo_nil
    {text : Text} {pieces : List GatePiece}
    (cut : IsCut text pieces) :
    IsCutUpTo [] text pieces := by
  induction cut with
  | nil => exact .nil
  | cons begun parts _ inductionHypothesis => exact .cons begun parts inductionHypothesis

/-- A text is cut alike before any text before which its last piece is over. -/
theorem IsCut.isCutUpTo_append
    {text other : Text} {pieces : List GatePiece}
    (cut : IsCut text pieces)
    (ends : ∀ last, pieces.getLast? = some last → last.EndsBefore other) :
    IsCutUpTo other (text ++ other) pieces := by
  induction cut with
  | nil => exact .nil
  | @cons c rest behind piece later begun parts cut inductionHypothesis =>
      have pieceAlike : (behind ++ other).head? = behind.head? ∨ piece.EndsBefore (behind ++ other) := by
        cases behind with
        | cons d behind => exact .inl rfl
        | nil =>
            obtain rfl := cut.eq_nil
            exact .inr (ends piece rfl)
      obtain ⟨otherRest, otherParts, otherBegun⟩ :=
        GatePiece.first_of_endsAlike begun parts pieceAlike
      rw [parts, List.append_assoc, ← otherParts]
      refine .cons otherBegun otherParts (inductionHypothesis fun last found => ends last ?_)
      rw [List.getLast?_cons, found, Option.getD_some]

theorem IsCutUpTo.eq_append
    {stop text : Text} {pieces : List GatePiece}
    (cut : IsCutUpTo stop text pieces) :
    text = pieces.flatMap GatePiece.text ++ stop := by
  induction cut with
  | nil => rfl
  | cons _ parts _ inductionHypothesis =>
      rw [parts, inductionHypothesis, List.flatMap_cons, List.append_assoc]

/-! ## What follows an operator -/

namespace GatePiece

theorem first_sign
    {c : Char}
    (visible : IsVisible c)
    (noDigit : c.isDigit = false)
    (noPoint : c ≠ '.')
    (noQuote : isQuoteMark c = false)
    (noName : startsName c = false)
    (rest : Text) :
    first c rest = (GateOperator.first? (c :: rest)).elim (.error (.unexpectedCharacter c))
      fun sign => .ok (.operator sign) := by
  refine first_of_sign ⟨visible, ?_, noQuote⟩ noName
  rw [startsNumber, noDigit, beq_eq_false_iff_ne.2 noPoint]
  rfl

theorem first_equals (rest : Text) : first '=' rest = .ok (.operator .assign) := by
  rw [first_sign ⟨by decide, by decide, by decide, by decide⟩ (by decide) (by decide) (by decide)
    (by decide +kernel)]
  rfl

theorem first_greater (rest : Text) : first '>' rest = .error (.unexpectedCharacter '>') := by
  rw [first_sign ⟨by decide, by decide, by decide, by decide⟩ (by decide) (by decide) (by decide)
    (by decide +kernel)]
  rfl

end GatePiece

namespace Expected

variable {expected next : Expected} {brackets opened : List GateBracket}
  {reached : Expected × List GateBracket}

theorem exists_plain_of_operator
    {sign : GateOperator}
    (stepped : expected.step brackets (.operator sign) = some (next, opened)) :
    ∃ state, next = .plain state := by
  unfold step at stepped
  split at stepped
  · next same => cases same
  · obtain ⟨following, -, rfl⟩ := ofState_eq_some_iff.1 stepped
    exact ⟨following, rfl⟩
  · obtain ⟨rfl, -⟩ := Prod.mk.inj (Option.some.inj stepped)
    exact ⟨.operand, rfl⟩
  · split at stepped
    · cases stepped
    · obtain ⟨following, -, rfl⟩ := ofState_eq_some_iff.1 stepped
      exact ⟨following, rfl⟩

theorem step_plain_assign (state : GateState) :
    (plain state).step brackets (.operator .assign) = none := by
  cases state <;> rcases brackets with _ | ⟨_ | _ | _, _⟩ <;> rfl

theorem step_dot
    (stepped : expected.step brackets (.operator .dot) = some reached) :
    reached = (.plain .attribute, brackets) := by
  match expected with
  | .plain .operand | .plain .argument | .plain .attribute => cases stepped
  | .plain .ending => cases stepped
  | .plain (.suffix afterString) => exact (Option.some.inj stepped).symm
  | .named text =>
      have named : (if hostKeywords.contains text then none
          else some (plain .attribute, brackets)) = some reached := stepped
      split at named
      · cases named
      · exact (Option.some.inj named).symm

/-- Behind a point only the name of an attribute is read. -/
theorem stepPiece_point
    {rest : Text} {piece : GatePiece}
    (begun : GatePiece.first '.' rest = .ok piece) :
    stepPiece (.plain .attribute, brackets) piece = none := by
  cases GatePiece.first_eq_ok_iff.1 begun with
  | blank margin => exact absurd margin (by decide)
  | comment comments => exact absurd comments (by decide)
  | joint _ escapes => exact absurd escapes (by decide)
  | lineBreak breaks => exact absurd breaks (by decide)
  | number _ _ _ counted =>
      rw [GatePiece.number_of_ofNumber counted]
      rfl
  | quoted _ _ _ quotes => exact absurd quotes (by decide)
  | lettered _ _ _ _ names | name _ names => exact absurd names (by decide +kernel)
  | operator => rfl

/-- What is read behind an operator is nothing that a scan would take along with it. -/
theorem standsBefore_of_run
    {sign : GateOperator} {reader middle : Expected × List GateBracket} {stop behind : Text}
    {later : List GatePiece}
    (stopHead : ∀ c, stop.head? = some c → c = ':')
    (stepped : stepPiece reader (.operator sign) = some middle)
    (reading : run middle later = some reached)
    (cut : IsCutUpTo stop behind later) :
    sign.StandsBefore behind := by
  intro c next
  cases cut with
  | nil =>
      obtain rfl := stopHead c next
      exact ⟨by decide, by decide, fun _ => by decide⟩
  | @cons d rest _ piece others begun _ _ =>
      obtain rfl : d = c := Option.some.inj next
      obtain ⟨last, pieceStepped, -⟩ := Option.bind_eq_some_iff.1 reading
      refine ⟨?_, ?_, ?_⟩
      · rintro rfl
        rw [GatePiece.first_equals] at begun
        obtain rfl := Except.ok.inj begun
        obtain ⟨next, opened⟩ := middle
        obtain ⟨state, same⟩ := exists_plain_of_operator stepped
        have noAssign : next.step opened (.operator .assign) = none := by
          rw [same]
          exact step_plain_assign state
        rw [stepPiece, noAssign] at pieceStepped
        cases pieceStepped
      · rintro rfl
        rw [GatePiece.first_greater] at begun
        cases begun
      · rintro rfl rfl
        obtain rfl := step_dot stepped
        rw [stepPiece_point begun] at pieceStepped
        cases pieceStepped

/-! ## The depth of a reader -/

/-- A reader is as deep as the brackets that it has read, whatever was open before. -/
theorem depthAfter_of_step
    {kind : GateTokenKind}
    (stepped : expected.step brackets kind = some (next, opened))
    (settled : IsSettled (expected, brackets))
    (base : Nat) :
    kind.depthAfter (brackets.length + base) = opened.length + base := by
  by_cases finished : expected = .plain .ending
  · subst finished
    obtain ⟨rfl, rfl, rfl⟩ := lineBreak_of_ending stepped
    obtain rfl : brackets = [] := settled rfl
    rfl
  · rcases step_cases stepped finished with
      ⟨rfl, rfl, rfl, rfl⟩ | ⟨-, _, popped, pushed, outer, rfl, rfl, _, depth⟩
    · rfl
    · rw [List.length_append, List.length_append, Nat.add_assoc, Nat.add_assoc]
      exact depth (outer.length + base)

theorem depthAfter_of_stepPiece
    {reader middle : Expected × List GateBracket} {piece : GatePiece}
    (stepped : stepPiece reader piece = some middle)
    (settled : IsSettled reader)
    (base : Nat) :
    IsSettled middle ∧ piece.depthAfter (reader.2.length + base) = middle.2.length + base := by
  obtain ⟨expected, brackets⟩ := reader
  obtain ⟨next, opened⟩ := middle
  have token : ∀ {kind : GateTokenKind}, expected.step brackets kind = some (next, opened) →
      IsSettled (next, opened) ∧
        kind.depthAfter (brackets.length + base) = opened.length + base :=
    fun found => ⟨(isSettled_of_step found settled).1, depthAfter_of_step found settled base⟩
  cases piece with
  | blank text | comment text | joint text =>
      obtain ⟨rfl, rfl⟩ := Prod.mk.inj (Option.some.inj stepped)
      exact ⟨settled, rfl⟩
  | lineBreak c =>
      rw [stepPiece] at stepped
      split at stepped
      · next noBracket =>
          obtain rfl : brackets = [] := noBracket
          exact token stepped
      · obtain ⟨rfl, rfl⟩ := Prod.mk.inj (Option.some.inj stepped)
        exact ⟨settled, rfl⟩
  | number text | string text | name text | operator sign => exact token stepped

end Expected

/-! ## The tokens of pieces -/

/-- The tokens that a scan makes of pieces that begin at a place, but for comments and layout. -/
def pieceTokens (origin : Arrow) : List GatePiece → List Token
  | [] => []
  | piece :: later => piece.tokens origin ++ pieceTokens (origin.behind piece.text) later

/-- Behind the end of an expression there are no more tokens. -/
theorem pieceTokens_of_ending
    {pieces : List GatePiece} {reached : Expected × List GateBracket}
    (reading : Expected.run (.plain .ending, []) pieces = some reached)
    (origin : Arrow) :
    pieceTokens origin pieces = [] := by
  induction pieces generalizing origin with
  | nil => rfl
  | cons piece later inductionHypothesis =>
      obtain ⟨middle, stepped, laterReading⟩ := Option.bind_eq_some_iff.1 reading
      have ended : ∀ kind : GateTokenKind,
          (Expected.plain .ending).step [] kind = some middle → middle = (.plain .ending, []) := by
        intro kind found
        obtain ⟨next, opened⟩ := middle
        obtain ⟨-, rfl, rfl⟩ := Expected.lineBreak_of_ending found
        rfl
      have noToken : ∀ kind : GateTokenKind, kind ≠ .lineBreak →
          (Expected.plain .ending).step [] kind ≠ some middle := by
        intro kind noBreak found
        obtain ⟨next, opened⟩ := middle
        exact noBreak (Expected.lineBreak_of_ending found).1
      cases piece with
      | blank text | comment text | joint text =>
          obtain rfl := Option.some.inj stepped
          exact inductionHypothesis laterReading _
      | lineBreak c =>
          rw [Expected.stepPiece, if_pos rfl] at stepped
          obtain rfl := ended _ stepped
          exact inductionHypothesis laterReading _
      | number text => exact absurd stepped (noToken .number (by simp))
      | string text => exact absurd stepped (noToken .string (by simp))
      | name text => exact absurd stepped (noToken (.name text) (by simp))
      | operator sign => exact absurd stepped (noToken (.operator sign) (by simp))

/-! ## Many pieces -/

/-- A scan comes through what can be read of a gate expression, unless the expression has ended and
an inconsistent indentation stops the scan. -/
theorem ScansAt.run
    {scan : Scan} {origin : Arrow} {reader reached : Expected × List GateBracket} {base : Nat}
    {stop text : Text} {pieces : List GatePiece}
    (at_ : ScansAt scan origin (reader.2.length + base) text)
    (cut : IsCutUpTo stop text pieces)
    (stopHead : ∀ c, stop.head? = some c → c = ':')
    (returns : Text.ReturnsFedBefore (pieces.flatMap GatePiece.text) stop)
    (settled : Expected.IsSettled reader)
    (reading : Expected.run reader pieces = some reached) :
    (∃ later, ScansAt later (origin.behind (pieces.flatMap GatePiece.text))
        (reached.2.length + base) stop ∧ scan.Yields (pieceTokens origin pieces) later) ∨
      (reached.1 = .plain .ending ∧ scan.content = pieceTokens origin pieces) := by
  induction cut generalizing scan origin reader with
  | nil =>
      obtain rfl := Option.some.inj reading
      exact .inl ⟨scan, at_, .refl scan⟩
  | @cons c rest behind piece later begun parts cut inductionHypothesis =>
      obtain ⟨middle, stepped, laterReading⟩ := Option.bind_eq_some_iff.1 reading
      obtain ⟨middleSettled, depth⟩ := Expected.depthAfter_of_stepPiece stepped settled base
      have stands : ∀ sign, piece = .operator sign → sign.StandsBefore behind := by
        rintro sign rfl
        exact Expected.standsBefore_of_run stopHead stepped laterReading cut
      rw [List.flatMap_cons] at returns
      have behindParts : behind = later.flatMap GatePiece.text ++ stop := cut.eq_append
      have pieceReturns := returns.append.1
      rw [← behindParts] at pieceReturns
      rcases at_.step begun parts pieceReturns stands with
        ⟨following, followingAt, yields⟩ | ⟨⟨d, rfl⟩, noBracket, noContent⟩
      · rw [depth] at followingAt
        rw [List.flatMap_cons, behind_append]
        refine (inductionHypothesis followingAt returns.append.2 middleSettled
          laterReading).imp ?_ ?_
        · rintro ⟨last, lastAt, lastYields⟩
          exact ⟨last, lastAt, yields.trans lastYields⟩
        · rintro ⟨ended, content⟩
          exact ⟨ended, by rw [yields.content, content]; rfl⟩
      · obtain ⟨expected, brackets⟩ := reader
        obtain rfl : brackets = [] := by
          refine List.length_eq_zero_iff.1 ?_
          dsimp only at noBracket
          omega
        have ending : middle.1 = .plain .ending := Expected.step_lineBreak_nil stepped
        obtain rfl : middle = (.plain .ending, []) := Prod.ext ending (middleSettled ending)
        refine .inr ⟨by rw [Expected.run_ending laterReading], ?_⟩
        rw [noContent, pieceTokens, pieceTokens_of_ending laterReading]
        rfl

end Pipescript
