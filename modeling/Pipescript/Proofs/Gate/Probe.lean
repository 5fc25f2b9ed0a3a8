import Pipescript.Proofs.Gate.Alone
import Pipescript.Script.GateColon

/-!
# What the probes decide

Whether a candidate numbers a gate is decided on two other texts, in which it stands in parentheses
and between operators.  Each of these accepts too much; together they accept just the candidates
that are one expression by themselves.
-/

namespace Pipescript

/-! ## The ends of the probes -/

theorem isPrefix_of_append
    {front text behind : Text}
    (different : ∀ c ∈ front, behind.head? ≠ some c)
    (isFront : front <+: text ++ behind) :
    front <+: text := by
  induction text generalizing front with
  | nil =>
      cases front with
      | nil => exact List.prefix_rfl
      | cons c front =>
          obtain ⟨rest, rfl⟩ := isFront
          exact absurd rfl (different c List.mem_cons_self)
  | cons d text inductionHypothesis =>
      cases front with
      | nil => exact List.nil_prefix
      | cons c front =>
          obtain ⟨rfl, later⟩ := List.cons_prefix_cons.1 isFront
          refine List.cons_prefix_cons.2 ⟨rfl, inductionHypothesis ?_ later⟩
          exact fun e member => different e (List.mem_cons_of_mem _ member)

namespace GatePiece

/-- A sign of the probes is read as the operator that it begins. -/
theorem first_of_probeSign
    {c : Char} {rest : Text} {sign : GateOperator}
    (isSign : c ∈ ['+', '*', '(', ')'])
    (listed : GateOperator.first? (c :: rest) = some sign) :
    first c rest = .ok (.operator sign) := by
  have noName : startsName c = false := by
    have noneNamed : ['+', '*', '(', ')'].any startsName = false := by decide +kernel
    exact Bool.eq_false_iff.2 (List.any_eq_false.1 noneNamed c isSign)
  have bare : IsBare c rest := by
    simp only [List.mem_cons, List.not_mem_nil, or_false] at isSign
    rcases isSign with rfl | rfl | rfl | rfl <;>
      exact ⟨⟨by decide, by decide, by decide, by decide⟩, rfl, by decide⟩
  rw [first_of_sign bare noName, listed, Option.elim_some]

theorem first_openParen (rest : Text) : first '(' rest = .ok (.operator .openParen) :=
  first_of_probeSign (by decide) rfl

theorem first_closeParen (rest : Text) : first ')' rest = .ok (.operator .closeParen) :=
  first_of_probeSign (by decide) rfl

theorem first_plus (rest : Text) : first '+' rest = .ok (.operator .plus) :=
  first_of_probeSign (by decide) rfl

theorem first_times (rest : Text) :
    first '*' rest =
      .ok (.operator (if rest.head? = some '*' then .power else .times)) := by
  refine first_of_probeSign (by decide) ?_
  cases rest with
  | nil => rfl
  | cons c rest =>
      by_cases double : c = '*'
      · subst double
        rfl
      · have noPower : ('*' == c) = false := by simpa using Ne.symm double
        simp [GateOperator.first?, GateOperator.all, GateOperator.text, List.isPrefixOf, noPower,
          double]

theorem first_one_of_endsWord
    {rest : Text}
    (ends : rest.EndsWord) :
    first '1' rest = .ok (.number ['1']) := by
  have alone : first '1' [] = .ok (.number ['1']) := rfl
  obtain ⟨otherRest, parts, begun⟩ := first_of_endsAlike alone rfl (.inr ends)
  obtain rfl : otherRest = rest := (List.cons.inj parts).2
  exact begun

end GatePiece

theorem isCut_closeParen : IsCut [')'] [.operator .closeParen] :=
  .cons (GatePiece.first_closeParen []) rfl .nil

namespace GateSide

/-- The operator that a probe puts before a candidate. -/
def opening : GateSide → GateOperator
  | output => .times
  | input => .plus

/-- The operator that a probe puts behind a candidate. -/
def closing : GateSide → GateOperator
  | output => .plus
  | input => .times

theorem closing_isArithmetic (side : GateSide) : side.closing.isArithmetic := by
  cases side <;> rfl

end GateSide

section Probe

variable {side : GateSide} {rest : Text}

/-- Before a candidate the first operand and the operator of its probe are cut off. -/
theorem isCut_probe_append_iff
    {pieces : List GatePiece}
    (noStar : rest.head? ≠ some '*') :
    IsCut (side.probe.1 ++ rest) pieces ↔
      ∃ later, pieces = .number ['1'] :: .operator side.opening :: later ∧ IsCut rest later := by
  obtain ⟨c, shape, operator, begun⟩ : ∃ c, side.probe.1 = ['1', c] ∧
      (c = '+' ∨ c = '*' ∨ c = ')') ∧ GatePiece.first c rest = .ok (.operator side.opening) ∧
        (GatePiece.operator side.opening).text = [c] := by
    cases side with
    | output =>
        refine ⟨'*', rfl, .inr (.inl rfl), ?_, rfl⟩
        rw [GatePiece.first_times, if_neg noStar]
        rfl
    | input => exact ⟨'+', rfl, .inl rfl, GatePiece.first_plus rest, rfl⟩
  have one := GatePiece.first_one_of_endsWord (endsWord_sign operator rest)
  have behindOne : '1' :: c :: rest = (GatePiece.number ['1']).text ++ c :: rest := rfl
  have behindSign : c :: rest = (GatePiece.operator side.opening).text ++ rest := by
    rw [begun.2]
    rfl
  rw [shape]
  constructor
  · intro cut
    obtain ⟨signed, rfl, signedCut⟩ := cut.exists_later one behindOne
    obtain ⟨later, rfl, laterCut⟩ := signedCut.exists_later begun.1 behindSign
    exact ⟨later, rfl, laterCut⟩
  · rintro ⟨later, rfl, laterCut⟩
    exact .cons one behindOne (.cons begun.1 behindSign laterCut)

theorem isCut_probe_end (side : GateSide) :
    IsCut side.probe.2 [.operator side.closing, .number ['1']] := by
  have one : IsCut ['1'] [.number ['1']] :=
    .cons (GatePiece.first_one_of_endsWord endsWord_nil) rfl .nil
  cases side with
  | output => exact .cons (GatePiece.first_plus ['1']) rfl one
  | input => exact .cons (GatePiece.first_times ['1']) rfl one

/-- Blanks and joints before the end of a probe are cut off from it. -/
theorem exists_quiet_of_isTrailing
    {trail : Text} {pieces : List GatePiece}
    (cut : IsCut (trail ++ side.probe.2) pieces)
    (trailing : trail.all isTrailing) :
    ∃ quiet, pieces = quiet ++ [.operator side.closing, .number ['1']] ∧
      quiet.all GatePiece.isQuiet := by
  generalize whole : trail ++ side.probe.2 = text at cut
  induction cut generalizing trail with
  | nil => cases side <;> simp [GateSide.probe] at whole
  | @cons c rest behind piece later begun parts cut inductionHypothesis =>
      cases trail with
      | nil =>
          rw [List.nil_append] at whole
          have wholeCut : IsCut (c :: rest) (piece :: later) := .cons begun parts cut
          rw [← whole] at wholeCut
          exact ⟨[], wholeCut.unique (isCut_probe_end side), rfl⟩
      | cons d trail =>
          obtain ⟨rfl, rfl⟩ := List.cons.inj whole
          have recurse : ∀ {remaining : Text}, piece.isQuiet → remaining.all isTrailing →
              behind = remaining ++ side.probe.2 →
              ∃ quiet, piece :: later = quiet ++ [.operator side.closing, .number ['1']] ∧
                quiet.all GatePiece.isQuiet := by
            rintro remaining pieceQuiet remainingTrailing rfl
            obtain ⟨quiet, rfl, allQuiet⟩ := inductionHypothesis remainingTrailing rfl
            exact ⟨piece :: quiet, rfl, by rw [List.all_cons, pieceQuiet, allQuiet]; rfl⟩
          rw [List.all_cons, Bool.and_eq_true] at trailing
          obtain ⟨first, trailing⟩ := trailing
          simp only [isTrailing, Bool.or_eq_true, beq_iff_eq] at first
          rcases first with blank | rfl
          · rcases GatePiece.first_of_isBlank blank begun with rfl | rfl
            · exact recurse rfl trailing (List.cons.inj parts).2.symm
            · exact recurse rfl trailing (List.cons.inj parts).2.symm
          · obtain ⟨lineEnd, shape, front, rfl⟩ := GatePiece.joint_of_first begun
            have noFeed : ∀ d ∈ lineEnd, side.probe.2.head? ≠ some d := by
              rcases shape with rfl | rfl <;> cases side <;> simp [GateSide.probe]
            obtain ⟨remaining, rfl⟩ := isPrefix_of_append noFeed front
            have remainingTrailing : remaining.all isTrailing := by
              rw [List.all_append, Bool.and_eq_true] at trailing
              exact trailing.2
            refine recurse rfl remainingTrailing ?_
            have tailParts : lineEnd ++ remaining ++ side.probe.2 = lineEnd ++ behind :=
              (List.cons.inj parts).2
            rw [List.append_assoc] at tailParts
            exact (List.append_cancel_left tailParts).symm

end Probe

/-! ## Whatever passes both probes is an expression -/

theorem isGateText_iff {text : Text} :
    isGateText text ↔
      ∃ pieces, IsCut text pieces ∧ Expected.finishes (.plain .operand, []) pieces := by
  refine ⟨exists_cut_of_isGateText, ?_⟩
  rintro ⟨pieces, cut, finished⟩
  unfold isGateText checkGate
  rw [gatePieces_of_isCut cut]
  dsimp only
  rw [GateReader.read_eq_read, Expected.isOk_read]
  exact (Expected.accepts_gateTokens (fun ending => by simp at ending) 0 pieces).trans finished

/-- No operand begins with a star. -/
theorem head?_ne_star
    {text : Text} {front behind : List GatePiece} {brackets : List GateBracket}
    {reached : Expected × List GateBracket}
    (cut : IsCut text (front ++ behind))
    (notEmpty : front ≠ [])
    (reading : Expected.run (.plain .operand, brackets) front = some reached) :
    text.head? ≠ some '*' := by
  intro star
  obtain ⟨piece, front, rfl⟩ := List.exists_cons_of_ne_nil notEmpty
  rw [List.cons_append] at cut
  cases cut with
  | @cons c rest _ _ _ begun _ _ =>
      obtain rfl : c = '*' := by simpa using star
      rw [GatePiece.first_times] at begun
      obtain rfl := Except.ok.inj begun
      obtain ⟨middle, stepped, -⟩ := Option.bind_eq_some_iff.1 reading
      split at stepped <;>
        simp [Expected.stepPiece, Expected.step, Expected.ofState, GateState.step,
          GateState.beginOperand] at stepped

theorem exists_cut_of_parenthesized
    {body : Text}
    (parenthesized : isGateText ('(' :: body ++ [')'])) :
    ∃ pieces, IsCut (body ++ [')']) pieces ∧
      Expected.finishes (.plain .operand, [.group]) pieces := by
  obtain ⟨pieces, cut, finished⟩ := exists_cut_of_isGateText parenthesized
  obtain ⟨later, rfl, insideCut⟩ := IsCut.exists_later cut (GatePiece.first_openParen _) rfl
  exact ⟨later, insideCut, finished⟩

theorem exists_cut_of_probed
    {side : GateSide} {lead rest : Text}
    (probed : isGateText (side.probe.1 ++ (lead ++ rest)))
    (blank : lead.all isBlank)
    (noStar : rest.head? ≠ some '*') :
    ∃ pieces reached,
      IsCut (lead ++ rest) (lead.map (fun c => GatePiece.blank [c]) ++ pieces) ∧
      IsCut rest pieces ∧ Expected.run (.plain .operand, []) pieces = some reached := by
  have noPower : (lead ++ rest).head? ≠ some '*' := by
    cases lead with
    | nil => exact noStar
    | cons c lead =>
        intro star
        obtain rfl := Option.some.inj star
        exact absurd (List.all_eq_true.1 blank '*' List.mem_cons_self) (by decide)
  obtain ⟨pieces, cut, finished⟩ := exists_cut_of_isGateText probed
  obtain ⟨later, rfl, laterCut⟩ := (isCut_probe_append_iff noPower).1 cut
  obtain ⟨reached, reading, -⟩ := Expected.finishes_iff.1 finished
  have laterReading : Expected.run (.plain .operand, []) later = some reached := by
    cases side <;> exact reading
  obtain ⟨behind, rfl, behindCut, behindReading⟩ :=
    exists_cut_behind_blanks blank laterCut laterReading
  exact ⟨behind, reached, laterCut, behindCut, behindReading⟩

/-- What is read without a parenthesis up to a comment does not close the parenthesis that it is
read inside of. -/
theorem not_ends_at_comment
    {text note other : Text} {inner pieces : List GatePiece}
    {next bareReached : Expected × List GateBracket}
    (cut : IsCut text (inner ++ [.comment ('#' :: note)]))
    (insideReading : Expected.run (.plain .operand, [.group]) inner = some next)
    (bareCut : IsCut (inner.flatMap GatePiece.text ++ '#' :: other) pieces)
    (bareReading : Expected.run (.plain .operand, []) pieces = some bareReached) :
    next.1.ends next.2 = false := by
  obtain ⟨bareBehind, rfl, -⟩ := cut.exists_behind (.inl (by simp [GatePiece.text])) bareCut
  obtain ⟨reached, reading, -⟩ := Expected.exists_run_of_run bareReading
  have bracketed : Expected.Encloses [.group] (.plain .operand, []) (.plain .operand, [.group]) :=
    .same (by simp)
  obtain ⟨enclosed, enclosedReading, encloses⟩ := Expected.run_enclosed (by simp) bracketed reading
  obtain rfl : next = enclosed := Option.some.inj (insideReading.symm.trans enclosedReading)
  exact Expected.not_ends_of_encloses (by simp) encloses

section Inside

variable {side : GateSide} {text trail : Text} {inner pieces : List GatePiece}
variable {reached : Expected × List GateBracket}

/-- A piece before the closing parenthesis of the first probe is over there, and would be before any
end of a word. -/
theorem endsBefore_inside
    {other : Text}
    (insideCut : IsCut text (inner ++ [.operator .closeParen]))
    (insideFinished :
      Expected.finishes (.plain .operand, [.group]) (inner ++ [.operator .closeParen]))
    (ends : other.EndsWord) :
    ∀ last, inner.getLast? = some last → last.EndsBefore other := by
  obtain ⟨closed, closedReading, closedEnds⟩ := Expected.finishes_iff.1 insideFinished
  obtain ⟨inside, reading, closing⟩ := Expected.exists_run_of_run closedReading
  refine endsBefore_last reading ?_ ?_ ends
  · intro isOperand
    obtain ⟨expected, brackets⟩ := inside
    obtain rfl : expected = .plain .operand := isOperand
    cases closing
  · intro note isComment
    obtain ⟨front, rfl⟩ := List.getLast?_eq_some_iff.1 isComment
    rw [List.append_assoc] at insideCut
    have feed := insideCut.lineFeed_of_comment (c := ')') rfl
    exact absurd feed (by decide)

/-- The quiet end of a candidate neither closes nor opens what the first probe has read of it. -/
theorem standsAlone_of_readings
    {quiet : List GatePiece}
    (cut : IsCut text (inner ++ quiet))
    (noComment : ∀ note, (inner ++ quiet).getLast? ≠ some (.comment note))
    (allQuiet : quiet.all GatePiece.isQuiet)
    (insideFinished :
      Expected.finishes (.plain .operand, [.group]) (inner ++ [.operator .closeParen]))
    (bareReading : Expected.run (.plain .operand, [])
      (inner ++ quiet ++ [.operator side.closing, .number ['1']]) = some reached) :
    StandsAlone text (inner ++ quiet) := by
  refine ⟨cut, noComment, ?_⟩
  obtain ⟨⟨expected, brackets⟩, reading, behindReading⟩ := Expected.exists_run_of_run bareReading
  obtain ⟨behind, stepped, -⟩ := Option.bind_eq_some_iff.1 behindReading
  have unfinished : expected ≠ .plain .ending := by
    rintro rfl
    obtain ⟨next, opened⟩ := behind
    have ended : (Expected.plain .ending).step brackets (.operator side.closing) =
        some (next, opened) := stepped
    cases (Expected.lineBreak_of_ending ended).1
  obtain ⟨closed, closedReading, closedEnds⟩ := Expected.finishes_iff.1 insideFinished
  obtain ⟨inside, insideReading, closing⟩ := Expected.exists_run_of_run closedReading
  obtain ⟨next, closeStepped, same⟩ := Option.bind_eq_some_iff.1 closing
  obtain rfl := Option.some.inj same
  have bracketed : Expected.Encloses [.group] (.plain .operand, []) (.plain .operand, [.group]) :=
    .same (by simp)
  obtain ⟨enclosed, enclosedReading, encloses⟩ := Expected.run_enclosed (by simp) bracketed reading
  have insideBracketed : inside.2 ≠ [] := by
    intro noBrackets
    have failed : inside.1.step inside.2 (.operator .closeParen) = none := by
      rw [noBrackets]
      exact Expected.step_closeParen_nil
    cases failed.symm.trans closeStepped
  have wholeReading : Expected.run (.plain .operand, [.group]) (inner ++ quiet) = some inside := by
    rw [Expected.run_append insideReading]
    exact Expected.run_quiet allQuiet insideBracketed
  obtain rfl := Option.some.inj (enclosedReading.symm.trans wholeReading)
  cases encloses with
  | finished => exact absurd rfl unfinished
  | same =>
      have noArgument := Expected.run_argument reading (by simp)
      obtain ⟨rfl, ends⟩ :=
        Expected.ends_of_step_closeParen closeStepped closedEnds unfinished noArgument
      exact ⟨_, reading, ends, unfinished⟩

theorem endsWord_trail
    (trailing : trail.all isTrailing) :
    Text.EndsWord (trail ++ side.probe.2) := by
  cases trail with
  | nil =>
      cases side with
      | output => exact endsWord_sign (.inl rfl) ['1']
      | input => exact endsWord_sign (.inr (.inl rfl)) ['1']
  | cons c trail =>
      rw [List.all_cons, Bool.and_eq_true] at trailing
      exact endsWord_of_isTrailing trailing.1 _

theorem endsBefore_behind
    {other : Text} {quiet : List GatePiece}
    (lead : List GatePiece)
    (notNil : inner ≠ [])
    (innerEnds : ∀ last, inner.getLast? = some last → last.EndsBefore other)
    (allQuiet : quiet.all GatePiece.isQuiet) :
    ∀ last, (lead ++ inner ++ quiet).getLast? = some last → last.EndsBefore other := by
  intro last found
  rcases List.eq_nil_or_concat quiet with rfl | ⟨front, piece, rfl⟩
  · rw [List.append_nil, List.getLast?_append, List.getLast?_eq_some_getLast notNil,
      Option.some_or] at found
    exact innerEnds last (by rw [List.getLast?_eq_some_getLast notNil, found])
  · rw [List.concat_eq_append] at found allQuiet
    rw [← List.append_assoc, List.getLast?_concat] at found
    obtain rfl := Option.some.inj found
    rw [List.all_append, Bool.and_eq_true, List.all_cons, Bool.and_eq_true] at allQuiet
    cases piece with
    | blank text | joint text | lineBreak c => trivial
    | comment text | number text | string text | name text | operator sign =>
        cases allQuiet.2.1

end Inside

theorem exists_standsAlone
    {side : GateSide} {candidate : Text}
    (gate : isGate side candidate) :
    ∃ pieces, StandsAlone candidate pieces := by
  simp only [isGate, Bool.and_eq_true] at gate
  obtain ⟨⟨notEmpty, parenthesized⟩, probed⟩ := gate
  obtain ⟨trail, parts, trailing⟩ := exists_trail candidate
  have leadParts := List.takeWhile_append_dropWhile (p := isBlank) (l := candidate)
  have leadBlank : (candidate.takeWhile isBlank).all isBlank :=
    List.all_eq_true.2 fun c member => List.mem_takeWhile_imp member
  rw [parts] at leadParts
  generalize candidate.takeWhile isBlank = lead at leadParts leadBlank
  generalize stripJoints candidate = body at *
  obtain ⟨closed, closedCut, closedFinished⟩ := exists_cut_of_parenthesized parenthesized
  have noStar : (body ++ (trail ++ side.probe.2)).head? ≠ some '*' := by
    cases body with
    | nil => simp at notEmpty
    | cons c body =>
        obtain ⟨reached, reading, -⟩ := Expected.finishes_iff.1 closedFinished
        have notNil : closed ≠ [] := by
          rintro rfl
          cases closedCut
        rw [← List.append_nil closed] at closedCut
        simpa using head?_ne_star closedCut notNil reading
  have shape : side.probe.1 ++ candidate ++ side.probe.2 =
      side.probe.1 ++ (lead ++ (body ++ (trail ++ side.probe.2))) := by
    rw [← leadParts]
    simp
  rw [shape] at probed
  obtain ⟨pieces, reached, wholeCut, bareCut, bareReading⟩ :=
    exists_cut_of_probed probed leadBlank noStar
  obtain ⟨inner, ⟨rfl, rfl⟩ | ⟨note, rfl, rfl⟩⟩ := closedCut.closeParen_or_comment
  · have innerEnds : ∀ {other : Text}, other.EndsWord →
        ∀ last, inner.getLast? = some last → last.EndsBefore other :=
      fun ends => endsBefore_inside closedCut closedFinished ends
    obtain ⟨behind, rfl, behindCut⟩ :=
      closedCut.exists_behind (.inr (innerEnds (endsWord_trail trailing))) bareCut
    obtain ⟨quiet, rfl, allQuiet⟩ := exists_quiet_of_isTrailing behindCut trailing
    have innerNotNil : inner ≠ [] := by
      rintro rfl
      cases notEmpty
    have lastEnds := endsBefore_behind (lead.map fun c => GatePiece.blank [c]) innerNotNil
      (innerEnds endsWord_nil) allQuiet
    refine ⟨lead.map (fun c => GatePiece.blank [c]) ++ inner ++ quiet,
      @standsAlone_of_readings side _ _ reached quiet ?_ ?_ allQuiet ?_ ?_⟩
    · have front : IsCut (candidate ++ side.probe.2)
          (lead.map (fun c => GatePiece.blank [c]) ++ inner ++ quiet ++
            [.operator side.closing, .number ['1']]) := by
        rw [← leadParts]
        simpa using wholeCut
      have frontText := front.flatMap_text
      rw [List.flatMap_append, (isCut_probe_end side).flatMap_text] at frontText
      have alone := front.exchange (.inr lastEnds) .nil
      rwa [List.append_cancel_right frontText, List.append_nil, List.append_nil] at alone
    · exact fun note found => lastEnds _ found
    · rw [List.append_assoc]
      unfold Expected.finishes
      rw [run_blanks]
      exact closedFinished
    · simp only [List.append_assoc]
      rw [run_blanks]
      exact bareReading
  · -- A comment would hide the closing parenthesis.
    obtain ⟨next, closedReading, closedEnds⟩ := Expected.finishes_iff.1 closedFinished
    obtain ⟨inside, insideReading, commentReading⟩ := Expected.exists_run_of_run closedReading
    obtain rfl : inside = next := Option.some.inj commentReading
    rw [List.append_assoc] at bareCut
    have opened := not_ends_at_comment closedCut insideReading bareCut bareReading
    rw [opened] at closedEnds
    cases closedEnds

/-! ## Every expression passes both probes -/

/-- An expression by itself is one between the operators of the probe. -/
theorem isGateText_of_probed
    {side : GateSide} {candidate : Text} {pieces : List GatePiece}
    (alone : StandsAlone candidate pieces) :
    isGateText (side.probe.1 ++ candidate ++ side.probe.2) := by
  have behindCut := alone.cut_append (@endsWord_trail side [] rfl) (isCut_probe_end side)
  obtain ⟨-, -, ⟨expected, brackets⟩, reading, ends, unfinished⟩ := alone
  obtain rfl : brackets = [] := Expected.eq_nil_of_ends ends unfinished
  have notNil : pieces ≠ [] := by
    rintro rfl
    cases reading
    exact Expected.ne_operand_of_ends ends rfl
  have wholeCut := (@isCut_probe_append_iff side _ _ (head?_ne_star behindCut notNil reading)).2
    ⟨_, rfl, behindCut⟩
  rw [← List.append_assoc] at wholeCut
  refine isGateText_iff.2 ⟨_, wholeCut, ?_⟩
  have inside : Expected.finishes (.plain .operand, [])
      (pieces ++ [.operator side.closing, .number ['1']]) := by
    have stepped := Expected.step_arithmetic_of_ends side.closing_isArithmetic ends unfinished
    refine Expected.finishes_iff.2 ⟨(.plain (.suffix false), []), ?_, rfl⟩
    rw [Expected.run_append reading]
    exact Option.bind_eq_some_iff.2 ⟨(.plain .operand, []), stepped, rfl⟩
  cases side <;> exact inside

/-- An expression by itself is one in parentheses. -/
theorem isGateText_of_parenthesized
    {body : Text} {pieces : List GatePiece}
    (alone : StandsAlone body pieces) :
    isGateText ('(' :: body ++ [')']) := by
  have closedCut := alone.cut_append (endsWord_sign (.inr (.inr rfl)) []) isCut_closeParen
  obtain ⟨-, -, ⟨expected, brackets⟩, reading, ends, unfinished⟩ := alone
  obtain rfl : brackets = [] := Expected.eq_nil_of_ends ends unfinished
  have wholeCut : IsCut ('(' :: body ++ [')'])
      (.operator .openParen :: (pieces ++ [.operator .closeParen])) :=
    .cons (GatePiece.first_openParen _) rfl closedCut
  have bracketed : Expected.Encloses [.group] (.plain .operand, []) (.plain .operand, [.group]) :=
    .same (by simp)
  obtain ⟨enclosed, insideReading, encloses⟩ := Expected.run_enclosed (by simp) bracketed reading
  have inside : Expected.finishes (.plain .operand, [.group])
      (pieces ++ [.operator .closeParen]) := by
    refine Expected.finishes_iff.2 ⟨(.plain (.suffix false), []), ?_, rfl⟩
    rw [Expected.run_append insideReading]
    cases encloses with
    | finished => exact absurd rfl unfinished
    | same =>
        have stepped := Expected.step_closeParen_of_ends ends unfinished
        exact Option.bind_eq_some_iff.2 ⟨_, stepped, rfl⟩
  exact isGateText_iff.2 ⟨_, wholeCut, inside⟩

/-- An expression by itself passes both probes. -/
theorem isGate_of_standsAlone
    {candidate : Text} {pieces : List GatePiece}
    (side : GateSide)
    (alone : StandsAlone candidate pieces) :
    isGate side candidate := by
  obtain ⟨inner, last, strippedAlone, ends, -⟩ := alone.exists_stripped
  rw [isGate, Bool.and_eq_true, Bool.and_eq_true]
  refine ⟨⟨?_, isGateText_of_parenthesized strippedAlone⟩, isGateText_of_probed alone⟩
  rw [Bool.not_eq_true', List.isEmpty_eq_false_iff]
  intro empty
  rw [empty] at ends
  cases ends

end Pipescript
