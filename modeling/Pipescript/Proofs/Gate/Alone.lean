import Pipescript.Proofs.Gate.LastPiece
import Pipescript.Proofs.Gate.Stop

/-!
# Expressions by themselves

A candidate is looked at without the blanks around it and the joints behind it.  It is an expression
by itself just as well with them.
-/

namespace Pipescript

/-! ## Blanks before an operand -/

namespace GatePiece

/-- A blank is a piece by itself, or none. -/
theorem first_of_isBlank
    {c : Char} {rest : Text} {piece : GatePiece}
    (blank : isBlank c)
    (begun : first c rest = .ok piece) :
    piece = .blank [c] ∨ piece = .lineBreak c := by
  obtain ⟨noName, noDigit, noQuote, noSign⟩ := not_startsName_of_isBlank blank
  simp only [List.mem_cons, List.not_mem_nil, or_false, not_or] at noSign
  cases first_eq_ok_iff.1 begun with
  | blank => exact .inl rfl
  | comment comments => exact absurd comments noSign.2.1
  | joint _ escapes => exact absurd escapes noSign.2.2.1
  | lineBreak => exact .inr rfl
  | number _ _ counts => simp [startsNumber, noDigit, noSign] at counts
  | quoted _ _ _ quotes => simp [noQuote] at quotes
  | lettered _ _ _ _ names | name _ names => simp [noName] at names
  | operator sign _ _ listed =>
      obtain ⟨behind, parts⟩ := GateOperator.first?_isPrefix listed
      cases sign <;> simp [GateOperator.text] at parts <;> simp [← parts.1] at noSign

end GatePiece

/-- Blanks before an operand are margin only. -/
theorem exists_cut_behind_blanks
    {lead rest : Text} {pieces : List GatePiece} {reached : Expected × List GateBracket}
    (blank : lead.all isBlank)
    (cut : IsCut (lead ++ rest) pieces)
    (reading : Expected.run (.plain .operand, []) pieces = some reached) :
    ∃ behind, pieces = lead.map (fun c => .blank [c]) ++ behind ∧ IsCut rest behind ∧
      Expected.run (.plain .operand, []) behind = some reached := by
  induction lead generalizing pieces with
  | nil => exact ⟨pieces, rfl, cut, reading⟩
  | cons c lead inductionHypothesis =>
      obtain ⟨isBlank, blank⟩ := Bool.and_eq_true_iff.1 (List.all_cons ▸ blank)
      rw [List.cons_append] at cut
      cases cut with
      | @cons _ _ behind piece later begun parts cut =>
          obtain ⟨middle, stepped, laterReading⟩ := Option.bind_eq_some_iff.1 reading
          rcases GatePiece.first_of_isBlank isBlank begun with rfl | rfl
          · obtain rfl : lead ++ rest = behind := (List.cons.inj parts).2
            obtain rfl := Option.some.inj stepped
            obtain ⟨behind, rfl, behindCut, behindReading⟩ :=
              inductionHypothesis blank cut laterReading
            exact ⟨behind, rfl, behindCut, behindReading⟩
          · cases stepped

/-! ## Spacing -/

/-- Whether a piece joins a candidate to what follows it. -/
def GatePiece.isSpacing : GatePiece → Bool
  | .blank _ | .joint _ => true
  | _ => false

theorem exists_spacing (pieces : List GatePiece) :
    ∃ front spacing, pieces = front ++ spacing ∧ spacing.all GatePiece.isSpacing ∧
      ∀ last, front.getLast? = some last → last.isSpacing = false := by
  induction pieces with
  | nil => exact ⟨[], [], rfl, rfl, by simp⟩
  | cons piece later inductionHypothesis =>
      obtain ⟨front, spacing, rfl, allSpacing, lastKept⟩ := inductionHypothesis
      cases front with
      | cons next front => exact ⟨piece :: next :: front, spacing, rfl, allSpacing, lastKept⟩
      | nil =>
          cases isSpacing : piece.isSpacing with
          | true =>
              exact ⟨[], piece :: spacing, rfl, by rw [List.all_cons, isSpacing, allSpacing]; rfl,
                by simp⟩
          | false =>
              refine ⟨[piece], spacing, rfl, allSpacing, fun last found => ?_⟩
              obtain rfl := Option.some.inj found
              exact isSpacing

theorem run_spacing
    {spacing : List GatePiece}
    (allSpacing : spacing.all GatePiece.isSpacing)
    (reader : Expected × List GateBracket) :
    Expected.run reader spacing = some reader := by
  induction spacing with
  | nil => rfl
  | cons piece later inductionHypothesis =>
      rw [List.all_cons, Bool.and_eq_true] at allSpacing
      cases piece with
      | blank text | joint text => exact inductionHypothesis allSpacing.2
      | comment text | lineBreak c | number text | string text | name text | operator sign =>
          cases allSpacing.1

theorem run_blanks
    (lead : Text) (reader : Expected × List GateBracket) (pieces : List GatePiece) :
    Expected.run reader (lead.map (fun c => GatePiece.blank [c]) ++ pieces) =
      Expected.run reader pieces :=
  Expected.run_append (run_spacing (by simp [GatePiece.isSpacing]) reader) pieces

theorem GatePiece.spacing_of_first
    {c : Char} {rest : Text} {piece : GatePiece}
    (begun : first c rest = .ok piece)
    (isSpacing : piece.isSpacing) :
    (isMarginChar c ∨ c = '\\') ∧ piece.text.all isTrailing := by
  cases first_eq_ok_iff.1 begun with
  | blank margin =>
      refine ⟨.inl margin, ?_⟩
      simp only [isMarginChar, Bool.or_eq_true, beq_iff_eq] at margin
      rcases margin with (rfl | rfl) | rfl <;> decide
  | joint lineEnd escapes shape _ =>
      subst escapes
      refine ⟨.inr rfl, ?_⟩
      rcases shape with rfl | rfl <;> decide
  | comment | lineBreak | name | operator => cases isSpacing
  | number _ _ _ counted =>
      rw [number_of_ofNumber counted] at isSpacing
      cases isSpacing
  | quoted _ _ _ _ quoted | lettered _ _ _ _ _ _ _ quoted =>
      rw [string_of_ofQuote quoted] at isSpacing
      cases isSpacing

theorem isTrailing_of_spacing
    {text : Text} {spacing : List GatePiece}
    (cut : IsCut text spacing)
    (allSpacing : spacing.all GatePiece.isSpacing) :
    text.all isTrailing := by
  induction cut with
  | nil => rfl
  | cons begun parts cut inductionHypothesis =>
      rw [List.all_cons, Bool.and_eq_true] at allSpacing
      rw [parts, List.all_append, (GatePiece.spacing_of_first begun allSpacing.1).2,
        inductionHypothesis allSpacing.2]
      rfl

/-- A comment is not followed by spacing. -/
theorem no_comment_before_spacing
    {text note : Text} {front spacing : List GatePiece}
    (cut : IsCut text (front ++ .comment note :: spacing))
    (allSpacing : spacing.all GatePiece.isSpacing) :
    spacing = [] := by
  cases spacing with
  | nil => rfl
  | cons piece later =>
      rw [List.all_cons, Bool.and_eq_true] at allSpacing
      have spacingCut : IsCut ((piece :: later).flatMap GatePiece.text) (piece :: later) := by
        rw [List.append_cons] at cut
        exact cut.behind_of_append
      cases hidden : (piece :: later).flatMap GatePiece.text with
      | nil =>
          rw [hidden] at spacingCut
          cases spacingCut
      | cons c rest =>
          obtain rfl : c = '\n' := cut.lineFeed_of_comment (by rw [hidden]; rfl)
          rw [hidden] at spacingCut
          cases spacingCut with
          | cons begun _ _ =>
              rcases (GatePiece.spacing_of_first begun allSpacing.1).1 with margin | joint
              · exact absurd margin (by decide)
              · exact absurd joint (by decide)

/-! ## The ends of a candidate -/

/-- The front of a candidate is blank, and so is its end but for the backslashes. -/
theorem exists_trail (text : Text) :
    ∃ trail, text.dropWhile isBlank = stripJoints text ++ trail ∧ trail.all isTrailing := by
  have parts := List.takeWhile_append_dropWhile (p := isTrailing)
    (l := (text.dropWhile isBlank).reverse)
  refine ⟨((text.dropWhile isBlank).reverse.takeWhile isTrailing).reverse, ?_, ?_⟩
  · have turned := congrArg List.reverse parts
    rw [List.reverse_append, List.reverse_reverse] at turned
    exact turned.symm
  · rw [List.all_reverse]
    exact List.all_eq_true.2 fun c member => List.mem_takeWhile_imp member

theorem stripJoints_of_parts
    {text body trail : Text} {last : Char}
    (parts : text.dropWhile isBlank = body ++ trail)
    (trailing : trail.all isTrailing)
    (bodyLast : body.getLast? = some last)
    (kept : isTrailing last = false) :
    stripJoints text = body := by
  obtain ⟨front, rfl⟩ := List.getLast?_eq_some_iff.1 bodyLast
  have dropped : (front ++ [last] ++ trail).reverse.dropWhile isTrailing =
      (front ++ [last]).reverse := by
    rw [List.reverse_append, List.dropWhile_append_of_pos fun c member => ?_]
    · rw [List.reverse_append, List.reverse_singleton, List.singleton_append,
        List.dropWhile_cons_of_neg (by simp [kept])]
    · exact List.all_eq_true.1 trailing c (List.mem_reverse.1 member)
  have whole := congrArg List.reverse dropped
  rw [List.reverse_reverse, ← parts] at whole
  exact whole

/-! ## The last piece of an expression -/

theorem Expected.ne_operand_of_ends
    {expected : Expected} {brackets : List GateBracket}
    (ends : expected.ends brackets) :
    expected ≠ .plain .operand := by
  rintro rfl
  cases ends

/-- Where an operand has been read, the last piece is over before the end of any word. -/
theorem endsBefore_last
    {pieces : List GatePiece} {reader reached : Expected × List GateBracket} {other : Text}
    (reading : Expected.run reader pieces = some reached)
    (complete : reached.1 ≠ .plain .operand)
    (noComment : ∀ note, pieces.getLast? ≠ some (.comment note))
    (ends : other.EndsWord) :
    ∀ last, pieces.getLast? = some last → last.EndsBefore other := by
  intro last found
  obtain ⟨front, rfl⟩ := List.getLast?_eq_some_iff.1 found
  obtain ⟨middle, -, lastReading⟩ := Expected.exists_run_of_run reading
  obtain ⟨behind, stepped, same⟩ := Option.bind_eq_some_iff.1 lastReading
  obtain rfl := Option.some.inj same
  cases last with
  | blank text | joint text | lineBreak c => trivial
  | comment note => exact absurd found (noComment note)
  | number text | string text | name text => exact ends
  | operator sign =>
      refine ⟨?_, ?_, ends⟩
      · rintro rfl
        exact complete (Expected.step_arithmetic rfl stepped)
      · rintro rfl
        exact complete (Expected.step_arithmetic rfl stepped)

/-- An expression ends neither in a blank nor in a line break. -/
theorem isTrailing_last
    {text : Text} {pieces : List GatePiece} {last : GatePiece}
    {reached : Expected × List GateBracket}
    (cut : IsCut text (pieces ++ [last]))
    (noComment : ∀ note, last ≠ .comment note)
    (noSpacing : last.isSpacing = false)
    (reading : Expected.run (.plain .operand, []) (pieces ++ [last]) = some reached)
    (ends : reached.1.ends reached.2)
    (unfinished : reached.1 ≠ .plain .ending) :
    ∃ c, text.getLast? = some c ∧ isTrailing c = false := by
  obtain ⟨c, rest, begun, shape⟩ := cut.exists_last
  have whole := cut.flatMap_text
  rw [List.flatMap_append, List.flatMap_singleton] at whole
  obtain ⟨d, found⟩ : ∃ d, last.text.getLast? = some d := by
    rw [shape, List.getLast?_cons]
    exact ⟨_, rfl⟩
  refine ⟨d, by rw [← whole, List.getLast?_append, found, Option.some_or], ?_⟩
  have mayEnd := GatePiece.mayEndIn_of_first begun found
  have keepsOf : ∀ {property : Char → Bool}, property d → property '\\' = false →
      (∀ blank, isBlank blank → property blank = false) → isTrailing d = false := by
    intro property holds noJoint noBlank
    refine Bool.eq_false_iff.2 fun trailing => ?_
    simp only [isTrailing, Bool.or_eq_true, beq_iff_eq] at trailing
    rcases trailing with blank | rfl
    · exact Bool.eq_false_iff.1 (noBlank d blank) holds
    · exact Bool.eq_false_iff.1 noJoint holds
  cases last with
  | blank text | joint text => cases noSpacing
  | comment note => exact absurd rfl (noComment note)
  | lineBreak e =>
      -- With no bracket open it ends the expression, and with one open the expression is not over.
      obtain ⟨⟨expected, brackets⟩, -, lastReading⟩ := Expected.exists_run_of_run reading
      obtain ⟨behind, stepped, same⟩ := Option.bind_eq_some_iff.1 lastReading
      obtain rfl := Option.some.inj same
      rw [Expected.stepPiece] at stepped
      split at stepped
      · exact absurd (Expected.step_lineBreak_nil stepped) unfinished
      · next bracketed =>
          obtain rfl := Option.some.inj stepped
          exact absurd (Expected.eq_nil_of_ends ends unfinished) bracketed
  | number text | name text =>
      refine @keepsOf isNumberChar mayEnd (by decide +kernel) fun blank isBlank => ?_
      exact @forall_isBlank (fun c => isNumberChar c = false) (by decide +kernel) blank isBlank
  | string text =>
      refine @keepsOf isQuoteMark mayEnd (by decide) fun blank isBlank => ?_
      exact (not_startsName_of_isBlank isBlank).2.2.1
  | operator sign =>
      have last : sign.text.getLast? = some d := mayEnd
      cases sign <;> obtain rfl := Option.some.inj last <;> decide

/-! ## Expressions by themselves -/

/-- Whether a text, cut into pieces, is one expression by itself and hides nothing behind it. -/
structure StandsAlone (text : Text) (pieces : List GatePiece) : Prop where
  cut : IsCut text pieces
  noComment : ∀ note, pieces.getLast? ≠ some (.comment note)
  reading : ∃ reached, Expected.run (.plain .operand, []) pieces = some reached ∧
    reached.1.ends reached.2 ∧ reached.1 ≠ .plain .ending

namespace StandsAlone

variable {text : Text} {pieces : List GatePiece}

/-- Behind an expression by itself anything may stand that no word goes on with. -/
theorem cut_append
    {other : Text} {otherPieces : List GatePiece}
    (alone : StandsAlone text pieces)
    (ends : other.EndsWord)
    (otherCut : IsCut other otherPieces) :
    IsCut (text ++ other) (pieces ++ otherPieces) := by
  obtain ⟨cut, noComment, reached, reading, finished, unfinished⟩ := alone
  have lastEnds := endsBefore_last reading (Expected.ne_operand_of_ends finished) noComment ends
  rw [← List.append_nil pieces] at cut
  have whole := cut.exchange (.inr lastEnds) otherCut
  rw [List.append_nil] at cut
  rwa [cut.flatMap_text] at whole

/-- Without its margins an expression is one by itself, and ends in neither a blank nor a joint. -/
theorem exists_stripped
    (alone : StandsAlone text pieces) :
    ∃ inner last, StandsAlone (stripJoints text) inner ∧
      (stripJoints text).getLast? = some last ∧ isTrailing last = false := by
  obtain ⟨cut, noComment, reached, reading, ends, unfinished⟩ := alone
  have leadParts := List.takeWhile_append_dropWhile (p := isBlank) (l := text)
  have leadBlank : (text.takeWhile isBlank).all isBlank :=
    List.all_eq_true.2 fun c member => List.mem_takeWhile_imp member
  rw [← leadParts] at cut
  obtain ⟨behind, rfl, behindCut, behindReading⟩ := exists_cut_behind_blanks leadBlank cut reading
  obtain ⟨inner, spacing, rfl, allSpacing, lastKept⟩ := exists_spacing behind
  obtain ⟨middle, innerReading, spacingReading⟩ := Expected.exists_run_of_run behindReading
  rw [run_spacing allSpacing] at spacingReading
  obtain rfl := Option.some.inj spacingReading
  have spacingTrailing := isTrailing_of_spacing behindCut.behind_of_append allSpacing
  rcases List.eq_nil_or_concat inner with rfl | ⟨front, piece, rfl⟩
  · obtain rfl := Option.some.inj innerReading
    cases ends
  rw [List.concat_eq_append] at *
  have pieceNoComment : ∀ note, piece ≠ .comment note := by
    rintro note rfl
    rw [List.append_assoc] at behindCut
    obtain rfl := no_comment_before_spacing behindCut allSpacing
    refine noComment note ?_
    rw [List.append_nil, ← List.append_assoc, List.getLast?_concat]
  have innerNoComment : ∀ note, (front ++ [piece]).getLast? ≠ some (.comment note) := by
    intro note found
    rw [List.getLast?_concat] at found
    exact pieceNoComment note (Option.some.inj found)
  have lastEnds := endsBefore_last innerReading (Expected.ne_operand_of_ends ends) innerNoComment
    endsWord_nil
  have innerCut := behindCut.exchange (.inr lastEnds) .nil
  rw [List.append_nil, List.append_nil] at innerCut
  obtain ⟨c, bodyLast, kept⟩ := isTrailing_last innerCut pieceNoComment
    (lastKept piece List.getLast?_concat) innerReading ends unfinished
  have parts := behindCut.flatMap_text
  rw [List.flatMap_append] at parts
  rw [stripJoints_of_parts parts.symm spacingTrailing bodyLast kept]
  exact ⟨_, c, ⟨innerCut, innerNoComment, middle, innerReading, ends, unfinished⟩, bodyLast, kept⟩

/-- No expression ends in a colon. -/
theorem getLast?_ne_colon
    (alone : StandsAlone text pieces) :
    text.getLast? ≠ some ':' := by
  intro colon
  obtain ⟨cut, noComment, -⟩ := alone
  rcases List.eq_nil_or_concat pieces with rfl | ⟨front, piece, rfl⟩
  · cases cut
    cases colon
  rw [List.concat_eq_append] at *
  obtain ⟨c, rest, begun, shape⟩ := cut.exists_last
  have whole := cut.flatMap_text
  rw [List.flatMap_append, List.flatMap_singleton, shape] at whole
  have ends : piece.text.getLast? = some ':' := by
    rw [← whole, List.getLast?_append, List.getLast?_cons, Option.some_or] at colon
    rw [shape, List.getLast?_cons, colon]
  have mayEnd := GatePiece.mayEndIn_of_first begun ends
  cases piece with
  | comment note => exact noComment note List.getLast?_concat
  | blank margin | joint lineEnd | lineBreak d =>
      exact absurd mayEnd (show ¬ isBlank ':' = true by decide)
  | number digits | name letters =>
      exact absurd mayEnd (show ¬ isNumberChar ':' = true by decide +kernel)
  | string literal => exact absurd mayEnd (show ¬ isQuoteMark ':' = true by decide)
  | operator sign => cases sign <;> cases mayEnd

end StandsAlone

end Pipescript
