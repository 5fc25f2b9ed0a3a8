import Pipescript.Proofs.Gate.PieceWithReturns

/-!
# Gates in texts with carriage returns

A gate is cut and read alike with carriage returns before its line feeds, unless it has a literal
with single quotes that goes over a line end.  A candidate with such a literal is no gate with
carriage returns.
-/

namespace Pipescript

open Text

/-! ## Cuts -/

namespace GatePiece

/-- The pieces of a text and those of the text with carriage returns.  A carriage return belongs to
the comment before it, or is a line break of its own. -/
inductive AreReturned : List GatePiece → List GatePiece → Prop where
  | nil : AreReturned [] []
  | piece
      {piece : GatePiece} {later laterReturned : List GatePiece}
      (noComment : ∀ note, piece ≠ .comment note)
      (noBreak : ∀ c, piece ≠ .lineBreak c)
      (whole : piece.isSpread = false)
      (behind : AreReturned later laterReturned) :
      AreReturned (piece :: later) (piece.withReturns :: laterReturned)
  | lineBreak
      {later laterReturned : List GatePiece}
      (behind : AreReturned later laterReturned) :
      AreReturned (.lineBreak '\n' :: later) (.lineBreak '\r' :: .lineBreak '\n' :: laterReturned)
  | comment
      {later laterReturned : List GatePiece}
      (note : Text)
      (behind : AreReturned later laterReturned) :
      AreReturned (.comment note :: .lineBreak '\n' :: later)
        (.comment (note ++ ['\r']) :: .lineBreak '\n' :: laterReturned)
  | lastComment (note : Text) : AreReturned [.comment note] [.comment note]

theorem first_comment
    {note : Text}
    (noFeed : '\n' ∉ note)
    (behind : Text)
    (ends : ∀ c, behind.head? = some c → c = '\n') :
    first '#' (note ++ behind) = .ok (.comment ('#' :: note)) := by
  have taken : (note ++ behind).takeWhile (· != '\n') = note := by
    refine takeWhile_of_all (fun c member => ?_) fun c next => by simp [ends c next]
    simpa using fun feed : c = '\n' => noFeed (feed ▸ member)
  rw [first, if_neg (by decide), if_pos rfl, taken]

theorem length_le_of_first
    {c : Char} {rest behind : Text} {piece : GatePiece}
    (begun : first c rest = .ok piece)
    (parts : c :: rest = piece.text ++ behind) :
    behind.length ≤ rest.length := by
  have positive := List.length_pos_iff.2 (text_first_ne_nil begun)
  have whole := congrArg List.length parts
  rw [List.length_append, List.length_cons] at whole
  omega

/-- What begins a text with neither a comment nor a line break. -/
theorem kept_of_first
    {c : Char} {rest : Text} {piece : GatePiece}
    (notFeed : c ≠ '\n')
    (notReturn : c ≠ '\r')
    (notComment : c ≠ '#')
    (begun : first c rest = .ok piece) :
    (∀ note, piece ≠ .comment note) ∧ (∀ d, piece ≠ .lineBreak d) ∧
      piece.withReturns.text = piece.text.withReturns := by
  have noName : continuesName '\n' = false := by decide +kernel
  cases first_eq_ok_iff.1 begun with
  | blank => exact ⟨by simp, by simp, (withReturns_cons notFeed []).symm⟩
  | comment comments => exact absurd comments notComment
  | joint => exact ⟨by simp, by simp, rfl⟩
  | lineBreak breaks => simp [isLineBreakChar, notFeed, notReturn] at breaks
  | number _ _ _ counted =>
      have noFeed := noFeed_of_numberChars fun d => @isNumberChar_of_mem_ofNumber d (c :: rest) piece
        counted
      rw [number_of_ofNumber counted] at noFeed ⊢
      exact ⟨by simp, by simp, (withReturns_of_noFeed noFeed).symm⟩
  | quoted _ _ _ _ quoted | lettered _ _ _ _ _ _ _ quoted =>
      rw [string_of_ofQuote quoted]
      exact ⟨by simp, by simp, rfl⟩
  | name =>
      have noFeed : '\n' ∉ c :: rest.takeWhile continuesName := by
        simpa [Ne.symm notFeed] using noFeed_of_takeWhile noName rest
      exact ⟨by simp, by simp, (withReturns_of_noFeed noFeed).symm⟩
  | operator sign =>
      have noFeed : '\n' ∉ sign.text := by cases sign <;> decide
      exact ⟨by simp, by simp, (withReturns_of_noFeed noFeed).symm⟩

end GatePiece

namespace IsCut

open GatePiece

theorem feed
    {text : Text} {pieces : List GatePiece}
    (cut : IsCut text pieces) :
    IsCut ('\n' :: text) (.lineBreak '\n' :: pieces) :=
  .cons rfl rfl cut

theorem of_feed
    {c : Char} {text : Text} {pieces : List GatePiece}
    (isBreak : isLineBreakChar c)
    (cut : IsCut (c :: text) pieces) :
    ∃ later, pieces = .lineBreak c :: later ∧ IsCut text later := by
  have begun : first c text = .ok (.lineBreak c) := 
    first_eq_ok_iff.2 (.lineBreak isBreak)
  exact cut.exists_later begun rfl

end IsCut

/-- A text is empty, or begins with a line feed, with a comment up to a line feed or to the end, or
with another character. -/
@[elab_as_elim]
theorem gateInduction
    {motive : Text → Prop}
    (empty : motive [])
    (lineFeed : ∀ rest : Text, motive rest → motive ('\n' :: rest))
    (lastComment : ∀ note : Text, '\n' ∉ note → motive ('#' :: note))
    (comment : ∀ note rest : Text, '\n' ∉ note → motive rest → motive ('#' :: (note ++ '\n' :: rest)))
    (other : ∀ (c : Char) (rest : Text), c ≠ '\n' → c ≠ '#' →
      (∀ behind : Text, behind.length ≤ rest.length → motive behind) → motive (c :: rest))
    (text : Text) :
    motive text := by
  induction size : text.length using Nat.strongRecOn generalizing text with
  | ind bound inductionHypothesis =>
      have shorter : ∀ behind : Text, behind.length < bound → motive behind :=
        fun behind less => inductionHypothesis behind.length less behind rfl
      cases text with
      | nil => exact empty
      | cons c rest =>
          rw [List.length_cons] at size
          by_cases feed : c = '\n'
          · subst feed
            exact lineFeed rest (shorter rest (by omega))
          by_cases comments : c = '#'
          · subst comments
            have noFeed := noFeed_of_takeWhile (p := (· != '\n')) rfl rest
            have parts := List.takeWhile_append_dropWhile (p := (· != '\n')) (l := rest)
            have stops := List.head?_dropWhile_not (· != '\n') rest
            generalize rest.takeWhile (· != '\n') = note, rest.dropWhile (· != '\n') = behind
              at noFeed parts stops
            subst parts
            rw [List.length_append] at size
            cases behind with
            | nil =>
                rw [List.append_nil]
                exact lastComment note noFeed
            | cons d behind =>
                obtain rfl : d = '\n' := by simpa using stops
                rw [List.length_cons] at size
                exact comment note behind noFeed (shorter behind (by omega))
          · exact other c rest feed comments fun behind less => shorter behind (by omega)

namespace IsCut

open GatePiece

/-- A comment up to a line end. -/
theorem exists_behind_comment
    {note rest : Text} {pieces : List GatePiece}
    (noFeed : '\n' ∉ note)
    (cut : IsCut ('#' :: (note ++ '\n' :: rest)) pieces) :
    ∃ later, pieces = .comment ('#' :: note) :: .lineBreak '\n' :: later ∧ IsCut rest later := by
  have begun := first_comment noFeed ('\n' :: rest) (by simp)
  obtain ⟨behind, rfl, behindCut⟩ := cut.exists_later begun List.cons_append.symm
  obtain ⟨later, rfl, laterCut⟩ := behindCut.of_feed (by decide)
  exact ⟨later, rfl, laterCut⟩

theorem eq_lastComment
    {note : Text} {pieces : List GatePiece}
    (noFeed : '\n' ∉ note)
    (cut : IsCut ('#' :: note) pieces) :
    pieces = [.comment ('#' :: note)] := by
  have begun := first_comment noFeed [] (by simp)
  rw [List.append_nil] at begun
  obtain ⟨later, rfl, laterCut⟩ := cut.exists_later begun (List.append_nil _).symm
  rw [laterCut.eq_nil]

theorem withReturns_comment
    {note : Text}
    (noFeed : '\n' ∉ note)
    (rest : Text) :
    withReturns ('#' :: (note ++ '\n' :: rest)) =
      '#' :: (note ++ ['\r'] ++ '\n' :: withReturns rest) := by
  rw [withReturns_cons (by decide), withReturns_append, withReturns_of_noFeed noFeed,
    withReturns_feed, List.append_assoc]
  rfl

/-- Without spread literals a text is cut alike with carriage returns. -/
theorem exists_returned
    {text : Text} {pieces : List GatePiece}
    (cut : IsCut text pieces)
    (noReturn : '\r' ∉ text)
    (whole : ∀ piece ∈ pieces, piece.isSpread = false) :
    ∃ returned, AreReturned pieces returned ∧ IsCut text.withReturns returned := by
  induction text using gateInduction generalizing pieces with
  | empty =>
      obtain rfl := cut.eq_nil
      exact ⟨[], .nil, .nil⟩
  | lineFeed rest inductionHypothesis =>
      obtain ⟨later, rfl, laterCut⟩ := cut.of_feed (by decide)
      obtain ⟨returned, related, returnedCut⟩ := inductionHypothesis laterCut
        (fun isReturn => noReturn (List.mem_cons_of_mem _ isReturn))
        fun piece member => whole piece (List.mem_cons_of_mem _ member)
      exact ⟨_, .lineBreak related, .cons rfl rfl returnedCut.feed⟩
  | lastComment note noFeed =>
      obtain rfl := cut.eq_lastComment noFeed
      rw [withReturns_of_noFeed (by simpa using noFeed)]
      exact ⟨_, .lastComment ('#' :: note), cut⟩
  | comment note rest noFeed inductionHypothesis =>
      obtain ⟨later, rfl, laterCut⟩ := cut.exists_behind_comment noFeed
      obtain ⟨returned, related, returnedCut⟩ := inductionHypothesis laterCut
        (fun isReturn => noReturn (by simp [isReturn]))
        fun piece member => whole piece (by simp [member])
      refine ⟨_, .comment ('#' :: note) related, ?_⟩
      rw [withReturns_comment noFeed]
      exact .cons (first_comment (by simpa using noFeed) _ (by simp)) rfl returnedCut.feed
  | other c rest notFeed notComment inductionHypothesis =>
      have notReturn : c ≠ '\r' := by
        rintro rfl
        exact noReturn List.mem_cons_self
      cases cut with
      | @cons _ _ behind piece later begun parts laterCut =>
          obtain ⟨noComment, noBreak, sameText⟩ := kept_of_first notFeed notReturn notComment begun
          have single := whole piece List.mem_cons_self
          obtain ⟨returned, related, returnedCut⟩ := inductionHypothesis behind
            (length_le_of_first begun parts) laterCut
            (fun isReturn => noReturn (parts ▸ List.mem_append_right _ isReturn))
            fun piece member => whole piece (List.mem_cons_of_mem _ member)
          refine ⟨_, .piece noComment noBreak single related, ?_⟩
          rw [withReturns_cons notFeed]
          refine .cons ?_ ?_ returnedCut
          · rw [first_withReturns notFeed notComment noReturn, begun]
            exact if_neg (by simp [single])
          · rw [sameText, ← withReturns_append, ← parts, withReturns_cons notFeed]

/-- A text that is cut with carriage returns is cut alike without them, and has no spread literals. -/
theorem exists_of_returned
    {text : Text} {returned : List GatePiece}
    (cut : IsCut text.withReturns returned)
    (noReturn : '\r' ∉ text) :
    ∃ pieces, AreReturned pieces returned ∧ IsCut text pieces := by
  induction text using gateInduction generalizing returned with
  | empty =>
      obtain rfl := cut.eq_nil
      exact ⟨[], .nil, .nil⟩
  | lineFeed rest inductionHypothesis =>
      obtain ⟨behind, rfl, behindCut⟩ := cut.of_feed (by decide)
      obtain ⟨later, rfl, laterCut⟩ := behindCut.of_feed (by decide)
      obtain ⟨pieces, related, piecesCut⟩ := inductionHypothesis laterCut
        fun isReturn => noReturn (List.mem_cons_of_mem _ isReturn)
      exact ⟨_, .lineBreak related, piecesCut.feed⟩
  | lastComment note noFeed =>
      rw [withReturns_of_noFeed (by simpa using noFeed)] at cut
      obtain rfl := cut.eq_lastComment noFeed
      exact ⟨_, .lastComment ('#' :: note), cut⟩
  | comment note rest noFeed inductionHypothesis =>
      rw [withReturns_comment noFeed] at cut
      obtain ⟨later, rfl, laterCut⟩ := cut.exists_behind_comment (by simpa using noFeed)
      obtain ⟨pieces, related, piecesCut⟩ := inductionHypothesis laterCut
        fun isReturn => noReturn (by simp [isReturn])
      exact ⟨_, .comment ('#' :: note) related, .cons (first_comment noFeed _ (by simp)) rfl piecesCut.feed⟩
  | other c rest notFeed notComment inductionHypothesis =>
      have notReturn : c ≠ '\r' := by
        rintro rfl
        exact noReturn List.mem_cons_self
      rw [withReturns_cons notFeed] at cut
      cases cut with
      | @cons _ _ behindReturned pieceReturned later begunReturned partsReturned laterCut =>
          rw [first_withReturns notFeed notComment noReturn] at begunReturned
          obtain ⟨piece, begun, whole, rfl⟩ := exists_of_bind_withReturns? begunReturned
          obtain ⟨noComment, noBreak, sameText⟩ := kept_of_first notFeed notReturn notComment begun
          obtain ⟨behind, parts⟩ := text_first_isPrefix begun
          have behindParts : behindReturned = Text.withReturns behind := by
            rw [sameText, ← withReturns_cons notFeed, ← parts, withReturns_append] at partsReturned
            exact (List.append_cancel_left partsReturned).symm
          subst behindParts
          obtain ⟨pieces, related, piecesCut⟩ := inductionHypothesis behind
            (length_le_of_first begun parts.symm) laterCut
            fun isReturn => noReturn (parts ▸ List.mem_append_right _ isReturn)
          exact ⟨_, .piece noComment noBreak whole related, .cons begun parts.symm piecesCut⟩

end IsCut

/-! ## Reading -/

namespace Expected

theorem run_cons
    (reader : Expected × List GateBracket) (piece : GatePiece) (later : List GatePiece) :
    run reader (piece :: later) = (stepPiece reader piece).bind (run · later) := by
  unfold run
  rw [List.foldlM_cons]
  rfl

/-- Behind a line break another one is no more than the first. -/
theorem run_lineBreak_twice
    (reader : Expected × List GateBracket) (c d : Char) (later : List GatePiece) :
    run reader (.lineBreak c :: .lineBreak d :: later) = run reader (.lineBreak d :: later) := by
  obtain ⟨expected, brackets⟩ := reader
  by_cases bracketed : brackets = []
  · subst bracketed
    have sameStep : ∀ e : Char, stepPiece (expected, []) (.lineBreak e) = expected.step [] .lineBreak := by
      intro e
      rw [stepPiece, if_pos rfl]
    rw [run_cons, sameStep, run_cons, sameStep]
    cases stepped : expected.step [] .lineBreak with
    | none => rfl
    | some reached =>
        have ending := step_lineBreak_nil stepped
        have settled := (isSettled_of_step stepped fun _ => rfl).1 ending
        obtain rfl : reached = (.plain .ending, []) := Prod.ext ending settled
        rfl
  · have skipped : ∀ e : Char, stepPiece (expected, brackets) (.lineBreak e) = some (expected, brackets) :=
      fun e => if_neg bracketed
    rw [run_cons, skipped, Option.bind_some]

end Expected

namespace GatePiece

theorem getLast?_cons_ne_comment
    {piece : GatePiece} {later : List GatePiece}
    (noComment : ∀ note, piece ≠ .comment note) :
    (∀ note, (piece :: later).getLast? ≠ some (.comment note)) ↔
      ∀ note, later.getLast? ≠ some (.comment note) := by
  rw [List.getLast?_cons]
  cases later.getLast? with
  | none => simpa using noComment
  | some last => exact Iff.rfl

namespace AreReturned

variable {pieces returned : List GatePiece}

theorem run
    (related : AreReturned pieces returned)
    (reader : Expected × List GateBracket) :
    Expected.run reader returned = Expected.run reader pieces := by
  induction related generalizing reader with
  | nil | lastComment => rfl
  | @piece piece later laterReturned _ _ _ _ inductionHypothesis =>
      have sameStep : Expected.stepPiece reader piece.withReturns = Expected.stepPiece reader piece := by
        cases piece <;> rfl
      rw [Expected.run_cons, Expected.run_cons, sameStep]
      exact Option.bind_congr fun reached _ => inductionHypothesis reached
  | lineBreak _ inductionHypothesis =>
      rw [Expected.run_lineBreak_twice, Expected.run_cons, Expected.run_cons]
      exact Option.bind_congr fun reached _ => inductionHypothesis reached
  | @comment later laterReturned note _ inductionHypothesis =>
      have skipped : ∀ (note : Text) (rest : List GatePiece),
          Expected.run reader (.comment note :: rest) = Expected.run reader rest := fun _ _ => rfl
      rw [skipped, skipped, Expected.run_cons, Expected.run_cons]
      exact Option.bind_congr fun reached _ => inductionHypothesis reached

theorem getLast?_ne_comment
    (related : AreReturned pieces returned) :
    (∀ note, returned.getLast? ≠ some (.comment note)) ↔
      ∀ note, pieces.getLast? ≠ some (.comment note) := by
  induction related with
  | nil | lastComment => exact Iff.rfl
  | @piece piece later laterReturned noComment _ _ _ inductionHypothesis =>
      have returnedNoComment : ∀ note, piece.withReturns ≠ .comment note := by
        cases piece with
        | comment note => exact absurd rfl (noComment note)
        | _ => simp [GatePiece.withReturns]
      rw [getLast?_cons_ne_comment returnedNoComment, getLast?_cons_ne_comment noComment,
        inductionHypothesis]
  | lineBreak _ inductionHypothesis =>
      rw [getLast?_cons_ne_comment (by simp), getLast?_cons_ne_comment (by simp),
        getLast?_cons_ne_comment (by simp), inductionHypothesis]
  | comment note _ inductionHypothesis =>
      simp only [List.getLast?_cons_cons]
      rw [getLast?_cons_ne_comment (by simp), getLast?_cons_ne_comment (by simp), inductionHypothesis]

theorem not_isSpread
    (related : AreReturned pieces returned) :
    ∀ piece ∈ pieces, piece.isSpread = false := by
  induction related with
  | nil => simp
  | piece _ _ whole _ inductionHypothesis => simpa [whole] using inductionHypothesis
  | lineBreak _ inductionHypothesis => simpa [isSpread] using inductionHypothesis
  | comment note _ inductionHypothesis => simpa [isSpread] using inductionHypothesis
  | lastComment note => simp [isSpread]

end AreReturned

end GatePiece

/-! ## Gates -/

/-- Whether a gate has a literal with single quotes that goes over a line end. -/
def Text.holdsSpread (gate : Text) : Bool :=
  match gatePieces 0 gate with
  | .ok pieces => pieces.any GatePiece.isSpread
  | .error _ => false

theorem Text.holdsSpread_of_isCut
    {gate : Text} {pieces : List GatePiece}
    (cut : IsCut gate pieces) :
    gate.holdsSpread = pieces.any GatePiece.isSpread := by
  rw [Text.holdsSpread, gatePieces_of_isCut cut 0]

/-- With carriage returns a candidate numbers a gate just if it does without them and has no spread
literals. -/
theorem isGate_withReturns
    {candidate : Text}
    (noReturn : '\r' ∉ candidate)
    (side : GateSide) :
    isGate side candidate.withReturns = (isGate side candidate && !candidate.holdsSpread) := by
  rw [Bool.eq_iff_iff, Bool.and_eq_true, isGate_iff_standsAlone, isGate_iff_standsAlone]
  constructor
  · rintro ⟨returned, cut, noComment, reached, reading, complete⟩
    obtain ⟨pieces, related, piecesCut⟩ := cut.exists_of_returned noReturn
    rw [related.run] at reading
    refine ⟨⟨pieces, piecesCut, related.getLast?_ne_comment.1 noComment, reached, reading, complete⟩, ?_⟩
    rw [Text.holdsSpread_of_isCut piecesCut]
    simpa using related.not_isSpread
  · rintro ⟨⟨pieces, cut, noComment, reached, reading, complete⟩, whole⟩
    rw [Text.holdsSpread_of_isCut cut] at whole
    obtain ⟨returned, related, returnedCut⟩ := cut.exists_returned noReturn (by simpa using whole)
    rw [← related.run] at reading
    exact ⟨returned, returnedCut, related.getLast?_ne_comment.2 noComment, reached, reading, complete⟩

end Pipescript
