import Mathlib
import Pipescript.Proofs.Gate.Candidate
import Pipescript.Proofs.Gate.ScanRun
import Pipescript.Proofs.Scan.BehindOperator
import Pipescript.Proofs.Scan.ErrorPlace
import Pipescript.Proofs.Script.Layout

/-!
# What an error leaves unread is passed through

The last arrow of a script stands in its scanned part, but the gate behind it is looked for in all
that follows.  A scan comes through the text of a gate up to the colon, so if an error ends the scan
somewhere, there is no such colon from that place on.
-/

namespace Pipescript

open Arrow

/-! ## From a place on -/

/-- The part of a text from a place on. -/
def Text.fromPlace (text : Text) (place : Arrow) : Text :=
  (text.toLines.getD place.row []).drop place.column ++ (text.toLines.drop (place.row + 1)).flatten

theorem Text.fromPlace_row (text : Text) (row : Nat) :
    text.fromPlace ⟨row, 0⟩ = (text.toLines.drop row).flatten := by
  unfold fromPlace
  dsimp only
  by_cases inside : row < text.toLines.length
  · rw [List.drop_eq_getElem_cons inside, List.flatten_cons, List.getD_eq_getElem _ _ inside,
      List.drop_zero]
  · have behindAll := Nat.le_of_not_lt inside
    rw [List.getD_eq_default _ _ behindAll, List.drop_eq_nil_of_le behindAll,
      List.drop_eq_nil_of_le (Nat.le_succ_of_le behindAll)]
    rfl

theorem Text.upTo_append_fromPlace (text : Text) (place : Arrow) :
    text.upTo place ++ text.fromPlace place = text :=
  calc text.upTo place ++ text.fromPlace place
      = (text.toLines.take place.row).flatten ++
          ((text.toLines.getD place.row []).take place.column ++
            (text.toLines.getD place.row []).drop place.column ++
              (text.toLines.drop (place.row + 1)).flatten) := by
        simp only [upTo, fromPlace, List.append_assoc]
    _ = (text.toLines.take place.row).flatten ++ text.fromPlace ⟨place.row, 0⟩ := by
        rw [List.take_append_drop, fromPlace, List.drop_zero]
    _ = text := by
        rw [fromPlace_row, ← List.flatten_append, List.take_append_drop, flatten_toLines]

/-- The lines from a row on are those of the text from there on. -/
theorem Text.toLines_fromPlace (text : Text) (row : Nat) :
    (text.fromPlace ⟨row, 0⟩).toLines = text.toLines.drop row := by
  rw [fromPlace_row]
  induction text using lineInduction generalizing row with
  | empty => rw [toLines, List.drop_nil, List.flatten_nil, toLines]
  | last line notEmpty noFeed =>
      cases row with
      | zero => rw [List.drop_zero, flatten_toLines]
      | succ row =>
          rw [toLines_of_noFeed notEmpty noFeed, List.drop_succ_cons, List.drop_nil,
            List.flatten_nil, toLines]
  | line front behind noFeed inductionHypothesis =>
      cases row with
      | zero => rw [List.drop_zero, flatten_toLines]
      | succ row =>
          rw [toLines_append_feed noFeed]
          exact inductionHypothesis row

/-- What is in front of a text and has no line feed belongs to the first line. -/
theorem Text.toLines_append_of_noFeed
    {line : Text}
    (noFeed : '\n' ∉ line)
    (rest : Text) :
    (toLines (line ++ rest)).headD [] = line ++ rest.toLines.headD [] ∧
      (toLines (line ++ rest)).tail = rest.toLines.tail := by
  induction line with
  | nil => exact ⟨rfl, rfl⟩
  | cons c line inductionHypothesis =>
      obtain ⟨notFeed, lineNoFeed⟩ : ¬ c = '\n' ∧ '\n' ∉ line := by
        simpa [eq_comm] using noFeed
      obtain ⟨firstLine, others⟩ := inductionHypothesis lineNoFeed
      rw [List.cons_append, toLines_cons_of_ne notFeed, List.headD_cons, List.tail_cons, firstLine,
        others, List.cons_append]
      exact ⟨rfl, rfl⟩

/-- A place as it is counted from an earlier one. -/
def Arrow.countedFrom (origin place : Arrow) : Arrow :=
  ⟨place.row - origin.row,
    if place.row = origin.row then place.column - origin.column else place.column⟩

/-- What is behind a text has its places counted from where the text ends. -/
theorem Text.fromPlace_append
    {front : Text} {place : Arrow}
    (reached : (start.behind front).precedes place)
    (rest : Text) :
    Text.fromPlace (front ++ rest) place = rest.fromPlace ((start.behind front).countedFrom place) := by
  induction front using lineInduction generalizing place with
  | empty =>
      have same : start.countedFrom place = place := by
        unfold countedFrom
        split <;> rfl
      rw [behind_nil, same, List.nil_append]
  | last line notEmpty noFeed =>
      obtain ⟨firstLine, others⟩ := toLines_append_of_noFeed noFeed rest
      rw [behind_of_noFeed noFeed, precedes_iff] at reached
      rw [behind_of_noFeed noFeed]
      obtain ⟨row, column⟩ := place
      have firstOf : ∀ lines : List Text, lines.getD 0 [] = lines.headD [] := by
        intro lines
        cases lines <;> rfl
      have laterOf : ∀ (lines : List Text) (index : Nat),
          lines.getD (index + 1) [] = lines.tail.getD index [] := by
        intro lines index
        cases lines <;> rfl
      simp only [start, Nat.zero_add] at reached ⊢
      unfold countedFrom fromPlace
      cases row with
      | zero =>
          have behindLine : line.length ≤ column := by simpa using reached
          simp only [if_pos, Nat.sub_self, Nat.zero_add, firstOf, List.drop_one, firstLine, others]
          rw [List.drop_append, List.drop_eq_nil_of_le behindLine, List.nil_append]
      | succ row =>
          simp only [Nat.sub_zero, Nat.succ_ne_zero, if_false, laterOf, ← List.drop_tail, others]
  | line front behind noFeed inductionHypothesis =>
      rw [start_behind_append_feed noFeed, precedes_iff] at reached
      rw [start_behind_append_feed noFeed]
      obtain ⟨row, column⟩ := place
      cases row with
      | zero => simp [lower] at reached
      | succ row =>
          have above : (start.behind behind).precedes ⟨row, column⟩ := by
            rw [precedes_iff]
            simpa [lower] using reached
          have counted : ((start.behind behind).lower 1).countedFrom ⟨row + 1, column⟩ =
              (start.behind behind).countedFrom ⟨row, column⟩ := by
            simp [countedFrom, lower]
          rw [counted, ← inductionHypothesis above, List.append_assoc, List.cons_append]
          unfold fromPlace
          rw [toLines_append_feed noFeed]
          rfl

/-! ## The last stretch -/

theorem intercalate_concat
    {stretches : List Text}
    (notEmpty : stretches ≠ [])
    (separator last : Text) :
    separator.intercalate (stretches ++ [last]) =
      separator.intercalate stretches ++ separator ++ last := by
  induction stretches with
  | nil => exact absurd rfl notEmpty
  | cons first later inductionHypothesis =>
      cases later with
      | nil => simp
      | cons next later =>
          have inner := inductionHypothesis (List.cons_ne_nil _ _)
          rw [List.cons_append, List.cons_append, List.intercalate_cons_cons,
            List.intercalate_cons_cons, ← List.cons_append, inner]
          simp only [List.append_assoc]

/-- The last arrow between stretches stands before the last of them. -/
theorem behind_mem_between_concat
    {stretches : List Text}
    (notEmpty : stretches ≠ [])
    (place : Arrow) (last : Text) :
    place.behind (arrowText.intercalate stretches) ∈ place.between (stretches ++ [last]) := by
  induction stretches generalizing place with
  | nil => exact absurd rfl notEmpty
  | cons first later inductionHypothesis =>
      cases later with
      | nil => simp [between]
      | cons next later =>
          rw [List.intercalate_cons_cons, behind_append, behind_append]
          exact List.mem_cons_of_mem _ (inductionHypothesis (by simp) _)

/-- Behind the last arrow of a script stands its last stretch, of which the input gate is sealed. -/
theorem exists_lastStretch
    {script : Text}
    (someArrow : (withoutArrows script).2 ≠ []) :
    ∃ front last editedFront, script = front ++ arrowText ++ last ∧
      start.behind front ∈ (withoutArrows script).2 ∧
      (withoutArrows script).1 = editedFront ++ sealInputGate last := by
  obtain ⟨parts, places⟩ := segments_withoutArrows script
  have count := length_segments script (withoutArrows script).2
  have arrowCount := List.length_pos_iff.2 someArrow
  rw [text_withoutArrows]
  generalize segments script (withoutArrows script).2 = stretches at parts places count ⊢
  rcases List.eq_nil_or_concat' stretches with rfl | ⟨before, last, rfl⟩
  · simp at count
  rw [List.length_append, List.length_singleton] at count
  have notEmpty : before ≠ [] := List.length_pos_iff.1 (by omega)
  refine ⟨arrowText.intercalate before, last, ?_⟩
  have sealed : (sealGates (before ++ [last])).getLast? = some (sealInputGate last) := by
    rw [List.getLast?_eq_getElem?, length_sealGates, List.length_append, List.length_singleton,
      Nat.add_sub_cancel, getElem?_sealGates, List.getElem?_concat_length, Option.map_some,
      List.length_append, List.length_singleton, if_neg (Nat.lt_irrefl _), if_pos (by omega)]
  obtain ⟨editedBefore, shape⟩ := List.getLast?_eq_some_iff.1 sealed
  have editedNotEmpty : editedBefore ≠ [] := by
    rintro rfl
    have sameLength := length_sealGates (before ++ [last])
    rw [shape] at sameLength
    simp at sameLength
    exact notEmpty sameLength
  refine ⟨separatorText.intercalate editedBefore ++ separatorText, ?_, ?_, ?_⟩
  · rw [← parts, intercalate_concat notEmpty]
  · rw [← places]
    exact behind_mem_between_concat notEmpty start last
  · rw [joinSegments, shape, intercalate_concat editedNotEmpty]

/-! ## Behind the last arrow -/

/-- The scan of a script goes on behind each of its arrows. -/
theorem exists_scansOn_behind_arrow
    {script front last : Text}
    (parts : script = front ++ arrowText ++ last)
    (arrow : start.behind front ∈ (withoutArrows script).2) :
    ∃ later depth earlier, ScansOn later (start.behind (front ++ arrowText)) depth last ∧
      scan script = later.prepend earlier := by
  rw [arrows_withoutArrows, mem_sort, mem_find_scan] at arrow
  obtain ⟨token, member, isArrow, place⟩ := arrow
  obtain ⟨operator, text⟩ := operator_of_isOperator isArrow
  obtain ⟨before, behind, later, depth, tokenParts, row, column, onward, earlier, same⟩ :=
    exists_scansOn_of_scanRows member operator
  rw [text] at tokenParts onward
  have samePlace : start.behind before = start.behind front := by
    rw [place, row, column]
    rfl
  obtain rfl : before = front := by
    rw [← Text.upTo_behind before (arrowText ++ behind), ← List.append_assoc, ← tokenParts, samePlace,
      parts, List.append_assoc, Text.upTo_behind]
  obtain rfl : last = behind := List.append_cancel_left (parts.symm.trans tokenParts)
  exact ⟨later, depth, earlier, onward, same⟩

/-- A scan comes to a colon that an input gate stands before. -/
theorem ScansOn.exists_before_colon
    {scan : Scan} {origin : Arrow} {depth : Nat} {front rest : Text}
    (onward : ScansOn scan origin depth (front ++ ':' :: rest))
    (gate : isGate .input front)
    (returns : front.ReturnsFedBefore (':' :: rest)) :
    ∃ later tokens, ScansOn later (origin.behind front) depth (':' :: rest) ∧
      scan.Yields tokens later := by
  obtain ⟨pieces, cut, noComment, reached, reading, finished, unfinished⟩ := exists_standsAlone gate
  have colonEnds : Text.EndsWord (':' :: rest) :=
    endsWord_cons (by decide +kernel) (by decide) (by decide) rest
  have cutUpTo := cut.isCutUpTo_append
    (endsBefore_last reading (Expected.ne_operand_of_ends finished) noComment colonEnds)
  have stopHead : ∀ c, (':' :: rest).head? = some c → c = ':' :=
    fun c next => (Option.some.inj next).symm
  have deep : ([] : List GateBracket).length + depth = depth := Nat.zero_add depth
  rw [← cut.flatMap_text] at returns
  rcases ScansAt.run (.inl (deep ▸ onward)) cutUpTo stopHead returns (fun ending => by cases ending)
      reading with ⟨later, laterAt, yields⟩ | ⟨ended, -⟩
  · rw [cut.flatMap_text] at laterAt
    rw [Expected.eq_nil_of_ends finished unfinished, deep] at laterAt
    exact ⟨later, _, laterAt.scansOn (by simp), yields⟩
  · exact absurd ended unfinished

/-- A colon that an input gate stands before is not left unread. -/
theorem ScansOn.before_error_of_gate
    {scan : Scan} {origin place : Arrow} {depth : Nat} {front rest : Text} {error : ScanError}
    (onward : ScansOn scan origin depth (front ++ ':' :: rest))
    (gate : isGate .input front)
    (returns : front.ReturnsFedBefore (':' :: rest))
    (failed : scan.error = some error)
    (stops : error.place? = some place) :
    (origin.behind front).Before place := by
  obtain ⟨later, tokens, laterOnward, yields⟩ := onward.exists_before_colon gate returns
  exact laterOnward.before_error_of_colon (yields.error.symm.trans failed) stops

/-- Replacing arrows keeps all that an error leaves unread. -/
theorem exists_keptRest
    {script : Text} {error : ScanError} {place : Arrow}
    (returns : script.ReturnsBeforeFeeds)
    (failed : (scan script).error = some error)
    (stops : error.place? = some place) :
    ∃ front editedFront rest, script = front ++ rest ∧
      (withoutArrows script).1 = editedFront ++ rest ∧ (start.behind front).precedes place := by
  by_cases someArrow : (withoutArrows script).2 = []
  · have same : (withoutArrows script).1 = script := by
      rw [arrows_withoutArrows] at someArrow
      simp [withoutArrows, someArrow]
    exact ⟨[], [], script, rfl, same, by simp [precedes_iff, start]; omega⟩
  · obtain ⟨front, last, editedFront, parts, arrow, edited⟩ := exists_lastStretch someArrow
    obtain ⟨later, depth, earlier, onward, same⟩ := exists_scansOn_behind_arrow parts arrow
    rw [same] at failed
    have edit := isInputEdit_sealInputGate last
    generalize sealInputGate last = editedLast at edited edit
    cases edit with
    | unchanged =>
        exact ⟨front ++ arrowText, editedFront, last, parts, edited,
          onward.precedes_error failed stops⟩
    | @comma gateText behind colon gate =>
        subst colon
        have gateReturns := ((returns.behind parts).fedBefore []).append.1
        rw [List.append_nil] at gateReturns
        have colonBefore := onward.before_error_of_gate gate gateReturns failed stops
        refine ⟨front ++ arrowText ++ (gateText ++ [':']), editedFront ++ (gateText ++ [',']), behind,
          by simp [parts], by simp [edited], ?_⟩
        rw [behind_append _ (front ++ arrowText), behind_append _ gateText]
        generalize ((start.behind (front ++ arrowText)).behind gateText) = colonPlace at colonBefore ⊢
        rw [precedes_iff]
        unfold Before at colonBefore
        simp [next]
        omega

/-- Where an error ends the scan of a script whose carriage returns stand only before line feeds, the
text that it leaves unread is kept: the lines from that of an inconsistent indentation on, and all
from the mark on with which an open literal begins. -/
theorem withoutArrows_keeps_unread
    {script : Text}
    (returns : script.ReturnsBeforeFeeds) :
    (∀ row, (scan script).error = some (.inconsistentDedent row) →
      (withoutArrows script).1.toLines.drop (row - 1) = script.toLines.drop (row - 1)) ∧
    (∀ row column, (scan script).error = some (.openString row column) →
      (withoutArrows script).1.fromPlace ⟨row - 1, column⟩ =
        script.fromPlace ⟨row - 1, column⟩) := by
  have kept : ∀ {error : ScanError} {place : Arrow}, (scan script).error = some error →
      error.place? = some place →
        (withoutArrows script).1.fromPlace place = script.fromPlace place := by
    intro error place failed stops
    obtain ⟨front, editedFront, rest, parts, edited, reached⟩ :=
      exists_keptRest returns failed stops
    have pairs := forall₂_withoutArrows script
    rw [edited] at pairs ⊢
    rw [parts] at pairs ⊢
    have sameLength : front.length = editedFront.length := by
      simpa using pairs.length_eq
    have frontPairs := List.forall₂_take front.length pairs
    rw [List.take_left, List.take_left' sameLength.symm] at frontPairs
    have samePlace := behind_of_forall₂ arrowChange_keepsFeeds frontPairs start
    rw [Text.fromPlace_append reached, Text.fromPlace_append (samePlace ▸ reached), samePlace]
  refine ⟨fun row failed => ?_, fun row column failed => kept failed rfl⟩
  rw [← Text.toLines_fromPlace, ← Text.toLines_fromPlace, kept failed rfl]

/-- Behind the only arrow that is found, a number on a continued row and then a row that goes back to
no open indentation. -/
def brokenIndentation : Text :=
  "if a:\r\n        b ->\\\r\n 1\r\n    2:3 -> c".toList

theorem error_scan_brokenIndentation :
    (scan brokenIndentation).error = some (.inconsistentDedent 4) := by
  cbv

theorem withoutArrows_keeps_unread_brokenIndentation :
    brokenIndentation.ReturnsBeforeFeeds ∧
      (scan brokenIndentation).error = some (.inconsistentDedent 4) ∧
        (withoutArrows brokenIndentation).1.toLines.drop 3 = brokenIndentation.toLines.drop 3 :=
  ⟨by decide, error_scan_brokenIndentation,
    (withoutArrows_keeps_unread (by decide)).1 4 error_scan_brokenIndentation⟩

end Pipescript
