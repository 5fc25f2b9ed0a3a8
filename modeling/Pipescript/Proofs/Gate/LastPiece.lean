import Pipescript.Proofs.Gate.Cut
import Pipescript.Proofs.Text.Blank

/-!
# The last piece

Where a text ends, a piece of it ends.  The last character tells what that piece may be.
-/

namespace Pipescript

/-! ## Where words end -/

/-- Whether a character is dropped from the end of a candidate. -/
def isTrailing (c : Char) : Bool :=
  isBlank c || c == '\\'

theorem endsWord_nil : Text.EndsWord [] := by
  intro c next
  cases next

theorem endsWord_cons
    {c : Char}
    (noName : continuesName c = false)
    (noPoint : c ≠ '.')
    (noQuote : isQuoteMark c = false)
    (rest : Text) :
    Text.EndsWord (c :: rest) := by
  intro d next
  obtain rfl := Option.some.inj next
  exact ⟨noName, noPoint, noQuote⟩

theorem endsWord_of_isTrailing
    {c : Char}
    (trailing : isTrailing c)
    (rest : Text) :
    Text.EndsWord (c :: rest) := by
  simp only [isTrailing, Bool.or_eq_true, beq_iff_eq] at trailing
  rcases trailing with blank | rfl
  · have noWord : continuesName c = false ∧ c ≠ '.' ∧ isQuoteMark c = false := by
      refine @forall_isBlank
        (fun c => continuesName c = false ∧ c ≠ '.' ∧ isQuoteMark c = false) ?_ c blank
      decide +kernel
    exact endsWord_cons noWord.1 noWord.2.1 noWord.2.2 rest
  · exact endsWord_cons (by decide +kernel) (by decide) (by decide) rest

theorem endsWord_sign
    {c : Char}
    (sign : c = '+' ∨ c = '*' ∨ c = ')')
    (rest : Text) :
    Text.EndsWord (c :: rest) := by
  rcases sign with rfl | rfl | rfl <;>
    exact endsWord_cons (by decide +kernel) (by decide) (by decide) rest

/-! ## The last character of a piece -/

namespace GatePiece

/-- Whether a piece may end in a character. -/
def MayEndIn (piece : GatePiece) (c : Char) : Prop :=
  match piece with
  | .blank _ | .joint _ | .lineBreak _ => isBlank c
  | .comment _ => True
  | .number _ | .name _ => isNumberChar c
  | .string _ => isQuoteMark c
  | .operator sign => sign.text.getLast? = some c

theorem mayEndIn_of_first
    {c last : Char} {rest : Text} {piece : GatePiece}
    (begun : first c rest = .ok piece)
    (ends : piece.text.getLast? = some last) :
    piece.MayEndIn last := by
  have literal : ∀ {letters behind : Text} {mark : Char}, isQuoteMark mark →
      ofQuote letters mark behind = some piece → piece.MayEndIn last := by
    intro letters behind mark quotes quoted
    obtain ⟨front, shape⟩ := exists_mark_of_ofQuote quoted
    rw [shape, List.getLast?_concat] at ends
    obtain rfl := Option.some.inj ends
    rw [string_of_ofQuote quoted]
    exact quotes
  cases first_eq_ok_iff.1 begun with
  | blank margin =>
      obtain rfl := Option.some.inj ends
      simp only [isMarginChar, Bool.or_eq_true, beq_iff_eq] at margin
      show isBlank c = true
      rcases margin with (rfl | rfl) | rfl <;> decide
  | comment => trivial
  | joint lineEnd _ shape _ =>
      have feed : last = '\n' := by
        rcases shape with rfl | rfl <;> exact (Option.some.inj ends).symm
      rw [feed]
      show isBlank '\n' = true
      decide
  | lineBreak breaks =>
      obtain rfl := Option.some.inj ends
      simp only [isLineBreakChar, Bool.or_eq_true, beq_iff_eq] at breaks
      show isBlank c = true
      rcases breaks with rfl | rfl <;> decide
  | number _ _ _ counted =>
      have inNumber := isNumberChar_of_mem_ofNumber counted (List.mem_of_getLast? ends)
      rw [number_of_ofNumber counted]
      exact inNumber
  | quoted _ _ _ quotes quoted => exact literal quotes quoted
  | lettered _ mark _ _ _ _ opens quoted =>
      exact literal (Bool.and_eq_true_iff.1 opens).1 quoted
  | name _ names _ =>
      show isNumberChar last = true
      rcases List.mem_cons.1 (List.mem_of_getLast? ends) with rfl | member
      · refine isNumberChar_of_continuesName ?_
        simp only [startsName, Bool.or_eq_true] at names
        simp only [continuesName, Bool.or_eq_true]
        exact names.imp .inl id
      · exact isNumberChar_of_continuesName (List.mem_takeWhile_imp member)
  | operator => exact ends

theorem comment_of_first
    {c : Char} {rest note : Text}
    (begun : first c rest = .ok (.comment note)) :
    c = '#' ∧ note = c :: rest.takeWhile (· != '\n') := by
  cases first_eq_ok_iff.1 begun with
  | comment comments => exact ⟨comments, rfl⟩
  | number _ _ _ counted => cases number_of_ofNumber counted
  | quoted _ _ _ _ quoted | lettered _ _ _ _ _ _ _ quoted => cases string_of_ofQuote quoted

theorem joint_of_first
    {rest : Text} {piece : GatePiece}
    (begun : first '\\' rest = .ok piece) :
    ∃ lineEnd, (lineEnd = ['\n'] ∨ lineEnd = ['\r', '\n']) ∧ lineEnd <+: rest ∧
      piece = .joint ('\\' :: lineEnd) := by
  cases first_eq_ok_iff.1 begun with
  | blank margin => exact absurd margin (by decide)
  | comment comments => exact absurd comments (by decide)
  | joint lineEnd _ shape front => exact ⟨lineEnd, shape, front, rfl⟩
  | lineBreak breaks => exact absurd breaks (by decide)
  | number _ visible | quoted _ visible => exact absurd rfl visible.noJoint
  | lettered _ _ _ bare | name bare | operator _ bare => exact absurd rfl bare.noJoint

end GatePiece

namespace IsCut

theorem unique
    {text : Text} {pieces others : List GatePiece}
    (cut : IsCut text pieces)
    (otherCut : IsCut text others) :
    pieces = others :=
  Except.ok.inj ((gatePieces_of_isCut cut 0).symm.trans (gatePieces_of_isCut otherCut 0))

theorem exists_last
    {text : Text} {front : List GatePiece} {last : GatePiece}
    (cut : IsCut text (front ++ [last])) :
    ∃ c rest, GatePiece.first c rest = .ok last ∧ last.text = c :: rest := by
  induction front generalizing text with
  | nil =>
      cases cut with
      | @cons c rest behind _ _ begun parts cut =>
          obtain rfl : behind = [] := by
            rw [← cut.flatMap_text]
            rfl
          rw [List.append_nil] at parts
          exact ⟨c, rest, begun, parts.symm⟩
  | cons piece front inductionHypothesis =>
      cases cut with
      | cons begun parts cut => exact inductionHypothesis cut

theorem behind_of_append
    {text : Text} {front behind : List GatePiece}
    (cut : IsCut text (front ++ behind)) :
    IsCut (behind.flatMap GatePiece.text) behind := by
  induction front generalizing text with
  | nil =>
      rw [List.nil_append] at cut
      rwa [cut.flatMap_text]
  | cons piece front inductionHypothesis =>
      cases cut with
      | cons begun parts cut => exact inductionHypothesis cut

/-- A comment lasts to the end of the line. -/
theorem lineFeed_of_comment
    {text note : Text} {front behind : List GatePiece} {c : Char}
    (cut : IsCut text (front ++ .comment note :: behind))
    (next : (behind.flatMap GatePiece.text).head? = some c) :
    c = '\n' := by
  induction front generalizing text with
  | nil =>
      cases cut with
      | @cons d rest _ _ _ begun parts cut =>
          obtain ⟨rfl, rfl⟩ := GatePiece.comment_of_first begun
          rw [cut.flatMap_text] at next
          obtain ⟨-, restParts⟩ := List.cons.inj parts
          have taken : (rest.takeWhile (· != '\n') ++ _).takeWhile (· != '\n') =
              rest.takeWhile (· != '\n') := congrArg (List.takeWhile (· != '\n')) restParts.symm
          simpa using head?_of_takeWhile taken next
  | cons piece front inductionHypothesis =>
      cases cut with
      | cons begun parts cut => exact inductionHypothesis cut

/-- A closing parenthesis at the end of a text is a piece of its own, or in a comment. -/
theorem closeParen_or_comment
    {body : Text} {pieces : List GatePiece}
    (cut : IsCut (body ++ [')']) pieces) :
    ∃ inner, (pieces = inner ++ [.operator .closeParen] ∧ body = inner.flatMap GatePiece.text) ∨
      ∃ note, pieces = inner ++ [.comment ('#' :: note ++ [')'])] ∧
        body = inner.flatMap GatePiece.text ++ '#' :: note := by
  rcases List.eq_nil_or_concat pieces with rfl | ⟨inner, last, rfl⟩
  · have empty := cut.flatMap_text
    simp at empty
  · rw [List.concat_eq_append] at cut ⊢
    refine ⟨inner, ?_⟩
    obtain ⟨c, rest, begun, shape⟩ := cut.exists_last
    have whole := cut.flatMap_text
    rw [List.flatMap_append, List.flatMap_singleton] at whole
    have ends : last.text.getLast? = some ')' := by
      have wholeEnds := congrArg List.getLast? whole
      rw [List.getLast?_concat, List.getLast?_append, shape, List.getLast?_cons,
        Option.some_or] at wholeEnds
      rw [shape, List.getLast?_cons, wholeEnds]
    have mayEnd := GatePiece.mayEndIn_of_first begun ends
    cases last with
    | blank text | joint text | lineBreak d =>
        exact absurd mayEnd (show ¬ isBlank ')' = true by decide)
    | number text | name text =>
        exact absurd mayEnd (show ¬ isNumberChar ')' = true by decide +kernel)
    | string text => exact absurd mayEnd (show ¬ isQuoteMark ')' = true by decide)
    | operator sign =>
        obtain rfl : sign = .closeParen := by
          cases sign <;> first | rfl | cases mayEnd
        exact .inl ⟨rfl, (List.append_cancel_right whole).symm⟩
    | comment text =>
        obtain ⟨rfl, rfl⟩ := GatePiece.comment_of_first begun
        generalize rest.takeWhile (· != '\n') = hidden at *
        rcases List.eq_nil_or_concat hidden with rfl | ⟨note, d, rfl⟩
        · cases ends
        · rw [List.concat_eq_append] at *
          have closing : d = ')' := by
            have last : ('#' :: note ++ [d]).getLast? = some ')' := ends
            rw [List.getLast?_concat] at last
            exact Option.some.inj last
          subst closing
          refine .inr ⟨note, rfl, ?_⟩
          have parts : inner.flatMap GatePiece.text ++ '#' :: note ++ [')'] = body ++ [')'] := by
            rw [← whole]
            simp [GatePiece.text]
          exact (List.append_cancel_right parts).symm

end IsCut

end Pipescript
