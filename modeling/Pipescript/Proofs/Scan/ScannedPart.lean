import Mathlib.Data.List.Pairwise
import Pipescript.Proofs.Arrow.Order
import Pipescript.Proofs.Scan.Lossless

/-!
# The scanned part of a script

A scan that an error has ended has come to some place of the script.  The tokens that have a text
cover what stands before it: every visible character of this part belongs to one of them, and to one
only.
-/

namespace Pipescript

open Arrow

/-- The part of a text before a place. -/
def Text.upTo (text : Text) (place : Arrow) : Text :=
  (text.toLines.take place.row).flatten ++ (text.toLines.getD place.row []).take place.column

theorem Text.upTo_behind (front rest : Text) :
    Text.upTo (front ++ rest) (start.behind front) = front := by
  induction front using lineInduction with
  | empty => simp [upTo, start]
  | last line notEmpty noFeed =>
      have firstLine : ∃ later, (line ++ rest).toLines.getD 0 [] = line ++ later := by
        cases rest with
        | nil => exact ⟨[], by rw [List.append_nil, toLines_of_noFeed notEmpty noFeed]; simp⟩
        | cons c rest =>
            obtain ⟨later, lines, shape⟩ := exists_firstLine noFeed c rest
            exact ⟨c :: later, by rw [shape]; rfl⟩
      obtain ⟨later, shape⟩ := firstLine
      rw [behind_of_noFeed noFeed, upTo]
      simp only [start, List.take_zero, List.flatten_nil, List.nil_append, Nat.zero_add]
      rw [shape, List.take_left]
  | line front behind noFeed inductionHypothesis =>
      rw [start_behind_append_feed noFeed, List.append_assoc, List.cons_append]
      unfold upTo lower at *
      rw [toLines_append_feed noFeed]
      simp only [List.take_succ_cons, List.flatten_cons, List.getD_cons_succ,
        List.append_assoc, inductionHypothesis]
      rfl

/-- The part of a script that is scanned: all of it, or what stands before the place at which an
error has ended the scan. -/
def scannedPart (script : Text) : Text :=
  match (scan script).error with
  | none | some (.openStatement _) => script
  | some (.openString row column) => script.upTo ⟨row - 1, column⟩
  | some (.inconsistentDedent row) => script.upTo ⟨row - 1, 0⟩

theorem accounts_scan (script : Text) : Accounts start 0 [] script (scan script) :=
  @ScanState.accounts_scanRows .start 0 [] start script trivial (fun _ => rfl) fun _ lacks => by
    cases lacks

/-- The tokens of a script that have a text cover the part that is scanned. -/
theorem covers_scannedPart (script : Text) :
    ∃ standing ending : List Token,
      (scan script).tokens = standing ++ ending ∧ (∀ token ∈ ending, token.text = []) ∧
        Covers start standing (scannedPart script) ∧ scannedPart script <+: script := by
  obtain ⟨standing, ending, covered, rest, tokens, parts, covers, ends, reaches⟩ :=
    accounts_scan script
  rw [List.nil_append] at parts
  have same : scannedPart script = covered := by
    unfold scannedPart
    cases error : (scan script).error with
    | none =>
        rw [error] at reaches
        obtain rfl : rest = [] := reaches
        rw [parts, List.append_nil]
    | some reason =>
        rw [error] at reaches
        cases reason with
        | openStatement row =>
            obtain rfl : rest = [] := reaches
            rw [parts, List.append_nil]
        | openString row column =>
            obtain ⟨rfl, rfl⟩ := reaches
            dsimp only
            rw [Nat.add_sub_cancel, parts]
            exact Text.upTo_behind covered rest
        | inconsistentDedent row =>
            obtain ⟨count, rfl, rfl⟩ := reaches
            simp [Text.upTo]
  rw [same]
  exact ⟨standing, ending, tokens, fun token member => (ends token member).1, covers,
    ⟨rest, parts.symm⟩⟩

theorem scannedPart_isPrefix (script : Text) : scannedPart script <+: script := by
  obtain ⟨_, _, -, -, -, inFront⟩ := covers_scannedPart script
  exact inFront

/-! ## Characters in tokens -/

/-- Characters that stand between tokens. -/
def isGapChar (c : Char) : Bool :=
  isMarginChar c || c == '\\' || isLineBreakChar c

/-- A character of a text that is put together stands in the first part or in the second. -/
theorem append_cons_eq_append
    {front behind first second : Text} {c : Char}
    (parts : front ++ c :: behind = first ++ second) :
    (∃ after, first = front ++ c :: after ∧ behind = after ++ second) ∨
      ∃ crossing, front = first ++ crossing ∧ second = crossing ++ c :: behind := by
  rcases List.append_eq_append_iff.1 parts with ⟨crossing, firstParts, rest⟩ | ⟨crossing, found⟩
  · cases crossing with
    | nil => exact .inr ⟨[], by simpa using firstParts.symm, by simpa using rest.symm⟩
    | cons d crossing =>
        obtain ⟨rfl, rfl⟩ := List.cons.inj rest
        exact .inl ⟨crossing, firstParts, rfl⟩
  · exact .inr ⟨crossing, found⟩

/-- A visible character of a text that is covered stands in a token. -/
theorem Covers.exists_token
    {origin : Arrow} {tokens : List Token} {front behind : Text} {c : Char}
    (covers : Covers origin tokens (front ++ c :: behind))
    (visible : isGapChar c = false) :
    ∃ token ∈ tokens, ∃ before inside after rest,
      front = before ++ inside ∧ token.text = inside ++ c :: after ∧ behind = after ++ rest ∧
        token.row = (origin.behind before).row + 1 ∧
          token.column = (origin.behind before).column := by
  generalize whole : front ++ c :: behind = text at covers
  induction covers generalizing front with
  | nil => simp at whole
  | @margin origin d tokens rest margin _ inductionHypothesis =>
      rcases @append_cons_eq_append _ _ [d] _ _ whole with ⟨after, here, -⟩ | ⟨crossing, rfl, parts⟩
      · obtain rfl : c = d := by
          have member : c ∈ [d] := here ▸ by simp
          exact List.mem_singleton.1 member
        simp [isGapChar, margin] at visible
      · obtain ⟨token, member, before, inside, after, later, rfl, found⟩ :=
          inductionHypothesis parts.symm
        exact ⟨token, member, d :: before, inside, after, later, rfl, found⟩
  | @joint origin lineEnd tokens rest isEnd _ inductionHypothesis =>
      have gap : ∀ d ∈ '\\' :: lineEnd, isGapChar d := by
        simp only [isLineEnd, Bool.or_eq_true, beq_iff_eq] at isEnd
        rcases isEnd with (rfl | rfl) | rfl <;> exact List.all_eq_true.1 (by decide)
      rcases append_cons_eq_append whole with ⟨after, here, -⟩ | ⟨crossing, rfl, parts⟩
      · have hidden := gap c (here ▸ by simp)
        rw [visible] at hidden
        cases hidden
      · obtain ⟨token, member, before, inside, after, later, rfl, found⟩ :=
          inductionHypothesis parts.symm
        refine ⟨token, member, '\\' :: lineEnd ++ before, inside, after, later,
          (List.append_assoc _ _ _).symm, ?_⟩
        rwa [behind_append]
  | @token origin token later rest sameRow sameColumn _ inductionHypothesis =>
      rcases append_cons_eq_append whole with ⟨after, here, parts⟩ | ⟨crossing, rfl, parts⟩
      · exact ⟨token, List.mem_cons_self, [], front, after, rest, rfl, here, parts, sameRow,
          sameColumn⟩
      · obtain ⟨found, member, before, inside, after, later, rfl, place⟩ :=
          inductionHypothesis parts.symm
        refine ⟨found, List.mem_cons_of_mem _ member, token.text ++ before, inside, after, later,
          (List.append_assoc _ _ _).symm, ?_⟩
        rwa [behind_append]

/-- Whether a place is one of those of the characters of a token. -/
def Token.Includes (token : Token) (place : Arrow) : Prop :=
  token.place.precedes place ∧ place.Before (token.place.behind token.text)

theorem not_before_of_precedes
    {left right : Arrow}
    (ordered : left.precedes right) :
    ¬ right.Before left := by
  rw [precedes_iff] at ordered
  unfold Before
  omega

theorem before_behind_cons (place : Arrow) (c : Char) (rest : Text) :
    place.Before (place.behind (c :: rest)) := by
  have further := precedes_iff.1 (precedes_behind (place.next c) rest)
  have step : place.Before (place.next c) := by
    unfold next
    split
    · exact .inl (Nat.lt_succ_self _)
    · exact .inr ⟨rfl, Nat.lt_succ_self _⟩
  unfold Before at step ⊢
  rw [behind_cons]
  omega

/-- The characters of a token are at its places. -/
theorem Token.includes_behind
    {token : Token} {before after : Text} {c : Char}
    (text : token.text = before ++ c :: after) :
    token.Includes (token.place.behind before) := by
  refine ⟨precedes_behind _ _, ?_⟩
  rw [text, behind_append]
  exact before_behind_cons _ _ _

/-- No place belongs to two tokens. -/
theorem Covers.eq_of_includes
    {origin place : Arrow} {tokens : List Token} {text : Text} {token other : Token}
    (covers : Covers origin tokens text)
    (member : token ∈ tokens)
    (otherMember : other ∈ tokens)
    (includes : token.Includes place)
    (otherIncludes : other.Includes place) :
    token = other := by
  by_contra different
  have apart : tokens.Pairwise fun left right =>
      left.EndsBy right ∨ right.EndsBy left := covers.ordered.1.imp .inl
  have symmetric : Std.Symm fun left right : Token => left.EndsBy right ∨ right.EndsBy left :=
    ⟨fun _ _ => Or.symm⟩
  have clash : ∀ {left right : Token}, left.EndsBy right → left.Includes place →
      right.Includes place → False := fun ends leftIncludes rightIncludes =>
    not_before_of_precedes (precedes_trans ends.2 rightIncludes.1) leftIncludes.2
  rcases apart.forall member otherMember different with ends | ends
  · exact clash ends includes otherIncludes
  · exact clash ends otherIncludes includes

end Pipescript
