import Pipescript.Proofs.Arrow.Order
import Pipescript.Proofs.Scan.Cover

/-!
# Scans are lossless

The rows of a script account for it one after the other.  So the tokens of a script come in order,
stand in it where they say, and leave out nothing but margins and joints, up to where an error has
ended the scan.
-/

namespace Pipescript

open Arrow

/-- Whether a scan accounts for a text, with that of an open literal before it, that stands behind
so many rows.  Behind the text there may be tokens without a text of their own. -/
def Accounts (origin : Arrow) (rows : Nat) (pending text : Text) (scan : Scan) : Prop :=
  ∃ standing ending covered rest,
    scan.tokens = standing ++ ending ∧
    pending ++ text = covered ++ rest ∧
    Covers origin standing covered ∧
    (∀ token ∈ ending,
      token.text = [] ∧ token.row = rows + text.toLines.length + 1 ∧ token.column = 0) ∧
    match scan.error with
    | none | some (.openStatement _) => rest = []
    | some (.openString row column) =>
        row = (origin.behind covered).row + 1 ∧ column = (origin.behind covered).column
    | some (.inconsistentDedent row) =>
        ∃ count, row = rows + count + 1 ∧
          covered = pending ++ (text.toLines.take count).flatten

/-- A row before a text that is accounted for. -/
theorem Accounts.prepend
    {origin : Arrow} {rows : Nat} {pending opened line text : Text} {tokens : List Token}
    {covered : Text} {scan : Scan}
    (lines : Text.toLines (line ++ text) = line :: text.toLines)
    (parts : pending ++ line = covered ++ opened)
    (covers : Covers origin tokens covered)
    (later : Accounts (origin.behind covered) (rows + 1) opened text scan) :
    Accounts origin rows pending (line ++ text) (scan.prepend tokens) := by
  obtain ⟨standing, ending, laterCovered, rest, sameTokens, laterParts, laterCovers, ends, reaches⟩ :=
    later
  refine ⟨tokens ++ standing, ending, covered ++ laterCovered, rest, ?_, ?_,
    covers.append laterCovers, ?_, ?_⟩
  · rw [Scan.prepend, sameTokens, List.append_assoc]
  · rw [← List.append_assoc, parts, List.append_assoc, laterParts, List.append_assoc]
  · intro token member
    obtain ⟨noText, sameRow, sameColumn⟩ := ends token member
    refine ⟨noText, ?_, sameColumn⟩
    rw [lines, List.length_cons, sameRow]
    omega
  · show match scan.error with
      | none | some (.openStatement _) => rest = []
      | some (.openString row column) => _
      | some (.inconsistentDedent row) => _
    cases error : scan.error with
    | none =>
        rw [error] at reaches
        exact reaches
    | some reason =>
        rw [error] at reaches
        cases reason with
        | openStatement row => exact reaches
        | openString row column =>
            dsimp only at reaches ⊢
            rwa [behind_append]
        | inconsistentDedent row =>
            obtain ⟨count, sameRow, rfl⟩ := reaches
            refine ⟨count + 1, by omega, ?_⟩
            rw [lines, List.take_succ_cons, List.flatten_cons, ← List.append_assoc,
              ← List.append_assoc, ← parts]

namespace ScanState

theorem error_of_scanRow
    {state : ScanState} {row : Nat} {line : Text} {error : ScanError}
    (failed : state.scanRow row line = .error error) :
    state.carry = .nothing ∧ error = .inconsistentDedent row := by
  unfold scanRow at failed
  cases carry : state.carry with
  | literal opened => simp [carry] at failed
  | joint => simp [carry] at failed
  | nothing =>
      refine ⟨rfl, ?_⟩
      simp only [carry] at failed
      split at failed
      · unfold scanFresh at failed
        dsimp only at failed
        split at failed
        · simp at failed
        · split at failed
          · simp at failed
          · split at failed
            · simp at failed
            · simp at failed
            · simp at failed
            · exact (Except.error.inj failed).symm
      · simp at failed

/-- At the end of a script an open literal is left out, and nothing else. -/
theorem accounts_finish
    {state : ScanState} {rows : Nat} {lastLine : Text} {origin : Arrow}
    (opens : state.carry.OpensAt origin)
    (lastHere : lacksNewline lastLine →
      rows = (origin.behind state.carry.pending).row + 1 ∧
        lastLine.length = (origin.behind state.carry.pending).column) :
    Accounts origin rows state.carry.pending [] (state.finish rows lastLine) := by
  unfold finish
  split
  · next opened isOpen =>
      rw [isOpen] at opens ⊢
      exact ⟨[], [], [], opened.text, rfl, by rw [List.append_nil]; rfl, .nil origin, by simp,
        opens⟩
  · next isJoint =>
      rw [isJoint]
      exact ⟨[], [], [], [], rfl, rfl, .nil origin, by simp, rfl⟩
  · next noCarry =>
      rw [noCarry] at lastHere ⊢
      split
      · refine ⟨if lacksNewline lastLine then [⟨.newline, [], rows, lastLine.length⟩] else [],
          List.replicate state.blocks.length ⟨.dedent, [], rows + 1, 0⟩ ++
            [⟨.endMarker, [], rows + 1, 0⟩], [], [], List.append_assoc _ _ _, rfl, ?_, ?_, rfl⟩
        · split
          · next lacks =>
              obtain ⟨sameRow, sameColumn⟩ := lastHere lacks
              exact @Covers.singleton origin ⟨.newline, [], rows, lastLine.length⟩ sameRow sameColumn
          · exact .nil origin
        · intro token member
          rcases List.mem_append.1 member with dedent | marker
          · rw [List.eq_of_mem_replicate dedent]
            exact ⟨rfl, rfl, rfl⟩
          · rw [List.mem_singleton.1 marker]
            exact ⟨rfl, rfl, rfl⟩
      · exact ⟨[], [], [], [], rfl, rfl, .nil origin, by simp, rfl⟩

theorem lacksNewline_feed (front : Text) : lacksNewline (front ++ ['\n']) = false := by
  unfold lacksNewline
  rw [List.getLast?_concat]
  rfl

/-- One row, and the rows behind it. -/
theorem accounts_row
    {state : ScanState} {rows : Nat} {line text : Text} {origin : Arrow}
    (lastLine : Text)
    (lines : Text.toLines (line ++ text) = line :: text.toLines)
    (oneRow : line.IsOneRow)
    (opens : state.carry.OpensAt origin)
    (here : origin.behind state.carry.pending = ⟨rows, 0⟩)
    (later : ∀ (next : ScanState) (place : Arrow),
      next.carry.OpensAt place →
      place.behind next.carry.pending = (⟨rows, 0⟩ : Arrow).behind line →
      Accounts place (rows + 1) next.carry.pending text
        (next.scanRows (rows + 1) line text.toLines)) :
    Accounts origin rows state.carry.pending (line ++ text)
      (state.scanRows rows lastLine (line ++ text).toLines) := by
  rw [lines, scanRows]
  cases scanned : state.scanRow (rows + 1) line with
  | error error =>
      obtain ⟨noCarry, rfl⟩ := error_of_scanRow scanned
      rw [noCarry]
      exact ⟨[], [], [], line ++ text, rfl, rfl, .nil origin, by simp, 0, rfl, rfl⟩
  | ok made =>
      obtain ⟨tokens, next⟩ := made
      obtain ⟨covered, parts, covers, nextOpens⟩ :=
        coversBut_of_rowStep (rowStep_of_scanRow scanned) oneRow opens here
      refine Accounts.prepend lines parts covers (later next _ nextOpens ?_)
      rw [← behind_append, ← parts, behind_append, here]

/-- The rows of a text account for it. -/
theorem accounts_scanRows
    {state : ScanState} {rows : Nat} {lastLine : Text} {origin : Arrow}
    (text : Text)
    (opens : state.carry.OpensAt origin)
    (here : text ≠ [] → origin.behind state.carry.pending = ⟨rows, 0⟩)
    (lastHere : text = [] → lacksNewline lastLine →
      rows = (origin.behind state.carry.pending).row + 1 ∧
        lastLine.length = (origin.behind state.carry.pending).column) :
    Accounts origin rows state.carry.pending text
      (state.scanRows rows lastLine text.toLines) := by
  induction text using Text.lineInduction generalizing state rows lastLine origin with
  | empty => exact accounts_finish opens (lastHere rfl)
  | last line notEmpty noFeed =>
      have lines : Text.toLines (line ++ []) = line :: Text.toLines [] := by
        rw [List.append_nil, Text.toLines_of_noFeed notEmpty noFeed]
        rfl
      have row := accounts_row lastLine lines (isOneRow_of_noFeed noFeed) opens
        (here notEmpty) fun next place nextOpens behindRow => by
          refine accounts_finish nextOpens fun _ => ?_
          rw [behindRow, behind_of_noFeed noFeed]
          exact ⟨rfl, (Nat.zero_add _).symm⟩
      rwa [List.append_nil] at row
  | line front rest noFeed inductionHypothesis =>
      have lines : Text.toLines (front ++ ['\n'] ++ rest) =
          (front ++ ['\n']) :: rest.toLines := by
        rw [List.append_assoc]
        exact Text.toLines_append_feed noFeed rest
      have row := accounts_row lastLine lines (isOneRow_of_feed noFeed) opens
        (here (by simp)) fun next place nextOpens behindRow => by
          have nextRow : (⟨rows, 0⟩ : Arrow).behind (front ++ ['\n']) = ⟨rows + 1, 0⟩ := by
            rw [behind_append, behind_of_noFeed noFeed]
            rfl
          rw [nextRow] at behindRow
          refine inductionHypothesis nextOpens (fun _ => behindRow) fun _ lacks => ?_
          rw [lacksNewline_feed] at lacks
          cases lacks
      rwa [List.append_assoc] at row

end ScanState

/-! ## The order of tokens -/

namespace Arrow

theorem precedes_behind (place : Arrow) (text : Text) : place.precedes (place.behind text) := by
  induction text generalizing place with
  | nil => exact precedes_refl place
  | cons c rest inductionHypothesis =>
      refine precedes_trans ?_ (inductionHypothesis (place.next c))
      unfold next
      split
      · exact precedes_iff.2 (.inl (Nat.lt_succ_self _))
      · exact precedes_iff.2 (.inr ⟨rfl, Nat.le_succ _⟩)

/-- Reading moves on. -/
theorem behind_ne
    {text : Text}
    (notEmpty : text ≠ [])
    (place : Arrow) :
    place.behind text ≠ place := by
  intro same
  cases text with
  | nil => exact notEmpty rfl
  | cons c rest =>
      have further := precedes_behind (place.next c) rest
      rw [← behind_cons, same, precedes_iff] at further
      unfold next at further
      split at further <;> dsimp only at further <;> omega

/-- Places tell the parts of a text before them apart. -/
theorem eq_of_behind_eq
    {place : Arrow} {left right leftRest rightRest : Text}
    (parts : left ++ leftRest = right ++ rightRest)
    (samePlace : place.behind left = place.behind right) :
    left = right := by
  rcases List.append_eq_append_iff.1 parts with ⟨more, rfl, -⟩ | ⟨more, rfl, -⟩
  · rw [behind_append] at samePlace
    by_cases nothing : more = []
    · rw [nothing, List.append_nil]
    · exact absurd samePlace.symm (behind_ne nothing _)
  · rw [behind_append] at samePlace
    by_cases nothing : more = []
    · rw [nothing, List.append_nil]
    · exact absurd samePlace (behind_ne nothing _)

/-- A text ends before the row behind its last one begins. -/
theorem behind_precedes (text : Text) :
    (start.behind text).precedes ⟨text.toLines.length, 0⟩ := by
  induction text using Text.lineInduction with
  | empty => exact precedes_refl _
  | last line notEmpty noFeed =>
      rw [behind_of_noFeed noFeed, Text.toLines_of_noFeed notEmpty noFeed]
      exact precedes_iff.2 (.inl Nat.zero_lt_one)
  | line front rest noFeed inductionHypothesis =>
      rw [start_behind_append_feed noFeed, Text.toLines_append_feed noFeed, List.length_cons]
      rw [precedes_iff] at inductionHypothesis ⊢
      unfold lower
      dsimp only at inductionHypothesis ⊢
      omega

end Arrow

namespace Token

/-- The place at which a token begins, rows counted from zero. -/
def place (token : Token) : Arrow :=
  ⟨token.row - 1, token.column⟩

/-- Whether a token begins and ends before another one begins, or just there. -/
def EndsBy (token other : Token) : Prop :=
  token.place.precedes other.place ∧ (token.place.behind token.text).precedes other.place

end Token

namespace Covers

variable {origin : Arrow} {tokens : List Token} {text : Text}

/-- Tokens that cover a text lie between its ends, one behind the other. -/
theorem ordered
    (covers : Covers origin tokens text) :
    tokens.Pairwise Token.EndsBy ∧
      ∀ token ∈ tokens, origin.precedes token.place ∧
        (token.place.behind token.text).precedes (origin.behind text) := by
  induction covers with
  | nil => exact ⟨.nil, by simp⟩
  | @margin origin c tokens rest _ _ inductionHypothesis =>
      refine ⟨inductionHypothesis.1, fun token member => ?_⟩
      obtain ⟨first, last⟩ := inductionHypothesis.2 token member
      exact ⟨precedes_trans (precedes_behind origin [c]) first, last⟩
  | @joint origin lineEnd tokens rest _ _ inductionHypothesis =>
      refine ⟨inductionHypothesis.1, fun token member => ?_⟩
      obtain ⟨first, last⟩ := inductionHypothesis.2 token member
      rw [behind_append]
      exact ⟨precedes_trans (precedes_behind origin _) first, last⟩
  | @token origin token later rest sameRow sameColumn _ inductionHypothesis =>
      have here : token.place = origin := by
        unfold Token.place
        rw [sameRow, sameColumn]
        rfl
      have through : ∀ next ∈ later, origin.precedes next.place := fun next member =>
        precedes_trans (precedes_behind origin token.text) (inductionHypothesis.2 next member).1
      constructor
      · refine .cons (fun next member => ?_) inductionHypothesis.1
        unfold Token.EndsBy
        rw [here]
        exact ⟨through next member, (inductionHypothesis.2 next member).1⟩
      · intro next member
        rw [behind_append]
        rcases List.mem_cons.1 member with rfl | member
        · rw [here]
          exact ⟨precedes_refl origin, precedes_behind _ rest⟩
        · exact ⟨through next member, (inductionHypothesis.2 next member).2⟩

/-- Every token stands where it says. -/
theorem exists_front
    {token : Token}
    (covers : Covers origin tokens text)
    (member : token ∈ tokens) :
    ∃ front rest, text = front ++ token.text ++ rest ∧
      token.row = (origin.behind front).row + 1 ∧ token.column = (origin.behind front).column := by
  induction covers with
  | nil => cases member
  | @margin origin c tokens rest _ _ inductionHypothesis =>
      obtain ⟨front, behind, rfl, place⟩ := inductionHypothesis member
      exact ⟨c :: front, behind, by simp, place⟩
  | @joint origin lineEnd tokens rest _ _ inductionHypothesis =>
      obtain ⟨front, behind, rfl, place⟩ := inductionHypothesis member
      refine ⟨'\\' :: lineEnd ++ front, behind, by simp, ?_⟩
      rwa [behind_append]
  | @token origin first later rest sameRow sameColumn _ inductionHypothesis =>
      rcases List.mem_cons.1 member with rfl | member
      · exact ⟨[], rest, rfl, sameRow, sameColumn⟩
      · obtain ⟨front, behind, rfl, place⟩ := inductionHypothesis member
        refine ⟨first.text ++ front, behind, by simp, ?_⟩
        rwa [behind_append]

end Covers

/-- The tokens of a script come in order without overlapping, and those with a text stand where they
say.
Together with margins and joints they cover the whole script, but for an open literal that it ends
in, or for the rows from one on that is indented inconsistently. -/
theorem scan_lossless (script : Text) :
    (scan script).tokens.Pairwise Token.EndsBy ∧
      (∀ token ∈ (scan script).tokens, 0 < token.row ∧
        (token.text ≠ [] →
          ∃ front rest, script = front ++ token.text ++ rest ∧
            token.row = (start.behind front).row + 1 ∧
            token.column = (start.behind front).column)) ∧
      ∃ standing ending covered rest,
        (scan script).tokens = standing ++ ending ∧
        script = covered ++ rest ∧
        Covers start standing covered ∧
        (∀ token ∈ ending,
          token.text = [] ∧ token.row = script.toLines.length + 1 ∧ token.column = 0) ∧
        match (scan script).error with
        | none | some (.openStatement _) => rest = []
        | some (.openString row column) =>
            row = (start.behind covered).row + 1 ∧ column = (start.behind covered).column
        | some (.inconsistentDedent row) =>
            ∃ count, row = count + 1 ∧ covered = (script.toLines.take count).flatten := by
  have accounts : Accounts start 0 [] script (scan script) :=
    @ScanState.accounts_scanRows .start 0 [] start script trivial (fun _ => rfl) fun _ lacks => by
      cases lacks
  unfold Accounts at accounts
  simp only [Nat.zero_add, List.nil_append] at accounts
  obtain ⟨standing, ending, covered, rest, sameTokens, parts, covers, ends, reaches⟩ := accounts
  have endingPlace : ∀ token ∈ ending, token.place = ⟨script.toLines.length, 0⟩ := by
    intro token member
    obtain ⟨-, sameRow, sameColumn⟩ := ends token member
    unfold Token.place
    rw [sameRow, sameColumn]
    rfl
  have standingStops : ∀ token ∈ standing,
      (token.place.behind token.text).precedes ⟨script.toLines.length, 0⟩ := by
    intro token member
    have covered := precedes_behind (start.behind covered) rest
    rw [← behind_append, ← parts] at covered
    exact precedes_trans (precedes_trans (covers.ordered.2 token member).2 covered)
      (behind_precedes script)
  refine ⟨?_, ?_, standing, ending, covered, rest, sameTokens, parts, covers, ends, reaches⟩
  · rw [sameTokens]
    refine List.pairwise_append.2 ⟨covers.ordered.1, ?_, ?_⟩
    · refine List.Pairwise.imp_of_mem ?_ (List.pairwise_of_forall (R := fun _ _ => True) (by simp))
      intro token other member otherMember _
      unfold Token.EndsBy
      rw [endingPlace token member, endingPlace other otherMember, (ends token member).1]
      exact ⟨precedes_refl _, precedes_refl _⟩
    · intro token member other otherMember
      unfold Token.EndsBy
      rw [endingPlace other otherMember]
      exact ⟨precedes_trans (precedes_behind _ _) (standingStops token member),
        standingStops token member⟩
  · intro token member
    rw [sameTokens] at member
    rcases List.mem_append.1 member with stands | behind
    · obtain ⟨front, later, rfl, sameRow, sameColumn⟩ := covers.exists_front stands
      refine ⟨by omega, fun _ => ⟨front, later ++ rest, ?_, sameRow, sameColumn⟩⟩
      rw [parts, List.append_assoc _ later rest]
    · obtain ⟨noText, sameRow, -⟩ := ends token behind
      exact ⟨by omega, fun hasText => absurd noText hasText⟩

end Pipescript
