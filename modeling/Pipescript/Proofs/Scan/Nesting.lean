import Pipescript.Proofs.Scan.RowRun
import Pipescript.Proofs.Scan.TokenText

/-!
# Blocks are well nested

The columns of the open blocks increase from the outermost block inwards.  Each token that opens or
ends a block stands for one change of the open blocks, so no part in front of a scan ends more
blocks than it opens, and a complete scan ends all of them.  A scan stops at the first row whose
margin is left of the innermost block and at the column of no open block.

* `OpenBlocks.Increase` is what each row keeps of the open blocks.
* `Nests` is what tokens do to the number of open blocks.
* `ScanState.Misindents` says which rows fail.
-/

namespace Pipescript

/-! ## Columns of margins -/

/-- Whether a margin reaches a column.  A tabulator reaches the first multiple of eight behind it,
and a form feed goes back to column zero. -/
inductive Text.Reaches : Text → Nat → Prop
  | start : Reaches [] 0
  | space
      {front : Text} {column : Nat} :
      Reaches front column →
      Reaches (front ++ [' ']) (column + 1)
  | tabulator
      {front : Text} {column stop : Nat} :
      Reaches front column →
      8 ∣ stop → column < stop → stop ≤ column + 8 →
      Reaches (front ++ ['\t']) stop
  | formFeed
      {front : Text} {column : Nat} :
      Reaches front column →
      Reaches (front ++ ['\x0c']) 0

theorem reaches_marginColumn
    {margin : Text}
    (isMargin : margin.all isMarginChar) :
    margin.Reaches (marginColumn margin) := by
  induction margin using List.reverseRecOn with
  | nil => exact .start
  | append_singleton front c inductionHypothesis =>
      have advanced : marginColumn (front ++ [c]) =
          marginColumn.advance (marginColumn front) c := by
        unfold marginColumn
        rw [List.foldl_append]
        rfl
      rw [List.all_append, Bool.and_eq_true] at isMargin
      have reached := inductionHypothesis isMargin.1
      have kind : (c = ' ' ∨ c = '\t') ∨ c = '\x0c' := by simpa [isMarginChar] using isMargin.2
      rw [advanced]
      rcases kind with (rfl | rfl) | rfl
      · exact .space reached
      · have stop : marginColumn.advance (marginColumn front) '\t' =
            (marginColumn front / 8 + 1) * 8 := rfl
        exact .tabulator reached (by omega) (by omega) (by omega)
      · exact .formFeed reached

/-- The column at which the content of a row begins. -/
def Text.contentColumn (line : Text) : Nat :=
  marginColumn (line.takeWhile isMarginChar)

theorem Text.drop_length_takeWhile (line : Text) (p : Char → Bool) :
    line.drop (line.takeWhile p).length = line.dropWhile p := by
  have behind := @List.drop_left _ (line.takeWhile p) (line.dropWhile p)
  rwa [List.takeWhile_append_dropWhile] at behind

/-- Content begins where the margin of its row reaches. -/
theorem Text.exists_margin (line : Text) :
    ∃ margin rest, line = margin ++ rest ∧ (∀ c ∈ rest.head?, isMarginChar c = false) ∧
      margin.Reaches line.contentColumn := by
  refine ⟨line.takeWhile isMarginChar, line.dropWhile isMarginChar,
    List.takeWhile_append_dropWhile.symm, fun c first => ?_,
    reaches_marginColumn (List.all_eq_true.2 fun c member => List.mem_takeWhile_imp member)⟩
  have stops := List.head?_dropWhile_not isMarginChar line
  rw [Option.mem_def.1 first] at stops
  simpa using stops

/-! ## Open blocks -/

namespace OpenBlocks

variable {blocks : OpenBlocks} {column : Nat}

/-- The columns at which blocks are open, the outermost one first. -/
def levels (blocks : OpenBlocks) : List Nat :=
  0 :: blocks.reverse

/-- Whether every open block is right of those around it. -/
def Increase (blocks : OpenBlocks) : Prop :=
  blocks.levels.Pairwise (· < ·)

theorem increase_iff :
    blocks.Increase ↔ (∀ open_ ∈ blocks, 0 < open_) ∧ blocks.Pairwise (· > ·) := by
  unfold Increase levels
  rw [List.pairwise_cons, List.pairwise_reverse]
  simp only [List.mem_reverse, gt_iff_lt]

/-- Blocks that are left open when others have ended still increase. -/
theorem Increase.of_sublist
    {left : OpenBlocks}
    (increase : blocks.Increase)
    (sublist : left.Sublist blocks) :
    left.Increase :=
  List.Pairwise.sublist (sublist.reverse.cons_cons 0) increase

theorem Increase.le_current
    (increase : blocks.Increase)
    {open_ : Nat}
    (member : open_ ∈ blocks) :
    open_ ≤ blocks.current := by
  obtain ⟨-, decrease⟩ := increase_iff.1 increase
  cases blocks with
  | nil => cases member
  | cons innermost outer =>
      rcases List.mem_cons.1 member with rfl | member
      · exact Nat.le_refl _
      · exact Nat.le_of_lt ((List.pairwise_cons.1 decrease).1 open_ member)

theorem Increase.enter
    (increase : blocks.Increase)
    (column : Nat) :
    (blocks.enter column).Increase := by
  unfold OpenBlocks.enter
  split
  · next deeper =>
      obtain ⟨positive, decrease⟩ := increase_iff.1 increase
      have below : ∀ open_ ∈ blocks, open_ < column := fun open_ member =>
        Nat.lt_of_le_of_lt (increase.le_current member) deeper
      refine increase_iff.2 ⟨fun open_ member => ?_, List.pairwise_cons.2 ⟨below, decrease⟩⟩
      rcases List.mem_cons.1 member with rfl | member
      · exact Nat.zero_lt_of_lt deeper
      · exact positive open_ member
  · exact increase.of_sublist (List.dropWhile_sublist _)

theorem startsAt_iff : blocks.startsAt column ↔ column ∈ blocks.levels := by
  simp [startsAt, levels]

theorem step_eq_inconsistent_iff :
    blocks.step column = .inconsistent ↔ column < blocks.current ∧ column ∉ blocks.levels := by
  unfold step
  rw [← startsAt_iff]
  split
  · next deeper => simp [Nat.not_lt_of_gt deeper]
  · next notDeeper =>
      split
      · next same => simp [same]
      · next different =>
          have left : column < blocks.current := by omega
          split
          · next listed => simp [listed]
          · next unlisted => simp [unlisted, left]

end OpenBlocks

/-! ## Tokens that open and end blocks -/

/-- How many tokens of a kind there are. -/
def countKind (kind : TokenKind) (tokens : List Token) : Nat :=
  tokens.countP (·.kind == kind)

@[simp]
theorem countKind_nil (kind : TokenKind) : countKind kind [] = 0 := rfl

@[simp]
theorem countKind_append (kind : TokenKind) (front behind : List Token) :
    countKind kind (front ++ behind) = countKind kind front + countKind kind behind :=
  List.countP_append

theorem countKind_eq_zero
    {kind : TokenKind} {tokens : List Token}
    (none : ∀ token ∈ tokens, token.kind ≠ kind) :
    countKind kind tokens = 0 :=
  List.countP_eq_zero.2 fun token member => by simpa using none token member

/-- Whether tokens lead from so many open blocks to so many others, and no part in front of them
ends more blocks than are open there. -/
structure Nests (before behind : Nat) (tokens : List Token) : Prop where
  front : ∀ front, front <+: tokens →
    countKind .dedent front ≤ before + countKind .indent front
  whole : before + countKind .indent tokens = behind + countKind .dedent tokens

namespace Nests

variable {before middle behind : Nat} {tokens front later : List Token}

theorem append
    (first : Nests before middle front)
    (second : Nests middle behind later) :
    Nests before behind (front ++ later) := by
  constructor
  · intro part inFront
    rcases List.prefix_or_prefix_of_prefix inFront (List.prefix_append front later) with
      inside | ⟨rest, rfl⟩
    · exact first.front part inside
    · have inLater : rest <+: later := (List.prefix_append_right_inj front).1 inFront
      have whole := first.whole
      have further := second.front rest inLater
      rw [countKind_append, countKind_append]
      omega
  · have whole := first.whole
    have further := second.whole
    rw [countKind_append, countKind_append]
    omega

/-- Tokens that neither open nor end a block leave the open blocks as they are. -/
theorem of_others
    (others : ∀ token ∈ tokens, token.kind ≠ .indent ∧ token.kind ≠ .dedent)
    (count : Nat) :
    Nests count count tokens := by
  have none : ∀ part, part <+: tokens →
      countKind .indent part = 0 ∧ countKind .dedent part = 0 := fun part inFront =>
    ⟨countKind_eq_zero fun token member => (others token (inFront.subset member)).1,
      countKind_eq_zero fun token member => (others token (inFront.subset member)).2⟩
  constructor
  · intro part inFront
    obtain ⟨-, noDedent⟩ := none part inFront
    omega
  · obtain ⟨noIndent, noDedent⟩ := none tokens List.prefix_rfl
    omega

theorem indent
    {token : Token}
    (opens : token.kind = .indent)
    (count : Nat) :
    Nests count (count + 1) [token] := by
  have one : countKind .indent [token] = 1 := by simp [countKind, opens]
  have none : countKind .dedent [token] = 0 := by simp [countKind, opens]
  constructor
  · intro part inFront
    have noDedent := (inFront.sublist.countP_le (p := (·.kind == .dedent))).trans none.le
    unfold countKind
    omega
  · omega

theorem dedents
    {token : Token}
    (ends : token.kind = .dedent)
    (ended left : Nat) :
    Nests (left + ended) left (List.replicate ended token) := by
  have all : countKind .dedent (List.replicate ended token) = ended := by
    simp [countKind, List.countP_replicate, ends]
  have none : countKind .indent (List.replicate ended token) = 0 := by
    simp [countKind, List.countP_replicate, ends]
  constructor
  · intro part inFront
    have bound := (inFront.sublist.countP_le (p := (·.kind == .dedent))).trans all.le
    unfold countKind
    omega
  · omega

end Nests

/-- The tokens of a margin stand for what the row does to the open blocks. -/
theorem OpenBlocks.nests_step
    (blocks : OpenBlocks) (column row : Nat) (margin : Text)
    (consistent : blocks.step column ≠ .inconsistent) :
    Nests blocks.length (blocks.enter column).length
      ((blocks.step column).tokens row margin) := by
  unfold OpenBlocks.step OpenBlocks.enter at *
  split
  · exact .indent rfl _
  · next notDeeper =>
      split
      · next same =>
          -- No block ends at the column of the innermost one.
          have kept : blocks.dropWhile (column < ·) = blocks := by
            cases blocks with
            | nil => rfl
            | cons innermost outer =>
                obtain rfl : column = innermost := same
                rw [List.dropWhile_cons, if_neg (by simp)]
          rw [kept]
          exact .of_others (fun token member => absurd member List.not_mem_nil) _
      · next different =>
          split
          · have parts := congrArg List.length
              (List.takeWhile_append_dropWhile (p := (column < ·)) (l := blocks))
            rw [List.length_append, Nat.add_comm] at parts
            nth_rewrite 1 [← parts]
            exact .dedents rfl _ _
          · next unlisted =>
              rw [if_neg notDeeper, if_neg different, if_neg unlisted] at consistent
              exact absurd rfl consistent

/-! ## The tokens of a row -/

theorem kind_of_mem_place
    {row column depth : Nat} {text : Text} {token : Token}
    (member : token ∈ (place row column depth (lexemes text)).tokens) :
    token.kind ≠ .indent ∧ token.kind ≠ .dedent ∧ token.kind ≠ .endMarker := by
  obtain ⟨c, rest, depth, kind, -⟩ := exists_lexeme_of_place member
  generalize (Lexeme.first c rest).kind = lexemeKind at kind
  cases lexemeKind with
  | blank | joint | openString => cases kind
  | comment | number | string | name | operator | stray =>
      rw [← Option.some.inj kind]
      simp
  | lineEnd =>
      rw [← Option.some.inj kind]
      split <;> simp

namespace ScanState

variable {state next : ScanState} {row : Nat} {line : Text} {tokens : List Token}

theorem nests_scanRest (state : ScanState) (row column : Nat) (rest : Text) :
    Nests state.blocks.length (state.scanRest row column rest).2.blocks.length
      (state.scanRest row column rest).1 :=
  .of_others (fun _ member => ⟨(kind_of_mem_place member).1, (kind_of_mem_place member).2.1⟩) _

/-- The tokens of a row lead from the blocks that are open before it to those behind it. -/
theorem nests_of_rowStep
    (step : RowStep row line state tokens next) :
    Nests state.blocks.length next.blocks.length tokens := by
  cases step with
  | blank | inside =>
      exact .of_others (fun token member => absurd member List.not_mem_nil) _
  | remark =>
      refine .of_others (fun token member => ?_) _
      rcases kind_of_mem_remarkTokens member with kind | kind <;> simp [kind]
  | statement c later _ _ _ _ consistent =>
      exact (state.blocks.nests_step _ row _ consistent).append
        (nests_scanRest { state with blocks := state.blocks.enter _ } row _ _)
  | continued => exact nests_scanRest state row 0 line
  | closed opened inside =>
      have literal : Nests state.blocks.length state.blocks.length
          [⟨.string, opened.text ++ inside, opened.row, opened.column⟩] :=
        .of_others (by simp) _
      exact literal.append (nests_scanRest state row _ _)
  | broken opened =>
      refine .of_others ?_ _
      simp

theorem increase_of_rowStep
    (increase : state.blocks.Increase)
    (step : RowStep row line state tokens next) :
    next.blocks.Increase := by
  cases step with
  | statement => exact increase.enter _
  | blank | remark | continued | closed | inside | broken => exact increase

end ScanState

/-! ## Where tokens begin -/

/-- The tokens of lexemes stand in their row, and a literal that they leave open begins there. -/
theorem row_of_place
    {row column depth : Nat} {later : List Lexeme} :
    (∀ token ∈ (place row column depth later).tokens, token.row = row) ∧
      ∀ opened, (place row column depth later).carry = .literal opened → opened.row = row := by
  induction later generalizing column depth with
  | nil => exact ⟨fun _ member => absurd member List.not_mem_nil, fun _ carry => by cases carry⟩
  | cons lexeme later inductionHypothesis =>
      obtain ⟨kind, text⟩ := lexeme
      cases kind with
      | blank => exact inductionHypothesis
      | joint =>
          exact ⟨fun _ member => absurd member List.not_mem_nil, fun _ carry => by cases carry⟩
      | openString quote =>
          refine ⟨fun _ member => absurd member List.not_mem_nil, fun opened carry => ?_⟩
          obtain rfl := Carry.literal.inj carry
          rfl
      | comment | lineEnd | number | string | name | operator | stray =>
          refine ⟨fun token member => ?_, inductionHypothesis.2⟩
          rcases List.mem_cons.1 member with rfl | member
          · rfl
          · exact inductionHypothesis.1 token member

theorem row_of_mem_remarkTokens
    {row column : Nat} {comment lineEnd : Text} {token : Token}
    (member : token ∈ remarkTokens row column comment lineEnd) :
    token.row = row := by
  unfold remarkTokens at member
  rcases List.mem_append.1 member with first | last
  · split at first
    · cases first
    · rw [List.mem_singleton.1 first]
  · split at last
    · cases last
    · rw [List.mem_singleton.1 last]

theorem BlockStep.row_of_mem_tokens
    {row : Nat} {margin : Text} {step : BlockStep} {token : Token}
    (member : token ∈ step.tokens row margin) :
    token.row = row := by
  cases step with
  | same | inconsistent => cases member
  | deeper => rw [List.mem_singleton.1 member]
  | outward count => rw [List.eq_of_mem_replicate member]

namespace ScanState

/-- Whether a literal that began on a row is open. -/
def IsOpenFrom (state : ScanState) (row : Nat) : Prop :=
  ∃ opened, state.carry = .literal opened ∧ opened.row = row

section RowStep

variable {state next : ScanState} {row begun : Nat} {line : Text} {tokens : List Token}
  {token : Token}

/-- No token of a row is the end marker, and each begins on the row or with a literal that is open
before it. -/
theorem begins_of_rowStep
    (step : RowStep row line state tokens next)
    (member : token ∈ tokens) :
    token.kind ≠ .endMarker ∧ (token.row = row ∨ state.IsOpenFrom token.row) := by
  have placed : ∀ {column depth : Nat} {text : Text},
      token ∈ (place row column depth (lexemes text)).tokens →
      token.kind ≠ .endMarker ∧ (token.row = row ∨ state.IsOpenFrom token.row) := fun inRest =>
    ⟨(kind_of_mem_place inRest).2.2, .inl (row_of_place.1 token inRest)⟩
  cases step with
  | blank | inside => exact absurd member List.not_mem_nil
  | remark =>
      refine ⟨?_, .inl (row_of_mem_remarkTokens member)⟩
      rcases kind_of_mem_remarkTokens member with kind | kind <;> simp [kind]
  | statement =>
      rcases List.mem_append.1 member with block | rest
      · refine ⟨?_, .inl (BlockStep.row_of_mem_tokens block)⟩
        rcases BlockStep.kind_of_mem_tokens block with kind | kind <;> simp [kind]
      · exact placed rest
  | continued => exact placed member
  | closed opened inside carry =>
      rcases List.mem_cons.1 member with rfl | rest
      · exact ⟨by simp, .inr ⟨opened, carry, rfl⟩⟩
      · exact placed rest
  | broken opened carry =>
      obtain rfl := List.mem_singleton.1 member
      exact ⟨by simp, .inr ⟨opened, carry, rfl⟩⟩

/-- A literal that is open behind a row begins on the row, or it is open before the row. -/
theorem isOpenFrom_of_rowStep
    (step : RowStep row line state tokens next)
    (open_ : next.IsOpenFrom begun) :
    begun = row ∨ state.IsOpenFrom begun := by
  obtain ⟨opened, carry, rfl⟩ := open_
  cases step with
  | blank | remark => exact .inr ⟨opened, carry, rfl⟩
  | statement | continued | closed => exact .inl (row_of_place.2 opened carry)
  | inside before isOpen =>
      obtain rfl := Carry.literal.inj carry
      exact .inr ⟨before, isOpen, rfl⟩
  | broken => cases carry

end RowStep

/-- Whether tokens and an open literal begin in the first so many rows. -/
structure Within (rows : Nat) (tokens : List Token) (state : ScanState) : Prop where
  tokens : ∀ token ∈ tokens, token.row ≤ rows
  literal : ∀ begun, state.IsOpenFrom begun → begun ≤ rows

theorem Within.rowStep
    {rows : Nat} {line : Text} {above made : List Token} {state next : ScanState}
    (within : Within rows above state)
    (step : RowStep (rows + 1) line state made next) :
    Within (rows + 1) (above ++ made) next := by
  have bound : ∀ {begun : Nat}, begun = rows + 1 ∨ state.IsOpenFrom begun → begun ≤ rows + 1 := by
    rintro begun (rfl | open_)
    · exact Nat.le_refl _
    · exact Nat.le_succ_of_le (within.literal begun open_)
  refine ⟨fun token member => ?_, fun begun open_ => bound (isOpenFrom_of_rowStep step open_)⟩
  rcases List.mem_append.1 member with earlier | here
  · exact Nat.le_succ_of_le (within.tokens token earlier)
  · exact bound (begins_of_rowStep step here).2

end ScanState

/-! ## Rows that fail -/

/-- Whether a row is blank or holds a remark alone.  A carriage return begins the line end of its row,
whatever stands behind it. -/
def Text.isBlankOrRemark (line : Text) : Bool :=
  match line.dropWhile isMarginChar with
  | [] => true
  | c :: _ => c == '#' || isLineBreakChar c

namespace ScanState

/-- Whether a row begins a statement left of the innermost block and at the column of no open
block. -/
structure Misindents (state : ScanState) (line : Text) : Prop where
  noCarry : state.carry = .nothing
  noBracket : state.depth = 0
  statement : line.isBlankOrRemark = false
  left : line.contentColumn < state.blocks.current
  unlisted : line.contentColumn ∉ state.blocks.levels

variable {state : ScanState} {row : Nat} {line : Text}

theorem scanFresh_eq_error_iff :
    state.scanFresh row line = .error (.inconsistentDedent row) ↔
      line.isBlankOrRemark = false ∧ state.blocks.step line.contentColumn = .inconsistent := by
  unfold scanFresh Text.isBlankOrRemark Text.contentColumn
  dsimp only
  rw [line.drop_length_takeWhile]
  cases line.dropWhile isMarginChar with
  | nil => simp
  | cons c later =>
      cases remark : c == '#' || isLineBreakChar c with
      | true => simp [remark]
      | false =>
          cases step : state.blocks.step (marginColumn (line.takeWhile isMarginChar)) <;>
            simp [remark]

/-- A row fails just if it is misindented. -/
theorem scanRow_eq_error_iff :
    state.scanRow row line = .error (.inconsistentDedent row) ↔ state.Misindents line := by
  constructor
  · intro failed
    have noCarry := (error_of_scanRow failed).1
    simp only [scanRow, noCarry] at failed
    split at failed
    · next noBracket =>
        obtain ⟨statement, inconsistent⟩ := scanFresh_eq_error_iff.1 failed
        obtain ⟨left, unlisted⟩ := OpenBlocks.step_eq_inconsistent_iff.1 inconsistent
        exact ⟨noCarry, noBracket, statement, left, unlisted⟩
    · cases failed
  · rintro ⟨noCarry, noBracket, statement, left, unlisted⟩
    simp only [scanRow, noCarry, noBracket, if_true]
    exact scanFresh_eq_error_iff.2
      ⟨statement, OpenBlocks.step_eq_inconsistent_iff.2 ⟨left, unlisted⟩⟩

end ScanState

/-- Whether a row of a script that the scan comes to is misindented. -/
def MisindentsAt (script : Text) (row : Nat) : Prop :=
  ∃ tokens state line, scanAbove? script row = some (tokens, state) ∧
    script.toLines[row]? = some line ∧ state.Misindents line

section Scan

variable {script : Text} {row : Nat} {tokens : List Token} {state : ScanState}

theorem nests_scanAbove?
    (above : scanAbove? script row = some (tokens, state)) :
    Nests 0 state.blocks.length tokens :=
  scanAbove?_keeps (fun _ tokens state => Nests 0 state.blocks.length tokens)
    (fun before step => before.append (ScanState.nests_of_rowStep step))
    (.of_others (fun _ member => absurd member List.not_mem_nil) 0) above

theorem increase_scanAbove?
    (above : scanAbove? script row = some (tokens, state)) :
    state.blocks.Increase :=
  scanAbove?_keeps (fun _ _ state => state.blocks.Increase)
    (fun before step => ScanState.increase_of_rowStep before step)
    (OpenBlocks.increase_iff.2 ⟨by simp [ScanState.start], .nil⟩) above

theorem within_scanAbove?
    (above : scanAbove? script row = some (tokens, state)) :
    ScanState.Within row tokens state := by
  have within := scanAbove?_keeps ScanState.Within
    (fun before step => ScanState.Within.rowStep before step)
    ⟨by simp, fun _ ⟨_, carry, _⟩ => by cases carry⟩ above
  exact ⟨fun token member => (within.tokens token member).trans (Nat.min_le_left _ _),
    fun begun open_ => (within.literal begun open_).trans (Nat.min_le_left _ _)⟩

theorem noEndMarker_scanAbove?
    (above : scanAbove? script row = some (tokens, state)) :
    ∀ token ∈ tokens, token.kind ≠ .endMarker :=
  scanAbove?_keeps (fun _ tokens _ => ∀ token ∈ tokens, token.kind ≠ .endMarker)
    (fun before step token member => (List.mem_append.1 member).elim (before token)
      fun here => (ScanState.begins_of_rowStep step here).1)
    (by simp) above

/-- A scan comes to every row that stands behind no misindented one. -/
theorem isSome_scanAbove?
    (bound : row ≤ script.toLines.length)
    (none : ∀ above < row, ¬ MisindentsAt script above) :
    (scanAbove? script row).isSome := by
  induction row with
  | zero => rfl
  | succ row inductionHypothesis =>
      obtain ⟨⟨tokens, state⟩, above⟩ := Option.isSome_iff_exists.1
        (inductionHypothesis (Nat.le_of_succ_le bound) fun earlier before =>
          none earlier (Nat.lt_succ_of_lt before))
      have here : script.toLines[row]? = some script.toLines[row] :=
        List.getElem?_eq_getElem bound
      cases scanned : state.scanRow (row + 1) script.toLines[row] with
      | error error =>
          obtain rfl := (ScanState.error_of_scanRow scanned).2
          exact absurd ⟨tokens, state, _, above, here, ScanState.scanRow_eq_error_iff.1 scanned⟩
            (none row (Nat.lt_succ_self row))
      | ok result =>
          rw [scanAbove?_succ_of_scanRow above here scanned]
          rfl

/-- A scan does not come behind a misindented row. -/
theorem not_misindentsAt_of_scanAbove?
    {earlier : Nat}
    (reached : (scanAbove? script row).isSome)
    (before : earlier < row) :
    ¬ MisindentsAt script earlier := by
  rintro ⟨tokens, state, line, above, here, misindents⟩
  obtain ⟨⟨later, next⟩, below⟩ := Option.isSome_iff_exists.1
    (isSome_scanAbove?_of_le (Nat.succ_le_of_lt before) reached)
  obtain ⟨_, _, made, same, scanned, -⟩ := exists_scanAbove?_of_succ below here
  obtain ⟨rfl, rfl⟩ := Prod.mk.inj (Option.some.inj (above.symm.trans same))
  rw [ScanState.scanRow_eq_error_iff.2 misindents] at scanned
  cases scanned

/-- A misindented row ends the scan with the tokens above it. -/
theorem scan_of_misindentsAt
    (misindents : MisindentsAt script row) :
    ∃ state, scanAbove? script row = some ((scan script).tokens, state) ∧
      (scan script).error = some (.inconsistentDedent (row + 1)) := by
  obtain ⟨tokens, state, line, above, here, misindents⟩ := misindents
  have stopped := scan_of_scanRow_error above here (ScanState.scanRow_eq_error_iff.2 misindents)
  exact ⟨state, by rw [stopped]; exact above, by rw [stopped]⟩

theorem misindentsAt_of_error
    {errorRow : Nat}
    (failed : (scan script).error = some (.inconsistentDedent errorRow)) :
    ∃ row, errorRow = row + 1 ∧ MisindentsAt script row := by
  rcases scan_cases script with
    ⟨tokens, state, last, -, same⟩ | ⟨row, line, tokens, state, here, above, stopped, same⟩
  · rw [same] at failed
    have finished : (state.finish script.toLines.length last).error =
        some (.inconsistentDedent errorRow) := failed
    unfold ScanState.finish at finished
    split at finished
    · cases finished
    · cases finished
    · split at finished <;> cases finished
  · rw [same] at failed
    obtain rfl := ScanError.inconsistentDedent.inj (Option.some.inj failed)
    exact ⟨row, rfl, tokens, state, line, above, here, ScanState.scanRow_eq_error_iff.1 stopped⟩

end Scan

/-! ## The end of a script -/

namespace ScanState

/-- The end of a script ends all blocks, and nothing is behind the end marker. -/
theorem finish_cases (state : ScanState) (rows : Nat) (lastLine : Text) :
    (∃ error, state.finish rows lastLine = ⟨[], some error⟩) ∨
      ∃ ending, state.finish rows lastLine = ⟨ending ++ [⟨.endMarker, [], rows + 1, 0⟩], none⟩ ∧
        Nests state.blocks.length 0 ending ∧ ∀ token ∈ ending, token.kind ≠ .endMarker := by
  unfold finish
  split
  · exact .inl ⟨_, rfl⟩
  · exact .inl ⟨_, rfl⟩
  · split
    · refine .inr ⟨_, rfl, ?_, ?_⟩
      · refine Nests.append (.of_others ?_ _) ?_
        · split <;> simp
        · have ends := @Nests.dedents ⟨.dedent, [], rows + 1, 0⟩ rfl state.blocks.length 0
          rwa [Nat.zero_add] at ends
      · intro token member
        rcases List.mem_append.1 member with newline | dedent
        · split at newline
          · simp [List.mem_singleton.1 newline]
          · cases newline
        · simp [List.eq_of_mem_replicate dedent]
    · exact .inl ⟨_, rfl⟩

end ScanState

/-- The tokens of a scan nest, and those of a complete one end with its only end marker. -/
theorem nests_scan (script : Text) :
    (∃ open_, Nests 0 open_ (scan script).tokens) ∧
      ((scan script).isComplete → ∃ front last, (scan script).tokens = front ++ [last] ∧
        Nests 0 0 (scan script).tokens ∧ last.kind = .endMarker ∧
        ∀ token ∈ front, token.kind ≠ .endMarker) := by
  rcases scan_cases script with
    ⟨tokens, state, last, above, same⟩ | ⟨row, line, tokens, state, -, above, -, same⟩
  · have opened := nests_scanAbove? above
    rcases state.finish_cases script.toLines.length last with
      ⟨error, failed⟩ | ⟨ending, finished, ends, unmarked⟩
    · rw [same, failed, Scan.prepend, List.append_nil]
      exact ⟨⟨_, opened⟩, fun complete => by cases complete⟩
    · have marker : Nests 0 0 [⟨.endMarker, [], script.toLines.length + 1, 0⟩] :=
        .of_others (by simp) 0
      have whole := (opened.append ends).append marker
      rw [List.append_assoc] at whole
      rw [same, finished, Scan.prepend]
      refine ⟨⟨0, whole⟩, fun _ => ⟨tokens ++ ending, _, (List.append_assoc _ _ _).symm, whole, rfl,
        fun token member => ?_⟩⟩
      exact (List.mem_append.1 member).elim (noEndMarker_scanAbove? above token) (unmarked token)
  · rw [same]
    exact ⟨⟨_, nests_scanAbove? above⟩, fun complete => by cases complete⟩

/-- Blocks are well nested.  No part in front of a scan ends more blocks than it opens; a complete
scan ends all of them before its only end marker, the last token.  Above every row the open blocks
increase from column zero, also when some of them have just ended.  A scan comes to every row that
stands behind no misindented one, and stops with an error at the first misindented one, if there is
one; then no token stands on that row.  Whether a row is misindented depends on the column that its
margin reaches. -/
theorem scan_blocks_nest (script : Text) :
    (∀ front, front <+: (scan script).tokens →
      countKind .dedent front ≤ countKind .indent front) ∧
    ((scan script).isComplete →
      countKind .indent (scan script).tokens = countKind .dedent (scan script).tokens ∧
        ∃ front last, (scan script).tokens = front ++ [last] ∧ last.kind = .endMarker ∧
          ∀ token ∈ front, token.kind ≠ .endMarker) ∧
    (∀ row tokens state ended, scanAbove? script row = some (tokens, state) →
      (OpenBlocks.levels (state.blocks.drop ended)).Pairwise (· < ·)) ∧
    (∀ row ≤ script.toLines.length, (∀ above < row, ¬ MisindentsAt script above) →
      (scanAbove? script row).isSome) ∧
    (∀ errorRow, (scan script).error = some (.inconsistentDedent errorRow) ↔
      ∃ row, errorRow = row + 1 ∧ MisindentsAt script row ∧
        ∀ above < row, ¬ MisindentsAt script above) ∧
    (∀ errorRow, (scan script).error = some (.inconsistentDedent errorRow) →
      ∀ token ∈ (scan script).tokens, token.row < errorRow) ∧
    ∀ line ∈ script.toLines, ∃ margin rest, line = margin ++ rest ∧
      (∀ c ∈ rest.head?, isMarginChar c = false) ∧ margin.Reaches line.contentColumn := by
  obtain ⟨⟨open_, nests⟩, complete⟩ := nests_scan script
  refine ⟨fun front inFront => ?_, fun isComplete => ?_, ?_, fun row => isSome_scanAbove?, ?_, ?_,
    fun line _ => line.exists_margin⟩
  · have balance := nests.front front inFront
    rwa [Nat.zero_add] at balance
  · obtain ⟨front, last, parts, balanced, marks, unmarked⟩ := complete isComplete
    have whole := balanced.whole
    rw [Nat.zero_add, Nat.zero_add] at whole
    exact ⟨whole, front, last, parts, marks, unmarked⟩
  · intro row tokens state ended above
    exact (increase_scanAbove? above).of_sublist (List.drop_sublist _ _)
  · intro errorRow
    constructor
    · intro failed
      obtain ⟨row, rfl, misindents⟩ := misindentsAt_of_error failed
      obtain ⟨state, above, -⟩ := scan_of_misindentsAt misindents
      exact ⟨row, rfl, misindents, fun earlier before =>
        not_misindentsAt_of_scanAbove? (above ▸ rfl) before⟩
    · rintro ⟨row, rfl, misindents, -⟩
      exact (scan_of_misindentsAt misindents).choose_spec.2
  · intro errorRow failed token member
    obtain ⟨row, rfl, misindents⟩ := misindentsAt_of_error failed
    obtain ⟨state, above, -⟩ := scan_of_misindentsAt misindents
    exact Nat.lt_succ_of_le ((within_scanAbove? above).tokens token member)

end Pipescript
