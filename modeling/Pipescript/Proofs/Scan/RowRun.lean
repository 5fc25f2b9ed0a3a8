import Pipescript.Proofs.Scan.Lossless

/-!
# Scanning up to a row

Between two rows of a script stand the tokens of the rows above and what the scan knows there.
What one row keeps, all rows above a place keep.  A scan either comes to the end of its rows and
finishes there, or it stops at the row that fails; `scanRows_cases` tells these apart.
-/

namespace Pipescript

namespace ScanState

/-- The tokens of some rows behind the first `rows` ones and the state behind them, unless one of
the rows fails. -/
def through? (state : ScanState) (rows : Nat) : List Text → Option (List Token × ScanState)
  | [] => some ([], state)
  | line :: lines =>
      match state.scanRow (rows + 1) line with
      | .error _ => none
      | .ok (tokens, next) =>
          (next.through? (rows + 1) lines).map fun (later, last) => (tokens ++ later, last)

variable {state next : ScanState} {rows : Nat} {line : Text} {lines : List Text}
  {tokens : List Token}

@[simp]
theorem through?_nil (state : ScanState) (rows : Nat) : state.through? rows [] = some ([], state) :=
  rfl

theorem through?_cons_eq_some_iff :
    state.through? rows (line :: lines) = some (tokens, next) ↔
      ∃ made middle later, state.scanRow (rows + 1) line = .ok (made, middle) ∧
        middle.through? (rows + 1) lines = some (later, next) ∧ tokens = made ++ later := by
  rw [through?]
  cases scanned : state.scanRow (rows + 1) line with
  | error error => simp
  | ok result =>
      obtain ⟨made, middle⟩ := result
      simp only [Option.map_eq_some_iff, Prod.mk.injEq, Prod.exists, Except.ok.injEq]
      constructor
      · rintro ⟨later, last, found, rfl, rfl⟩
        exact ⟨made, middle, later, ⟨rfl, rfl⟩, found, rfl⟩
      · rintro ⟨_, _, later, ⟨rfl, rfl⟩, found, rfl⟩
        exact ⟨later, next, found, rfl, rfl⟩

theorem through?_singleton
    (scanned : state.scanRow (rows + 1) line = .ok (tokens, next)) :
    state.through? rows [line] = some (tokens, next) :=
  through?_cons_eq_some_iff.2 ⟨tokens, next, [], scanned, rfl, (List.append_nil tokens).symm⟩

/-- Rows are gone through one part after the other. -/
theorem through?_append
    (front behind : List Text) :
    state.through? rows (front ++ behind) =
      (state.through? rows front).bind fun (tokens, middle) =>
        (middle.through? (rows + front.length) behind).map fun (later, last) =>
          (tokens ++ later, last) := by
  induction front generalizing state rows with
  | nil => simp
  | cons line front inductionHypothesis =>
      rw [List.cons_append, through?, through?]
      cases state.scanRow (rows + 1) line with
      | error error => rfl
      | ok result =>
          obtain ⟨made, middle⟩ := result
          dsimp only
          rw [inductionHypothesis, List.length_cons, Nat.add_assoc, Nat.add_comm 1]
          cases middle.through? (rows + 1) front with
          | none => rfl
          | some found =>
              simp only [Option.bind_some, Option.map_some, Option.map_map, Function.comp_def,
                List.append_assoc]

/-- What every row keeps holds behind all of them. -/
theorem through?_keeps
    (holds : Nat → List Token → ScanState → Prop)
    (kept : ∀ {rows line above state made next}, holds rows above state →
      RowStep (rows + 1) line state made next → holds (rows + 1) (above ++ made) next)
    {above : List Token}
    (before : holds rows above state)
    (found : state.through? rows lines = some (tokens, next)) :
    holds (rows + lines.length) (above ++ tokens) next := by
  induction lines generalizing state rows above tokens with
  | nil =>
      obtain ⟨rfl, rfl⟩ := Prod.mk.inj (Option.some.inj found)
      rwa [List.append_nil]
  | cons line lines inductionHypothesis =>
      obtain ⟨made, middle, later, scanned, further, rfl⟩ := through?_cons_eq_some_iff.1 found
      have behind := inductionHypothesis (kept before (rowStep_of_scanRow scanned)) further
      rwa [List.append_assoc, Nat.add_assoc, Nat.add_comm 1] at behind

/-- The rows behind some others are scanned from the state behind those. -/
theorem scanRows_of_through?
    (found : state.through? rows lines = some (tokens, next))
    (lastLine : Text) (behind : List Text) :
    ∃ last, state.scanRows rows lastLine (lines ++ behind) =
      (next.scanRows (rows + lines.length) last behind).prepend tokens := by
  induction lines generalizing state rows lastLine tokens with
  | nil =>
      obtain ⟨rfl, rfl⟩ := Prod.mk.inj (Option.some.inj found)
      exact ⟨lastLine, rfl⟩
  | cons line lines inductionHypothesis =>
      obtain ⟨made, middle, later, scanned, further, rfl⟩ := through?_cons_eq_some_iff.1 found
      obtain ⟨last, same⟩ := inductionHypothesis further line
      refine ⟨last, ?_⟩
      rw [List.cons_append, scanRows, scanned, List.length_cons, ← Nat.add_assoc,
        Nat.add_right_comm]
      dsimp only
      rw [same]
      simp only [Scan.prepend, List.append_assoc]

/-- A scan goes through all its rows and finishes, or it stops at the first one that fails. -/
theorem scanRows_cases (state : ScanState) (rows : Nat) (lastLine : Text) (lines : List Text) :
    (∃ tokens next last, state.through? rows lines = some (tokens, next) ∧
      state.scanRows rows lastLine lines =
        (next.finish (rows + lines.length) last).prepend tokens) ∨
    ∃ front line behind tokens middle, lines = front ++ line :: behind ∧
      state.through? rows front = some (tokens, middle) ∧
      middle.scanRow (rows + front.length + 1) line =
        .error (.inconsistentDedent (rows + front.length + 1)) ∧
      state.scanRows rows lastLine lines =
        ⟨tokens, some (.inconsistentDedent (rows + front.length + 1))⟩ := by
  induction lines generalizing state rows lastLine with
  | nil => exact .inl ⟨[], state, lastLine, rfl, rfl⟩
  | cons line lines inductionHypothesis =>
      rw [scanRows]
      cases scanned : state.scanRow (rows + 1) line with
      | error error =>
          obtain rfl := (error_of_scanRow scanned).2
          exact .inr ⟨[], line, lines, [], state, rfl, rfl, scanned, rfl⟩
      | ok result =>
          obtain ⟨made, middle⟩ := result
          have sum : rows + 1 + lines.length = rows + (line :: lines).length := by
            rw [List.length_cons]
            omega
          rcases inductionHypothesis middle (rows + 1) line with
            ⟨later, next, last, found, same⟩ |
              ⟨front, failing, behind, later, stop, rfl, found, failed, same⟩
          · refine .inl ⟨made ++ later, next, last,
              through?_cons_eq_some_iff.2 ⟨made, middle, later, scanned, found, rfl⟩, ?_⟩
            dsimp only
            rw [same, sum]
            simp only [Scan.prepend, List.append_assoc]
          · have count : rows + 1 + front.length = rows + (line :: front).length := by
              rw [List.length_cons]
              omega
            rw [count] at failed same
            refine .inr ⟨line :: front, failing, behind, made ++ later, stop, rfl,
              through?_cons_eq_some_iff.2 ⟨made, middle, later, scanned, found, rfl⟩, failed, ?_⟩
            dsimp only
            rw [same]
            rfl

end ScanState

/-- The tokens of the rows above a row and the state of the scan there, unless a row above fails. -/
def scanAbove? (script : Text) (row : Nat) : Option (List Token × ScanState) :=
  ScanState.start.through? 0 (script.toLines.take row)

section scanAbove

variable {script line : Text} {row : Nat} {tokens made : List Token} {state next : ScanState}

/-- What every row of a script keeps holds above each of its rows and behind the last one. -/
theorem scanAbove?_keeps
    (holds : Nat → List Token → ScanState → Prop)
    (kept : ∀ {rows line above state made next}, holds rows above state →
      ScanState.RowStep (rows + 1) line state made next → holds (rows + 1) (above ++ made) next)
    (before : holds 0 [] ScanState.start)
    (above : scanAbove? script row = some (tokens, state)) :
    holds (min row script.toLines.length) tokens state := by
  have behind := ScanState.through?_keeps holds kept before above
  rwa [List.length_take, Nat.zero_add] at behind

theorem scanAbove?_succ
    (above : scanAbove? script row = some (tokens, state))
    (here : script.toLines[row]? = some line) :
    scanAbove? script (row + 1) =
      (state.through? row [line]).map fun (made, next) => (tokens ++ made, next) := by
  obtain ⟨bound, -⟩ := List.getElem?_eq_some_iff.1 here
  unfold scanAbove? at above ⊢
  rw [List.take_add_one, here, ScanState.through?_append, above, Option.bind_some,
    List.length_take_of_le (Nat.le_of_lt bound), Nat.zero_add]
  rfl

/-- Above a row stands what the rows up to it have made. -/
theorem scanAbove?_succ_of_scanRow
    (above : scanAbove? script row = some (tokens, state))
    (here : script.toLines[row]? = some line)
    (scanned : state.scanRow (row + 1) line = .ok (made, next)) :
    scanAbove? script (row + 1) = some (tokens ++ made, next) := by
  rw [scanAbove?_succ above here, ScanState.through?_singleton scanned]
  rfl

/-- The rows above a row do not fail if it is reached. -/
theorem exists_scanAbove?_of_succ
    (below : scanAbove? script (row + 1) = some (tokens, next))
    (here : script.toLines[row]? = some line) :
    ∃ above state made, scanAbove? script row = some (above, state) ∧
      state.scanRow (row + 1) line = .ok (made, next) ∧ tokens = above ++ made := by
  obtain ⟨bound, -⟩ := List.getElem?_eq_some_iff.1 here
  unfold scanAbove? at below ⊢
  rw [List.take_add_one, here, ScanState.through?_append, Option.bind_eq_some_iff] at below
  obtain ⟨⟨above, state⟩, found, further⟩ := below
  obtain ⟨⟨made, last⟩, one, parts⟩ := Option.map_eq_some_iff.1 further
  obtain ⟨rfl, rfl⟩ := Prod.mk.inj parts
  rw [List.length_take_of_le (Nat.le_of_lt bound), Nat.zero_add, Option.toList_some] at one
  obtain ⟨first, middle, later, scanned, nothing, rfl⟩ := ScanState.through?_cons_eq_some_iff.1 one
  obtain ⟨rfl, rfl⟩ := Prod.mk.inj (Option.some.inj nothing)
  exact ⟨above, state, first, found, scanned, by rw [List.append_nil]⟩

/-- A row is reached if one below it is. -/
theorem isSome_scanAbove?_of_le
    {below : Nat}
    (le : row ≤ below)
    (reached : (scanAbove? script below).isSome) :
    (scanAbove? script row).isSome := by
  unfold scanAbove? at reached ⊢
  rw [← List.take_append_drop row (script.toLines.take below), List.take_take, Nat.min_eq_left le,
    ScanState.through?_append] at reached
  exact Option.isSome_of_isSome_bind reached

/-- The tokens above a row are the first ones of the whole script. -/
theorem tokens_isPrefix_of_scanAbove?
    (above : scanAbove? script row = some (tokens, state)) :
    tokens <+: (scan script).tokens := by
  obtain ⟨last, same⟩ := ScanState.scanRows_of_through? above [] (script.toLines.drop row)
  rw [List.take_append_drop] at same
  unfold scan
  rw [same]
  exact List.prefix_append _ _

/-- At a row that fails the scan stops with the tokens above it. -/
theorem scan_of_scanRow_error
    {error : ScanError}
    (above : scanAbove? script row = some (tokens, state))
    (here : script.toLines[row]? = some line)
    (failed : state.scanRow (row + 1) line = .error error) :
    scan script = ⟨tokens, some error⟩ := by
  obtain ⟨bound, rfl⟩ := List.getElem?_eq_some_iff.1 here
  obtain ⟨last, same⟩ := ScanState.scanRows_of_through? above [] (script.toLines.drop row)
  rw [List.take_append_drop, List.length_take_of_le (Nat.le_of_lt bound), Nat.zero_add,
    List.drop_eq_getElem_cons bound, ScanState.scanRows, failed] at same
  unfold scan
  rw [same, Scan.prepend, List.append_nil]

end scanAbove

/-- A scan comes to the end of its script and finishes there, or it stops at a row that fails. -/
theorem scan_cases (script : Text) :
    (∃ tokens state last, scanAbove? script script.toLines.length = some (tokens, state) ∧
      scan script = (state.finish script.toLines.length last).prepend tokens) ∨
    ∃ row line tokens state, script.toLines[row]? = some line ∧
      scanAbove? script row = some (tokens, state) ∧
      state.scanRow (row + 1) line = .error (.inconsistentDedent (row + 1)) ∧
      scan script = ⟨tokens, some (.inconsistentDedent (row + 1))⟩ := by
  unfold scanAbove? scan
  rcases ScanState.scanRows_cases .start 0 [] script.toLines with
    ⟨tokens, state, last, found, same⟩ |
      ⟨front, line, behind, tokens, state, parts, found, failed, same⟩
  · rw [Nat.zero_add] at same
    exact .inl ⟨tokens, state, last, by rwa [List.take_length], same⟩
  · rw [Nat.zero_add] at failed same
    refine .inr ⟨front.length, line, tokens, state, ?_, ?_, failed, same⟩
    · rw [parts, List.getElem?_append_right (Nat.le_refl _), Nat.sub_self]
      rfl
    · rwa [parts, List.take_left]

end Pipescript
