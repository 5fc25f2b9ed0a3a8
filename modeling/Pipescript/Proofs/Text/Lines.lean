import Mathlib.Data.List.Forall2
import Pipescript.Text.Lines

/-!
# Lines and line feeds

The lines of a text follow from its line feeds alone.  So a change of characters that touches no
line feed changes every line by itself, and a character keeps its row and its column.

* `lineInduction` takes a text apart line by line.
* `charAt?` looks a character up by its row and its column.
* `forall₂_toLines` carries a relation between the characters of two texts over to their lines.
-/

namespace Pipescript

namespace Text

/-! ## Taking lines off -/

theorem toLines_feed (rest : Text) : toLines ('\n' :: rest) = ['\n'] :: toLines rest := by
  rw [toLines, if_pos rfl]

/-- A character that ends no line is in front of the first line behind it. -/
theorem toLines_cons_of_ne
    {c : Char}
    (notFeed : c ≠ '\n')
    (rest : Text) :
    toLines (c :: rest) = (c :: rest.toLines.headD []) :: rest.toLines.tail := by
  rw [toLines, if_neg notFeed]
  cases rest.toLines <;> rfl

theorem toLines_of_noFeed
    {text : Text}
    (nonempty : text ≠ [])
    (noFeed : '\n' ∉ text) :
    text.toLines = [text] := by
  induction text with
  | nil => exact absurd rfl nonempty
  | cons c rest inductionHypothesis =>
      obtain ⟨notFeed, restNoFeed⟩ : ¬ c = '\n' ∧ '\n' ∉ rest := by
        simpa [eq_comm] using noFeed
      rw [toLines, if_neg notFeed]
      cases rest with
      | nil => rfl
      | cons next later =>
          rw [inductionHypothesis (List.cons_ne_nil _ _) restNoFeed]

theorem toLines_append_feed
    {front : Text}
    (noFeed : '\n' ∉ front)
    (rest : Text) :
    toLines (front ++ '\n' :: rest) = (front ++ ['\n']) :: toLines rest := by
  induction front with
  | nil => exact toLines_feed rest
  | cons c front inductionHypothesis =>
      obtain ⟨notFeed, frontNoFeed⟩ : ¬ c = '\n' ∧ '\n' ∉ front := by
        simpa [eq_comm] using noFeed
      rw [List.cons_append, toLines, if_neg notFeed, inductionHypothesis frontNoFeed]
      rfl

/-- A text that begins without a line feed has this beginning in its first line, and so the
character behind it. -/
theorem exists_firstLine
    {front : Text}
    (noFeed : '\n' ∉ front)
    (c : Char) (rest : Text) :
    ∃ later lines, toLines (front ++ c :: rest) = (front ++ c :: later) :: lines := by
  induction front with
  | nil =>
      rw [List.nil_append, toLines]
      split
      · exact ⟨[], toLines rest, rfl⟩
      · cases toLines rest with
        | nil => exact ⟨[], [], rfl⟩
        | cons line lines => exact ⟨line, lines, rfl⟩
  | cons d front inductionHypothesis =>
      obtain ⟨notFeed, frontNoFeed⟩ : ¬ d = '\n' ∧ '\n' ∉ front := by
        simpa [eq_comm] using noFeed
      obtain ⟨later, lines, firstLine⟩ := inductionHypothesis frontNoFeed
      refine ⟨later, lines, ?_⟩
      rw [List.cons_append, toLines, if_neg notFeed, firstLine]
      rfl

/-- A text is empty, or a line without a line feed, or a line with its line feed before a text. -/
@[elab_as_elim]
theorem lineInduction
    {motive : Text → Prop}
    (empty : motive [])
    (last : ∀ line : Text, line ≠ [] → '\n' ∉ line → motive line)
    (line : ∀ front rest : Text, '\n' ∉ front → motive rest → motive (front ++ '\n' :: rest))
    (text : Text) :
    motive text := by
  -- What comes before the rest is the part of its first line that has been read.
  have general : ∀ (rest front : Text), '\n' ∉ front → motive (front ++ rest) := by
    intro rest
    induction rest with
    | nil =>
        intro front noFeed
        rw [List.append_nil]
        by_cases nothing : front = []
        · exact nothing ▸ empty
        · exact last front nothing noFeed
    | cons c rest inductionHypothesis =>
        intro front noFeed
        by_cases feed : c = '\n'
        · subst feed
          exact line front rest noFeed (inductionHypothesis [] (by simp))
        · have longer : motive (front ++ [c] ++ rest) := by
            apply inductionHypothesis
            simp [noFeed, Ne.symm feed]
          simpa using longer
  exact general text [] (by simp)

/-! ## Characters by row and column -/

/-- The character at a row and a column.  The line feed of a row is its last character. -/
def charAt? (text : Text) (row column : Nat) : Option Char :=
  text.toLines[row]?.bind fun rowText => rowText[column]?

@[simp]
theorem charAt?_nil (row column : Nat) : charAt? [] row column = none := rfl

@[simp]
theorem charAt?_append_feed_succ
    {front : Text}
    (noFeed : '\n' ∉ front)
    (rest : Text) (row column : Nat) :
    charAt? (front ++ '\n' :: rest) (row + 1) column = charAt? rest row column := by
  simp only [charAt?, toLines_append_feed noFeed, List.getElem?_cons_succ]

theorem charAt?_append_feed_zero
    {front : Text}
    (noFeed : '\n' ∉ front)
    (rest : Text) (column : Nat) :
    charAt? (front ++ '\n' :: rest) 0 column = (front ++ ['\n'])[column]? := by
  simp only [charAt?, toLines_append_feed noFeed, List.getElem?_cons_zero, Option.bind_some]

theorem charAt?_append_zero
    {front : Text}
    (noFeed : '\n' ∉ front)
    (c : Char) (rest : Text) :
    charAt? (front ++ c :: rest) 0 front.length = some c := by
  obtain ⟨later, lines, firstLine⟩ := exists_firstLine noFeed c rest
  simp [charAt?, firstLine]

theorem charAt?_of_noFeed
    {rowText : Text}
    (noFeed : '\n' ∉ rowText)
    (row column : Nat) :
    charAt? rowText row column = if row = 0 then rowText[column]? else none := by
  by_cases nothing : rowText = []
  · simp [nothing]
  · cases row with
    | zero => simp [charAt?, toLines_of_noFeed nothing noFeed]
    | succ row => simp [charAt?, toLines_of_noFeed nothing noFeed]

theorem charAt?_eq_some_iff
    {text : Text} {row column : Nat} {c : Char} :
    charAt? text row column = some c ↔
      ∃ rowText, text.toLines[row]? = some rowText ∧ rowText[column]? = some c :=
  Option.bind_eq_some_iff

theorem charAt?_eq_of_row_eq
    {text changed : Text} {row : Nat}
    (same : changed.toLines[row]? = text.toLines[row]?)
    (column : Nat) :
    changed.charAt? row column = text.charAt? row column := by
  rw [charAt?, same, charAt?]

/-! ## Changes that touch no line feed -/

/-- Whether a relation between characters relates line feeds to line feeds only. -/
def KeepsFeeds (related : Char → Char → Prop) : Prop :=
  ∀ c changed : Char, related c changed → (c = '\n' ↔ changed = '\n')

section Changes

variable {related : Char → Char → Prop}

/-- Texts that are related character by character have lines that are, one by one. -/
theorem forall₂_toLines
    (keepsFeeds : KeepsFeeds related)
    {text changed : Text}
    (pairs : List.Forall₂ related text changed) :
    List.Forall₂ (List.Forall₂ related) text.toLines changed.toLines := by
  induction pairs with
  | nil => exact List.Forall₂.nil
  | @cons c d rest changedRest first later inductionHypothesis =>
      by_cases feed : c = '\n'
      · have changedFeed : d = '\n' := (keepsFeeds c d first).1 feed
        rw [toLines, if_pos feed, toLines, if_pos changedFeed]
        exact List.Forall₂.cons (List.Forall₂.cons first List.Forall₂.nil) inductionHypothesis
      · have changedNoFeed : ¬ d = '\n' := fun equal => feed ((keepsFeeds c d first).2 equal)
        rw [toLines, if_neg feed, toLines, if_neg changedNoFeed]
        generalize toLines rest = lines, toLines changedRest = changedLines
          at inductionHypothesis ⊢
        cases inductionHypothesis with
        | nil =>
            exact List.Forall₂.cons (List.Forall₂.cons first List.Forall₂.nil) List.Forall₂.nil
        | cons line later =>
            exact List.Forall₂.cons (List.Forall₂.cons first line) later

theorem rel_getElem?_of_forall₂
    {alpha beta : Type} {related : alpha → beta → Prop}
    {items : List alpha} {changed : List beta}
    (pairs : List.Forall₂ related items changed)
    (index : Nat) :
    Option.Rel related items[index]? changed[index]? := by
  induction pairs generalizing index with
  | nil => exact Option.Rel.none
  | cons first later inductionHypothesis =>
      cases index with
      | zero => exact Option.Rel.some first
      | succ index => exact inductionHypothesis index

/-- What is in front of a text and is not changed is in front of the changed text. -/
theorem isPrefix_of_forall₂
    {front text changed : Text}
    (kept : ∀ c ∈ front, ∀ d, related c d → d = c)
    (pairs : List.Forall₂ related text changed)
    (isFront : front <+: text) :
    front <+: changed := by
  induction front generalizing text changed with
  | nil => exact List.nil_prefix
  | cons c front inductionHypothesis =>
      obtain ⟨rest, rfl⟩ := isFront
      obtain ⟨d, changedRest, first, later, rfl⟩ := List.forall₂_cons_left_iff.1 pairs
      rw [kept c List.mem_cons_self d first]
      refine (List.prefix_cons_inj c).2 ?_
      exact inductionHypothesis
        (fun e member => kept e (List.mem_cons_of_mem _ member)) later (List.prefix_append _ _)

/-- Characters at the same row and column of related texts are related. -/
theorem rel_charAt?
    (keepsFeeds : KeepsFeeds related)
    {text changed : Text}
    (pairs : List.Forall₂ related text changed)
    (row column : Nat) :
    Option.Rel related (text.charAt? row column) (changed.charAt? row column) := by
  have lines := rel_getElem?_of_forall₂ (forall₂_toLines keepsFeeds pairs) row
  unfold charAt?
  generalize text.toLines[row]? = line, changed.toLines[row]? = changedLine at lines ⊢
  cases lines with
  | none => exact Option.Rel.none
  | some related => exact rel_getElem?_of_forall₂ related column

/-- A character of a changed text is what became of the one at its row and column. -/
theorem exists_related_of_charAt?
    (keepsFeeds : KeepsFeeds related)
    {text changed : Text}
    (pairs : List.Forall₂ related text changed)
    {row column : Nat} {d : Char}
    (found : changed.charAt? row column = some d) :
    ∃ c, text.charAt? row column = some c ∧ related c d := by
  have here := rel_charAt? keepsFeeds pairs row column
  rw [found] at here
  generalize text.charAt? row column = before at here ⊢
  cases here with
  | @some c _ kept => exact ⟨c, rfl, kept⟩

theorem related_of_charAt?
    (keepsFeeds : KeepsFeeds related)
    {text changed : Text}
    (pairs : List.Forall₂ related text changed)
    {row column : Nat} {c d : Char}
    (here : text.charAt? row column = some c)
    (found : changed.charAt? row column = some d) :
    related c d := by
  obtain ⟨original, before, kept⟩ := exists_related_of_charAt? keepsFeeds pairs found
  obtain rfl := Option.some.inj (before.symm.trans here)
  exact kept

/-- Rows that differ do so at some column. -/
theorem exists_changed_of_ne
    (keepsFeeds : KeepsFeeds related)
    {text changed : Text}
    (pairs : List.Forall₂ related text changed)
    {row : Nat}
    (different : changed.toLines[row]? ≠ text.toLines[row]?) :
    ∃ column c d, text.charAt? row column = some c ∧ changed.charAt? row column = some d ∧
      c ≠ d := by
  have lines := rel_getElem?_of_forall₂ (forall₂_toLines keepsFeeds pairs) row
  unfold charAt?
  generalize text.toLines[row]? = rowText, changed.toLines[row]? = changedLine at lines different ⊢
  cases lines with
  | none => exact absurd rfl different
  | @some rowText changedLine kept =>
      by_contra noChange
      refine different (congrArg some (List.ext_getElem? fun column => ?_))
      have here := rel_getElem?_of_forall₂ kept column
      cases before : rowText[column]? with
      | none =>
          rw [before] at here
          generalize changedLine[column]? = after at here ⊢
          cases here
          rfl
      | some c =>
          rw [before] at here
          cases after : changedLine[column]? with
          | none => rw [after] at here; cases here
          | some d =>
              by_contra unequal
              exact noChange ⟨column, c, d, before, after, fun same => unequal (by rw [same])⟩

end Changes

end Text

end Pipescript
