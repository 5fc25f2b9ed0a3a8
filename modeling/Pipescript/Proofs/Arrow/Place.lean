import Pipescript.Proofs.Text.Lines
import Pipescript.Script.Arrow

/-!
# Places in scripts

Reading a script character by character moves a place through it: a line feed leads to the start of
the next row, every other character to the next column.  Where reading has come to is where the next
character of the script stands.
-/

namespace Pipescript

namespace Arrow

/-- The place at which scripts begin. -/
def start : Arrow :=
  ⟨0, 0⟩

/-- The place behind a character. -/
def next (place : Arrow) (c : Char) : Arrow :=
  if c = '\n' then ⟨place.row + 1, 0⟩ else ⟨place.row, place.column + 1⟩

/-- The place behind a text that begins at a place. -/
def behind (place : Arrow) (text : Text) : Arrow :=
  text.foldl next place

/-- The same column some rows further down. -/
def lower (count : Nat) (place : Arrow) : Arrow :=
  ⟨place.row + count, place.column⟩

@[simp]
theorem behind_nil (place : Arrow) : place.behind [] = place := rfl

@[simp]
theorem behind_cons (place : Arrow) (c : Char) (rest : Text) :
    place.behind (c :: rest) = (place.next c).behind rest := rfl

@[simp]
theorem behind_append (place : Arrow) (left right : Text) :
    place.behind (left ++ right) = (place.behind left).behind right :=
  List.foldl_append

theorem behind_of_noFeed
    {text : Text}
    (noFeed : '\n' ∉ text)
    (place : Arrow) :
    place.behind text = ⟨place.row, place.column + text.length⟩ := by
  induction text generalizing place with
  | nil => rfl
  | cons c rest inductionHypothesis =>
      obtain ⟨notFeed, restNoFeed⟩ : ¬ c = '\n' ∧ '\n' ∉ rest := by
        simpa [eq_comm] using noFeed
      rw [behind_cons, inductionHypothesis restNoFeed, next, if_neg notFeed]
      simp only [List.length_cons, mk.injEq, true_and]
      omega

theorem next_lower (count : Nat) (place : Arrow) (c : Char) :
    (place.lower count).next c = (place.next c).lower count := by
  unfold next lower
  split
  · simp only [mk.injEq, and_true]
    omega
  · rfl

theorem behind_lower (count : Nat) (place : Arrow) (text : Text) :
    (place.lower count).behind text = (place.behind text).lower count := by
  induction text generalizing place with
  | nil => rfl
  | cons c rest inductionHypothesis =>
      rw [behind_cons, next_lower, inductionHypothesis, behind_cons]

/-- Behind a first row everything is one row further down. -/
theorem start_behind_append_feed
    {front : Text}
    (noFeed : '\n' ∉ front)
    (rest : Text) :
    start.behind (front ++ '\n' :: rest) = (start.behind rest).lower 1 := by
  rw [behind_append, behind_of_noFeed noFeed, behind_cons, ← behind_lower]
  rfl

/-- Changing characters but no line feeds moves nothing. -/
theorem behind_of_forall₂
    {related : Char → Char → Prop}
    (keepsFeeds : Text.KeepsFeeds related)
    {text changed : Text}
    (pairs : List.Forall₂ related text changed)
    (place : Arrow) :
    place.behind changed = place.behind text := by
  induction pairs generalizing place with
  | nil => rfl
  | @cons c d rest changedRest first later inductionHypothesis =>
      have sameStep : place.next d = place.next c := by
        simp only [next, keepsFeeds c d first]
      rw [behind_cons, behind_cons, sameStep, inductionHypothesis]

end Arrow

/-! ## Characters at places -/

open Arrow

/-- The character behind a text stands at the place behind it. -/
theorem Text.charAt?_behind (before : Text) (c : Char) (rest : Text) :
    charAt? (before ++ c :: rest) (start.behind before).row (start.behind before).column =
      some c := by
  induction before using lineInduction with
  | empty => exact charAt?_append_zero List.not_mem_nil c rest
  | last line _ noFeed =>
      rw [behind_of_noFeed noFeed]
      simpa [start] using charAt?_append_zero noFeed c rest
  | line front before noFeed inductionHypothesis =>
      rw [start_behind_append_feed noFeed, List.append_assoc, List.cons_append]
      exact (charAt?_append_feed_succ noFeed _ _ _).trans inductionHypothesis

/-- Two characters side by side, the first of them no line feed. -/
theorem Text.charAt?_pair
    {c : Char}
    (noFeed : c ≠ '\n')
    (front : Text) (d : Char) (behind : Text) :
    let place := start.behind front
    charAt? (front ++ [c, d] ++ behind) place.row place.column = some c ∧
      charAt? (front ++ [c, d] ++ behind) place.row (place.column + 1) = some d := by
  have second : start.behind (front ++ [c]) =
      ⟨(start.behind front).row, (start.behind front).column + 1⟩ := by
    rw [behind_append, behind_of_noFeed (by simpa using noFeed.symm)]
    rfl
  constructor
  · simpa using charAt?_behind front c (d :: behind)
  · simpa [second] using charAt?_behind (front ++ [c]) d behind

/-- A character at a row and a column stands at some index of the text. -/
theorem Text.exists_index_of_charAt?
    {text : Text} {row column : Nat} {c : Char}
    (found : text.charAt? row column = some c) :
    ∃ index : Nat, text[index]? = some c ∧
      start.behind (text.take index) = ⟨row, column⟩ := by
  induction text using lineInduction generalizing row with
  | empty => simp at found
  | last line _ noFeed =>
      rw [charAt?_of_noFeed noFeed] at found
      split at found
      · next firstRow =>
          have inside := (List.getElem?_eq_some_iff.1 found).1
          refine ⟨column, found, ?_⟩
          rw [behind_of_noFeed fun feed => noFeed (List.mem_of_mem_take feed),
            List.length_take, Nat.min_eq_left (Nat.le_of_lt inside), firstRow]
          simp [start]
      · simp at found
  | line front rest noFeed inductionHypothesis =>
      cases row with
      | zero =>
          rw [charAt?_append_feed_zero noFeed] at found
          have inside : column ≤ front.length := by
            have bound := (List.getElem?_eq_some_iff.1 found).1
            rw [List.length_append, List.length_singleton] at bound
            omega
          refine ⟨column, ?_, ?_⟩
          · rw [List.append_cons, List.getElem?_append_left (by simp; omega)]
            exact found
          · rw [List.take_append_of_le_length inside,
              behind_of_noFeed fun feed => noFeed (List.mem_of_mem_take feed),
              List.length_take, Nat.min_eq_left inside]
            simp [start]
      | succ row =>
          rw [charAt?_append_feed_succ noFeed] at found
          obtain ⟨index, here, place⟩ := inductionHypothesis found
          refine ⟨front.length + 1 + index, ?_, ?_⟩
          · rw [List.append_cons, List.getElem?_append_right (by simp)]
            simpa [Nat.add_sub_cancel_left] using here
          · have taken : (front ++ '\n' :: rest).take (front.length + 1 + index) =
                front ++ '\n' :: rest.take index := by
              rw [List.append_cons, List.take_append, List.append_cons front '\n' (rest.take index)]
              congr 1
              · rw [List.take_of_length_le (by simp)]
              · congr 1
                simp
            rw [taken, start_behind_append_feed noFeed, place]
            rfl

theorem Text.charAt?_of_index
    {text : Text} {index : Nat} {c : Char}
    (here : text[index]? = some c) :
    text.charAt? (start.behind (text.take index)).row
      (start.behind (text.take index)).column = some c := by
  obtain ⟨bound, rfl⟩ := List.getElem?_eq_some_iff.1 here
  have parts : text = text.take index ++ text[index] :: text.drop (index + 1) := by
    rw [List.getElem_cons_drop, List.take_append_drop]
  have found := charAt?_behind (text.take index) text[index] (text.drop (index + 1))
  rwa [← parts] at found

end Pipescript
