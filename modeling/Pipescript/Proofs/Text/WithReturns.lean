import Mathlib.Data.List.TakeWhile
import Pipescript.Proofs.Arrow.Place

/-!
# Line ends with carriage returns

The same text may be written with a carriage return before each line feed.  All other characters
stay, so do the lines and the places at which they begin, and whatever is read up to a line end is
read alike.
-/

namespace Pipescript

namespace Text

/-- A text with a carriage return put before each line feed. -/
def withReturns (text : Text) : Text :=
  text.flatMap fun c => if c = '\n' then ['\r', '\n'] else [c]

@[simp]
theorem withReturns_nil : withReturns [] = [] := rfl

@[simp]
theorem withReturns_feed (rest : Text) : withReturns ('\n' :: rest) = '\r' :: '\n' :: rest.withReturns :=
  rfl

theorem withReturns_cons
    {c : Char}
    (notFeed : c ≠ '\n')
    (rest : Text) :
    withReturns (c :: rest) = c :: rest.withReturns := by
  unfold withReturns
  rw [List.flatMap_cons, if_neg notFeed]
  rfl

@[simp]
theorem withReturns_append (left right : Text) :
    withReturns (left ++ right) = left.withReturns ++ right.withReturns :=
  List.flatMap_append

theorem flatten_map_withReturns (texts : List Text) :
    (texts.map withReturns).flatten = withReturns texts.flatten := by
  induction texts with
  | nil => rfl
  | cons text later inductionHypothesis =>
      rw [List.map_cons, List.flatten_cons, inductionHypothesis, List.flatten_cons, withReturns_append]

theorem withReturns_of_noFeed
    {text : Text}
    (noFeed : '\n' ∉ text) :
    text.withReturns = text := by
  induction text with
  | nil => rfl
  | cons c rest inductionHypothesis =>
      obtain ⟨notFeed, restNoFeed⟩ : ¬ c = '\n' ∧ '\n' ∉ rest := by
        simpa [eq_comm] using noFeed
      rw [withReturns_cons notFeed, inductionHypothesis restNoFeed]

theorem withReturns_eq_nil_iff {text : Text} : text.withReturns = [] ↔ text = [] := by
  cases text with
  | nil => simp
  | cons c rest =>
      by_cases feed : c = '\n'
      · simp [feed]
      · simp [withReturns_cons feed]

/-- No line feed comes first. -/
theorem head?_withReturns_ne_feed (text : Text) : text.withReturns.head? ≠ some '\n' := by
  cases text with
  | nil => simp
  | cons c rest =>
      by_cases feed : c = '\n'
      · simp [feed]
      · simpa [withReturns_cons feed] using feed

theorem withReturns_injective : Function.Injective withReturns := by
  intro text
  induction text with
  | nil =>
      intro other same
      exact (withReturns_eq_nil_iff.1 same.symm).symm
  | cons c rest inductionHypothesis =>
      intro other same
      -- A line feed comes behind its carriage return only, so no other character stands for both.
      have apart : ∀ {d : Char} {left right : Text}, d ≠ '\n' →
          withReturns ('\n' :: left) = withReturns (d :: right) → False := by
        intro d left right notFeed same
        rw [withReturns_feed, withReturns_cons notFeed] at same
        refine head?_withReturns_ne_feed right ?_
        rw [← (List.cons.inj same).2]
        rfl
      cases other with
      | nil => exact absurd (withReturns_eq_nil_iff.1 same) (List.cons_ne_nil _ _)
      | cons d other =>
          by_cases feed : c = '\n'
          · by_cases otherFeed : d = '\n'
            · subst feed otherFeed
              rw [withReturns_feed, withReturns_feed] at same
              rw [inductionHypothesis (List.cons.inj (List.cons.inj same).2).2]
            · subst feed
              exact (apart otherFeed same).elim
          · by_cases otherFeed : d = '\n'
            · subst otherFeed
              exact (apart feed same.symm).elim
            · rw [withReturns_cons feed, withReturns_cons otherFeed] at same
              rw [(List.cons.inj same).1, inductionHypothesis (List.cons.inj same).2]

/-- What stands before and behind a visible character is written with carriage returns, too. -/
theorem exists_parts_of_withReturns
    {text front behind : Text} {c : Char}
    (noReturn : c ≠ '\r')
    (noFeed : c ≠ '\n')
    (parts : text.withReturns = front ++ c :: behind) :
    ∃ before after : Text, text = before ++ c :: after ∧ front = before.withReturns ∧
      behind = after.withReturns := by
  induction text generalizing front with
  | nil => simp at parts
  | cons d rest inductionHypothesis =>
      by_cases feed : d = '\n'
      · subst feed
        rw [withReturns_feed] at parts
        match front with
        | [] => exact absurd (List.cons.inj parts).1.symm noReturn
        | [_] => exact absurd (List.cons.inj (List.cons.inj parts).2).1.symm noFeed
        | first :: second :: front =>
            obtain ⟨rfl, firstLater⟩ := List.cons.inj parts
            obtain ⟨rfl, later⟩ := List.cons.inj firstLater
            obtain ⟨before, after, rfl, rfl, rfl⟩ := inductionHypothesis later
            exact ⟨'\n' :: before, after, rfl, rfl, rfl⟩
      · rw [withReturns_cons feed] at parts
        cases front with
        | nil =>
            obtain ⟨rfl, rfl⟩ := List.cons.inj parts
            exact ⟨[], rest, rfl, rfl, rfl⟩
        | cons first front =>
            obtain ⟨rfl, later⟩ := List.cons.inj parts
            obtain ⟨before, after, rfl, rfl, rfl⟩ := inductionHypothesis later
            exact ⟨d :: before, after, rfl, (withReturns_cons feed before).symm, rfl⟩

/-! ## Reading up to a line end -/

section Reading

variable {p : Char → Bool}

theorem takeWhile_withReturns
    (stopsAtReturn : p '\r' = false)
    (stopsAtFeed : p '\n' = false)
    (text : Text) :
    text.withReturns.takeWhile p = text.takeWhile p := by
  induction text with
  | nil => rfl
  | cons c rest inductionHypothesis =>
      by_cases feed : c = '\n'
      · simp [feed, stopsAtReturn, stopsAtFeed]
      · rw [withReturns_cons feed, List.takeWhile_cons, List.takeWhile_cons, inductionHypothesis]

theorem dropWhile_withReturns
    (stopsAtReturn : p '\r' = false)
    (stopsAtFeed : p '\n' = false)
    (text : Text) :
    text.withReturns.dropWhile p = withReturns (text.dropWhile p) := by
  induction text with
  | nil => rfl
  | cons c rest inductionHypothesis =>
      by_cases feed : c = '\n'
      · subst feed
        simp [stopsAtReturn, stopsAtFeed]
      · rw [withReturns_cons feed, List.dropWhile_cons, List.dropWhile_cons, inductionHypothesis]
        split
        · rfl
        · rw [withReturns_cons feed]

theorem noFeed_of_takeWhile
    (stopsAtFeed : p '\n' = false)
    (text : Text) :
    '\n' ∉ text.takeWhile p := by
  intro feed
  exact Bool.eq_false_iff.1 stopsAtFeed (List.mem_takeWhile_imp feed)

/-- The next character is the same one, or both texts are at a line end. -/
theorem any_head?_withReturns
    (stopsAtReturn : p '\r' = false)
    (stopsAtFeed : p '\n' = false)
    (text : Text) :
    text.withReturns.head?.any p = text.head?.any p := by
  cases text with
  | nil => rfl
  | cons c rest =>
      by_cases feed : c = '\n'
      · simp [feed, stopsAtReturn, stopsAtFeed]
      · simp [withReturns_cons feed]

end Reading

theorem isPrefixOf_withReturns
    {front : Text}
    (noReturn : '\r' ∉ front)
    (noFeed : '\n' ∉ front)
    (text : Text) :
    front.isPrefixOf text.withReturns = front.isPrefixOf text := by
  induction text generalizing front with
  | nil => rfl
  | cons c rest inductionHypothesis =>
      cases front with
      | nil => simp
      | cons d front =>
          obtain ⟨notReturn, frontNoReturn⟩ : ¬ '\r' = d ∧ '\r' ∉ front := by simpa using noReturn
          obtain ⟨notFeed, frontNoFeed⟩ : ¬ '\n' = d ∧ '\n' ∉ front := by simpa using noFeed
          by_cases feed : c = '\n'
          · simp [feed, List.isPrefixOf_cons_cons, beq_eq_false_iff_ne.2 (Ne.symm notReturn),
              beq_eq_false_iff_ne.2 (Ne.symm notFeed)]
          · rw [withReturns_cons feed, List.isPrefixOf_cons_cons, List.isPrefixOf_cons_cons,
              inductionHypothesis frontNoReturn frontNoFeed]

/-- A part that is the same in both forms leaves the two forms of what is behind it. -/
theorem drop_withReturns
    {front text : Text}
    (noFeed : '\n' ∉ front)
    (isFront : front <+: text) :
    text.withReturns.drop front.length = withReturns (text.drop front.length) := by
  obtain ⟨rest, rfl⟩ := isFront
  rw [withReturns_append, withReturns_of_noFeed noFeed, List.drop_left, List.drop_left]

/-! ## Lines and places -/

theorem toLines_withReturns (text : Text) :
    text.withReturns.toLines = text.toLines.map withReturns := by
  induction text using lineInduction with
  | empty => rfl
  | last line notEmpty noFeed =>
      rw [withReturns_of_noFeed noFeed, toLines_of_noFeed notEmpty noFeed, List.map_singleton,
        withReturns_of_noFeed noFeed]
  | line front rest noFeed inductionHypothesis =>
      have noFeedReturn : '\n' ∉ front ++ ['\r'] := by simpa using noFeed
      have shape : withReturns (front ++ '\n' :: rest) =
          front ++ ['\r'] ++ '\n' :: rest.withReturns := by
        rw [withReturns_append, withReturns_of_noFeed noFeed, withReturns_feed, List.append_assoc]
        rfl
      rw [shape, toLines_append_feed noFeedReturn, toLines_append_feed noFeed, List.map_cons,
        inductionHypothesis, withReturns_append, withReturns_of_noFeed noFeed, List.append_assoc]
      rfl

end Text

/-- A line end leads to the start of the next row in both forms. -/
theorem Arrow.behind_withReturns (place : Arrow) (text : Text) :
    place.behind text.withReturns = place.behind text := by
  induction text generalizing place with
  | nil => rfl
  | cons c rest inductionHypothesis =>
      by_cases feed : c = '\n'
      · subst feed
        exact inductionHypothesis _
      · rw [Text.withReturns_cons feed, behind_cons, behind_cons, inductionHypothesis]

end Pipescript
