import Pipescript.Text.Basic

/-!
# Carriage returns

A line ends with a line feed, before which a carriage return may stand.
-/

namespace Pipescript

namespace Text

/-- Whether carriage returns stand only directly before line feeds. -/
def ReturnsBeforeFeeds (text : Text) : Prop :=
  ∀ front behind, text = front ++ '\r' :: behind → behind.head? = some '\n'

theorem returnsBeforeFeeds_cons {c : Char} {rest : Text} :
    ReturnsBeforeFeeds (c :: rest) ↔
      (c = '\r' → rest.head? = some '\n') ∧ rest.ReturnsBeforeFeeds := by
  constructor
  · intro returns
    refine ⟨fun isReturn => returns [] rest (by rw [isReturn]; rfl), ?_⟩
    rintro front behind rfl
    exact returns (c :: front) behind rfl
  · rintro ⟨first, later⟩ front behind parts
    cases front with
    | nil =>
        obtain ⟨rfl, rfl⟩ := List.cons.inj parts
        exact first rfl
    | cons d front => exact later front behind (List.cons.inj parts).2

instance decidableReturnsBeforeFeeds : (text : Text) → Decidable text.ReturnsBeforeFeeds
  | [] => .isTrue fun front behind parts => by cases front <;> cases parts
  | _ :: rest =>
      have := decidableReturnsBeforeFeeds rest
      decidable_of_iff _ returnsBeforeFeeds_cons.symm

theorem ReturnsBeforeFeeds.behind
    {text front rest : Text}
    (returns : text.ReturnsBeforeFeeds)
    (parts : text = front ++ rest) :
    rest.ReturnsBeforeFeeds := by
  rintro before behind rfl
  exact returns (front ++ before) behind (by rw [parts, List.append_assoc])

/-- Whether the carriage returns of a text stand only directly before line feeds where a text is
followed by another one. -/
def ReturnsFedBefore (text behind : Text) : Prop :=
  ∀ front after, text = front ++ '\r' :: after → (after ++ behind).head? = some '\n'

theorem ReturnsBeforeFeeds.fedBefore
    {text : Text}
    (returns : text.ReturnsBeforeFeeds)
    (behind : Text) :
    text.ReturnsFedBefore behind := by
  intro front after parts
  rw [List.head?_append, returns front after parts, Option.some_or]

theorem ReturnsFedBefore.append
    {text rest behind : Text}
    (returns : (text ++ rest).ReturnsFedBefore behind) :
    text.ReturnsFedBefore (rest ++ behind) ∧ rest.ReturnsFedBefore behind := by
  constructor
  · rintro front after rfl
    rw [← List.append_assoc]
    exact returns front (after ++ rest) (by simp)
  · rintro front after rfl
    exact returns (text ++ front) after (List.append_assoc _ _ _).symm

/-- A part of a line has a carriage return only at the end of the line. -/
theorem ReturnsFedBefore.eq_or_last
    {note behind : Text}
    (returns : note.ReturnsFedBefore behind)
    (noFeed : '\n' ∉ note) :
    '\r' ∉ note ∨
      ∃ front, note = front ++ ['\r'] ∧ '\r' ∉ front ∧ behind.head? = some '\n' := by
  have last : ∀ front later, note = front ++ '\r' :: later →
      later = [] ∧ behind.head? = some '\n' := by
    rintro front later rfl
    have next := returns front later rfl
    cases later with
    | nil => exact ⟨rfl, next⟩
    | cons c later =>
        obtain rfl : c = '\n' := Option.some.inj next
        exact absurd (by simp) noFeed
  by_cases someReturn : '\r' ∈ note
  · obtain ⟨front, later, parts⟩ := List.append_of_mem someReturn
    obtain ⟨rfl, next⟩ := last front later parts
    refine .inr ⟨front, parts, fun earlier => ?_, next⟩
    obtain ⟨first, second, rfl⟩ := List.append_of_mem earlier
    obtain ⟨nothing, -⟩ := last first (second ++ ['\r']) (by simp [parts])
    simp at nothing
  · exact .inl someReturn

end Text

end Pipescript
