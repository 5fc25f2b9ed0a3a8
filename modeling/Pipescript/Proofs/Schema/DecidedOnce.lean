import Pipescript.Schema.Source

/-!
# A schema is decided once

What comes of the first time a schema is asked for is kept, be it a schema or a failure, and nothing
is read again.  So between two changes of the files, and behind any number of them, the answer is
that of the first time.
-/

namespace Pipescript

/-- What may happen while a schema is in use: somebody asks for it, or the files, or something else
around the program, become others. -/
inductive SchemaEvent where
  | ask
  | change (surroundings : Surroundings)
  deriving DecidableEq, Repr

/-- The surroundings in which a schema is asked for first. -/
def Surroundings.whenFirstAsked (surroundings : Surroundings) : List SchemaEvent → Surroundings
  | [] => surroundings
  | .ask :: _ => surroundings
  | .change changed :: later => changed.whenFirstAsked later

namespace SchemaSource

/-- What is answered in turn to those who ask. -/
def answers (described : SchemaSource) (surroundings : Surroundings) :
    List SchemaEvent → List (Option Schema)
  | [] => []
  | .ask :: later =>
      let (answer, next) := described.get surroundings
      answer :: next.answers surroundings later
  | .change changed :: later => described.answers changed later

variable {described : SchemaSource} {known : Option Schema}

/-! ## One question -/

/-- What is decided does not change. -/
theorem get_of_decided
    (decided : described.decided = some known)
    (surroundings : Surroundings) :
    described.get surroundings = (known, described) := by
  obtain ⟨directory, _⟩ := described
  cases decided
  rfl

theorem decided_get (described : SchemaSource) (surroundings : Surroundings) :
    (described.get surroundings).2.decided = some (described.schema? surroundings) := rfl

theorem schema?_of_decided
    (decided : described.decided = some known)
    (surroundings : Surroundings) :
    described.schema? surroundings = known :=
  congrArg Prod.fst (get_of_decided decided surroundings)

/-- What was answered first is answered in all surroundings. -/
theorem schema?_get (described : SchemaSource) (surroundings other : Surroundings) :
    (described.get surroundings).2.schema? other = described.schema? surroundings :=
  schema?_of_decided (decided_get described surroundings) other

/-! ## Runs -/

theorem answers_of_decided
    (decided : described.decided = some known)
    (surroundings : Surroundings) (events : List SchemaEvent) :
    described.answers surroundings events = List.replicate (events.count .ask) known := by
  induction events generalizing surroundings with
  | nil => rfl
  | cons event later inductionHypothesis =>
      cases event with
      | ask =>
          rw [answers, get_of_decided decided, List.count_cons_self, List.replicate_succ]
          exact congrArg (known :: ·) (inductionHypothesis surroundings)
      | change changed =>
          rw [answers, List.count_cons_of_ne (by simp)]
          exact inductionHypothesis changed

theorem answers_eq_replicate (described : SchemaSource) (surroundings : Surroundings)
    (events : List SchemaEvent) :
    described.answers surroundings events =
      List.replicate (events.count .ask)
        (described.schema? (surroundings.whenFirstAsked events)) := by
  induction events generalizing surroundings with
  | nil => rfl
  | cons event later inductionHypothesis =>
      cases event with
      | ask =>
          have behind := answers_of_decided (decided_get described surroundings) surroundings later
          rw [answers, List.count_cons_self, List.replicate_succ]
          exact congrArg (described.schema? surroundings :: ·) behind
      | change changed =>
          rw [answers, List.count_cons_of_ne (by simp)]
          exact inductionHypothesis changed

/-- All who ask get the same answer, however the files change before and between.  It is what is
decided already, or else what comes of loading the packed schema at the first time, a failure of any
kind being no schema.  Where the schema is there from the start, no file matters. -/
theorem answers_decided_once (described : SchemaSource) (surroundings : Surroundings)
    (events : List SchemaEvent) :
    described.answers surroundings events =
        List.replicate (events.count .ask)
          (match described.decided with
            | some known => known
            | none =>
                match Schema.load (surroundings.whenFirstAsked events) described.dataPath with
                | .ok schema => some schema
                | .error _ => none) ∧
      ∀ directory schema, (ofSchema directory schema).answers surroundings events =
        List.replicate (events.count .ask) (some schema) := by
  refine ⟨?_, fun directory schema => answers_of_decided rfl surroundings events⟩
  rw [answers_eq_replicate]
  congr 1
  unfold schema?
  cases described.decided with
  | some known => rfl
  | none => cases Schema.load (surroundings.whenFirstAsked events) described.dataPath <;> rfl

end SchemaSource

end Pipescript
