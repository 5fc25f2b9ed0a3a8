import Mathlib.Data.List.Nodup
import Pipescript.Proofs.Schema.PlacesByCategory

/-!
# Types that are listed more than once

The place of a result type is left out if it is among the types already, and the place of an argument
type never is.  So a place is listed once for each command that takes the type, and once more if a
command gave it before any took it.  No place is listed twice exactly when no command takes a type
that an earlier one takes or gives.
-/

namespace Pipescript

namespace SearchContext

/-- Whether a place is that of the type of an argument or of a result. -/
def mentions (context : SearchContext) (place : Location) (command : Command) : Bool :=
  context.argumentPlace? command == some place || context.resultPlace? command == some place

/-- Whether the first of some commands that mentions a place gives it and does not take it. -/
def comesAsResult (context : SearchContext) (place : Location) (commands : List Command) : Bool :=
  (commands.find? (context.mentions place)).any (context.argumentPlace? · != some place)

section OneCommand

variable (context : SearchContext) (group : List Location) (command : Command) (place : Location)

theorem mem_addTypes :
    place ∈ context.addTypes group command ↔
      place ∈ group ∨ context.mentions place command := by
  unfold addTypes mentions
  dsimp only
  rw [Bool.or_eq_true, beq_iff_eq, beq_iff_eq, ← or_assoc]
  have types : place ∈ group ++ (context.argumentPlace? command).toList ↔
      place ∈ group ∨ context.argumentPlace? command = some place := by
    rw [List.mem_append, Option.mem_toList]
  rw [← types]
  generalize group ++ (context.argumentPlace? command).toList = types
  cases context.resultPlace? command with
  | none => simp
  | some given =>
      by_cases known : given ∈ types
      · have inside : given = place → place ∈ types := fun same => same ▸ known
        simpa [known] using inside
      · simp [known, eq_comm]

theorem count_addTypes :
    (context.addTypes group command).count place =
      group.count place +
        (if context.argumentPlace? command = some place then 1 else 0) +
        (if place ∉ group ∧ context.argumentPlace? command ≠ some place ∧
            context.resultPlace? command = some place then 1 else 0) := by
  have argument : (context.argumentPlace? command).toList.count place =
      if context.argumentPlace? command = some place then 1 else 0 := by
    cases context.argumentPlace? command with
    | none => simp
    | some taken => simp [List.count_singleton]
  have adds : (place ∉ group ∧ context.argumentPlace? command ≠ some place ∧
        context.resultPlace? command = some place) ↔
      place ∉ group ++ (context.argumentPlace? command).toList ∧
        context.resultPlace? command = some place := by
    rw [List.mem_append, Option.mem_toList, not_or, and_assoc]
  simp only [adds]
  rw [← argument, ← List.count_append]
  unfold addTypes
  dsimp only
  generalize group ++ (context.argumentPlace? command).toList = types
  cases context.resultPlace? command with
  | none => simp
  | some given =>
      by_cases known : given ∈ types
      · have inside : given = place → place ∈ types := fun same => same ▸ known
        simp only [known, if_true, Option.some.injEq]
        rw [if_neg fun ⟨missing, same⟩ => missing (inside same), Nat.add_zero]
      · by_cases same : given = place
        · subst same
          simp [known]
        · simp [known, same]

theorem nodup_addTypes_iff :
    (context.addTypes group command).Nodup ↔
      group.Nodup ∧ ∀ place, context.argumentPlace? command = some place → place ∉ group := by
  simp only [List.nodup_iff_count_le_one, count_addTypes]
  constructor
  · intro once
    refine ⟨fun place => by have := once place; omega, fun place takes member => ?_⟩
    have twice := once place
    have known := List.count_pos_iff.2 member
    rw [if_pos takes] at twice
    omega
  · rintro ⟨once, fresh⟩ place
    have before := once place
    by_cases takes : context.argumentPlace? command = some place
    · have missing := List.count_eq_zero.2 (fresh place takes)
      simp [takes, missing]
    · by_cases member : place ∈ group
      · simpa [takes, member] using before
      · rw [List.count_eq_zero.2 member, if_neg takes]
        split <;> omega

end OneCommand

/-! ## All commands -/

/-- How often a place is listed behind a group. -/
theorem count_foldl_addTypes (context : SearchContext) (group : List Location)
    (commands : List Command) (place : Location) :
    (commands.foldl context.addTypes group).count place =
      group.count place + commands.countP (context.argumentPlace? · == some place) +
        (if place ∉ group ∧ context.comesAsResult place commands then 1 else 0) := by
  induction commands generalizing group with
  | nil => simp [comesAsResult]
  | cons command later inductionHypothesis =>
      rw [List.foldl_cons, inductionHypothesis, count_addTypes, List.countP_cons]
      unfold comesAsResult
      by_cases takes : context.argumentPlace? command = some place
      · have mentioned : context.mentions place command := by simp [mentions, takes]
        simp [mem_addTypes, mentioned, takes]
        omega
      · by_cases gives : context.resultPlace? command = some place
        · have mentioned : context.mentions place command := by simp [mentions, gives]
          simp [mem_addTypes, mentioned, takes, gives]
          omega
        · have unmentioned : context.mentions place command = false := by
            simp [mentions, takes, gives]
          simp [mem_addTypes, unmentioned, takes, gives]

theorem nodup_foldl_addTypes_iff (context : SearchContext) (group : List Location)
    (commands : List Command) :
    (commands.foldl context.addTypes group).Nodup ↔
      group.Nodup ∧
      (∀ command ∈ commands, ∀ place, context.argumentPlace? command = some place →
        place ∉ group) ∧
      commands.Pairwise fun earlier later =>
        ∀ place, context.argumentPlace? later = some place → ¬ context.mentions place earlier := by
  induction commands generalizing group with
  | nil => simp
  | cons command later inductionHypothesis =>
      rw [List.foldl_cons, inductionHypothesis, nodup_addTypes_iff, List.pairwise_cons]
      simp only [mem_addTypes, not_or, List.forall_mem_cons]
      constructor
      · rintro ⟨⟨once, fresh⟩, apart, pairs⟩
        exact ⟨once, ⟨fresh, fun other member place takes => (apart other member place takes).1⟩,
          fun other member place takes => (apart other member place takes).2, pairs⟩
      · rintro ⟨once, ⟨fresh, freshLater⟩, apart, pairs⟩
        exact ⟨⟨once, fresh⟩, fun other member place takes =>
          ⟨freshLater other member place takes, apart other member place takes⟩, pairs⟩

end SearchContext

/-- How often a place is listed among the types: once for each command hit that takes it, and once
more if the first command hit that mentions it gives it and does not take it.

So the places are distinct exactly when no command hit takes a type whose place an earlier one takes
or gives.  What commands give is never listed again. -/
theorem nodup_listPlaces_typeSchema_iff (context : SearchContext) (locations : List Location) :
    let places := listPlaces context locations [.typeSchema]
    let commands := context.commandsHit locations
    (∀ place, places.count place =
        commands.countP (context.argumentPlace? · == some place) +
          if context.comesAsResult place commands then 1 else 0) ∧
      (places.Nodup ↔ commands.Pairwise fun earlier later =>
        ∀ place, context.argumentPlace? later = some place →
          context.argumentPlace? earlier ≠ some place ∧
            context.resultPlace? earlier ≠ some place) := by
  intro places commands
  have whole : places = commands.foldl context.addTypes [] := by
    have listed : places = (locations.foldl (SearchResult.addLocation context) {}).typeSchema ++ [] :=
      rfl
    rw [listed, List.append_nil]
    exact congrFun (SearchResult.get_foldl_addLocation context locations) .typeSchema
  constructor
  · intro place
    rw [whole, context.count_foldl_addTypes]
    simp
  · rw [whole, context.nodup_foldl_addTypes_iff]
    simp [SearchContext.mentions]

/-- Two modules that are made with an argument of one type. -/
def sharedArgument : SearchContext where
  schema :=
    { version := []
      files := [("0".toList, "globals.py".toList)]
      modules :=
        [⟨⟨"Source".toList, 1, none, some "EmptyArg".toList, none, []⟩, []⟩,
          ⟨⟨"Sink".toList, 2, none, some "EmptyArg".toList, none, []⟩, []⟩]
      types := [⟨"EmptyArg".toList, "bess.pb.EmptyArg".toList, ⟨.number 0, 9⟩, 0⟩] }
  schemaUri := some ⟨"file".toList, some .nobody, "/doc/globals.py".toList, none, none⟩
  schemaDirectory := .ofText "/doc".toList
  sourceDirectory := .ofText "/src".toList

/-- With a hit on each module the type is listed twice. -/
theorem not_nodup_listPlaces_sharedArgument :
    ¬ ∀ locations, (listPlaces sharedArgument locations [.typeSchema]).Nodup := by
  intro once
  let schemaRow (row : Nat) : Location :=
    ⟨⟨"file".toList, some .nobody, "/doc/globals.py".toList, none, none⟩, ⟨⟨row, 0⟩, ⟨row, 5⟩⟩⟩
  have twice : listPlaces sharedArgument [schemaRow 0, schemaRow 1] [.typeSchema] =
      List.replicate 2 ⟨(schemaRow 0).uri, ⟨⟨8, 0⟩, ⟨8, 0⟩⟩⟩ := by
    decide +kernel
  have distinct := once [schemaRow 0, schemaRow 1]
  rw [twice] at distinct
  exact absurd distinct (by decide +kernel)

end Pipescript
