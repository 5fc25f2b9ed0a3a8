/-!
# Sets of rows

A set of rows is kept as an ascending list, so its members are listed in order and each of them
once.
-/

namespace Pipescript

/-- A finite set of rows, counted from zero. -/
structure RowSet where
  rows : List Nat
  ascending : rows.Pairwise (· < ·) := by decide

namespace RowSet

instance : DecidableEq RowSet := fun left right =>
  if same : left.rows = right.rows then
    .isTrue (by cases left; cases right; cases same; rfl)
  else
    .isFalse fun equality => same (congrArg RowSet.rows equality)

def empty : RowSet where
  rows := []

/-- Put a row at its place in an ascending list. -/
def insertSorted (row : Nat) : List Nat → List Nat
  | [] => [row]
  | first :: later =>
      if row < first then row :: first :: later
      else if row = first then first :: later
      else first :: insertSorted row later

theorem mem_insertSorted {row tested : Nat} {rows : List Nat} :
    tested ∈ insertSorted row rows ↔ tested = row ∨ tested ∈ rows := by
  induction rows with
  | nil => simp [insertSorted]
  | cons first later inductionHypothesis =>
      rw [insertSorted]
      split
      · simp
      · split
        · simp_all
        · simp only [List.mem_cons, inductionHypothesis]
          exact or_left_comm

theorem pairwise_insertSorted
    {row : Nat} {rows : List Nat}
    (ascending : rows.Pairwise (· < ·)) :
    (insertSorted row rows).Pairwise (· < ·) := by
  induction rows with
  | nil => simp [insertSorted]
  | cons first later inductionHypothesis =>
      have firstBelow := (List.pairwise_cons.1 ascending).1
      rw [insertSorted]
      split
      · next below =>
          refine List.pairwise_cons.2 ⟨fun tested member => ?_, ascending⟩
          rcases List.mem_cons.1 member with rfl | memberLater
          · exact below
          · exact Nat.lt_trans below (firstBelow tested memberLater)
      · split
        · exact ascending
        · next notBelow notEqual =>
            refine List.pairwise_cons.2 ⟨fun tested member => ?_,
              inductionHypothesis (List.pairwise_cons.1 ascending).2⟩
            rcases mem_insertSorted.1 member with rfl | memberLater
            · omega
            · exact firstBelow tested memberLater

/-- Add a row. -/
def insert (set : RowSet) (row : Nat) : RowSet where
  rows := insertSorted row set.rows
  ascending := pairwise_insertSorted set.ascending

/-- Add several rows. -/
def insertAll (set : RowSet) (rows : List Nat) : RowSet :=
  rows.foldl insert set

def ofList (rows : List Nat) : RowSet :=
  empty.insertAll rows

def contains (set : RowSet) (row : Nat) : Bool :=
  set.rows.contains row

def size (set : RowSet) : Nat :=
  set.rows.length

def isEmpty (set : RowSet) : Bool :=
  set.rows.isEmpty

instance : Membership Nat RowSet where
  mem set row := row ∈ set.rows

@[simp]
theorem mem_insert {set : RowSet} {row tested : Nat} :
    tested ∈ set.insert row ↔ tested = row ∨ tested ∈ set :=
  mem_insertSorted

@[simp]
theorem mem_insertAll {set : RowSet} {rows : List Nat} {tested : Nat} :
    tested ∈ set.insertAll rows ↔ tested ∈ rows ∨ tested ∈ set := by
  induction rows generalizing set with
  | nil => simp [insertAll]
  | cons first later inductionHypothesis =>
      rw [insertAll, List.foldl_cons]
      change tested ∈ (set.insert first).insertAll later ↔ _
      rw [inductionHypothesis, mem_insert, List.mem_cons]
      exact or_left_comm.trans or_assoc.symm

end RowSet

end Pipescript
