import Pipescript.Script.Quote

/-!
# The blanks one by one

There are few blanks, so what holds of each of them can be checked.
-/

namespace Pipescript

theorem RangeTable.exists_interval_of_covers
    {table : RangeTable} {point : Nat}
    (covered : table.covers point) :
    ∃ interval ∈ table, interval.1 ≤ point ∧ point ≤ interval.2 := by
  fun_induction covers table point with
  | case1 => simp at covered
  | case2 => simp at covered
  | case3 low high later point notBelow notAbove =>
      exact ⟨(low, high), List.mem_cons_self, Nat.le_of_not_lt notBelow, notAbove⟩
  | case4 low high later point notBelow above inductionHypothesis =>
      obtain ⟨interval, member, bounds⟩ := inductionHypothesis covered
      exact ⟨interval, List.mem_cons_of_mem _ member, bounds⟩

/-- The code points of the blanks. -/
def blankPoints : List Nat :=
  [0x9, 0xA, 0xB, 0xC, 0xD, 0x20, 0x85, 0xA0, 0x1680, 0x2000, 0x2001, 0x2002, 0x2003, 0x2004,
    0x2005, 0x2006, 0x2007, 0x2008, 0x2009, 0x200A, 0x2028, 0x2029, 0x202F, 0x205F, 0x3000]

theorem mem_blankPoints_of_isBlank
    {c : Char}
    (blank : isBlank c) :
    c.toNat ∈ blankPoints := by
  obtain ⟨interval, member, low, high⟩ := RangeTable.exists_interval_of_covers blank
  simp only [blankRanges, List.mem_cons, List.not_mem_nil, or_false] at member
  simp only [blankPoints, List.mem_cons, List.not_mem_nil, or_false]
  rcases member with rfl | rfl | rfl | rfl | rfl | rfl | rfl | rfl | rfl | rfl <;>
    dsimp only at low high <;> omega

/-- A property of characters holds of all blanks if it does of the listed ones. -/
theorem forall_isBlank
    {property : Char → Prop}
    (every : ∀ point ∈ blankPoints, property (Char.ofNat point))
    {c : Char}
    (blank : isBlank c) :
    property c := by
  have found := every c.toNat (mem_blankPoints_of_isBlank blank)
  rwa [Char.ofNat_toNat] at found

/-- A blank begins no name, no number, no literal, no comment and no joint. -/
theorem not_startsName_of_isBlank
    {c : Char}
    (blank : isBlank c) :
    startsName c = false ∧ c.isDigit = false ∧ isQuoteMark c = false ∧
      c ∉ ['.', '#', '\\', '*', '/', '+', '-', '%', '(', ')', '[', ']', ',', '='] := by
  refine @forall_isBlank
    (fun c => startsName c = false ∧ c.isDigit = false ∧ isQuoteMark c = false ∧
      c ∉ ['.', '#', '\\', '*', '/', '+', '-', '%', '(', ')', '[', ']', ',', '=']) ?_ c blank
  decide +kernel

theorem isBlank_colon : isBlank ':' = false := by
  decide

end Pipescript
