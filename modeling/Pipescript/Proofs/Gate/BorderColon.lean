import Pipescript.Proofs.Gate.Probe

/-!
# Colons next to an arrow

A colon with nothing but blanks between it and its arrow ends the search for a gate.  Nothing is
missed by that: a candidate that reaches beyond such a colon numbers no gate.
-/

namespace Pipescript

theorem stripJoints_append_colon
    {behind : Text}
    (blank : behind.all isBlank)
    (front : Text) :
    stripJoints (front ++ ':' :: behind) = front.dropWhile isBlank ++ [':'] := by
  have fromLeft : (front ++ ':' :: behind).dropWhile isBlank =
      front.dropWhile isBlank ++ ':' :: behind := by
    rw [List.dropWhile_append]
    split
    · next nothing =>
        rw [List.isEmpty_iff.1 nothing]
        simp [isBlank_colon]
    · rfl
  have fromRight : (front.dropWhile isBlank ++ ':' :: behind).reverse.dropWhile
      (fun c => isBlank c || c == '\\') = ':' :: (front.dropWhile isBlank).reverse := by
    rw [List.reverse_append, List.reverse_cons, List.append_assoc,
      List.dropWhile_append_of_pos fun c member => ?_]
    · simp [isBlank_colon]
    · simp [List.all_eq_true.1 blank c (List.mem_reverse.1 member)]
  rw [stripJoints, fromLeft, fromRight, List.reverse_cons, List.reverse_reverse]

/-- A candidate that begins with a colon numbers no gate. -/
theorem not_isGate_colon_append
    {front : Text}
    (side : GateSide)
    (blank : front.all isBlank)
    (behind : Text) :
    isGate side (front ++ ':' :: behind) = false := by
  refine Bool.eq_false_iff.2 fun gate => ?_
  obtain ⟨pieces, cut, -, reached, reading, -⟩ := exists_standsAlone gate
  obtain ⟨later, -, laterCut, -⟩ := exists_cut_behind_blanks blank cut reading
  exact IsCut.not_colon_cons laterCut

/-- A candidate that ends in a colon numbers no gate. -/
theorem not_isGate_append_colon
    {behind : Text}
    (side : GateSide)
    (blank : behind.all isBlank)
    (front : Text) :
    isGate side (front ++ ':' :: behind) = false := by
  refine Bool.eq_false_iff.2 fun gate => ?_
  obtain ⟨pieces, alone⟩ := exists_standsAlone gate
  obtain ⟨inner, -, stripped, -⟩ := alone.exists_stripped
  rw [stripJoints_append_colon blank] at stripped
  exact stripped.getLast?_ne_colon List.getLast?_concat

/-- Once the walk has come to a colon with nothing but blanks behind it, no colon ahead has a gate
behind it. -/
theorem not_isGate_passed_colon
    {passed : Text}
    (side : GateSide)
    (blank : passed.all isBlank)
    (ahead : Text) :
    isGate side (side.passedText (ahead ++ ':' :: passed)) = false := by
  cases side with
  | output => exact not_isGate_append_colon .output blank ahead
  | input =>
      have shape : GateSide.input.passedText (ahead ++ ':' :: passed) =
          passed.reverse ++ ':' :: ahead.reverse := by
        simp [GateSide.passedText]
      rw [shape]
      exact not_isGate_colon_append .input (by rwa [List.all_reverse]) ahead.reverse

end Pipescript
