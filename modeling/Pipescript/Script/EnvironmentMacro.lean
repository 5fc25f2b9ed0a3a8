import Pipescript.Text.Basic

/-!
# Environment macros

`$NAME!` stands for the value of an environment variable.  For the host language it becomes a string
that is joined to what follows; the dollar sign and the first character of the name make room for
the quotes, so the columns behind the macro stay.
-/

namespace Pipescript

/-- The macro that a dollar sign begins before `rest`: its name and the text behind it.  A name is a
word of at least one character with an exclamation mark behind it. -/
def environmentMacro? (rest : Text) : Option (Text × Text) :=
  match rest.takeWhile isWordChar, rest.dropWhile isWordChar with
  | first :: later, '!' :: behind => some (first :: later, behind)
  | _, _ => none

theorem environmentMacro?_length
    {rest name behind : Text}
    (found : environmentMacro? rest = some (name, behind)) :
    rest.length = name.length + 1 + behind.length := by
  have parts := congrArg List.length (List.takeWhile_append_dropWhile (p := isWordChar) (l := rest))
  unfold environmentMacro? at found
  split at found
  · next first later behind' taken dropped =>
      obtain ⟨rfl, rfl⟩ : first :: later = name ∧ behind' = behind := by simpa using found
      rw [taken, dropped] at parts
      simp only [List.length_append, List.length_cons] at parts
      simp only [List.length_cons]
      omega
  · simp at found

/-- Replace the environment macros of a script, from left to right. -/
def withoutMacros : Text → Text
  | [] => []
  | c :: rest =>
      if c = '$' then
        match _found : environmentMacro? rest with
        | some (name, behind) =>
            '\'' :: name.drop 1 ++ '\'' :: '+' :: withoutMacros behind
        | none => c :: withoutMacros rest
      else
        c :: withoutMacros rest
termination_by script => script.length
decreasing_by
  all_goals simp only [List.length_cons]
  · have shorter := environmentMacro?_length _found
    omega
  · omega
  · omega

/-- Whether a script holds an environment macro. -/
def hasMacro : Text → Bool
  | [] => false
  | c :: rest => (c == '$' && (environmentMacro? rest).isSome) || hasMacro rest

end Pipescript
