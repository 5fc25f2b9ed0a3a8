import Pipescript.Proofs.Scan.Onward
import Pipescript.Proofs.Scan.ScannedPart
import Pipescript.Proofs.Scan.SealedScan

/-!
# Where an error ends a scan

An open literal and an inconsistent indentation leave the rest of a script unread from some place on.
A scan that has come to a place does not stop before it.
-/

namespace Pipescript

open Arrow

/-- The place from which on an error leaves a script unread, if it leaves any of it. -/
def ScanError.place? : ScanError → Option Arrow
  | .openString row column => some ⟨row - 1, column⟩
  | .openStatement _ => none
  | .inconsistentDedent row => some ⟨row - 1, 0⟩

/-- What is accounted for from a place on is not left unread before it. -/
theorem Accounts.precedes_error
    {origin place : Arrow} {rows : Nat} {pending text : Text} {scan : Scan} {error : ScanError}
    (accounts : Accounts origin rows pending text scan)
    (below : origin.precedes ⟨rows, 0⟩)
    (failed : scan.error = some error)
    (stops : error.place? = some place) :
    origin.precedes place := by
  obtain ⟨_, _, covered, _, -, -, -, -, reaches⟩ := accounts
  rw [failed] at reaches
  cases error with
  | openStatement row => cases stops
  | openString row column =>
      obtain ⟨rfl, rfl⟩ := reaches
      obtain rfl := Option.some.inj stops
      exact precedes_behind origin covered
  | inconsistentDedent row =>
      obtain ⟨count, rfl, -⟩ := reaches
      obtain rfl := Option.some.inj stops
      rw [precedes_iff] at below ⊢
      dsimp only at below ⊢
      omega

/-- A literal that is open at the end of a script leaves it unread from where the literal begins. -/
theorem precedes_of_finish
    {state : ScanState} {rows : Nat} {lastLine : Text} {origin place : Arrow} {error : ScanError}
    (opens : state.carry.OpensAt origin)
    (failed : (state.finish rows lastLine).error = some error)
    (stops : error.place? = some place) :
    place = origin := by
  unfold ScanState.finish at failed
  split at failed
  · next opened isOpen =>
      obtain rfl := Option.some.inj failed
      obtain rfl := Option.some.inj stops
      rw [isOpen] at opens
      obtain ⟨sameRow, sameColumn⟩ := opens
      rw [sameRow, sameColumn]
      rfl
  · obtain rfl := Option.some.inj failed
    cases stops
  · split at failed
    · cases failed
    · obtain rfl := Option.some.inj failed
      cases stops

namespace ScansOn

variable {scan : Scan} {origin place : Arrow} {depth : Nat} {error : ScanError}

/-- A scan does not stop before the place that it has come to. -/
theorem precedes_error
    {text : Text}
    (onward : ScansOn scan origin depth text)
    (failed : scan.error = some error)
    (stops : error.place? = some place) :
    origin.precedes place := by
  cases onward with
  | @row _ _ line after blocks lastLine isRow notEmpty =>
      obtain ⟨covered, parts, -, opens⟩ := coversBut_place isRow.oneRow origin depth
      refine precedes_trans (precedes_behind origin covered) ?_
      by_cases last : after = []
      · subst last
        rw [precedes_of_finish opens failed stops]
        exact precedes_refl _
      · obtain ⟨front, rfl⟩ := isRow.feed last
        have noFeed : '\n' ∉ front := isRow.oneRow front ['\n'] rfl (by simp)
        have here := behind_rowEnd noFeed origin
        rw [parts, behind_append] at here
        have accounts := @ScanState.accounts_scanRows
          ⟨blocks, (Pipescript.place (origin.row + 1) origin.column depth
            (lexemes (front ++ ['\n']))).depth, _⟩ _ lastLine _ after opens
          (fun _ => here) fun nothing => absurd nothing last
        exact accounts.precedes_error (here ▸ precedes_behind _ _) failed stops
  | @ended state _ rows lastLine noLiteral =>
      have opens : state.carry.OpensAt origin := by
        cases carry : state.carry with
        | literal opened => exact absurd carry (noLiteral opened)
        | nothing | joint => trivial
      rw [precedes_of_finish opens failed stops]
      exact precedes_refl _

/-- A scan that has come to a colon takes it for an operator, by itself or before an equals sign. -/
theorem exists_behind_colon
    {rest : Text}
    (onward : ScansOn scan origin depth (':' :: rest)) :
    ∃ sign later text, (sign = [':'] ∨ sign = [':', '=']) ∧
      ScansOn later (origin.behind sign) depth text ∧
      scan.Yields [⟨.operator, sign, origin.row + 1, origin.column⟩] later := by
  obtain ⟨blocks, lastLine, line, after, rfl, isRow, rfl⟩ := onward.exists_row
  obtain ⟨sign, found, shape⟩ : ∃ sign, operator? (':' :: line) = some sign ∧
      (sign = [':'] ∨ sign = [':', '=']) := by
    cases line with
    | nil => exact ⟨[':'], by decide, .inl rfl⟩
    | cons c line =>
        by_cases assigns : c = '='
        · subst assigns
          exact ⟨[':', '='], by simp [operator?, operators], .inr rfl⟩
        · have other : ('=' == c) = false := beq_eq_false_iff_ne.2 (Ne.symm assigns)
          exact ⟨[':'], by simp [operator?, operators, List.isPrefixOf, other], .inl rfl⟩
  have noFeed : '\n' ∉ sign := by
    rcases shape with rfl | rfl <;> decide
  have sameDepth : Lexeme.depthAfter ⟨.operator, sign⟩ depth = depth := by
    rcases shape with rfl | rfl <;> rfl
  have first := Lexeme.first_of_sign (by decide) found
  obtain ⟨behind, parts⟩ := List.isPrefixOf_iff_prefix.1 (operator?_isPrefixOf found)
  have rowParts : ':' :: (line ++ after) = sign ++ (behind ++ after) := by
    rw [← List.append_assoc, parts]
    rfl
  obtain ⟨later, laterOnward, yields⟩ :=
    scansOn_behind_lexeme isRow first rowParts noFeed rfl blocks depth lastLine
  rw [sameDepth] at laterOnward
  exact ⟨sign, later, _, shape, laterOnward, yields⟩

/-- A scan that has come to a colon stops behind it. -/
theorem before_error_of_colon
    {rest : Text}
    (onward : ScansOn scan origin depth (':' :: rest))
    (failed : scan.error = some error)
    (stops : error.place? = some place) :
    origin.Before place := by
  obtain ⟨sign, later, text, shape, laterOnward, yields⟩ := onward.exists_behind_colon
  have further := laterOnward.precedes_error (yields.error.symm.trans failed) stops
  obtain ⟨c, others, rfl⟩ : ∃ c others, sign = c :: others := by
    rcases shape with rfl | rfl <;> exact ⟨_, _, rfl⟩
  have step := before_behind_cons origin c others
  rw [precedes_iff] at further
  unfold Before at step ⊢
  omega

end ScansOn

end Pipescript
