import Pipescript.Proofs.Arrow.Exact
import Pipescript.Proofs.Gate.Cut
import Pipescript.Proofs.Scan.BeforeOperator

/-!
# Colons of a script

A colon that is scanned and not hidden begins an operator, which is the colon itself or, before an
equals sign, an assignment inside an expression.
-/

namespace Pipescript

open Arrow

/-- Whether no token hides the character at a place. -/
def Scan.Shows (scan : Scan) (place : Arrow) : Prop :=
  ∀ token ∈ scan.tokens, token.kind.hidesArrows → ¬ token.Includes place

/-- Whether a colon at a place is an operator by itself. -/
def Scan.HasColon (scan : Scan) (place : Arrow) : Prop :=
  ∃ token ∈ scan.tokens, token.isOperator [':'] ∧ token.place = place

theorem isNumberChar_of_mem_numberLiteral
    {c : Char} {source : Text}
    (member : c ∈ numberLiteral source) :
    isNumberChar c := by
  unfold numberLiteral at member
  split at member
  · next mark rest =>
      split at member
      · next announced =>
          obtain ⟨base, announced⟩ := Option.isSome_iff_exists.1 announced
          rcases List.mem_cons.1 member with rfl | member
          · decide +kernel
          rcases List.mem_cons.1 member with rfl | member
          · exact isNumberChar_of_continuesName
              (continuesName_of_isAlphanum (isAlphanum_of_announcedBase? announced))
          have digit := List.mem_takeWhile_imp member
          rw [Bool.or_eq_true, beq_iff_eq] at digit
          rcases digit with letter | rfl
          · exact isNumberChar_of_continuesName (continuesName_of_isAlphanum letter)
          · decide +kernel
      · exact isNumberChar_of_mem_decimal member
  · exact isNumberChar_of_mem_decimal member

/-- Of the tokens that hide nothing only operators have colons. -/
theorem colon_notMem_of_isMade
    {kind : TokenKind} {text : Text}
    (made : IsMade kind text)
    (shows : kind.hidesArrows = false)
    (noOperator : kind ≠ .operator) :
    ':' ∉ text := by
  intro colon
  rcases text_cases_of_isMade made shows noOperator with
    ⟨source, rfl⟩ | ⟨c, rest, starts, rfl⟩ | margin
  · exact absurd (isNumberChar_of_mem_numberLiteral colon) (by decide +kernel)
  · rcases List.mem_cons.1 colon with rfl | colon
    · exact absurd starts (by decide +kernel)
    · exact absurd (List.mem_takeWhile_imp colon) (by decide +kernel)
  · exact absurd (List.all_eq_true.1 margin ':' colon) (by decide)

/-- A colon begins the operator that it belongs to, and only an equals sign may follow it there. -/
theorem operator_with_colon
    {operator before after : Text}
    (listed : operator ∈ operators)
    (parts : operator = before ++ ':' :: after) :
    before = [] ∧ (after = [] ∨ after = ['=']) := by
  have colonFirst : ∀ listed ∈ operators,
      ':' ∉ listed.tail ∧ (listed.head? = some ':' → listed.tail = [] ∨ listed.tail = ['=']) := by
    decide
  obtain ⟨notLater, signs⟩ := colonFirst operator listed
  cases before with
  | nil =>
      rw [parts] at signs
      exact ⟨rfl, signs rfl⟩
  | cons c before =>
      rw [parts] at notLater
      exact absurd (List.mem_append_right _ List.mem_cons_self) notLater

section Colon

variable {script front behind : Text}

/-- An operator is scanned and shown at its place in the script. -/
theorem scanned_of_operator
    {token : Token}
    (parts : script = front ++ behind)
    (member : token ∈ (scan script).tokens)
    (operator : token.kind = .operator)
    (place : token.place = start.behind front) :
    (∃ later, scannedPart script = front ++ (token.text ++ later)) ∧
      (scan script).Shows (start.behind front) := by
  obtain ⟨⟨before, later, scanned, beforePlace⟩, shows⟩ := shown_of_operator member operator
  obtain ⟨unread, whole⟩ := scannedPart_isPrefix script
  rw [scanned, parts, List.append_assoc, List.append_assoc] at whole
  obtain rfl := eq_of_behind_eq whole (beforePlace.trans place)
  rw [place] at shows
  exact ⟨⟨later, by rw [scanned, List.append_assoc]⟩, shows⟩

/-- Where an operator begins with a character of a script, the character is scanned and shown. -/
theorem shown_of_operator_at
    {c : Char} {sign : Text} {token : Token}
    (parts : script = front ++ c :: behind)
    (member : token ∈ (scan script).tokens)
    (operator : token.kind = .operator)
    (text : token.text = c :: sign)
    (place : token.place = start.behind front) :
    front ++ [c] <+: scannedPart script ∧ (scan script).Shows (start.behind front) := by
  obtain ⟨⟨later, scanned⟩, shows⟩ := scanned_of_operator parts member operator place
  refine ⟨⟨sign ++ later, ?_⟩, shows⟩
  rw [scanned, text, List.append_assoc]
  rfl

/-- A colon is an operator by itself if it is scanned and shown and no equals sign follows it. -/
theorem hasColon_iff
    (parts : script = front ++ ':' :: behind) :
    (scan script).HasColon (start.behind front) ↔
      front ++ [':'] <+: scannedPart script ∧ (scan script).Shows (start.behind front) ∧
        behind.head? ≠ some '=' := by
  constructor
  · rintro ⟨token, member, isColon, place⟩
    obtain ⟨operator, text⟩ := operator_of_isOperator isColon
    obtain ⟨scanned, shows⟩ := shown_of_operator_at parts member operator text place
    refine ⟨scanned, shows, fun equals => ?_⟩
    obtain ⟨rest, rfl⟩ : ∃ rest, behind = '=' :: rest := by
      cases behind with
      | nil => cases equals
      | cons c rest => exact ⟨rest, by rw [Option.some.inj equals]⟩
    obtain ⟨_, _, rowPositive, -⟩ := isOperatorIn_of_scan member operator
    have row : token.row - 1 = (start.behind front).row := congrArg Arrow.row place
    obtain ⟨after, found⟩ := exists_operator?_of_pair member operator (by decide)
      (by rw [parts, List.append_assoc]; rfl : script = front ++ [':', '='] ++ rest)
      (by omega) (congrArg Arrow.column place)
    have longest : operator? (':' :: '=' :: after) = some [':', '='] := by
      simp [operator?, operators]
    rw [longest, text] at found
    exact absurd (Option.some.inj found) (by decide)
  · rintro ⟨⟨rest, scanned⟩, shows, noEquals⟩
    have scannedParts : scannedPart script = front ++ ':' :: rest := by
      rw [← scanned, List.append_assoc]
      rfl
    obtain ⟨token, member, hides, before, inside, after, later, rfl, text, restParts, row,
      column⟩ := exists_token_of_shown scannedParts (by decide) shows
    by_cases operator : token.kind = .operator
    · obtain ⟨_, _, -, -, listed⟩ := isOperatorIn_of_scan member operator
      obtain ⟨rfl, rfl | rfl⟩ := operator_with_colon (List.mem_of_find?_eq_some listed) text
      · refine ⟨token, member, by simp [Token.isOperator, operator, text], ?_⟩
        rw [Token.place, row, column, List.append_nil]
        rfl
      · obtain ⟨unread, whole⟩ := scannedPart_isPrefix script
        rw [scannedParts, parts, restParts, List.append_assoc] at whole
        have same := (List.cons.inj (List.append_cancel_left whole)).2
        rw [← same] at noEquals
        exact absurd rfl noEquals
    · refine absurd ?_ (colon_notMem_of_isMade (isMade_of_scan member) hides operator)
      rw [text]
      simp

/-! ## Before an operator -/

variable {gate rest : Text} {operator : Token}

theorem endsBy_cases
    {token other : Token}
    (member : token ∈ (scan script).tokens)
    (otherMember : other ∈ (scan script).tokens)
    (different : token ≠ other) :
    (token.EndsBy other ∧ token.HidesAbove other) ∨
      (other.EndsBy token ∧ other.HidesAbove token) := by
  have ordered : (scan script).tokens.Pairwise fun left right =>
      (left.EndsBy right ∧ left.HidesAbove right) ∨ (right.EndsBy left ∧ right.HidesAbove left) :=
    ((scan_lossless script).1.and (pairwise_scan script)).imp .inl
  have symmetric : Std.Symm fun left right : Token =>
      (left.EndsBy right ∧ left.HidesAbove right) ∨ (right.EndsBy left ∧ right.HidesAbove left) :=
    ⟨fun _ _ => Or.symm⟩
  exact ordered.forall member otherMember different

/-- A token that includes a colon of the scanned part has the colon in its text. -/
theorem exists_parts_of_includes
    {token : Token} {unread : Text}
    (scanned : scannedPart script = front ++ ':' :: unread)
    (member : token ∈ (scan script).tokens)
    (includes : token.Includes (start.behind front)) :
    ∃ inside after later, token.text = inside ++ ':' :: after ∧ unread = after ++ later ∧
      token.place.behind inside = start.behind front := by
  obtain ⟨standing, ending, tokens, noText, covers, -⟩ := covers_scannedPart script
  have stands := mem_standing_of_includes tokens noText member includes
  rw [scanned] at covers
  obtain ⟨found, foundStands, before, inside, after, later, rfl, text, parts, row, column⟩ :=
    covers.exists_token (by decide)
  have place : found.place = start.behind before := by
    rw [Token.place, row, column]
    rfl
  have foundIncludes := Token.includes_behind text
  rw [place, ← behind_append] at foundIncludes
  obtain rfl := covers.eq_of_includes stands foundStands includes foundIncludes
  exact ⟨inside, after, later, text, parts, by rw [place, behind_append]⟩

/-- A token that hides a colon before an operator ends before the operator, too. -/
theorem exists_hiding_token
    (parts : script = front ++ ':' :: gate ++ rest)
    (member : operator ∈ (scan script).tokens)
    (isOperator : operator.kind = .operator)
    (place : operator.place = start.behind (front ++ ':' :: gate))
    (hidden : ¬ (scan script).Shows (start.behind front)) :
    ∃ token ∈ (scan script).tokens, token.kind.hidesArrows ∧ token.HidesAbove operator ∧
      ∃ inside after, token.text = inside ++ ':' :: after ∧ after <+: gate ∧
        token.place.behind inside = start.behind front := by
  unfold Scan.Shows at hidden
  push Not at hidden
  obtain ⟨token, tokenMember, hides, includes⟩ := hidden
  obtain ⟨later, scanned⟩ := (scanned_of_operator parts member isOperator place).1
  have different : token ≠ operator := by
    rintro rfl
    rw [isOperator] at hides
    cases hides
  have colonParts : scannedPart script = front ++ ':' :: (gate ++ (operator.text ++ later)) := by
    rw [scanned]
    simp
  obtain ⟨inside, after, others, text, behindParts, colonPlace⟩ :=
    exists_parts_of_includes colonParts tokenMember includes
  rcases endsBy_cases tokenMember member different with ⟨ends, above⟩ | ⟨ends, -⟩
  · refine ⟨token, tokenMember, hides, above, inside, after, text, ?_, colonPlace⟩
    rcases List.append_eq_append_iff.1 behindParts with ⟨more, rfl, -⟩ | ⟨more, rfl, -⟩
    · -- The token cannot reach beyond the gate, where the operator begins.
      cases more with
      | nil => rw [List.append_nil]
      | cons c more =>
          have tokenEnd := ends.2
          have beyond := before_behind_cons ((start.behind front).behind (':' :: gate)) c more
          rw [text, behind_append, colonPlace, place, behind_append, ← List.cons_append,
            behind_append] at tokenEnd
          exact absurd beyond (not_before_of_precedes tokenEnd)
    · exact List.prefix_append after more
  · have operatorEnd := precedes_trans (precedes_trans (precedes_behind _ operator.text) ends.2)
      includes.1
    have colonBefore := before_behind_cons (start.behind front) ':' gate
    rw [place, behind_append] at operatorEnd
    exact absurd colonBefore (not_before_of_precedes operatorEnd)

/-- Between a colon that is hidden and an operator behind it stands a quotation mark or a line
feed. -/
theorem exists_mark_or_feed
    (parts : script = front ++ ':' :: gate ++ rest)
    (member : operator ∈ (scan script).tokens)
    (isOperator : operator.kind = .operator)
    (place : operator.place = start.behind (front ++ ':' :: gate))
    (hidden : ¬ (scan script).Shows (start.behind front)) :
    ∃ c ∈ gate, isQuoteMark c ∨ c = '\n' := by
  obtain ⟨token, tokenMember, hides, above, inside, after, text, ends, colonPlace⟩ :=
    exists_hiding_token parts member isOperator place hidden
  by_cases string : token.kind = .string
  · obtain ⟨last, isMark, found⟩ := endsQuoted_of_scan tokenMember string
    refine ⟨last, ends.subset ?_, .inl isMark⟩
    rw [text, List.getLast?_append, List.getLast?_cons, Option.some_or] at found
    cases behindColon : after.getLast? with
    | none =>
        rw [behindColon] at found
        rw [← Option.some.inj found] at isMark
        exact absurd isMark (by decide)
    | some c =>
        rw [behindColon] at found
        obtain rfl : c = last := Option.some.inj found
        exact List.mem_of_getLast? behindColon
  · refine ⟨'\n', ?_, .inr rfl⟩
    by_contra noFeed
    have higher := above hides string isOperator inside after text
    have colonNoFeed : '\n' ∉ ':' :: gate := by simp [noFeed]
    have sameRow := behind_of_noFeed colonNoFeed (start.behind front)
    rw [colonPlace, place, behind_append, sameRow] at higher
    exact absurd higher (Nat.lt_irrefl _)

end Colon

end Pipescript
