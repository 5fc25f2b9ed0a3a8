import Pipescript.Proofs.Arrow.GateEdit
import Pipescript.Proofs.Scan.ScannedPart
import Pipescript.Proofs.Scan.TokenText

/-!
# Which arrows are found

No token but an operator takes the minus sign of an arrow: names have none, and in a number a digit
follows it.  The longest operator that begins with a minus sign before a greater-than sign is the
arrow.  So an arrow of the scanned part that is not found stands inside a literal, a comment, a stray
or a line end.
-/

namespace Pipescript

open Arrow

/-- Whether an arrow inside a token of this kind means nothing. -/
def TokenKind.hidesArrows : TokenKind → Bool
  | .string | .comment | .stray | .newline | .lineBreak => true
  | .name | .number | .operator | .indent | .dedent | .endMarker => false

/-- A token that hides nothing and is no operator is a number, a name or a margin. -/
theorem text_cases_of_isMade
    {kind : TokenKind} {text : Text}
    (made : IsMade kind text)
    (shows : kind.hidesArrows = false)
    (noOperator : kind ≠ .operator) :
    (∃ source, text = numberLiteral source) ∨
      (∃ (c : Char) (rest : Text), startsName c ∧ text = c :: rest.takeWhile continuesName) ∨
        text.all isMarginChar := by
  cases made with
  | @lexeme c rest depth kind same =>
      cases lexemeKind : (Lexeme.first c rest).kind with
      | number => exact .inl ⟨c :: rest, Lexeme.text_of_number lexemeKind⟩
      | name => exact .inr (.inl ⟨c, rest, Lexeme.text_of_name lexemeKind⟩)
      | blank | joint | openString quote =>
          rw [lexemeKind] at same
          cases same
      | operator =>
          rw [lexemeKind] at same
          exact absurd (Option.some.inj same).symm noOperator
      | comment | string | stray =>
          rw [lexemeKind] at same
          obtain rfl := Option.some.inj same
          cases shows
      | lineEnd =>
          rw [lexemeKind] at same
          obtain rfl := Option.some.inj same
          split at shows <;> cases shows
  | remark isRemark => rcases isRemark with rfl | rfl <;> cases shows
  | literal isLiteral => rcases isLiteral with rfl | rfl <;> cases shows
  | indent margin => exact .inr (.inr margin)
  | mark => exact .inr (.inr rfl)

theorem signsDigits_of_isMade
    {kind : TokenKind} {text : Text}
    (made : IsMade kind text)
    (shows : kind.hidesArrows = false)
    (noOperator : kind ≠ .operator) :
    text.SignsDigits := by
  rcases text_cases_of_isMade made shows noOperator with
    ⟨source, rfl⟩ | ⟨c, rest, starts, rfl⟩ | margin
  · exact signsDigits_numberLiteral source
  · apply signsDigits_of_notMem
    have notFirst : c ≠ '-' := by
      rintro rfl
      exact absurd starts (by decide +kernel)
    simp [notFirst.symm, minus_notMem_takeWhile (by decide +kernel : continuesName '-' = false)]
  · apply signsDigits_of_notMem
    intro minus
    exact absurd (List.all_eq_true.1 margin '-' minus) (by decide)

/-- Two characters of a row from the place of an operator on are those that it is the longest
operator in front of. -/
theorem exists_operator?_of_pair
    {script before rest : Text} {c d : Char} {token : Token}
    (member : token ∈ (scan script).tokens)
    (operator : token.kind = .operator)
    (noFeed : c ≠ '\n')
    (parts : script = before ++ [c, d] ++ rest)
    (row : token.row = (start.behind before).row + 1)
    (column : token.column = (start.behind before).column) :
    ∃ behind, operator? (c :: d :: behind) = some token.text := by
  obtain ⟨lineRow, line, sameRow, atRow, stands⟩ := isOperatorIn_of_scan member operator
  have pair := Text.charAt?_pair noFeed before d rest
  have sameLine : (start.behind before).row = lineRow := by omega
  simp only [← parts, Text.charAt?, sameLine, atRow, Option.bind_some, ← column] at pair
  obtain ⟨firstBound, first⟩ := List.getElem?_eq_some_iff.1 pair.1
  obtain ⟨secondBound, second⟩ := List.getElem?_eq_some_iff.1 pair.2
  refine ⟨line.drop (token.column + 2), ?_⟩
  rw [← stands, List.drop_eq_getElem_cons firstBound, first,
    List.drop_eq_getElem_cons secondBound, second]

/-- A minus sign of a script with a greater-than sign behind it stands in an arrow, if it does in an
operator. -/
theorem isArrow_of_operator
    {script before inside after rest : Text} {token : Token}
    (member : token ∈ (scan script).tokens)
    (operator : token.kind = .operator)
    (text : token.text = inside ++ '-' :: after)
    (parts : script = before ++ inside ++ arrowText ++ rest)
    (row : token.row = (start.behind before).row + 1)
    (column : token.column = (start.behind before).column) :
    inside = [] ∧ token.isOperator arrowText := by
  obtain ⟨_, _, -, -, stands⟩ := isOperatorIn_of_scan member operator
  have minusFirst : ∀ listed ∈ operators, '-' ∉ listed.tail := by decide
  obtain rfl : inside = [] := by
    cases inside with
    | nil => rfl
    | cons c inside =>
        refine absurd ?_ (minusFirst token.text (List.mem_of_find?_eq_some stands))
        rw [text]
        simp
  rw [List.append_nil] at parts
  obtain ⟨behind, found⟩ :=
    exists_operator?_of_pair member operator (by decide) parts row column
  have longest : operator? ('-' :: '>' :: behind) = some arrowText := by
    simp [operator?, operators, arrowText]
  rw [longest] at found
  refine ⟨rfl, ?_⟩
  simp [Token.isOperator, operator, Option.some.inj found]

/-- What has characters is among the tokens that stand. -/
theorem mem_standing_of_includes
    {tokens standing ending : List Token} {token : Token} {place : Arrow}
    (parts : tokens = standing ++ ending)
    (noText : ∀ last ∈ ending, last.text = [])
    (member : token ∈ tokens)
    (includes : token.Includes place) :
    token ∈ standing := by
  rw [parts] at member
  refine (List.mem_append.1 member).resolve_right fun last => ?_
  have empty := noText token last
  obtain ⟨first, last⟩ := includes
  rw [empty] at last
  exact not_before_of_precedes first last

/-- A token with a text stands in the scanned part, and no other token includes its place. -/
theorem stands_of_text
    {script rest : Text} {token : Token} {c : Char}
    (member : token ∈ (scan script).tokens)
    (text : token.text = c :: rest) :
    (∃ front behind, scannedPart script = front ++ token.text ++ behind ∧
        start.behind front = token.place) ∧
      ∀ other ∈ (scan script).tokens, other.Includes token.place → other = token := by
  obtain ⟨standing, ending, tokens, noText, covers, -⟩ := covers_scannedPart script
  have includes : token.Includes (token.place.behind []) := Token.includes_behind text
  have stands := mem_standing_of_includes tokens noText member includes
  obtain ⟨front, rest, parts, row, column⟩ := covers.exists_front stands
  refine ⟨⟨front, rest, parts, ?_⟩, fun other otherMember otherIncludes => ?_⟩
  · rw [Token.place, row, column]
    rfl
  · have otherStands := mem_standing_of_includes tokens noText otherMember otherIncludes
    exact covers.eq_of_includes otherStands stands otherIncludes includes

/-- An operator stands in the scanned part, and no token that hides arrows includes its place. -/
theorem shown_of_operator
    {script : Text} {token : Token}
    (member : token ∈ (scan script).tokens)
    (operator : token.kind = .operator) :
    (∃ front behind, scannedPart script = front ++ token.text ++ behind ∧
        start.behind front = token.place) ∧
      ∀ other ∈ (scan script).tokens, other.kind.hidesArrows → ¬ other.Includes token.place := by
  obtain ⟨_, _, -, -, listed⟩ := isOperatorIn_of_scan member operator
  obtain ⟨c, rest, text⟩ := List.exists_cons_of_ne_nil (operator?_ne_nil listed)
  obtain ⟨stands, alone⟩ := stands_of_text member text
  refine ⟨stands, fun other otherMember hides otherIncludes => ?_⟩
  rw [alone other otherMember otherIncludes, operator] at hides
  cases hides

/-- Where an arrow is found, its two signs stand, and no other token includes them. -/
theorem shown_of_mem_find
    {script : Text} {arrow : Arrow}
    (found : arrow ∈ find (scan script).tokens) :
    (∃ front behind, scannedPart script = front ++ arrowText ++ behind ∧
        start.behind front = arrow) ∧
      ∀ token ∈ (scan script).tokens, token.kind.hidesArrows → ¬ token.Includes arrow := by
  obtain ⟨token, member, isArrow, rfl⟩ := mem_find_scan.1 found
  obtain ⟨operator, text⟩ := operator_of_isOperator isArrow
  rw [← text]
  exact shown_of_operator member operator

/-- A visible character of the scanned part that no token hides stands in a token. -/
theorem exists_token_of_shown
    {script front behind : Text} {c : Char}
    (parts : scannedPart script = front ++ c :: behind)
    (visible : isGapChar c = false)
    (shown : ∀ token ∈ (scan script).tokens, token.kind.hidesArrows →
      ¬ token.Includes (start.behind front)) :
    ∃ token ∈ (scan script).tokens, token.kind.hidesArrows = false ∧
      ∃ before inside after rest,
        front = before ++ inside ∧ token.text = inside ++ c :: after ∧ behind = after ++ rest ∧
          token.row = (start.behind before).row + 1 ∧
            token.column = (start.behind before).column := by
  obtain ⟨standing, ending, tokens, -, covers, -⟩ := covers_scannedPart script
  rw [parts] at covers
  obtain ⟨token, stands, before, inside, after, rest, rfl, text, greater, row, column⟩ :=
    covers.exists_token visible
  have member : token ∈ (scan script).tokens := by
    rw [tokens]
    exact List.mem_append_left _ stands
  have place : token.place = start.behind before := by
    unfold Token.place
    rw [row, column]
    rfl
  have includes := Token.includes_behind text
  rw [place, ← behind_append] at includes
  exact ⟨token, member, Bool.eq_false_iff.2 fun hides => shown token member hides includes,
    before, inside, after, rest, rfl, text, greater, row, column⟩

/-- A minus sign with a greater-than sign behind it is an arrow, unless a token hides it. -/
theorem mem_find_of_shown
    {script front behind : Text}
    (parts : scannedPart script = front ++ arrowText ++ behind)
    (shown : ∀ token ∈ (scan script).tokens, token.kind.hidesArrows →
      ¬ token.Includes (start.behind front)) :
    start.behind front ∈ find (scan script).tokens := by
  obtain ⟨afterPart, whole⟩ := scannedPart_isPrefix script
  have inPart : scannedPart script = front ++ '-' :: '>' :: behind := by
    rw [parts, List.append_assoc]
    rfl
  obtain ⟨token, member, shows, before, inside, after, rest, rfl, text, greater, row, column⟩ :=
    exists_token_of_shown inPart (by decide) shown
  have place : token.place = start.behind before := by
    unfold Token.place
    rw [row, column]
    rfl
  rw [mem_find_scan]
  by_cases operator : token.kind = .operator
  · obtain ⟨rfl, isArrow⟩ := isArrow_of_operator member operator text
      (by rw [← whole, parts, List.append_assoc _ behind]) row column
    refine ⟨token, member, isArrow, ?_⟩
    rw [List.append_nil]
    exact place.symm
  · obtain ⟨digit, later, rfl, isDigit⟩ :=
      signsDigits_of_isMade (isMade_of_scan member) shows operator inside after text
    obtain ⟨rfl, -⟩ := List.cons.inj greater
    exact absurd isDigit (by decide)

/-- The arrows of a script ascend, and they are the places in the scanned part where a minus sign has
a greater-than sign behind it, unless that is in a literal, a comment, a stray or a line end. -/
theorem mem_arrows_withoutArrows_iff (script : Text) :
    (withoutArrows script).2.Pairwise Before ∧
      ∀ arrow, arrow ∈ (withoutArrows script).2 ↔
        (∃ front behind, scannedPart script = front ++ arrowText ++ behind ∧
          start.behind front = arrow) ∧
        ∀ token ∈ (scan script).tokens, token.kind.hidesArrows → ¬ token.Includes arrow := by
  rw [arrows_withoutArrows]
  refine ⟨pairwise_sort _, fun arrow => ?_⟩
  rw [mem_sort]
  constructor
  · exact shown_of_mem_find
  · rintro ⟨⟨front, behind, parts, rfl⟩, shown⟩
    exact mem_find_of_shown parts shown

end Pipescript
