import Mathlib
import Pipescript.Proofs.Gate.ScanRun

/-!
# Gate expressions and scans agree

A gate expression is read as one text, a script row by row.  Of a text that is a gate expression
both make the same tokens, but for line ends, indentation and comments.  A scan knows more operators
than gate expressions do; none of those that they lack stands in one.
-/

namespace Pipescript

open Arrow

/-- Whether a token names something, is a literal or an operator. -/
def TokenKind.isWord : TokenKind → Bool
  | .name | .number | .string | .operator => true
  | .comment | .newline | .lineBreak | .indent | .dedent | .stray | .endMarker => false

/-- Whether a token of a scan is one of this kind, with the same text if that belongs to the kind. -/
def GateTokenKind.Matches (token : Token) : GateTokenKind → Prop
  | .number => token.kind = .number
  | .string => token.kind = .string
  | .name text => token.kind = .name ∧ token.text = text
  | .operator sign => token.kind = .operator ∧ token.text = sign.text
  | .lineBreak => False

/-- Whether a token of a gate expression and one of a scan match and begin at the same character of
a text. -/
structure GateToken.Agrees (text : Text) (gateToken : GateToken) (token : Token) : Prop where
  kind : gateToken.kind.Matches token
  place : ∃ front rest, text = front ++ rest ∧ gateToken.offset = front.utf8Size ∧
    token.row = (start.behind front).row + 1 ∧ token.column = (start.behind front).column

/-! ## The tokens of pieces -/

theorem isWord_of_mem_pieceTokens
    {origin : Arrow} {pieces : List GatePiece} {token : Token}
    (member : token ∈ pieceTokens origin pieces) :
    token.kind.isWord := by
  induction pieces generalizing origin with
  | nil => cases member
  | cons piece later inductionHypothesis =>
      rcases List.mem_append.1 member with here | behind
      · cases piece with
        | blank | comment | joint | lineBreak => cases here
        | number | string | name | operator =>
            rw [List.mem_singleton.1 here]
            rfl
      · exact inductionHypothesis behind

/-- The tokens of a gate expression, line breaks left out, agree with those that a scan makes of its
pieces. -/
theorem agrees_pieceTokens
    {text : Text} {pieces : List GatePiece}
    (front : Text)
    (parts : text = front ++ pieces.flatMap GatePiece.text)
    (depth : Nat) :
    List.Forall₂ (GateToken.Agrees text)
      ((gateTokens front.utf8Size depth pieces).filter (·.kind ≠ .lineBreak))
      (pieceTokens (start.behind front) pieces) := by
  induction pieces generalizing front depth with
  | nil => exact .nil
  | cons piece later inductionHypothesis =>
      rw [List.flatMap_cons, ← List.append_assoc] at parts
      have behind : ∀ depth, List.Forall₂ (GateToken.Agrees text)
          ((gateTokens (front.utf8Size + piece.text.utf8Size) depth later).filter
            (·.kind ≠ .lineBreak))
          (pieceTokens ((start.behind front).behind piece.text) later) := by
        intro depth
        have found := inductionHypothesis _ parts depth
        rwa [Text.utf8Size_append, behind_append] at found
      have token : ∀ {kind : GateTokenKind} {made : Token} (depth : Nat),
          kind ≠ .lineBreak → kind.Matches made →
          made.row = (start.behind front).row + 1 → made.column = (start.behind front).column →
          List.Forall₂ (GateToken.Agrees text)
            ((⟨kind, front.utf8Size⟩ ::
              gateTokens (front.utf8Size + piece.text.utf8Size) depth later).filter
                (·.kind ≠ .lineBreak))
            (made :: pieceTokens ((start.behind front).behind piece.text) later) := by
        intro kind made depth noBreak matched sameRow sameColumn
        rw [List.filter_cons_of_pos (by simpa using noBreak)]
        rw [List.append_assoc] at parts
        exact .cons ⟨matched, front, _, parts, rfl, sameRow, sameColumn⟩ (behind depth)
      cases piece with
      | blank | comment | joint => exact behind depth
      | lineBreak c =>
          unfold gateTokens
          dsimp only
          split
          · rw [List.filter_cons_of_neg (by simp)]
            exact behind depth
          · exact behind depth
      | number => exact token depth (by simp) rfl rfl rfl
      | string => exact token depth (by simp) rfl rfl rfl
      | name => exact token depth (by simp) ⟨rfl, rfl⟩ rfl rfl
      | operator => exact token _ (by simp) ⟨rfl, rfl⟩ rfl rfl

/-! ## The content of a scan -/

/-- The content of the scan of a gate expression are the tokens of its pieces. -/
theorem content_scan_of_cut
    {text : Text} {pieces : List GatePiece} {reached : Expected × List GateBracket}
    (returns : text.ReturnsBeforeFeeds)
    (cut : IsCut text pieces)
    (reading : Expected.run (.plain .operand, []) pieces = some reached) :
    (scan text).content = pieceTokens start pieces := by
  have noLiteral : ∀ opened, Carry.nothing ≠ .literal opened := by simp
  -- No block is open before the first row, so no indentation is inconsistent with it.
  obtain ⟨first, onward, yields⟩ :=
    (scansOn_scanRows noLiteral [] 0 0 [] text).resolve_right fun failed => failed.2.2.1 rfl
  have content : (scan text).content = first.content := yields.content
  have noStop : ∀ c, ([] : Text).head? = some c → c = ':' := fun c next => by cases next
  rw [← cut.flatMap_text] at returns
  rw [content]
  rcases @ScansAt.run _ _ _ _ 0 _ _ _ (.inl onward) cut.isCutUpTo_nil noStop (returns.fedBefore [])
      (fun ending => by cases ending) reading with ⟨last, lastAt, lastYields⟩ | ⟨-, whole⟩
  · have lastOnward := lastAt.scansOn (by simp)
    rw [lastYields.content, lastOnward.content_of_nil, List.append_nil]
    rfl
  · exact whole

/-- Of a gate expression with carriage returns only before line feeds, a scan makes the names,
numbers, strings and operators that its reader makes, and no strays. -/
theorem gateTokens_agree_scan
    {text : Text}
    (returns : text.ReturnsBeforeFeeds)
    (expression : isGateText text) :
    ∃ pieces, gatePieces 0 text = .ok pieces ∧
      List.Forall₂ (GateToken.Agrees text)
        ((gateTokens 0 0 pieces).filter (·.kind ≠ .lineBreak))
        ((scan text).tokens.filter (·.kind.isWord)) ∧
      ∀ token ∈ (scan text).tokens, token.kind ≠ .stray := by
  obtain ⟨pieces, cut, finishes⟩ := exists_cut_of_isGateText expression
  obtain ⟨reached, reading, -⟩ := (Option.any_eq_true _ _).1 finishes
  have content := content_scan_of_cut returns cut reading
  refine ⟨pieces, gatePieces_of_isCut cut 0, ?_, ?_⟩
  · have words : (scan text).tokens.filter (·.kind.isWord) = pieceTokens start pieces := by
      have wordContent : ∀ token : Token,
          token.kind.isWord = (token.kind.isWord && token.kind.isContent) := by
        intro token
        cases token.kind <;> rfl
      rw [List.filter_congr fun token _ => wordContent token, ← List.filter_filter]
      show (scan text).content.filter (·.kind.isWord) = _
      rw [content]
      exact List.filter_eq_self.2 fun token member => isWord_of_mem_pieceTokens member
    rw [words]
    exact agrees_pieceTokens [] cut.flatMap_text.symm 0
  · intro token member stray
    have inContent : token ∈ (scan text).content :=
      List.mem_filter.2 ⟨member, by rw [stray]; rfl⟩
    rw [content] at inContent
    have isWord := isWord_of_mem_pieceTokens inContent
    rw [stray] at isWord
    cases isWord

/-- A subscript of a literal that goes over two rows, with a line end inside brackets. -/
def spreadSubscript : Text :=
  "('a\\\nb')[0\r\n]".toList

theorem isGateText_spreadSubscript : isGateText spreadSubscript := by
  cbv

theorem gateTokens_agree_scan_spreadSubscript :
    spreadSubscript.ReturnsBeforeFeeds ∧ isGateText spreadSubscript ∧
      ∃ pieces, gatePieces 0 spreadSubscript = .ok pieces ∧
        List.Forall₂ (GateToken.Agrees spreadSubscript)
          ((gateTokens 0 0 pieces).filter (·.kind ≠ .lineBreak))
          ((scan spreadSubscript).tokens.filter (·.kind.isWord)) ∧
        ∀ token ∈ (scan spreadSubscript).tokens, token.kind ≠ .stray :=
  ⟨by decide, isGateText_spreadSubscript,
    gateTokens_agree_scan (by decide) isGateText_spreadSubscript⟩

end Pipescript
