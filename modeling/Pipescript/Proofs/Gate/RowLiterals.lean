import Pipescript.Proofs.Scan.Onward

/-!
# Literals over rows

A gate expression reads a literal at once, a scan row by row.  Both find the same end of it: a row
of a literal closes it, or it is joined to the next row or has a triple quote, and then the literal
closes on the rows behind.
-/

namespace Pipescript

open Arrow

/-- The part of a text inside a literal of a gate expression, closing quote included. -/
def Quote.closedInGate? (quote : Quote) (text : Text) : Option Text :=
  if quote.triple then quote.closed? text else closedOnLine? quote.mark text

namespace Quote

variable {quote : Quote} {text line after inside : Text}

/-! ## One row of a literal -/

theorem closed?_of_closedOnLine?
    {mark : Char}
    (quoteMark : isQuoteMark mark)
    (closed : closedOnLine? mark text = some inside) :
    closed? ⟨mark, false⟩ text = some inside := by
  have notEscape : mark ≠ '\\' := by
    rintro rfl
    exact absurd quoteMark (by decide)
  fun_induction closedOnLine? mark text generalizing inside with
  | case1 => cases closed
  | case2 c condition =>
      obtain ⟨-, rfl⟩ := condition
      obtain rfl := Option.some.inj closed
      exact @closed?_text_append ⟨c, false⟩ notEscape []
  | case3 => cases closed
  | case4 next rest inductionHypothesis =>
      obtain ⟨deeper, found, rfl⟩ := Option.map_eq_some_iff.1 closed
      rw [closed?, if_pos rfl, inductionHypothesis found]
      rfl
  | case5 => cases closed
  | case6 next rest _ _ =>
      obtain rfl := Option.some.inj closed
      exact @closed?_text_append ⟨mark, false⟩ notEscape (next :: rest)
  | case7 c next rest escaped _ different inductionHypothesis =>
      obtain ⟨deeper, found, rfl⟩ := Option.map_eq_some_iff.1 closed
      have stillOpen : ¬ (text ⟨mark, false⟩).isPrefixOf (c :: next :: rest) := by
        simp [Quote.text, List.isPrefixOf, Ne.symm different]
      rw [closed?_cons escaped, if_neg stillOpen, inductionHypothesis found]
      rfl

theorem notFeed_of_mem_text
    (quoteMark : isQuoteMark quote.mark) :
    '\n' ∉ quote.text := by
  have notFeed : '\n' ≠ quote.mark := by
    intro feed
    rw [← feed] at quoteMark
    exact absurd quoteMark (by decide)
  unfold Quote.text
  split <;> simp [notFeed]

/-- A text without a line feed is in front of a text if it is in front of its first row. -/
theorem isPrefixOf_append_feed
    {part : Text}
    (noFeed : '\n' ∉ part)
    (front after : Text) :
    part.isPrefixOf (front ++ '\n' :: after) = part.isPrefixOf (front ++ ['\n']) := by
  induction front generalizing part with
  | nil =>
      cases part with
      | nil => rfl
      | cons c part =>
          have notFeed : (c == '\n') = false := by
            rw [beq_eq_false_iff_ne]
            rintro rfl
            exact noFeed List.mem_cons_self
          simp [List.isPrefixOf, notFeed]
  | cons d front inductionHypothesis =>
      cases part with
      | nil => rfl
      | cons c part =>
          have shorter := inductionHypothesis fun member => noFeed (List.mem_cons_of_mem c member)
          simp [List.isPrefixOf, shorter]

/-- Behind a line feed a literal begins anew. -/
theorem closed?_feed
    (quoteMark : isQuoteMark quote.mark)
    (after : Text) :
    quote.closed? ('\n' :: after) = (quote.closed? after).map ('\n' :: ·) := by
  have noFeed := notFeed_of_mem_text quoteMark
  have stillOpen : ¬ quote.text.isPrefixOf ('\n' :: after) := by
    intro opens
    obtain ⟨rest, parts⟩ := List.isPrefixOf_iff_prefix.1 opens
    obtain ⟨c, others, shape⟩ := List.exists_cons_of_ne_nil quote.text_ne_nil
    rw [shape] at parts noFeed
    obtain ⟨rfl, -⟩ := List.cons.inj parts
    exact noFeed List.mem_cons_self
  rw [closed?_cons (by decide), if_neg stillOpen]

/-- Which literals a row closes does not depend on the rows behind it. -/
theorem closed?_row
    (quoteMark : isQuoteMark quote.mark)
    (front after : Text) :
    quote.closed? (front ++ '\n' :: after) =
      (quote.closed? (front ++ ['\n'])).or
        ((quote.closed? after).map fun deeper => front ++ '\n' :: deeper) := by
  have noFeed := notFeed_of_mem_text quoteMark
  induction size : front.length using Nat.strongRecOn generalizing front with
  | ind size inductionHypothesis =>
      cases front with
      | nil =>
          rw [List.nil_append, closed?_feed quoteMark, List.nil_append, closed?_feed quoteMark]
          rfl
      | cons c rest =>
          by_cases escapes : c = '\\'
          · subst escapes
            cases rest with
            | nil =>
                rw [List.singleton_append, closed?, if_pos rfl]
                rfl
            | cons next rest =>
                have shorter := inductionHypothesis rest.length (by simp at size; omega) rest rfl
                simp only [List.cons_append, closed?, if_true, shorter]
                cases quote.closed? (rest ++ ['\n']) with
                | none => cases quote.closed? after <;> rfl
                | some inside => rfl
          · have shorter := inductionHypothesis rest.length (by simp at size; omega) rest rfl
            have samePrefix := isPrefixOf_append_feed noFeed (c :: rest) after
            rw [List.cons_append, List.cons_append] at samePrefix
            rw [List.cons_append, List.cons_append, closed?_cons escapes, closed?_cons escapes,
              samePrefix, shorter]
            split
            · rfl
            · cases quote.closed? (rest ++ ['\n']) with
              | none => cases quote.closed? after <;> rfl
              | some inside => rfl

theorem endsInJoint_append
    {line : Text}
    (joint : endsInJoint line)
    (front : Text) :
    endsInJoint (front ++ line) := by
  simp only [endsInJoint, Bool.or_eq_true, List.isSuffixOf_iff_suffix] at joint ⊢
  exact joint.imp (·.trans (List.suffix_append _ _)) (·.trans (List.suffix_append _ _))

/-- A row of a literal in single quotes closes it, or joins it to the next row. -/
theorem closedOnLine?_row
    {mark : Char} {front : Text}
    (quoteMark : isQuoteMark mark)
    (closed : closedOnLine? mark (front ++ '\n' :: after) = some inside) :
    closedOnLine? mark (front ++ ['\n']) = some inside ∨
      (endsInJoint (front ++ ['\n']) ∧
        ∃ deeper, inside = front ++ '\n' :: deeper ∧ closedOnLine? mark after = some deeper) := by
  have notBreak : isLineBreakChar mark = false := by
    simp only [isQuoteMark, Bool.or_eq_true, beq_iff_eq] at quoteMark
    rcases quoteMark with rfl | rfl <;> rfl
  induction size : front.length using Nat.strongRecOn generalizing front inside with
  | ind size inductionHypothesis =>
      cases front with
      | nil =>
          rw [List.nil_append, closedOnLine?_cons notBreak (by decide), if_pos (by decide)] at closed
          cases closed
      | cons c rest =>
          by_cases escapes : c = '\\'
          · subst escapes
            cases rest with
            | nil =>
                rw [List.singleton_append, closedOnLine?, if_pos rfl] at closed
                obtain ⟨deeper, found, rfl⟩ := Option.map_eq_some_iff.1 closed
                exact .inr ⟨by decide, deeper, rfl, found⟩
            | cons next rest =>
                simp only [List.cons_append, closedOnLine?, if_true] at closed ⊢
                obtain ⟨within, found, rfl⟩ := Option.map_eq_some_iff.1 closed
                rcases inductionHypothesis rest.length (by simp at size; omega) found rfl with
                  here | ⟨joint, deeper, rfl, behind⟩
                · exact .inl (by rw [here]; rfl)
                · exact .inr ⟨endsInJoint_append joint ['\\', next], deeper, rfl, behind⟩
          · simp only [List.cons_append, closedOnLine?_cons notBreak escapes] at closed ⊢
            split at closed
            · cases closed
            · next noBreak =>
                rw [if_neg noBreak]
                split at closed
                · next closes =>
                    rw [if_pos closes]
                    exact .inl closed
                · next stillOpen =>
                    rw [if_neg stillOpen]
                    obtain ⟨within, found, rfl⟩ := Option.map_eq_some_iff.1 closed
                    rcases inductionHypothesis rest.length (by simp at size; omega) found rfl with
                      here | ⟨joint, deeper, rfl, behind⟩
                    · exact .inl (by rw [here]; rfl)
                    · exact .inr ⟨endsInJoint_append joint [c], deeper, rfl, behind⟩

/-- A row of a literal of a gate expression closes it for the scan, too, or the scan goes on with it
on the next row. -/
theorem closedInGate?_row
    (quoteMark : isQuoteMark quote.mark)
    (isRow : after.IsRowBefore line)
    (closed : quote.closedInGate? (line ++ after) = some inside) :
    quote.closed? line = some inside ∨
      (quote.closed? line = none ∧ (quote.triple || endsInJoint line) = true ∧ after ≠ [] ∧
        ∃ deeper, inside = line ++ deeper ∧ quote.closedInGate? after = some deeper) := by
  have whole : quote.closed? (line ++ after) = some inside := by
    unfold closedInGate? at closed
    split at closed
    · exact closed
    · next single =>
        have found := closed?_of_closedOnLine? quoteMark closed
        rwa [← Bool.eq_false_iff.2 single] at found
  by_cases last : after = []
  · subst last
    exact .inl (by rwa [List.append_nil] at whole)
  obtain ⟨front, rfl⟩ := isRow.feed last
  have shape : front ++ ['\n'] ++ after = front ++ '\n' :: after := by simp
  rw [shape] at whole closed
  rw [closed?_row quoteMark] at whole
  cases here : quote.closed? (front ++ ['\n']) with
  | some found =>
      rw [here] at whole
      exact .inl whole
  | none =>
      refine .inr ⟨rfl, ?_⟩
      unfold closedInGate? at closed ⊢
      split at closed
      · next triple =>
          rw [here] at whole
          obtain ⟨deeper, found, rfl⟩ := Option.map_eq_some_iff.1 whole
          exact ⟨by rw [triple]; rfl, last, deeper, by simp, by rw [if_pos triple, found]⟩
      · next single =>
          rcases closedOnLine?_row quoteMark closed with closes | ⟨joint, deeper, rfl, found⟩
          · have found := closed?_of_closedOnLine? quoteMark closes
            rw [← Bool.eq_false_iff.2 single] at found
            rw [found] at here
            cases here
          · exact ⟨by rw [joint, Bool.or_true], last, deeper, by simp, by rw [if_neg single, found]⟩

/-- A literal that closes in a row has no line feed. -/
theorem noFeed_of_closed
    {behind : Text}
    (quoteMark : isQuoteMark quote.mark)
    (oneRow : line.IsOneRow)
    (parts : line = inside ++ behind)
    (closed : quote.closed? line = some inside) :
    '\n' ∉ inside := by
  obtain ⟨before, rfl⟩ := text_isSuffix_of_closed? closed
  have noFeed := notFeed_of_mem_text quoteMark
  rw [List.append_assoc] at parts
  intro feed
  rcases List.mem_append.1 feed with feed | feed
  · exact oneRow before _ parts (by simp [quote.text_ne_nil]) feed
  · exact noFeed feed

end Quote

/-! ## Scanning a literal -/

/-- On the rows of an open literal a scan comes to its end. -/
theorem scansOn_literal
    {inside behind : Text}
    (opened : OpenLiteral)
    (quoteMark : isQuoteMark opened.quote.mark)
    (closed : opened.quote.closedInGate? (inside ++ behind) = some inside)
    (blocks : OpenBlocks) (depth rows : Nat) (lastLine : Text) :
    ∃ later, ScansOn later ((⟨rows, 0⟩ : Arrow).behind inside) depth behind ∧
      (ScanState.scanRows ⟨blocks, depth, .literal opened⟩ rows lastLine
        (inside ++ behind).toLines).Yields
          [⟨.string, opened.text ++ inside, opened.row, opened.column⟩] later := by
  generalize whole : inside ++ behind = text at closed
  induction size : text.length using Nat.strongRecOn
      generalizing text opened inside rows lastLine with
  | ind size inductionHypothesis =>
      have notEmpty : text ≠ [] := by
        rintro rfl
        unfold Quote.closedInGate? at closed
        split at closed <;> cases closed
      obtain ⟨line, after, rfl, lineNotEmpty, isRow⟩ := Text.exists_row notEmpty
      rw [isRow.toLines lineNotEmpty, ScanState.scanRows]
      simp only [ScanState.scanRow, ScanState.scanLiteral]
      rcases Quote.closedInGate?_row quoteMark isRow closed with
        here | ⟨stillOpen, goesOn, more, deeper, rfl, deeperClosed⟩
      · obtain ⟨lineBehind, parts⟩ := Quote.closed?_isPrefix here
        obtain rfl : behind = lineBehind ++ after := by
          rw [← parts, List.append_assoc] at whole
          exact List.append_cancel_left whole
        have noFeed := Quote.noFeed_of_closed quoteMark isRow.oneRow parts.symm here
        have goesOn := isRow.goesOn parts.symm noFeed
        rw [here, behind_of_noFeed noFeed]
        have rest := scansOn_scanBehind (isRow.behind parts.symm goesOn) goesOn blocks depth
          ⟨rows, 0 + inside.length⟩ line
        refine ⟨_, rest, ?_⟩
        have dropped : line.drop inside.length = lineBehind := by
          rw [← parts, List.drop_left]
        dsimp only
        rw [dropped, Nat.zero_add]
        exact ⟨by
          unfold Scan.content scanBehind Scan.prepend ScanState.scanRest
          simp [TokenKind.isContent], rfl⟩
      · rw [stillOpen, if_pos goesOn]
        rw [List.append_assoc] at whole
        obtain ⟨front, rfl⟩ := isRow.feed more
        have nextRow : (⟨rows, 0⟩ : Arrow).behind (front ++ ['\n']) = ⟨rows + 1, 0⟩ := by
          rw [ScansOn.behind_rowEnd (isRow.oneRow front ['\n'] rfl (by simp))]
        have shorter := size
        rw [List.length_append, List.length_append, List.length_singleton] at shorter
        obtain ⟨later, onward, yields⟩ := inductionHypothesis after.length (by omega)
          { opened with text := opened.text ++ (front ++ ['\n']) }
          quoteMark (rows + 1) (front ++ ['\n']) after (List.append_cancel_left whole)
          deeperClosed rfl
        rw [behind_append, nextRow]
        refine ⟨later, onward, ?_⟩
        have texts : opened.text ++ (front ++ ['\n'] ++ deeper) =
            opened.text ++ (front ++ ['\n']) ++ deeper := by simp
        rw [texts]
        exact yields

/-- Which quote a mark opens shows in its row. -/
theorem Quote.opening_row
    {mark : Char} {line after : Text}
    (quoteMark : isQuoteMark mark)
    (feed : after ≠ [] → ∃ front, line = front ++ ['\n']) :
    Quote.opening mark (line ++ after) = Quote.opening mark line := by
  by_cases last : after = []
  · rw [last, List.append_nil]
  · obtain ⟨front, rfl⟩ := feed last
    have noFeed : '\n' ∉ [mark, mark] := by
      intro feed
      obtain rfl : '\n' = mark := by simpa using feed
      exact absurd quoteMark (by decide)
    have same := isPrefixOf_append_feed noFeed front after
    unfold Quote.opening
    rw [List.append_assoc, List.singleton_append, same]

/-- A literal of a gate expression closes behind its opening quote. -/
theorem GatePiece.exists_closedInGate?
    {letters rest body : Text} {mark : Char} {piece : GatePiece}
    (quoted : GatePiece.ofQuote letters mark rest = some piece)
    (parts : (Quote.opening mark rest).text ++ body = mark :: rest) :
    ∃ inside, (Quote.opening mark rest).closedInGate? body = some inside ∧
      piece = .string (letters ++ (Quote.opening mark rest).text ++ inside) := by
  obtain ⟨inside, closed, rfl⟩ := Option.map_eq_some_iff.1 quoted
  refine ⟨inside, ?_, rfl⟩
  unfold Quote.closedInGate?
  have sameMark : (Quote.opening mark rest).mark = mark := rfl
  generalize Quote.opening mark rest = quote at closed parts sameMark ⊢
  obtain ⟨opened, triple⟩ := quote
  obtain rfl : opened = mark := sameMark
  cases triple with
  | true =>
      obtain rfl : [opened, opened] ++ body = rest := (List.cons.inj parts).2
      exact closed
  | false =>
      obtain rfl : body = rest := (List.cons.inj parts).2
      exact closed

/-- A literal that is open at the end of its row goes on in the rows below. -/
theorem scansOn_openString
    {c : Char} {line deeper behind : Text} {quote : Quote}
    (isRow : (deeper ++ behind).IsRowBefore (c :: line))
    (more : deeper ++ behind ≠ [])
    (first : Lexeme.first c line = ⟨.openString quote, c :: line⟩)
    (quoteMark : isQuoteMark quote.mark)
    (closed : quote.closedInGate? (deeper ++ behind) = some deeper)
    (blocks : OpenBlocks) (depth : Nat) (origin : Arrow) (lastLine : Text) :
    ∃ later, ScansOn later (origin.behind (c :: line ++ deeper)) depth behind ∧
      (scanBehind blocks depth origin lastLine (c :: line) (deeper ++ behind)).Yields
        [⟨.string, c :: line ++ deeper, origin.row + 1, origin.column⟩] later := by
  obtain ⟨front, rowFeed⟩ := isRow.feed more
  have frontNoFeed : '\n' ∉ front := isRow.oneRow front ['\n'] rowFeed (by simp)
  obtain ⟨later, onward, yields⟩ := scansOn_literal
    ⟨quote, c :: line, origin.row + 1, origin.column⟩ quoteMark closed blocks depth (origin.row + 1)
    lastLine
  refine ⟨later, ?_, ?_⟩
  · rw [behind_append, rowFeed, ScansOn.behind_rowEnd frontNoFeed]
    exact onward
  · unfold scanBehind
    rw [lexemes_of_whole first]
    exact yields

/-- From the letters of a literal on a scan comes to the end that the gate expression has for it. -/
theorem ScansOn.string
    {scan : Scan} {origin : Arrow} {depth : Nat} {rest behind : Text} {mark : Char}
    {piece : GatePiece}
    (letters : Text)
    (onward : ScansOn scan origin depth (letters ++ mark :: rest))
    (quoteMark : isQuoteMark mark)
    (lettersNoFeed : '\n' ∉ letters)
    (quoted : GatePiece.ofQuote letters mark rest = some piece)
    (parts : letters ++ mark :: rest = piece.text ++ behind)
    (begun : ∀ c line lineRest after, letters ++ mark :: lineRest = c :: line →
      rest = lineRest ++ after → Lexeme.first c line = Lexeme.ofQuote letters mark lineRest) :
    ∃ later, ScansOn later (origin.behind piece.text) depth behind ∧
      scan.Yields [⟨.string, piece.text, origin.row + 1, origin.column⟩] later := by
  obtain ⟨c, others, whole⟩ : ∃ c others, letters ++ mark :: rest = c :: others :=
    List.exists_cons_of_ne_nil (by simp)
  have onwardHere := whole ▸ onward
  obtain ⟨blocks, lastLine, line, after, rfl, isRow, same⟩ := onwardHere.exists_row
  have markNoFeed : '\n' ∉ letters ++ [mark] := by
    have notFeed : '\n' ≠ mark := by
      rintro rfl
      exact absurd quoteMark (by decide)
    simp [lettersNoFeed, notFeed]
  have markParts : c :: line ++ after = letters ++ [mark] ++ rest := by
    rw [List.cons_append, ← whole]
    simp
  obtain ⟨lineRest, lineParts, rfl⟩ := isRow.exists_behind markNoFeed markParts
  have feed : after ≠ [] → ∃ front, lineRest = front ++ ['\n'] :=
    (isRow.behind lineParts (isRow.goesOn lineParts markNoFeed)).feed
  rw [List.append_assoc, List.singleton_append] at lineParts
  have first := begun c line lineRest after lineParts.symm rfl
  -- Behind the opening quote the body of the literal begins.
  obtain ⟨body, bodyParts⟩ := Quote.text_opening_isPrefix mark lineRest
  obtain ⟨inside, closed, rfl⟩ := @GatePiece.exists_closedInGate? _ _ (body ++ after) _ _ quoted
    (by rw [Quote.opening_row quoteMark feed, ← List.append_assoc, bodyParts, List.cons_append])
  rw [Quote.opening_row quoteMark feed] at closed parts ⊢
  unfold Lexeme.ofQuote at first
  dsimp only at first
  have bodyDropped : (mark :: lineRest).drop (Quote.opening mark lineRest).text.length = body := by
    rw [← bodyParts, List.drop_left]
  rw [bodyDropped] at first
  have sameMark : (Quote.opening mark lineRest).mark = mark := rfl
  generalize Quote.opening mark lineRest = quote at *
  have openingNoFeed : '\n' ∉ letters ++ quote.text := fun member =>
    (List.mem_append.1 member).elim lettersNoFeed
      (Quote.notFeed_of_mem_text (sameMark ▸ quoteMark))
  have rowParts : c :: line = letters ++ quote.text ++ body := by
    rw [lineParts, ← bodyParts, List.append_assoc]
  have bodyRow : after.IsRowBefore body :=
    isRow.behind rowParts (isRow.goesOn rowParts openingNoFeed)
  rcases Quote.closedInGate?_row (sameMark ▸ quoteMark) bodyRow closed with
    here | ⟨stillOpen, goesOn, more, deeper, rfl, deeperClosed⟩
  · rw [here] at first
    obtain ⟨bodyBehind, insideParts⟩ := Quote.closed?_isPrefix here
    have insideNoFeed := Quote.noFeed_of_closed (sameMark ▸ quoteMark) bodyRow.oneRow
      insideParts.symm here
    have noFeed : '\n' ∉ letters ++ quote.text ++ inside := fun member =>
      (List.mem_append.1 member).elim openingNoFeed insideNoFeed
    rw [same]
    exact scansOn_behind_lexeme isRow first (whole.symm.trans parts) noFeed rfl _ _ _
  · have joined : (quote.triple || endsInJoint lineRest) = true := by
      rw [Bool.or_eq_true] at goesOn ⊢
      refine goesOn.imp id fun joint => ?_
      obtain ⟨d, others, shape⟩ := List.exists_cons_of_ne_nil quote.text_ne_nil
      rw [shape] at bodyParts
      obtain ⟨-, rfl⟩ := List.cons.inj bodyParts
      exact Quote.endsInJoint_append joint others
    rw [stillOpen, if_pos joined, ← lineParts] at first
    obtain rfl : after = deeper ++ behind := by
      have rest := whole.symm.trans parts
      rw [← List.cons_append, rowParts] at rest
      simpa [GatePiece.text] using rest
    have text : letters ++ quote.text ++ (body ++ deeper) = c :: line ++ deeper := by
      rw [rowParts, List.append_assoc _ body]
    dsimp only [GatePiece.text]
    rw [same, text]
    exact scansOn_openString isRow more first (sameMark ▸ quoteMark) deeperClosed _ _ _ _

end Pipescript
