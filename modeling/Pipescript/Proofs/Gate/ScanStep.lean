import Pipescript.Proofs.Gate.LastPiece
import Pipescript.Proofs.Gate.RowLiterals
import Pipescript.Proofs.Text.Returns

/-!
# Scanning piece by piece

The pieces of a gate expression are the lexemes of a scan, except that a literal may go over several
rows, that the line end of a scan takes a carriage return along, and that a scan knows operators that
are longer.  So a scan that has come to a piece comes to the text behind the piece, and makes the
token of the piece on its way.
-/

namespace Pipescript

open Arrow

/-! ## Pieces that are lexemes -/

theorem numberLiteral_of_notAnnounced
    {text : Text}
    (notAnnounced : ∀ mark rest, text = '0' :: mark :: rest → announcedBase? mark = none) :
    numberLiteral text = numberLiteral.decimal text := by
  unfold numberLiteral
  split
  · next mark rest => rw [notAnnounced mark rest rfl]; rfl
  · rfl

/-- A number of a gate expression is one for a scan. -/
theorem numberLiteral_of_ofNumber
    {source : Text} {piece : GatePiece}
    (found : GatePiece.ofNumber source = .ok piece) :
    numberLiteral source = piece.text := by
  by_cases announced : ∃ mark rest base, source = '0' :: mark :: rest ∧
      announcedBase? mark = some base
  · obtain ⟨mark, rest, base, rfl, announced⟩ := announced
    have digitParts := List.takeWhile_append_dropWhile
      (p := fun c => isDigitOf base c || c == '_') (l := rest)
    generalize taken : rest.takeWhile (fun c => isDigitOf base c || c == '_') = digits
      at digitParts
    rw [← digitParts] at taken found ⊢
    have areDigits : ∀ c ∈ digits, c.isAlphanum || c == '_' := by
      intro c member
      rw [← taken] at member
      have digit := List.mem_takeWhile_imp member
      rw [Bool.or_eq_true] at digit ⊢
      exact digit.imp isAlphanum_of_isDigitOf id
    rw [GatePiece.ofNumber_of_announced announced _ _ taken] at found
    split at found
    · cases found
    split at found
    · cases found
    next bounded =>
    obtain rfl := Except.ok.inj found
    have noDigit : ∀ c, continuesName c = false → (c.isAlphanum || c == '_') = false := by
      intro c noName
      refine Bool.eq_false_iff.2 fun digit => Bool.eq_false_iff.1 noName ?_
      rw [Bool.or_eq_true, beq_iff_eq] at digit
      rcases digit with letter | rfl
      · exact continuesName_of_isAlphanum letter
      · decide +kernel
    have longest : (digits ++ rest.dropWhile fun c => isDigitOf base c || c == '_').takeWhile
        (fun c => c.isAlphanum || c == '_') = digits := by
      refine takeWhile_of_all areDigits fun c next => noDigit c ?_
      rw [next] at bounded
      exact Bool.eq_false_iff.2 bounded
    show numberLiteral ('0' :: mark :: (digits ++ _)) = '0' :: mark :: digits
    rw [numberLiteral, if_pos (by rw [announced]; rfl), longest]
  · have notAnnounced : ∀ mark rest, source = '0' :: mark :: rest → announcedBase? mark = none := by
      intro mark rest shape
      cases found : announcedBase? mark with
      | none => rfl
      | some base => exact absurd ⟨mark, rest, base, shape, found⟩ announced
    rw [GatePiece.ofNumber_of_notAnnounced notAnnounced] at found
    rw [numberLiteral_of_notAnnounced notAnnounced, GatePiece.ofNumber.decimal_eq_ok found]
    rfl

/-- Whether a scan does not take an operator together with what follows it. -/
def GateOperator.StandsBefore (sign : GateOperator) (behind : Text) : Prop :=
  ∀ c, behind.head? = some c → c ≠ '=' ∧ c ≠ '>' ∧ (sign = .dot → c ≠ '.')

/-- An operator of a gate expression is the longest one for a scan, unless a scan takes what follows
along. -/
theorem operator?_of_first?
    {sign : GateOperator} {behind : Text}
    (listed : GateOperator.first? (sign.text ++ behind) = some sign)
    (stands : sign.StandsBefore behind) :
    operator? (sign.text ++ behind) = some sign.text := by
  cases behind with
  | nil => cases sign <;> decide
  | cons c rest =>
      obtain ⟨noEquals, noGreater, noDot⟩ := stands c rfl
      have equals : ('=' == c) = false := beq_eq_false_iff_ne.2 (Ne.symm noEquals)
      have greater : ('>' == c) = false := beq_eq_false_iff_ne.2 (Ne.symm noGreater)
      cases sign with
      | times =>
          have noPower : ('*' == c) = false := by
            refine beq_eq_false_iff_ne.2 ?_
            rintro rfl
            cases listed
          simp [operator?, operators, GateOperator.text, List.isPrefixOf, equals, noPower]
      | divide =>
          have noFloor : ('/' == c) = false := by
            refine beq_eq_false_iff_ne.2 ?_
            rintro rfl
            cases listed
          simp [operator?, operators, GateOperator.text, List.isPrefixOf, equals, noFloor]
      | dot =>
          have noDots : ('.' == c) = false := beq_eq_false_iff_ne.2 (Ne.symm (noDot rfl))
          simp [operator?, operators, GateOperator.text, List.isPrefixOf, noDots]
      | power | floorDivide | plus | minus | modulo | openParen | closeParen | openBracket
      | closeBracket | comma | assign =>
          simp [operator?, operators, GateOperator.text, List.isPrefixOf, equals, greater]

namespace GatePiece

/-- The kind of the lexemes that are numbers, names and operators. -/
def wordKind? : GatePiece → Option LexemeKind
  | .number _ => some .number
  | .name _ => some .name
  | .operator _ => some .operator
  | .blank _ | .comment _ | .joint _ | .lineBreak _ | .string _ => none

/-- The tokens that a scan makes of a piece at a place, but for comments and layout. -/
def tokens (origin : Arrow) : GatePiece → List Token
  | .number text => [⟨.number, text, origin.row + 1, origin.column⟩]
  | .string text => [⟨.string, text, origin.row + 1, origin.column⟩]
  | .name text => [⟨.name, text, origin.row + 1, origin.column⟩]
  | .operator sign => [⟨.operator, sign.text, origin.row + 1, origin.column⟩]
  | .blank _ | .comment _ | .joint _ | .lineBreak _ => []

/-- The bracket depth behind a piece. -/
def depthAfter (piece : GatePiece) (depth : Nat) : Nat :=
  match piece with
  | .operator sign => sign.depthAfter depth
  | _ => depth

variable {c : Char} {rest behind : Text} {piece : GatePiece} {kind : LexemeKind}

/-- Numbers, names and operators are lexemes. -/
theorem lexeme_of_begins
    (begins : Begins c rest piece)
    (parts : c :: rest = piece.text ++ behind)
    (isWord : piece.wordKind? = some kind)
    (stands : ∀ sign, piece = .operator sign → sign.StandsBefore behind) :
    Lexeme.first c rest = ⟨kind, piece.text⟩ := by
  cases begins with
  | blank | comment | joint | lineBreak => cases isWord
  | number _ visible counts counted =>
      have noQuote : isQuoteMark c = false := by
        refine Bool.eq_false_iff.2 fun quotes => ?_
        rw [startsNumber_of_isQuoteMark quotes] at counts
        cases counts
      have isNumber := number_of_ofNumber counted
      rw [isNumber] at isWord
      obtain rfl := Option.some.inj isWord
      simp [Lexeme.first, visible.noMargin, visible.noComment, visible.noJoint, visible.noBreak,
        noQuote, counts, numberLiteral_of_ofNumber counted]
  | quoted _ _ _ _ quoted | lettered _ _ _ _ _ _ _ quoted =>
      rw [string_of_ofQuote quoted] at isWord
      cases isWord
  | name bare names plain =>
      obtain rfl := Option.some.inj isWord
      simp only [Lexeme.first, bare.noMargin, bare.noComment, bare.noJoint, bare.noBreak,
        bare.noQuote, bare.noNumber, names, Bool.false_eq_true, if_false, if_true]
      split
      · next mark after shown =>
          rw [plain mark after shown, if_neg (by decide)]
          rfl
      · rfl
  | operator sign bare noName listed =>
      obtain rfl := Option.some.inj isWord
      have signParts : c :: rest = sign.text ++ behind := parts
      rw [signParts] at listed
      have longest := operator?_of_first? listed (stands sign rfl)
      rw [← signParts] at longest
      simp only [Lexeme.first, bare.noMargin, bare.noComment, bare.noJoint, bare.noBreak,
        bare.noQuote, bare.noNumber, noName, longest, Bool.false_eq_true, if_false]
      rfl

theorem noFeed_of_begins
    (begins : Begins c rest piece)
    (isWord : piece.wordKind? = some kind) :
    '\n' ∉ piece.text := by
  cases begins with
  | blank | comment | joint | lineBreak => cases isWord
  | number _ _ _ counted =>
      intro feed
      exact absurd (isNumberChar_of_mem_ofNumber counted feed) (by decide +kernel)
  | quoted _ _ _ _ quoted | lettered _ _ _ _ _ _ _ quoted =>
      rw [string_of_ofQuote quoted] at isWord
      cases isWord
  | name _ names _ =>
      intro feed
      rcases List.mem_cons.1 feed with rfl | feed
      · exact absurd names (by decide +kernel)
      · exact absurd (List.mem_takeWhile_imp feed) (by decide +kernel)
  | operator sign => cases sign <;> decide

theorem tokens_of_wordKind?
    (isWord : piece.wordKind? = some kind)
    (origin : Arrow) (depth : Nat) :
    kind.isWhole ∧ Lexeme.depthAfter ⟨kind, piece.text⟩ depth = piece.depthAfter depth ∧
      ((⟨kind, piece.text⟩ : Lexeme).tokens origin depth).filter (·.kind.isContent) =
        piece.tokens origin := by
  cases piece with
  | blank | comment | joint | lineBreak | string => cases isWord
  | number | name =>
      obtain rfl := Option.some.inj isWord
      exact ⟨rfl, rfl, rfl⟩
  | operator sign =>
      obtain rfl := Option.some.inj isWord
      refine ⟨rfl, ?_, rfl⟩
      cases sign <;> rfl

end GatePiece

namespace ScansOn

variable {scan : Scan} {origin : Arrow} {depth : Nat} {c : Char} {rest behind : Text}
  {piece : GatePiece}

theorem word
    {kind : LexemeKind}
    (onward : ScansOn scan origin depth (c :: rest))
    (begun : GatePiece.first c rest = .ok piece)
    (parts : c :: rest = piece.text ++ behind)
    (isWord : piece.wordKind? = some kind)
    (stands : ∀ sign, piece = .operator sign → sign.StandsBefore behind) :
    ∃ later, ScansOn later (origin.behind piece.text) (piece.depthAfter depth) behind ∧
      scan.Yields (piece.tokens origin) later := by
  obtain ⟨whole, sameDepth, tokens⟩ := GatePiece.tokens_of_wordKind? isWord origin depth
  have noFeed := GatePiece.noFeed_of_begins (GatePiece.first_eq_ok_iff.1 begun) isWord
  rw [← sameDepth, ← tokens]
  refine onward.lexeme ⟨kind, piece.text⟩ parts noFeed whole fun line after rows row => ?_
  obtain ⟨lineBehind, lineParts, rfl⟩ := row.exists_behind noFeed (by rw [← parts, rows]; rfl)
  have sameNext : lineBehind.head? = (lineBehind ++ after).head? := by
    rcases row.goesOn lineParts noFeed with more | rfl
    · obtain ⟨d, others, rfl⟩ := List.exists_cons_of_ne_nil more
      rfl
    · rw [List.append_nil]
  obtain ⟨otherRest, otherParts, otherBegun⟩ :=
    GatePiece.first_of_endsAlike begun parts (.inl sameNext)
  rw [← lineParts] at otherParts
  obtain ⟨-, rfl⟩ := List.cons.inj otherParts
  refine GatePiece.lexeme_of_begins (GatePiece.first_eq_ok_iff.1 otherBegun) lineParts isWord
    fun sign isOperator d next => stands sign isOperator d ?_
  rw [← sameNext, next]

theorem blank
    (onward : ScansOn scan origin depth (c :: rest))
    (margin : isMarginChar c) :
    ∃ later, ScansOn later (origin.behind [c]) depth rest ∧ scan.Yields [] later := by
  have noFeed : '\n' ∉ [c] := by
    intro feed
    rw [← List.mem_singleton.1 feed] at margin
    exact absurd margin (by decide)
  exact onward.lexeme ⟨.blank, [c]⟩ rfl noFeed rfl fun line after _ _ => by
    rw [Lexeme.first, if_pos margin]

/-- A scan comes to the end of a comment, or to the carriage return that a comment of a gate
expression ends in. -/
theorem comment
    {note : Text}
    (onward : ScansOn scan origin depth ('#' :: note ++ behind))
    (noFeed : '\n' ∉ note)
    (noReturn : '\r' ∉ note)
    (ends : ∀ c, behind.head? = some c → isLineBreakChar c) :
    ∃ later, ScansOn later (origin.behind ('#' :: note)) depth behind ∧ scan.Yields [] later := by
  have noBreak : ∀ c ∈ note, !isLineBreakChar c := by
    intro c member
    rw [Bool.not_eq_true']
    refine Bool.eq_false_iff.2 fun breaks => ?_
    simp only [isLineBreakChar, Bool.or_eq_true, beq_iff_eq] at breaks
    rcases breaks with rfl | rfl
    · exact noReturn member
    · exact noFeed member
  have taken : (note ++ behind).takeWhile (!isLineBreakChar ·) = note :=
    takeWhile_of_all noBreak fun c next => by rw [ends c next]; rfl
  refine onward.lexeme ⟨.comment, '#' :: note⟩ rfl (by simp [noFeed]) rfl
    fun line after rows row => ?_
  have lineRow : after ≠ [] → ∃ front, line = front ++ ['\n'] :=
    (row.behind List.singleton_append.symm (row.goesOn List.singleton_append.symm (by decide))).feed
  have sameTaken := (Text.IsRowBefore.takeWhile_dropWhile
    ⟨row.oneRow.behind List.singleton_append.symm, lineRow⟩
    (p := (!isLineBreakChar ·)) (by decide)).1
  have rows : note ++ behind = line ++ after := rows
  rw [← rows, taken] at sameTaken
  show (⟨.comment, '#' :: line.takeWhile (!isLineBreakChar ·)⟩ : Lexeme) = _
  rw [← sameTaken]

end ScansOn

/-! ## Where a scan has come to -/

/-- Whether a scan has come to a place, or to a carriage return before it that belongs to a line
end. -/
def ScansAt (scan : Scan) (origin : Arrow) (depth : Nat) (text : Text) : Prop :=
  ScansOn scan origin depth text ∨
    ∃ before rest, text = '\n' :: rest ∧ origin = before.next '\r' ∧
      ScansOn scan before depth ('\r' :: text)

namespace ScansAt

variable {scan : Scan} {origin : Arrow} {depth : Nat} {c : Char} {rest behind : Text}
  {piece : GatePiece}

theorem scansOn
    (at_ : ScansAt scan origin depth behind)
    (noFeed : behind.head? ≠ some '\n') :
    ScansOn scan origin depth behind := by
  rcases at_ with onward | ⟨_, _, rfl, -⟩
  · exact onward
  · exact absurd rfl noFeed

end ScansAt

theorem ScansOn.scansAt_comment
    {scan : Scan} {origin : Arrow} {depth : Nat} {note behind : Text}
    (onward : ScansOn scan origin depth ('#' :: note ++ behind))
    (returns : note.ReturnsFedBefore behind)
    (noFeed : '\n' ∉ note)
    (ends : ∀ c, behind.head? = some c → c = '\n') :
    ∃ later, ScansAt later (origin.behind ('#' :: note)) depth behind ∧ scan.Yields [] later := by
  rcases returns.eq_or_last noFeed with noReturn | ⟨front, rfl, noReturn, next⟩
  · obtain ⟨later, laterOnward, yields⟩ := onward.comment noFeed noReturn fun c next => by
      rw [ends c next]
      rfl
    exact ⟨later, .inl laterOnward, yields⟩
  · obtain ⟨c, rest, rfl⟩ : ∃ c rest, behind = c :: rest := by
      cases behind with
      | nil => cases next
      | cons c rest => exact ⟨c, rest, rfl⟩
    obtain rfl : c = '\n' := Option.some.inj next
    have shape : '#' :: (front ++ ['\r']) ++ '\n' :: rest = '#' :: front ++ '\r' :: '\n' :: rest := by
      simp
    rw [shape] at onward
    obtain ⟨later, laterOnward, yields⟩ := onward.comment
      (fun feed => noFeed (List.mem_append_left _ feed)) noReturn fun c next => by
        obtain rfl := Option.some.inj next
        rfl
    refine ⟨later, .inr ⟨_, rest, rfl, ?_, laterOnward⟩, yields⟩
    rw [← List.cons_append, behind_append]
    rfl

/-! ## Literals -/

theorem Lexeme.first_of_isQuoteMark
    {mark : Char}
    (quotes : isQuoteMark mark)
    (rest : Text) :
    first mark rest = ofQuote [] mark rest := by
  simp only [isQuoteMark, Bool.or_eq_true, beq_iff_eq] at quotes
  rcases quotes with rfl | rfl <;> rfl

theorem Lexeme.first_of_letters
    {c mark : Char} {word rest : Text}
    (bare : GatePiece.IsBare c (word ++ mark :: rest))
    (names : startsName c)
    (letters : ∀ d ∈ word, continuesName d)
    (opens : (isQuoteMark mark && isStringLetters (c :: word)) = true) :
    first c (word ++ mark :: rest) = ofQuote (c :: word) mark rest := by
  have markEnds : continuesName mark = false :=
    GatePiece.continuesName_of_isQuoteMark (Bool.and_eq_true_iff.1 opens).1
  have taken : (word ++ mark :: rest).takeWhile continuesName = word := by
    rw [List.takeWhile_append_of_pos letters]
    simp [markEnds]
  simp only [first, bare.noMargin, bare.noComment, bare.noJoint, bare.noBreak, bare.noQuote,
    bare.noNumber, names, Bool.false_eq_true, if_false, if_true, taken, dropWhile_of_takeWhile taken,
    opens]

namespace ScansOn

variable {scan : Scan} {origin : Arrow} {depth : Nat} {c : Char} {rest behind : Text}
  {piece : GatePiece}

theorem quoted
    (onward : ScansOn scan origin depth (c :: rest))
    (quotes : isQuoteMark c)
    (quoted : GatePiece.ofQuote [] c rest = some piece)
    (parts : c :: rest = piece.text ++ behind) :
    ∃ later, ScansOn later (origin.behind piece.text) depth behind ∧
      scan.Yields [⟨.string, piece.text, origin.row + 1, origin.column⟩] later := by
  refine ScansOn.string [] onward quotes List.not_mem_nil quoted parts ?_
  intro d line lineRest after shape _
  obtain ⟨rfl, rfl⟩ := List.cons.inj shape
  exact Lexeme.first_of_isQuoteMark quotes _

theorem lettered
    {mark : Char} {after : Text}
    (onward : ScansOn scan origin depth (c :: rest))
    (bare : GatePiece.IsBare c rest)
    (names : startsName c)
    (dropped : rest.dropWhile continuesName = mark :: after)
    (opens : (isQuoteMark mark && isStringLetters (c :: rest.takeWhile continuesName)) = true)
    (quoted : GatePiece.ofQuote (c :: rest.takeWhile continuesName) mark after = some piece)
    (parts : c :: rest = piece.text ++ behind) :
    ∃ later, ScansOn later (origin.behind piece.text) depth behind ∧
      scan.Yields [⟨.string, piece.text, origin.row + 1, origin.column⟩] later := by
  have restParts := List.takeWhile_append_dropWhile (p := continuesName) (l := rest)
  rw [dropped] at restParts
  have letters : ∀ d ∈ rest.takeWhile continuesName, continuesName d :=
    fun d member => List.mem_takeWhile_imp member
  generalize rest.takeWhile continuesName = word at *
  subst restParts
  have noFeed : '\n' ∉ c :: word := by
    intro feed
    rcases List.mem_cons.1 feed with rfl | member
    · exact absurd names (by decide +kernel)
    · exact absurd (letters '\n' member) (by decide +kernel)
  refine ScansOn.string (c :: word) onward (Bool.and_eq_true_iff.1 opens).1 noFeed quoted parts ?_
  intro d line lineRest others shape rows
  obtain ⟨rfl, rfl⟩ := List.cons.inj shape
  refine Lexeme.first_of_letters { bare with noNumber := ?_ } names letters opens
  have sameHead : (word ++ mark :: lineRest).head? = (word ++ mark :: after).head? :=
    head?_append_of_sameNext rfl
  exact (GatePiece.startsNumber_of_sameHead sameHead).trans bare.noNumber

end ScansOn

/-! ## One piece -/

namespace ScansAt

variable {scan : Scan} {origin : Arrow} {depth : Nat} {c : Char} {rest behind : Text}
  {piece : GatePiece}

theorem lineFeed
    (at_ : ScansAt scan origin depth ('\n' :: rest)) :
    (∃ later, ScansAt later (origin.behind ['\n']) depth rest ∧ scan.Yields [] later) ∨
      (depth = 0 ∧ scan.content = []) := by
  rcases at_ with onward | ⟨before, _, -, rfl, onward⟩
  · rcases ScansOn.lineEnd [] onward (.inl rfl) with
      ⟨later, laterOnward, yields⟩ | failed
    · exact .inl ⟨later, .inl laterOnward, yields⟩
    · exact .inr failed
  · rcases ScansOn.lineEnd ['\r'] onward (.inr rfl) with
      ⟨later, laterOnward, yields⟩ | failed
    · exact .inl ⟨later, .inl laterOnward, yields⟩
    · exact .inr failed

/-- From a piece a scan comes to the text behind it, unless the line end outside of brackets is
followed by an inconsistent indentation. -/
theorem step
    (at_ : ScansAt scan origin depth (c :: rest))
    (begun : GatePiece.first c rest = .ok piece)
    (parts : c :: rest = piece.text ++ behind)
    (returns : piece.text.ReturnsFedBefore behind)
    (stands : ∀ sign, piece = .operator sign → sign.StandsBefore behind) :
    (∃ later, ScansAt later (origin.behind piece.text) (piece.depthAfter depth) behind ∧
      scan.Yields (piece.tokens origin) later) ∨
    ((∃ c, piece = .lineBreak c) ∧ depth = 0 ∧ scan.content = []) := by
  by_cases feed : c = '\n'
  · subst feed
    obtain rfl : GatePiece.lineBreak '\n' = piece := Except.ok.inj begun
    obtain rfl : rest = behind := (List.cons.inj parts).2
    exact at_.lineFeed.imp id fun failed => ⟨⟨'\n', rfl⟩, failed⟩
  have onward : ScansOn scan origin depth (c :: rest) :=
    at_.scansOn fun next => feed (Option.some.inj next)
  refine .inl ?_
  have reached : ∀ {depth : Nat} {tokens : List Token},
      (∃ later, ScansOn later (origin.behind piece.text) depth behind ∧ scan.Yields tokens later) →
      ∃ later, ScansAt later (origin.behind piece.text) depth behind ∧ scan.Yields tokens later :=
    fun ⟨later, laterOnward, yields⟩ => ⟨later, .inl laterOnward, yields⟩
  cases GatePiece.first_eq_ok_iff.1 begun with
  | blank margin =>
      obtain rfl : rest = behind := (List.cons.inj parts).2
      exact reached (onward.blank margin)
  | comment comments =>
      subst comments
      generalize taken : rest.takeWhile (· != '\n') = note at parts returns ⊢
      obtain rfl : rest = note ++ behind := (List.cons.inj parts).2
      refine onward.scansAt_comment (@Text.ReturnsFedBefore.append ['#'] note behind returns).2
        (fun member => ?_) ?_
      · rw [← taken] at member
        simpa using List.mem_takeWhile_imp member
      · intro d next
        simpa using head?_of_takeWhile taken next
  | joint lineEnd escapes shape _ =>
      subst escapes
      rw [parts] at onward
      exact reached (onward.joint shape)
  | lineBreak breaks =>
      obtain rfl : rest = behind := (List.cons.inj parts).2
      obtain rfl : c = '\r' := by
        simp only [isLineBreakChar, Bool.or_eq_true, beq_iff_eq] at breaks
        exact breaks.resolve_right feed
      have next : rest.head? = some '\n' := returns [] [] rfl
      obtain ⟨others, rfl⟩ : ∃ others, rest = '\n' :: others := by
        cases rest with
        | nil => cases next
        | cons d others =>
            obtain rfl := Option.some.inj next
            exact ⟨others, rfl⟩
      exact ⟨scan, .inr ⟨origin, others, rfl, rfl, onward⟩, .refl scan⟩
  | number _ _ _ counted =>
      have isNumber := GatePiece.number_of_ofNumber counted
      exact reached (onward.word begun parts (by rw [isNumber]; rfl) stands)
  | name => exact reached (onward.word begun parts rfl stands)
  | operator => exact reached (onward.word begun parts rfl stands)
  | quoted _ _ _ quotes quoted =>
      obtain ⟨text, rfl⟩ : ∃ text, piece = .string text := ⟨_, GatePiece.string_of_ofQuote quoted⟩
      exact reached (onward.quoted quotes quoted parts)
  | lettered _ mark after bare names dropped opens quoted =>
      obtain ⟨text, rfl⟩ : ∃ text, piece = .string text := ⟨_, GatePiece.string_of_ofQuote quoted⟩
      exact reached (onward.lettered bare names dropped opens quoted parts)

end ScansAt

end Pipescript
