import Pipescript.Text.Basic

/-!
# Quotes

A string literal opens and closes with the same quote, which is one quotation mark or three of
them.  Inside the literal a backslash takes the character behind it along, so an escaped mark
closes nothing.
-/

namespace Pipescript

def isQuoteMark (c : Char) : Bool :=
  c == '\'' || c == '"'

/-- The letters that may stand directly before an opening quote, in lower case. -/
def stringLetters : List Text :=
  [['r'], ['u'], ['b'], ['f'], ['b', 'r'], ['r', 'b'], ['f', 'r'], ['r', 'f']]

/-- Whether a name directly before a quote belongs to the literal. -/
def isStringLetters (name : Text) : Bool :=
  stringLetters.contains (name.map Char.toLower)

/-- What opens and closes a string literal. -/
structure Quote where
  mark : Char
  triple : Bool
  deriving DecidableEq, Repr

namespace Quote

def text (quote : Quote) : Text :=
  if quote.triple then [quote.mark, quote.mark, quote.mark] else [quote.mark]

/-- The quote that a mark opens in front of the given text. -/
def opening (mark : Char) (rest : Text) : Quote :=
  ⟨mark, [mark, mark].isPrefixOf rest⟩

theorem text_ne_nil (quote : Quote) : quote.text ≠ [] := by
  unfold text
  split <;> simp

theorem text_opening_isPrefix (mark : Char) (rest : Text) :
    (opening mark rest).text <+: mark :: rest := by
  unfold opening text
  split
  · next triple => exact (List.prefix_cons_inj _).2 (List.isPrefixOf_iff_prefix.1 triple)
  · exact ⟨rest, rfl⟩

/-- The part of a text up to and including the closing quote. -/
def closed? (quote : Quote) : Text → Option Text
  | [] => none
  | [c] => if c ≠ '\\' ∧ quote.text = [c] then some [c] else none
  | c :: next :: rest =>
      if c = '\\' then
        (closed? quote rest).map fun inside => c :: next :: inside
      else if quote.text.isPrefixOf (c :: next :: rest) then
        some quote.text
      else
        (closed? quote (next :: rest)).map (c :: ·)

theorem closed?_isPrefix
    {quote : Quote} {rest inside : Text}
    (closed : quote.closed? rest = some inside) :
    inside <+: rest := by
  fun_induction closed? quote rest generalizing inside with
  | case1 => simp at closed
  | case2 c =>
      obtain rfl : [c] = inside := by simpa using closed
      exact List.prefix_rfl
  | case3 => simp at closed
  | case4 next rest inductionHypothesis =>
      obtain ⟨before, found, rfl⟩ := Option.map_eq_some_iff.1 closed
      obtain ⟨after, rfl⟩ := inductionHypothesis found
      exact ⟨after, rfl⟩
  | case5 c next rest escaped opens =>
      obtain rfl : quote.text = inside := by simpa using closed
      exact List.isPrefixOf_iff_prefix.1 opens
  | case6 c next rest escaped opens inductionHypothesis =>
      obtain ⟨before, found, rfl⟩ := Option.map_eq_some_iff.1 closed
      obtain ⟨after, equality⟩ := inductionHypothesis found
      exact ⟨after, by simp [equality]⟩

end Quote

end Pipescript
