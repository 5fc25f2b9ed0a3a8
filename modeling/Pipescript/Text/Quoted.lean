import Pipescript.Text.Basic
import Pipescript.Text.Extender
import Pipescript.Text.Invisible

/-!
# Quoted text

A text in double quotes, with escapes for the quote, the backslash, the common controls, and by
their code points for all characters that would not show by themselves.
-/

namespace Pipescript

namespace Text

/-- Whether a character shows nothing although it is a letter: the fillers of Hangul syllables. -/
def isFiller (c : Char) : Bool :=
  ['\u115f', '\u1160', '\u3164', '\uffa0'].contains c

/-- Whether a character shows by itself although it extends the one before it: the halfwidth sound
marks of kana. -/
def isSoundMark (c : Char) : Bool :=
  ['\uff9e', '\uff9f'].contains c

/-- Whether a character would not show by itself. -/
def isHidden (c : Char) : Bool :=
  (isExtender c && !isSoundMark c) || isFiller c || isInvisible c

/-- The form of a character inside double quotes. -/
def quoteChar (c : Char) : Text :=
  if c = '\x00' then ['\\', '0']
  else if c = '\t' then ['\\', 't']
  else if c = '\r' then ['\\', 'r']
  else if c = '\n' then ['\\', 'n']
  else if c = '"' || c = '\\' then ['\\', c]
  else if isHidden c then
    ['\\', 'u', '{'] ++ Nat.toDigits 16 c.toNat ++ ['}']
  else [c]

/-- The text in double quotes. -/
def quoted (text : Text) : Text :=
  '"' :: text.flatMap quoteChar ++ ['"']

end Text

end Pipescript
