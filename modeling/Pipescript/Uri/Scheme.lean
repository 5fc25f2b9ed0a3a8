import Pipescript.Text.Basic

/-!
# Schemes

The schemes of the web have rules of their own.  Only these may leave out the slashes of an
authority and write backslashes for them, and their URIs need a host; `file` is one of them but
needs none.
-/

namespace Pipescript

namespace Uri

/-- The schemes of the web with their usual ports. -/
def specialSchemes : List (Text × Option Nat) :=
  [("file", none), ("http", some 80), ("https", some 443), ("ws", some 80), ("wss", some 443),
    ("ftp", some 21)].map fun (scheme, port) => (scheme.toList, port)

def isSpecial (scheme : Text) : Bool :=
  specialSchemes.any (·.1 == scheme)

/-- The port that is left out behind a scheme. -/
def usualPort? (scheme : Text) : Option Nat :=
  (specialSchemes.lookup scheme).join

/-- The scheme in front of a text, in lower case, and what is behind the colon. -/
def scheme? (text : Text) : Option (Text × Text) :=
  let isSchemeChar (c : Char) : Bool := c.isAlphanum || c == '+' || c == '-' || c == '.'
  match text.takeWhile isSchemeChar, text.dropWhile isSchemeChar with
  | first :: later, ':' :: rest =>
      if first.isAlpha then some ((first :: later).map Char.toLower, rest) else none
  | _, _ => none

/-- Whether a character separates segments of a path. -/
def isSlash (special : Bool) (c : Char) : Bool :=
  c == '/' || (special && c == '\\')

/-- Whether a character ends an authority. -/
def endsAuthority (special : Bool) (c : Char) : Bool :=
  isSlash special c || c == '?' || c == '#'

end Uri

end Pipescript
