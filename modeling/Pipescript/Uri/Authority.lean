import Pipescript.Uri.Basic
import Pipescript.Uri.Scheme

/-!
# Reading authorities

An authority is read up to the slash, question mark or number sign that ends it: a user up to its
last at sign, a host up to a colon outside brackets, and a port.
-/

namespace Pipescript

namespace UriAuthority

open Uri

/-- The last part of a text behind a separator, with what is before the separator. -/
def splitLast? (separator : Char) (text : Text) : Option (Text × Text) :=
  let behind := (text.reverse.takeWhile (· != separator)).reverse
  if behind.length < text.length then
    some (text.take (text.length - behind.length - 1), behind)
  else
    none

/-- User name and password in normal form. -/
def normalUser (user : Text) : Text :=
  let name := percentEncode isReservedInUser (user.takeWhile (· != ':'))
  let password := percentEncode isReservedInUser ((user.dropWhile (· != ':')).drop 1)
  if name.isEmpty && password.isEmpty then []
  else name ++ (if password.isEmpty then [] else ':' :: password) ++ ['@']

/-- The user in front of a text and what is behind the at sign.  Something must stand between an at
sign without a user and the end of the authority. -/
def splitUser (special : Bool) (text : Text) : Except UriError (Text × Text) :=
  match splitLast? '@' (text.takeWhile (!endsAuthority special ·)) with
  | none => .ok ([], text)
  | some (user, _) =>
      let behind := text.drop (user.length + 1)
      if user.isEmpty && behind.head?.any (endsAuthority special) then
        .error (.badHost .empty)
      else
        .ok (normalUser user, behind)

/-- The host in front of a text, inside brackets or not, and what is behind it. -/
def splitHost (special : Bool) : Bool → Text → Text × Text
  | _, [] => ([], [])
  | isInside, c :: rest =>
      if endsAuthority special c || (c = ':' && !isInside) then ([], c :: rest)
      else
        let (host, behind) := splitHost special (c = '[' || (isInside && c ≠ ']')) rest
        (c :: host, behind)

/-- The port in front of a text, unless it is the usual one, and what is behind it.  A backslash
ends a port whatever the scheme. -/
def splitPort (usual : Option Nat) (text : Text) : Except UriError (Option Nat × Text) :=
  let digits := text.takeWhile Char.isDigit
  let behind := text.dropWhile Char.isDigit
  match digitsValue? 10 digits with
  | none => .error .badPort
  | some port =>
      if 65535 < port || !behind.head?.all (endsAuthority true) then .error .badPort
      else if digits.isEmpty || usual == some port then .ok (none, behind)
      else .ok (some port, behind)

/-- The authority in front of a text and what is behind it.  The host is judged before the port, and
a user or a colon without a host after the host itself. -/
def read (scheme text : Text) : Except UriError (UriAuthority × Text) := do
  let special := isSpecial scheme
  let (user, server) ← splitUser special text
  let (written, behind) := splitHost special false server
  let host ← ((if special then Host.ofWeb written else Host.ofOther written).mapError .badHost)
  let hasColon := behind.head? == some ':'
  if host.isEmpty && hasColon then throw (.badHost .empty)
  let (port, rest) ←
    if hasColon then splitPort (usualPort? scheme) (behind.drop 1) else pure (none, behind)
  if host.isEmpty && !user.isEmpty then throw (.badHost .empty)
  return (⟨user, host, port⟩, rest)

end UriAuthority

end Pipescript
