import Pipescript.Files.Path
import Pipescript.Host.Basic

/-!
# URIs

A URI in normal form, by its parts.  Two URIs are the same if their normal forms are the same text.
-/

namespace Pipescript

/-- Who provides a resource: what is written behind the two slashes. -/
structure UriAuthority where
  /-- User name and password with the sign behind them, or nothing. -/
  user : Text
  /-- A host in normal form, or nothing. -/
  host : Text
  port : Option Nat
  deriving DecidableEq, Repr

structure Uri where
  scheme : Text
  authority : Option UriAuthority
  /-- A path that starts with a slash has segments; any other is a text of its own. -/
  path : Text
  query : Option Text
  fragment : Option Text
  deriving DecidableEq, Repr

/-- Why a text is no URI. -/
inductive UriError where
  | noScheme
  | badHost (error : HostError)
  | badPort
  deriving DecidableEq, Repr

namespace UriError

def message : UriError → String
  | noScheme => "relative URL without a base"
  | badHost error => error.message
  | badPort => "invalid port number"

end UriError

namespace UriAuthority

/-- An authority that names no host. -/
def nobody : UriAuthority :=
  ⟨[], [], none⟩

def text (authority : UriAuthority) : Text :=
  authority.user ++ authority.host ++
    match authority.port with
    | some port => ':' :: Nat.toDigits 10 port
    | none => []

end UriAuthority

namespace Uri

/-- The normal form. -/
def text (uri : Uri) : Text :=
  uri.scheme ++ ':' ::
    ((match uri.authority with
      | some authority => '/' :: '/' :: authority.text
      | none => if ['/', '/'].isPrefixOf uri.path then ['/', '.'] else []) ++
    uri.path ++
    (match uri.query with
      | some query => '?' :: query
      | none => []) ++
    (match uri.fragment with
      | some fragment => '#' :: fragment
      | none => []))

/-- The URI of an absolute path.  Its components are kept, two dots included. -/
def ofPath? (path : Path) : Option Uri :=
  if path.isAbsolute then
    let encoded := path.components.map (percentEncodeBytes isReservedInComponent)
    let joined := if encoded.isEmpty then ['/'] else encoded.flatMap ('/' :: ·)
    some ⟨"file".toList, some .nobody, joined, none, none⟩
  else
    none

def isAsciiLetter (c : Char) : Bool :=
  c.isAlpha

/-- Whether a path ends in a drive letter. -/
def endsInDrive (path : Path) : Bool :=
  match path.reverse with
  | mark :: letter :: _ :: _ =>
      (mark == 58 || mark == 124) && isAsciiLetter (Char.ofNat letter.toNat)
  | _ => false

/-- The path that a URI on this machine leads to, whatever its scheme. -/
def filePath? (uri : Uri) : Option Path :=
  let isHere := uri.authority.all fun authority =>
    authority.host.isEmpty || authority.host == "localhost".toList
  match isHere, uri.path with
  | true, '/' :: segments =>
      let path := (splitAt '/' segments).flatMap fun segment =>
        Path.slash :: percentDecode segment
      some (if endsInDrive path then path ++ [Path.slash] else path)
  | _, _ => none

end Uri

end Pipescript
