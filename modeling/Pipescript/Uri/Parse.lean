import Pipescript.Uri.Authority
import Pipescript.Uri.Segments

/-!
# Reading URIs

A text is read as a URI the way browsers do: blanks around it and line breaks in it are dropped, the
path of a hierarchical URI is resolved, and what must not stand as it is gets encoded.
-/

namespace Pipescript

namespace Uri

/-- A text without the controls and spaces around it and the line breaks and tabulators in it. -/
def clean (text : Text) : Text :=
  let isOuter (c : Char) : Bool := c.toNat ≤ 0x20
  (((text.dropWhile isOuter).reverse.dropWhile isOuter).reverse).filter fun c =>
    c != '\t' && c != '\n' && c != '\r'

/-- Split a text at its query and its fragment. -/
def splitTail (text : Text) : Text × Option Text × Option Text :=
  let beforeFragment := text.takeWhile (· != '#')
  let fragment := (text.dropWhile (· != '#')).tail?
  let path := beforeFragment.takeWhile (· != '?')
  (path, (beforeFragment.dropWhile (· != '?')).tail?, fragment)

/-- The URI of a scheme, an authority and a text behind it.  The path is made from what is before
the query and the fragment. -/
def ofParts (scheme : Text) (authority : Option UriAuthority) (path : Text → Text)
    (text : Text) : Uri :=
  let (before, query, fragment) := splitTail text
  { scheme := scheme
    authority := authority
    path := path before
    query := query.map (percentEncode (isReservedInQuery (isSpecial scheme)))
    fragment := fragment.map (percentEncode isReservedInFragment) }

/-! ## Files -/

/-- The segments of the path of a file, from the text behind its first slash. -/
def fileSegments (path : Text) : List Text :=
  resolve true [] (segmentsOf true path)

/-- The URI of a file with a host and the text behind the first slash of its path.  A path that
begins with a drive has no host. -/
def ofFile (host text : Text) : Uri :=
  let named := if (fileSegments (splitTail text).1).head?.any isDrive then [] else host
  ofParts "file".toList (some ⟨[], named, none⟩)
    (fun path => segmentsText (trimSegments (fileSegments path))) text

/-- Read what is behind `file:`.  The host `localhost` is this machine and left out, and a drive in
place of a host begins the path.  The slash behind a host that is left out begins a segment of its
own. -/
def readFile (text : Text) : Except UriError Uri :=
  match text with
  | first :: second :: behind =>
      if isSlash true first && isSlash true second then
        let written := behind.takeWhile (!endsAuthority true ·)
        let rest := behind.dropWhile (!endsAuthority true ·)
        if isDrive written then .ok (ofFile [] behind)
        else if written.isEmpty then .ok (ofFile [] rest)
        else do
          let host ← (Host.ofWeb written).mapError .badHost
          if host = "localhost".toList then return ofFile [] rest
          else return ofFile host (if rest.head?.any (isSlash true) then rest.drop 1 else rest)
      else
        .ok (ofFile [] (if isSlash true first then second :: behind else text))
  | [only] => .ok (ofFile [] (if isSlash true only then [] else text))
  | [] => .ok (ofFile [] text)

/-! ## Other schemes -/

/-- The path behind an authority in normal form.  Only outside the web it may be empty. -/
def pathBehind (special : Bool) (path : Text) : Text :=
  if path.isEmpty && !special then []
  else
    let inner := if path.head?.any (isSlash special) then path.drop 1 else path
    segmentsText (resolve false [] (segmentsOf special inner))

/-- Read a URI. -/
def parse (text : Text) : Except UriError Uri := do
  match scheme? (clean text) with
  | none => throw .noScheme
  | some (scheme, rest) =>
      let special := isSpecial scheme
      if scheme = "file".toList then readFile rest
      else if special || ['/', '/'].isPrefixOf rest then
        let server := if special then rest.dropWhile (isSlash true) else rest.drop 2
        let (authority, behind) ← UriAuthority.read scheme server
        return ofParts scheme (some authority) (pathBehind special) behind
      else if rest.head? == some '/' then
        return ofParts scheme none (pathBehind false) rest
      else
        return ofParts scheme none (percentEncode isControlOrWide) rest

end Uri

end Pipescript
