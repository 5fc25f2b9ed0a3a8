import Pipescript.Uri.Percent
import Pipescript.Uri.Scheme

/-!
# Segments

A hierarchical path is resolved segment by segment: segments of dots stand for the directory that
they are in or for the one above.  A drive letter is never left, whatever the scheme, and at the
start of the path of a file its mark is a colon.
-/

namespace Pipescript

namespace Uri

/-- Whether a segment stands for the directory it is in. -/
def isSingleDot (segment : Text) : Bool :=
  [".", "%2e"].any (·.toList == segment.map Char.toLower)

/-- Whether a segment stands for the directory above. -/
def isDoubleDot (segment : Text) : Bool :=
  ["..", ".%2e", "%2e.", "%2e%2e"].any (·.toList == segment.map Char.toLower)

/-- Whether a text is a drive letter with its mark. -/
def isDrive (text : Text) : Bool :=
  match text with
  | [letter, mark] => letter.isAlpha && (mark == ':' || mark == '|')
  | _ => false

/-- Whether a segment is a drive letter, perhaps with more behind a backslash. -/
def isDriveSegment (segment : Text) : Bool :=
  isDrive (segment.takeWhile (· != '\\'))

/-- Leave the innermost segment, unless it is a drive. -/
def leaveSegment (segments : List Text) : List Text :=
  if segments.getLast?.any isDriveSegment then segments else segments.dropLast

/-- Resolve the segments of a path behind those resolved already.  A last segment of dots leaves the
path with a slash at its end. -/
def resolve (isFile : Bool) (resolved : List Text) : List Text → List Text
  | [] => resolved
  | segment :: later =>
      if isDoubleDot segment then
        let left := leaveSegment resolved
        if later.isEmpty then left ++ [[]] else resolve isFile left later
      else if isSingleDot segment then
        if later.isEmpty then resolved ++ [[]] else resolve isFile resolved later
      else
        let kept :=
          if isFile && resolved.isEmpty && isDrive segment then segment.take 1 ++ [':']
          else percentEncode isReservedInPath segment
        resolve isFile (resolved ++ [kept]) later

/-- The segments of a path behind its first slash. -/
def segmentsOf (special : Bool) (path : Text) : List Text :=
  splitAt '/' (path.map fun c => if isSlash special c then '/' else c)

/-- The text of segments, each behind a slash. -/
def segmentsText (segments : List Text) : Text :=
  segments.flatMap ('/' :: ·)

/-- Segments without the empty ones in front. -/
def trimSegments (segments : List Text) : List Text :=
  match segments.dropWhile List.isEmpty with
  | [] => [[]]
  | kept => kept

end Uri

end Pipescript
