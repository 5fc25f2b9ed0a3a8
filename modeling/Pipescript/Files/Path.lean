import Pipescript.Text.Utf8

/-!
# Paths

A path is a list of bytes in which slashes separate components.  Most paths are the bytes of some
text, but any byte may occur.  Nothing is normalised: a path is kept as it was put together.
-/

namespace Pipescript

/-- The bytes of a path. -/
abbrev Path := List UInt8

/-- The bytes of a component of a path. -/
abbrev FileName := List UInt8

namespace FileName

/-- The name under which a directory lists itself: a point. -/
def itself : FileName :=
  [46]

/-- The name under which a directory lists the one above it: two points. -/
def parent : FileName :=
  [46, 46]

end FileName

namespace Path

/-- The path that is written as a text. -/
def ofText (text : Text) : Path :=
  text.utf8Bytes

/-- How a path is shown.  Bytes that do not make up a text are replaced. -/
def display (path : Path) : Text :=
  Text.ofBroken path

/-- The byte of a slash. -/
def slash : UInt8 :=
  47

def isAbsolute (path : Path) : Bool :=
  path.head? == some slash

/-- Read a path against another one.  An absolute path stays as it is. -/
def join (base path : Path) : Path :=
  if isAbsolute path then path
  else if base.isEmpty || base.getLast? == some slash then base ++ path
  else base ++ slash :: path

/-- The components of a path, without those that stand for the directory they are in. -/
def components (path : Path) : List FileName :=
  (splitAt slash path).filter fun part => part != [] && part != FileName.itself

theorem display_ofText (text : Text) : (ofText text).display = text :=
  Text.ofBroken_utf8Bytes text

end Path

end Pipescript
