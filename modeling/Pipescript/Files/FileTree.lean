import Pipescript.Files.Path

/-!
# File trees

A file tree says what stands at which place: files with their bytes, and directories.  A path is
followed component by component; two dots lead back to the directory above.
-/

namespace Pipescript

inductive FileNode where
  | file (bytes : List UInt8)
  | directory
  deriving DecidableEq, Repr

/-- Why a path leads to nothing. -/
inductive FileError where
  | notFound
  | notDirectory
  /-- A name, or the path itself, has too many bytes. -/
  | tooLong
  /-- The path holds a byte that no name can hold. -/
  | badName
  /-- Anything else, in the words of the system. -/
  | other (reason : Text)
  deriving DecidableEq, Repr

namespace FileError

def message : FileError → String
  | notFound => "No such file or directory (os error 2)"
  | notDirectory => "Not a directory (os error 20)"
  | tooLong => "File name too long (os error 36)"
  | badName => "file name contained an unexpected NUL byte"
  | other reason => String.ofList reason

end FileError

/-- The nodes of a file tree by the names that lead to them from the root.  Of several nodes at one
place the first counts. -/
structure FileTree where
  nodes : List (List FileName × FileNode)
  deriving DecidableEq, Repr

namespace FileTree

/-- A tree with nothing but its root. -/
def empty : FileTree :=
  ⟨[]⟩

/-- What stands at a place.  The root is always a directory. -/
def node? (tree : FileTree) (place : List FileName) : Option FileNode :=
  if place.isEmpty then some .directory
  else (tree.nodes.find? (·.1 == place)).map Prod.snd

/-- The directories above a place, the root left out. -/
def above : List FileName → List (List FileName)
  | [] => []
  | [_] => []
  | name :: names => [name] :: (above names).map (name :: ·)

/-- Put a node at a place, with the directories above it. -/
def write (tree : FileTree) (path : Path) (node : FileNode) : FileTree :=
  let place := path.components
  ⟨(place, node) :: (above place).map (·, .directory) ++ tree.nodes⟩

/-- How many bytes a name may have. -/
def longestName : Nat :=
  255

/-- Follow components from a place that holds the given node. -/
def follow (tree : FileTree) (place : List FileName) :
    FileNode → List FileName → Except FileError FileNode
  | node, [] => .ok node
  | .file _, _ :: _ => .error .notDirectory
  | .directory, name :: names =>
      if name = [] ∨ name = .itself then tree.follow place .directory names
      else if name = .parent then tree.follow place.dropLast .directory names
      else if longestName < name.length then .error .tooLong
      else
        match tree.node? (place ++ [name]) with
        | none => .error .notFound
        | some node => tree.follow (place ++ [name]) node names

/-- What stands at a path that starts at the root. -/
def lookup (tree : FileTree) (path : Path) : Except FileError FileNode :=
  tree.follow [] .directory (splitAt Path.slash path)

end FileTree

/-- The directory in which a program runs. -/
structure CurrentDirectory where
  /-- Where it is.  Relative paths are read against it, be it known to the program or not. -/
  path : Path
  /-- Why a program that asks for it is not told, if it is not. -/
  fault? : Option FileError
  deriving DecidableEq, Repr

/-- What a program finds around it. -/
structure Surroundings where
  files : FileTree
  directory : CurrentDirectory
  /-- The value of the environment variable that names the source directory, if it is a text. -/
  sourceVariable? : Option Text
  deriving DecidableEq, Repr

/-- How many bytes a path may have. -/
def Path.longest : Nat :=
  4095

/-- Why a path leads to nothing in all surroundings, if it does. -/
def Path.fault? (path : Path) : Option FileError :=
  if path.contains 0 then some .badName
  else if path.isEmpty then some .notFound
  else if longest < path.length then some .tooLong
  else none

namespace Surroundings

/-- What stands at a path; a relative path is read against the current directory. -/
def lookup (surroundings : Surroundings) (path : Path) : Except FileError FileNode :=
  match path.fault? with
  | some error => .error error
  | none => surroundings.files.lookup (surroundings.directory.path.join path)

/-- The bytes of a file. -/
def bytes? (surroundings : Surroundings) (path : Path) : Option (List UInt8) :=
  match surroundings.lookup path with
  | .ok (.file bytes) => some bytes
  | _ => none

/-- The text of a file whose bytes are UTF-8. -/
def text? (surroundings : Surroundings) (path : Path) : Option Text :=
  (surroundings.bytes? path).bind Text.ofUtf8?

/-- Whether something stands at a path. -/
def doesExist (surroundings : Surroundings) (path : Path) : Bool :=
  (surroundings.lookup path).isOk

end Surroundings

end Pipescript
