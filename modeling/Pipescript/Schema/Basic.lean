import Pipescript.Text.Basic

/-!
# Module schemas

A schema describes the modules that a pipeline may use: their commands, where these are declared and
implemented, and the types of their arguments and results.  Lines count from one.
-/

namespace Pipescript

/-- A file that a schema refers to: by its number in the schema, or by the text of its path. -/
inductive FileReference where
  | number (value : Nat)
  | path (path : Text)
  deriving DecidableEq, Repr

/-- A line of a file. -/
structure SourceLine where
  file : FileReference
  line : Nat
  deriving DecidableEq, Repr

structure Command where
  name : Text
  /-- The line of the schema document that declares the command, or zero if it is unknown. -/
  line : Nat
  definition : Option SourceLine
  argument : Option Text
  result : Option Text
  examples : List SourceLine
  deriving DecidableEq, Repr

/-- A module type.  Making a module is a command, too. -/
structure ModuleType where
  constructor : Command
  commands : List Command
  deriving DecidableEq, Repr

structure MessageType where
  name : Text
  fullName : Text
  source : SourceLine
  fieldCount : Nat
  deriving DecidableEq, Repr

structure Schema where
  version : Text
  /-- The paths of the files with numbers.  Of several files with one number the last one counts. -/
  files : List (Text × Text)
  modules : List ModuleType
  types : List MessageType
  deriving DecidableEq, Repr

namespace Command

/-- Whether a command is declared on a row, which counts from zero. -/
def isDeclaredAt (command : Command) (row : Nat) : Bool :=
  command.line == row + 1

end Command

namespace ModuleType

/-- The constructor and the commands of a module. -/
def entries (described : ModuleType) : List Command :=
  described.constructor :: described.commands

end ModuleType

namespace Schema

/-- A schema that describes nothing. -/
def empty : Schema :=
  ⟨[], [], [], []⟩

/-- The path of the file with a number. -/
def filePath? (schema : Schema) (number : Nat) : Option Text :=
  (schema.files.reverse.find? (·.1 == Nat.toDigits 10 number)).map Prod.snd

/-- The last type with a short name. -/
def typeNamed? (schema : Schema) (name : Text) : Option MessageType :=
  schema.types.reverse.find? (·.name == name)

/-- The last type with a full name. -/
def typeFullyNamed? (schema : Schema) (fullName : Text) : Option MessageType :=
  schema.types.reverse.find? (·.fullName == fullName)

/-- Of each module the first entry that is declared on a row. -/
def commandsAt (schema : Schema) (row : Nat) : List Command :=
  schema.modules.filterMap fun described => described.entries.find? (·.isDeclaredAt row)

end Schema

end Pipescript
