import Pipescript.Json.Syntax
import Pipescript.Schema.Basic

/-!
# Reading schemas

The JSON form of a schema.  A record is written as an object or as the list of its fields in order;
a module, which is a command with commands of its own, only as an object.  Unknown keys are ignored,
a known key must not come twice, and whatever lacks a default must be there.
-/

namespace Pipescript

/-- The fields of a record by position, absent ones left out. -/
abbrev Fields := List (Option JsonSyntax)

namespace JsonSyntax

/-- The members of an object with the texts of their keys. -/
def keyed? (members : List (List StringUnit × JsonSyntax)) : Option (List (Text × JsonSyntax)) :=
  members.mapM fun member => (unitsText? member.1).map fun key => (key, member.2)

/-- The member with a key, if there is one.  Two of them are refused. -/
def member? (members : List (Text × JsonSyntax)) (key : Text) : Option (Option JsonSyntax) :=
  match members.filter (·.1 == key) with
  | [] => some none
  | [member] => some (some member.2)
  | _ => none

/-- The fields of a record with the given keys. -/
def record? (keys : List Text) : JsonSyntax → Option Fields
  | .object members => do
      let members ← keyed? members
      keys.mapM (member? members)
  | .list items =>
      if items.length ≤ keys.length then
        some (items.map some ++ List.replicate (keys.length - items.length) none)
      else
        none
  | _ => none

/-- A field that may be absent. -/
def optional? {alpha : Type} (read : JsonSyntax → Option alpha) (default : alpha) :
    Option JsonSyntax → Option alpha
  | none => some default
  | some written => read written

/-- A value or null. -/
def nullable? {alpha : Type} (read : JsonSyntax → Option alpha) : JsonSyntax → Option (Option alpha)
  | .null => some none
  | written => (read written).map some

def text? : JsonSyntax → Option Text
  | .text units => unitsText? units
  | _ => none

def list? {alpha : Type} (read : JsonSyntax → Option alpha) : JsonSyntax → Option (List alpha)
  | .list items => items.mapM read
  | _ => none

/-- A whole number of 32 bits. -/
def word? : JsonSyntax → Option Nat
  | .number literal =>
      match literal.value? with
      | some (.natural value) => if value < UInt32.size then some value else none
      | _ => none
  | _ => none

end JsonSyntax

open JsonSyntax

def FileReference.read? : JsonSyntax → Option FileReference
  | .text units => (unitsText? units).map .path
  | written => (word? written).map .number

def SourceLine.read? (written : JsonSyntax) : Option SourceLine := do
  match ← written.record? ["file".toList, "line".toList] with
  | [some file, some line] => return ⟨← FileReference.read? file, ← word? line⟩
  | _ => none

namespace Command

def keys : List Text :=
  ["name", "line", "definition", "arg", "return", "examples"].map String.toList

def ofFields? : Fields → Option Command
  | [name, line, definition, argument, result, examples] => do
      return {
        name := ← optional? text? [] name
        line := ← optional? word? 0 line
        definition := ← optional? (nullable? SourceLine.read?) none definition
        argument := ← optional? (nullable? text?) none argument
        result := ← optional? (nullable? text?) none result
        examples := ← optional? (list? SourceLine.read?) [] examples }
  | _ => none

def read? (written : JsonSyntax) : Option Command :=
  (written.record? keys).bind ofFields?

end Command

namespace ModuleType

/-- How many lists and objects a member of a module is in. -/
def memberDepth : Nat :=
  3

/-- Read a module.  All its members but the commands are kept, the unknown ones included. -/
def read? : JsonSyntax → Option ModuleType
  | .object written => do
      let members ← keyed? written
      let kept := members.filter (·.1 != "cmds".toList)
      if kept.any fun member => (member.2.value? memberDepth).isNone then none
      let constructor ← Command.ofFields? (← Command.keys.mapM (member? kept))
      let commands ← optional? (list? Command.read?) [] (← member? members "cmds".toList)
      return ⟨constructor, commands⟩
  | _ => none

end ModuleType

namespace MessageType

/-- How many lists and objects the fields of a type are in. -/
def memberDepth : Nat :=
  3

/-- The number of fields of a type, which are values that are kept. -/
def fieldCount? (written : JsonSyntax) : Option Nat :=
  match written.value? memberDepth with
  | some (.list fields) => some fields.length
  | _ => none

def read? (written : JsonSyntax) : Option MessageType := do
  let keys := ["name", "fullName", "file", "line", "fields"].map String.toList
  match ← written.record? keys with
  | [some name, some fullName, some file, some line, fields] =>
      return {
        name := ← text? name
        fullName := ← text? fullName
        source := ⟨← FileReference.read? file, ← word? line⟩
        fieldCount := ← optional? fieldCount? 0 fields }
  | _ => none

end MessageType

namespace Schema

def readFiles? : JsonSyntax → Option (List (Text × Text))
  | .object members => do
      (← keyed? members).mapM fun member => (text? member.2).map fun path => (member.1, path)
  | _ => none

def read? (written : JsonSyntax) : Option Schema := do
  let keys := ["bess-version", "files", "globals", "msg"].map String.toList
  match ← written.record? keys with
  | [version, files, modules, types] =>
      return {
        version := ← optional? text? [] version
        files := ← optional? readFiles? [] files
        modules := ← optional? (list? ModuleType.read?) [] modules
        types := ← optional? (list? MessageType.read?) [] types }
  | _ => none

/-- The schema that the bytes of a JSON text hold. -/
def ofBytes? (bytes : List UInt8) : Option Schema :=
  (JsonSyntax.ofBytes? bytes).bind read?

/-- The schema that a JSON text holds. -/
def ofText? (text : Text) : Option Schema :=
  ofBytes? text.utf8Bytes

end Schema

end Pipescript
