import Pipescript.Decimal.Shortest
import Pipescript.Files.FileTree
import Pipescript.Json.Value
import Pipescript.Schema.Category
import Pipescript.Text.Quoted

/-!
# Settings

The user's settings are a section of the settings of the whole editor.  A section is an object, or
the list of its values in order; what it leaves out keeps its default.  The first thing wrong with a
section is reported, keys being looked at in ascending order.
-/

namespace Pipescript

/-- What a search for a symbol is about. -/
inductive SearchKind where
  | definitions
  | references
  | highlight
  deriving DecidableEq, Repr

namespace SearchKind

/-- The categories that are listed unless the user chooses some. -/
def defaultCategories : SearchKind → List Category
  | definitions => [.project, .nativeDefinition]
  | references => [.project, .nativeDefinition, .schema, .typeSchema, .examples]
  | highlight => []

end SearchKind

structure Settings where
  /-- Where the native code lies. -/
  sourceDirectory : Option Text := none
  definitions : List Category := []
  references : List Category := []
  deriving DecidableEq, Repr

/-- What a section or a part of it should have been. -/
inductive Expectation where
  | section
  | text
  | sequence
  | category
  | nothing
  deriving DecidableEq, Repr

namespace Expectation

def message : Expectation → String
  | .section => "struct PluginSettings"
  | text => "a string"
  | sequence => "a sequence"
  | category => "string or map"
  | nothing => "unit"

end Expectation

/-- How a value that was not expected is described. -/
def Json.description : Json → String
  | .null => "null"
  | .bool value => s!"boolean `{value}`"
  | .number (.natural value) => s!"integer `{value}`"
  | .number (.negative value) => s!"integer `-{value}`"
  | .number (.float value) => s!"floating point `{String.ofList value.text}`"
  | .text value => s!"string {String.ofList value.quoted}"
  | .list _ => "sequence"
  | .object _ => "map"

/-- What is wrong with a section. -/
inductive SettingsFault where
  /-- A value is of the wrong type; `found` describes it. -/
  | wrongType (found : String) (expected : Expectation)
  /-- A category is written as an object that does not have exactly one key. -/
  | notOneKey
  /-- The source directory is given under both of its keys. -/
  | sourceDirectoryTwice
  /-- A section written as a list has too many values. -/
  | tooLong (size : Nat)
  | unknownCategory (name : Text)
  deriving DecidableEq, Repr

namespace SettingsFault

def message : SettingsFault → String
  | wrongType found expected => s!"invalid type: {found}, expected {expected.message}"
  | notOneKey => "invalid value: map, expected map with a single key"
  | sourceDirectoryTwice => "duplicate field `source_directory`"
  | tooLong size => s!"invalid length {size}, expected fewer elements in array"
  | unknownCategory name =>
      let known := String.intercalate ", " (Category.names.map fun (known, _) => s!"`{known}`")
      s!"unknown variant `{String.ofList name}`, expected one of {known}"

end SettingsFault

/-- Why settings cannot be used. -/
inductive SettingsError where
  | invalid (fault : SettingsFault)
  /-- The source directory depends on the current directory, which cannot be determined. -/
  | noDirectory (error : FileError)
  deriving DecidableEq, Repr

namespace SettingsError

def message : SettingsError → String
  | invalid fault => s!"invalid bess plugin settings: {fault.message}"
  | noDirectory error => s!"source directory : {error.message}"

end SettingsError

/-! ## Reading a section -/

def wrongType {alpha : Type} (found : Json) (expected : Expectation) : Except SettingsFault alpha :=
  .error (.wrongType found.description expected)

def readSourceDirectory : Json → Except SettingsFault (Option Text)
  | .null => .ok none
  | .text value => .ok (some value)
  | found => wrongType found .text

def namedCategory (name : Text) : Except SettingsFault Category :=
  match Category.ofName? name with
  | some category => .ok category
  | none => .error (.unknownCategory name)

/-- A category is written as its name, or as an object with its name as the only key and null as
the value. -/
def readCategory : Json → Except SettingsFault Category
  | .text name => namedCategory name
  | .object members =>
      match Json.sortMembers members with
      | [(name, value)] => do
          let category ← namedCategory name
          match value with
          | .null => return category
          | found => wrongType found .nothing
      | _ => .error .notOneKey
  | found => wrongType found .category

def readCategories : Json → Except SettingsFault (List Category)
  | .list items => items.mapM readCategory
  | found => wrongType found .sequence

namespace Settings

/-- The key of the section among those of the editor's plugins. -/
def sectionKey : Text :=
  "bess".toList

def pluginsKey : Text :=
  "plugins".toList

/-- The environment variable that names the source directory if the settings do not. -/
def variableName : String :=
  "BESS"

/-- Read the members of a section, the source directory having been read already or not. -/
def readMembers (settings : Settings) (hasSource : Bool) :
    List (Text × Json) → Except SettingsFault Settings
  | [] => .ok settings
  | (key, value) :: later =>
      if key = "source_directory".toList ∨ key = "sourceDirectory".toList then
        if hasSource then .error .sourceDirectoryTwice
        else do
          let directory ← readSourceDirectory value
          readMembers { settings with sourceDirectory := directory } true later
      else if key = "definitions".toList then do
        let categories ← readCategories value
        readMembers { settings with definitions := categories } hasSource later
      else if key = "references".toList then do
        let categories ← readCategories value
        readMembers { settings with references := categories } hasSource later
      else
        readMembers settings hasSource later

/-- Read a section. -/
def readSection : Json → Except SettingsFault Settings
  | .object members => readMembers {} false (Json.sortMembers members)
  | .list items => do
      let directory ← readSourceDirectory (items[0]?.getD .null)
      let definitions ← readCategories (items[1]?.getD (.list []))
      let references ← readCategories (items[2]?.getD (.list []))
      if 3 < items.length then throw (.tooLong items.length)
      return ⟨directory, definitions, references⟩
  | found => wrongType found .section

/-- Read the section from the settings of the editor.  Without a section all defaults hold. -/
def ofEditor (settings : Json) : Except SettingsError Settings :=
  match (settings.get? pluginsKey).bind (·.get? sectionKey) with
  | none | some .null => .ok {}
  | some written => (readSection written).mapError .invalid

/-- The categories to list for a search. -/
def categories (settings : Settings) (kind : SearchKind) : List Category :=
  let chosen := match kind with
    | .definitions => settings.definitions
    | .references => settings.references
    | .highlight => []
  if chosen.isEmpty then kind.defaultCategories else chosen

end Settings

/-- The source directory: the setting, else the value of the environment variable, both read against
the base directory.  An empty one stands for the base directory. -/
def chosenDirectory (setting fromVariable : Option Text) (base : Path) : Path :=
  match (setting.or fromVariable).filter (!·.isEmpty) with
  | none => base
  | some directory => base.join (.ofText directory)

namespace Settings

/-- The source directory that the settings lead to. -/
def sourcePath (settings : Settings) (surroundings : Surroundings) : Except SettingsError Path :=
  match surroundings.directory.fault? with
  | some error => .error (.noDirectory error)
  | none =>
      .ok (chosenDirectory settings.sourceDirectory surroundings.sourceVariable?
        surroundings.directory.path)

/-- The settings of the editor with a section for this plugin, an empty one if they have none. -/
def withSection (settings : Json) : Json :=
  let root := match settings with
    | .object members => Json.sortMembers members
    | _ => []
  let plugins := (root.lookup pluginsKey).getD (.object [])
  let completed := match plugins with
    | .object members =>
        let sorted := Json.sortMembers members
        if (sorted.lookup sectionKey).isSome then .object sorted
        else .object (Json.insertMember sectionKey (.object []) sorted)
    | other => other
  .object (Json.insertMember pluginsKey completed root)

end Settings

end Pipescript
