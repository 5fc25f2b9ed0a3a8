import Pipescript.Editor.Position
import Pipescript.Schema.Basic
import Pipescript.Schema.Category

/-!
# Search results

Where a search for a symbol hits the schema document, the schema knows more about the commands
declared there: their native code, the types of their arguments and results, and examples.  One pass
over the hits sorts them into categories and adds these places; the categories are then listed in
the order that the user chose.
-/

namespace Pipescript

/-- What is needed to turn the references of a schema into locations. -/
structure SearchContext where
  schema : Schema
  /-- The schema document.  Without it nothing counts as a hit in it. -/
  schemaUri : Option Uri
  schemaDirectory : Path
  sourceDirectory : Path
  deriving DecidableEq, Repr

namespace SearchContext

/-- The path of a file.  File zero is the schema document and lies in the directory of the schema;
all other relative paths start at the source directory. -/
def path? (context : SearchContext) (file : FileReference) : Option Path := do
  let path ← match file with
    | .number 0 =>
        (context.schema.filePath? 0).map fun path => context.schemaDirectory.join (.ofText path)
    | .number number => (context.schema.filePath? number).map Path.ofText
    | .path path => some (.ofText path)
  return if path.isAbsolute then path else context.sourceDirectory.join path

/-- The start of a line as a location. -/
def location? (context : SearchContext) (source : SourceLine) : Option Location := do
  let path ← context.path? source.file
  let uri ← Uri.ofPath? path
  let start : Position := ⟨source.line - 1, 0⟩
  return ⟨uri, ⟨start, start⟩⟩

/-- Whether a location is a place in the schema document. -/
def isSchemaHit (context : SearchContext) (location : Location) : Bool :=
  context.schemaUri == some location.uri

end SearchContext

/-- The locations of a search by category. -/
structure SearchResult where
  project : List Location := []
  nativeDefinition : List Location := []
  schema : List Location := []
  typeSchema : List Location := []
  examples : List Location := []
  deriving DecidableEq, Repr

namespace SearchResult

def get (found : SearchResult) : Category → List Location
  | .project => found.project
  | .nativeDefinition => found.nativeDefinition
  | .schema => found.schema
  | .typeSchema => found.typeSchema
  | .examples => found.examples

/-- Add what the schema knows about a command.  The type of a result is left out if its place is
among the types already. -/
def addCommand (context : SearchContext) (found : SearchResult) (command : Command) :
    SearchResult :=
  let definition := command.definition.bind context.location?
  let argument :=
    (command.argument.bind context.schema.typeNamed?).bind fun described =>
      context.location? described.source
  let result :=
    (command.result.bind context.schema.typeFullyNamed?).bind fun described =>
      context.location? described.source
  let types := found.typeSchema ++ argument.toList
  { found with
    nativeDefinition := found.nativeDefinition ++ definition.toList
    typeSchema := types ++ (result.filter fun location => !types.contains location).toList
    examples := found.examples ++ command.examples.filterMap context.location? }

/-- Add a location that a search brought up. -/
def addLocation (context : SearchContext) (found : SearchResult) (location : Location) :
    SearchResult :=
  if context.isSchemaHit location then
    (context.schema.commandsAt location.range.start.line).foldl (addCommand context)
      { found with schema := found.schema ++ [location] }
  else
    { found with project := found.project ++ [location] }

/-- The locations of the given categories in their order, each of them once. -/
def list (found : SearchResult) (listed : List Category) : List Category → List Location
  | [] => []
  | category :: later =>
      (if listed.contains category then [] else found.get category) ++
        found.list (category :: listed) later

end SearchResult

/-- Sort locations into categories, add what the schema knows, and list the chosen categories. -/
def listPlaces (context : SearchContext) (locations : List Location) (categories : List Category) :
    List Location :=
  (locations.foldl (SearchResult.addLocation context) {}).list [] categories

end Pipescript
