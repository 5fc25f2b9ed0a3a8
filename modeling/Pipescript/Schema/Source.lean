import Pipescript.Files.FileTree
import Pipescript.Gzip.Member
import Pipescript.Schema.Read
import Pipescript.Uri.Basic

/-!
# Schema sources

A schema lies in a directory, packed, beside the document it describes.  It is loaded when it is
first asked for.  What comes of that is decided once: neither a schema nor a failure is loaded
again, whatever happens to the file.
-/

namespace Pipescript

/-- The name of the document that declares all modules. -/
def schemaDocumentName : Text :=
  "globals.py".toList

/-- The name of the packed schema. -/
def schemaDataName : Text :=
  "globals.min.json.gz".toList

/-- Why a schema could not be loaded. -/
inductive SchemaError where
  /-- There is nothing to open. -/
  | unopened (error : FileError)
  /-- What was opened is no packed schema. -/
  | malformed
  deriving DecidableEq, Repr

namespace SchemaError

def message : SchemaError → String
  | unopened error => s!"failed to read schema data: {error.message}"
  | malformed => "invalid schema data"

end SchemaError

namespace Schema

/-- The schema that packed bytes hold. -/
def unpack? (bytes : List UInt8) : Option Schema :=
  (gunzip? bytes).bind ofBytes?

/-- Load the packed schema at a path. -/
def load (surroundings : Surroundings) (path : Path) : Except SchemaError Schema :=
  match surroundings.lookup path with
  | .error error => .error (.unopened error)
  | .ok .directory => .error .malformed
  | .ok (.file bytes) =>
      match unpack? bytes with
      | some schema => .ok schema
      | none => .error .malformed

end Schema

/-- A schema that is loaded from a directory on first use. -/
structure SchemaSource where
  directory : Path
  /-- What came of the first use, if there was one: a schema, or nothing. -/
  decided : Option (Option Schema)
  deriving DecidableEq, Repr

namespace SchemaSource

/-- A schema that has not been asked for. -/
def ofDirectory (directory : Path) : SchemaSource :=
  ⟨directory, none⟩

/-- A schema that is there already. -/
def ofSchema (directory : Path) (schema : Schema) : SchemaSource :=
  ⟨directory, some (some schema)⟩

/-- The document that declares all modules. -/
def documentPath (described : SchemaSource) : Path :=
  described.directory.join (.ofText schemaDocumentName)

/-- The URI of the document, if its directory is an absolute path. -/
def documentUri? (described : SchemaSource) : Option Uri :=
  Uri.ofPath? described.documentPath

def dataPath (described : SchemaSource) : Path :=
  described.directory.join (.ofText schemaDataName)

/-- The schema, unless it could not be loaded. -/
def schema? (described : SchemaSource) (surroundings : Surroundings) : Option Schema :=
  match described.decided with
  | some schema => schema
  | none => (Schema.load surroundings described.dataPath).toOption

/-- The schema and what is kept of having asked for it. -/
def get (described : SchemaSource) (surroundings : Surroundings) : Option Schema × SchemaSource :=
  let schema := described.schema? surroundings
  (schema, { described with decided := some schema })

end SchemaSource

end Pipescript
