import Pipescript.Text.Basic

/-!
# Categories of places

The places that a search for a symbol brings up are grouped, and the user chooses the groups.
-/

namespace Pipescript

inductive Category where
  /-- Places in the project, as the backend found them. -/
  | project
  /-- The native code behind a command. -/
  | nativeDefinition
  /-- Places in the schema document. -/
  | schema
  /-- The types of arguments and results. -/
  | typeSchema
  | examples
  deriving DecidableEq, Repr

namespace Category

/-- The names of the categories, older names included, in the order in which they are listed. -/
def names : List (String × Category) :=
  [("project", project), ("cpp_definition", nativeDefinition),
    ("native_definition", nativeDefinition), ("globals", schema), ("schema", schema),
    ("protobuf", typeSchema), ("type_schema", typeSchema), ("examples", examples)]

def ofName? (name : Text) : Option Category :=
  (names.find? (·.1.toList == name)).map Prod.snd

end Category

end Pipescript
