import Pipescript.Schema.SearchResult

/-!
# Places by category

One pass over the hits of a search fills all categories.  Each category can be told without the pass:
the hits that are in the schema document and those that are not, and, for the commands that the
schema declares where a hit is, the places of their native code, their types and their examples.
-/

namespace Pipescript

/-! ## Files -/

/-- The path of the file with a number, which is the last one that the schema lists for it. -/
def Schema.listedPath? (schema : Schema) (number : Nat) : Option Path :=
  (schema.files.filter (·.1 == Nat.toDigits 10 number)).getLast?.map fun listed =>
    .ofText listed.2

/-- Where a reference to a file leads.  The file with number zero is looked for in the directory of
the schema, and whatever has no absolute path by then in the source directory. -/
inductive SearchContext.LeadsTo (context : SearchContext) : FileReference → Path → Prop where
  | schemaDocument {path : Path} :
      context.schema.listedPath? 0 = some path →
        LeadsTo context (.number 0)
          (context.sourceDirectory.join (context.schemaDirectory.join path))
  | numbered {number : Nat} {path : Path} :
      number ≠ 0 → context.schema.listedPath? number = some path →
        LeadsTo context (.number number) (context.sourceDirectory.join path)
  | written (path : Text) :
      LeadsTo context (.path path) (context.sourceDirectory.join (.ofText path))

/-- The start of a line, which counts from one.  Line zero stands for the first line, too. -/
def lineStart (uri : Uri) (line : Nat) : Location :=
  ⟨uri, ⟨⟨max line 1 - 1, 0⟩, ⟨max line 1 - 1, 0⟩⟩⟩

/-! ## Categories -/

namespace SearchContext

/-- The places outside the schema document. -/
def projectPlaces (context : SearchContext) (found : List Location) : List Location :=
  found.filter fun location => context.schemaUri != some location.uri

/-- The places in the schema document. -/
def schemaHits (context : SearchContext) (found : List Location) : List Location :=
  found.filter fun location => context.schemaUri == some location.uri

/-- The commands that the schema declares where the hits are: for each hit the first entry of each
module on its row. -/
def commandsHit (context : SearchContext) (found : List Location) : List Command :=
  (context.schemaHits found).flatMap fun hit =>
    context.schema.modules.filterMap fun described =>
      ((described.constructor :: described.commands).filter
        (·.line == hit.range.start.line + 1)).head?

def nativePlace? (context : SearchContext) (command : Command) : Option Location :=
  command.definition.bind context.location?

/-- The place of the last type that has a name, if there is a name to look for. -/
def typePlace? (context : SearchContext) (nameOf : MessageType → Text) (name? : Option Text) :
    Option Location := do
  let name ← name?
  let described ← (context.schema.types.filter (nameOf · == name)).getLast?
  context.location? described.source

/-- Types of arguments are found by their short names. -/
def argumentPlace? (context : SearchContext) (command : Command) : Option Location :=
  context.typePlace? (·.name) command.argument

/-- Types of results are found by their full names. -/
def resultPlace? (context : SearchContext) (command : Command) : Option Location :=
  context.typePlace? (·.fullName) command.result

/-- A group of types with those of one more command.  The type of its result is left out if its
place is in the group already. -/
def addTypes (context : SearchContext) (group : List Location) (command : Command) :
    List Location :=
  let group := group ++ (context.argumentPlace? command).toList
  match context.resultPlace? command with
  | some place => if place ∈ group then group else group ++ [place]
  | none => group

def examplePlaces (context : SearchContext) (command : Command) : List Location :=
  command.examples.filterMap context.location?

/-- The places of a category, for a search that found the given locations. -/
def placesOf (context : SearchContext) (found : List Location) : Category → List Location
  | .project => context.projectPlaces found
  | .nativeDefinition => (context.commandsHit found).filterMap context.nativePlace?
  | .schema => context.schemaHits found
  | .typeSchema => (context.commandsHit found).foldl context.addTypes []
  | .examples => (context.commandsHit found).flatMap context.examplePlaces

end SearchContext

/-! ## Lookups -/

namespace Schema

theorem filePath?_eq_listedPath? (schema : Schema) (number : Nat) :
    (schema.filePath? number).map Path.ofText = schema.listedPath? number := by
  rw [filePath?, listedPath?, List.getLast?_filter, Option.map_map]
  rfl

theorem commandsAt_eq (schema : Schema) (row : Nat) :
    schema.commandsAt row = schema.modules.filterMap fun described =>
      ((described.constructor :: described.commands).filter (·.line == row + 1)).head? := by
  unfold commandsAt
  congr 1
  funext described
  rw [List.head?_filter]
  rfl

end Schema

theorem Path.join_of_isAbsolute
    {path : Path}
    (absolute : path.isAbsolute)
    (base : Path) :
    base.join path = path := by
  rw [join, if_pos absolute]

theorem Uri.isSome_ofPath? (path : Path) : (Uri.ofPath? path).isSome = path.isAbsolute := by
  unfold ofPath?
  cases path.isAbsolute <;> rfl

namespace SearchContext

theorem path?_eq (context : SearchContext) (file : FileReference) :
    context.path? file =
      (match file with
        | .number 0 => (context.schema.listedPath? 0).map context.schemaDirectory.join
        | .number number => context.schema.listedPath? number
        | .path path => some (.ofText path)).map context.sourceDirectory.join := by
  -- Joining keeps absolute paths, so the definition need not tell them from others.
  have rooted (path : Path) :
      (if path.isAbsolute then path else context.sourceDirectory.join path) =
        context.sourceDirectory.join path := by
    split
    · next absolute => rw [Path.join_of_isAbsolute absolute]
    · rfl
  have below : (context.schema.filePath? 0).map
        (fun path => context.schemaDirectory.join (.ofText path)) =
      (context.schema.listedPath? 0).map context.schemaDirectory.join := by
    rw [← Schema.filePath?_eq_listedPath?, Option.map_map]
    rfl
  unfold path?
  simp only [below, Schema.filePath?_eq_listedPath?, rooted]
  split
  · cases context.schema.listedPath? 0 <;> rfl
  · simp only [Option.map_eq_bind]
    rfl
  · rfl

theorem path?_eq_some_iff (context : SearchContext) (file : FileReference) (path : Path) :
    context.path? file = some path ↔ context.LeadsTo file path := by
  rw [path?_eq, Option.map_eq_some_iff]
  constructor
  · rintro ⟨written, given, rfl⟩
    split at given
    · obtain ⟨listed, isListed, rfl⟩ := Option.map_eq_some_iff.1 given
      exact .schemaDocument isListed
    · next number notZero => exact .numbered notZero given
    · next path =>
        cases given
        exact .written path
  · intro leads
    cases leads with
    | @schemaDocument listed isListed =>
        exact ⟨context.schemaDirectory.join listed, by simp [isListed], rfl⟩
    | @numbered number listed notZero isListed =>
        obtain ⟨before, rfl⟩ := Nat.exists_eq_succ_of_ne_zero notZero
        exact ⟨listed, isListed, rfl⟩
    | written written => exact ⟨.ofText written, rfl, rfl⟩

theorem location?_eq_some_iff (context : SearchContext) (source : SourceLine)
    (location : Location) :
    context.location? source = some location ↔
      ∃ path uri, context.LeadsTo source.file path ∧ Uri.ofPath? path = some uri ∧
        location = lineStart uri source.line := by
  have sameLine : max source.line 1 - 1 = source.line - 1 := by omega
  unfold location? lineStart
  rw [sameLine]
  constructor
  · intro found
    obtain ⟨path, leads, found⟩ := Option.bind_eq_some_iff.1 found
    obtain ⟨uri, named, found⟩ := Option.bind_eq_some_iff.1 found
    exact ⟨path, uri, (context.path?_eq_some_iff _ _).1 leads, named, (Option.some.inj found).symm⟩
  · rintro ⟨path, uri, leads, named, rfl⟩
    rw [(context.path?_eq_some_iff _ _).2 leads, Option.bind_eq_bind, Option.bind_some, named]
    rfl

/-- A reference leads to a location if its file is known and its path absolute. -/
theorem isSome_location?_iff (context : SearchContext) (source : SourceLine) :
    (context.location? source).isSome ↔
      ∃ path, context.LeadsTo source.file path ∧ path.isAbsolute := by
  rw [Option.isSome_iff_exists]
  constructor
  · rintro ⟨location, found⟩
    obtain ⟨path, uri, leads, named, -⟩ := (context.location?_eq_some_iff _ _).1 found
    refine ⟨path, leads, ?_⟩
    rw [← Uri.isSome_ofPath?, named, Option.isSome_some]
  · rintro ⟨path, leads, absolute⟩
    rw [← Uri.isSome_ofPath?] at absolute
    obtain ⟨uri, named⟩ := Option.isSome_iff_exists.1 absolute
    exact ⟨_, (context.location?_eq_some_iff _ _).2 ⟨path, uri, leads, named, rfl⟩⟩

/-- No place that was found is lost, and none comes twice. -/
theorem projectPlaces_append_schemaHits_perm (context : SearchContext) (found : List Location) :
    (context.projectPlaces found ++ context.schemaHits found).Perm found :=
  List.perm_append_comm.trans
    (List.filter_append_perm (fun location : Location => context.schemaUri == some location.uri)
      found)

theorem commandsHit_append (context : SearchContext) (front back : List Location) :
    context.commandsHit (front ++ back) =
      context.commandsHit front ++ context.commandsHit back := by
  unfold commandsHit schemaHits
  rw [List.filter_append, List.flatMap_append]

theorem commandsHit_singleton (context : SearchContext) (location : Location) :
    context.commandsHit [location] =
      if context.isSchemaHit location then context.schema.commandsAt location.range.start.line
      else [] := by
  unfold commandsHit schemaHits isSchemaHit
  rw [Schema.commandsAt_eq]
  cases hit : context.schemaUri == some location.uri with
  | false => simp [hit]
  | true => simp [hit]

theorem typePlace?_eq (context : SearchContext) (nameOf : MessageType → Text)
    (name? : Option Text) :
    context.typePlace? nameOf name? =
      (name?.bind fun name => context.schema.types.reverse.find? (nameOf · == name)).bind
        fun described => context.location? described.source := by
  unfold typePlace?
  simp only [List.getLast?_filter, Option.bind_assoc]
  rfl

theorem addTypes_eq (context : SearchContext) (group : List Location) (command : Command) :
    let types := group ++ (context.argumentPlace? command).toList
    context.addTypes group command =
      types ++ ((context.resultPlace? command).filter (!types.contains ·)).toList := by
  unfold addTypes
  dsimp only
  generalize group ++ (context.argumentPlace? command).toList = types
  cases context.resultPlace? command with
  | none => exact (List.append_nil types).symm
  | some place =>
      by_cases known : place ∈ types
      · simp [known, Option.filter]
      · simp [known, Option.filter]

end SearchContext

/-! ## One pass -/

namespace SearchResult

/-- A result with what commands add to it. -/
def withCommands (context : SearchContext) (found : SearchResult) (commands : List Command) :
    SearchResult :=
  { found with
    nativeDefinition := found.nativeDefinition ++ commands.filterMap context.nativePlace?
    typeSchema := commands.foldl context.addTypes found.typeSchema
    examples := found.examples ++ commands.flatMap context.examplePlaces }

/-- A result with what locations add to it. -/
def withLocations (context : SearchContext) (found : SearchResult) (locations : List Location) :
    SearchResult :=
  { found.withCommands context (context.commandsHit locations) with
    project := found.project ++ context.projectPlaces locations
    schema := found.schema ++ context.schemaHits locations }

theorem withCommands_append (context : SearchContext) (found : SearchResult)
    (front back : List Command) :
    (found.withCommands context front).withCommands context back =
      found.withCommands context (front ++ back) := by
  unfold withCommands
  simp only [List.append_assoc, List.filterMap_append, List.foldl_append, List.flatMap_append]

theorem withLocations_append (context : SearchContext) (found : SearchResult)
    (front back : List Location) :
    (found.withLocations context front).withLocations context back =
      found.withLocations context (front ++ back) := by
  unfold withLocations SearchContext.projectPlaces SearchContext.schemaHits
  rw [context.commandsHit_append, ← withCommands_append]
  simp only [withCommands, List.append_assoc, List.filter_append]

theorem addCommand_eq (context : SearchContext) (found : SearchResult) (command : Command) :
    found.addCommand context command = found.withCommands context [command] := by
  have native : [command].filterMap context.nativePlace? =
      (command.definition.bind context.location?).toList := by
    rw [List.filterMap_cons, SearchContext.nativePlace?]
    cases command.definition.bind context.location? <;> rfl
  have examples : [command].flatMap context.examplePlaces =
      command.examples.filterMap context.location? :=
    List.append_nil _
  unfold withCommands
  rw [native, examples, List.foldl_cons, List.foldl_nil, context.addTypes_eq,
    SearchContext.argumentPlace?, SearchContext.resultPlace?, context.typePlace?_eq,
    context.typePlace?_eq]
  rfl

theorem foldl_addCommand (context : SearchContext) (commands : List Command)
    (found : SearchResult) :
    commands.foldl (addCommand context) found = found.withCommands context commands := by
  induction commands generalizing found with
  | nil => simp [withCommands]
  | cons command later inductionHypothesis =>
      rw [List.foldl_cons, inductionHypothesis, addCommand_eq]
      exact found.withCommands_append context [command] later

theorem addLocation_eq (context : SearchContext) (found : SearchResult) (location : Location) :
    found.addLocation context location = found.withLocations context [location] := by
  unfold withLocations SearchContext.projectPlaces SearchContext.schemaHits addLocation
  rw [SearchContext.commandsHit_singleton]
  by_cases hit : context.isSchemaHit location
  · have listed : context.schemaUri == some location.uri := hit
    rw [if_pos hit, if_pos hit, foldl_addCommand]
    simp [withCommands, bne, listed]
  · have unlisted : (context.schemaUri == some location.uri) = false := Bool.eq_false_iff.2 hit
    rw [if_neg hit, if_neg hit]
    simp [withCommands, bne, unlisted]

theorem foldl_addLocation (context : SearchContext) (locations : List Location)
    (found : SearchResult) :
    locations.foldl (addLocation context) found = found.withLocations context locations := by
  induction locations generalizing found with
  | nil =>
      simp [withLocations, withCommands, SearchContext.projectPlaces, SearchContext.commandsHit,
        SearchContext.schemaHits]
  | cons location later inductionHypothesis =>
      rw [List.foldl_cons, inductionHypothesis, addLocation_eq]
      exact found.withLocations_append context [location] later

/-- A category is listed where it is mentioned first. -/
theorem list_eq_flatMap (found : SearchResult) (listed categories : List Category) :
    found.list listed categories =
      (categories.filter (!listed.contains ·)).eraseDups.flatMap found.get := by
  induction categories generalizing listed with
  | nil => rfl
  | cons category later inductionHypothesis =>
      have unlisted (other : Category) :
          (!(category :: listed).contains other) =
            (!other == category && !listed.contains other) := by
        rw [List.contains_cons, Bool.not_or]
      rw [list, inductionHypothesis, funext unlisted]
      -- What is listed already has no first mention in the rest.
      by_cases before : listed.contains category
      · have kept (other : Category) :
            (!other == category && !listed.contains other) = !listed.contains other := by
          by_cases same : other = category
          · subst same
            rw [before, Bool.not_true, Bool.and_false]
          · simp [same]
        rw [if_pos before, List.nil_append, List.filter_cons_of_neg (by simpa using before),
          funext kept]
      · rw [if_neg before, List.filter_cons_of_pos (by simpa using before), List.eraseDups_cons,
          List.flatMap_cons, List.filter_filter]

theorem get_foldl_addLocation (context : SearchContext) (locations : List Location) :
    (locations.foldl (addLocation context) {}).get = context.placesOf locations := by
  rw [foldl_addLocation]
  funext category
  cases category <;> exact List.nil_append _

end SearchResult

/-- What is listed for a search can be told category by category.

Each chosen category is listed once, where it is mentioned first.  The places in the project and
those in the schema document are the ones that were found, each in its order.  A reference of the
schema leads somewhere if its file is known and its path absolute, and it leads to the start of its
line. -/
theorem listPlaces_eq_placesOf (context : SearchContext) (locations : List Location)
    (categories : List Category) :
    listPlaces context locations categories =
        categories.eraseDups.flatMap (context.placesOf locations) ∧
      (context.placesOf locations .project ++ context.placesOf locations .schema).Perm locations ∧
      (∀ source : SourceLine,
        (context.location? source).isSome ↔
          ∃ path, context.LeadsTo source.file path ∧ path.isAbsolute) ∧
      ∀ (source : SourceLine) (location : Location),
        context.location? source = some location ↔
          ∃ path uri, context.LeadsTo source.file path ∧ Uri.ofPath? path = some uri ∧
            location = lineStart uri source.line := by
  refine ⟨?_, context.projectPlaces_append_schemaHits_perm locations,
    context.isSome_location?_iff, context.location?_eq_some_iff⟩
  have unlisted : categories.filter (!List.contains [] ·) = categories :=
    List.filter_eq_self.2 fun _ _ => rfl
  unfold listPlaces
  rw [SearchResult.list_eq_flatMap, SearchResult.get_foldl_addLocation, unlisted]

end Pipescript
