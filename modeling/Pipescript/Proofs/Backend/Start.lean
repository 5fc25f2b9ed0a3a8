import Mathlib.Data.List.Nodup
import Pipescript.Backend.Wrapper
import Pipescript.Proofs.Schema.DecidedOnce

/-!
# Starting in spite of problems

Whatever is wrong with the settings, the current directory or the sources, the backend is started,
once, and its result is the result.  Each problem is told by one notice.  A start leaves nothing to
the next one but the schema, which is decided at the first start at the latest.
-/

namespace Pipescript

variable {sigma alpha : Type}

/-! ## Starts that are written down -/

/-- An answer of a backend, with what was written down before. -/
def keepNotes (starts : List StartRequest) (answer : alpha × sigma) :
    alpha × List StartRequest × sigma :=
  (answer.1, starts, answer.2)

/-- A backend that writes down what it is started with. -/
def Backend.notingStarts (backend : Backend sigma) : Backend (List StartRequest × sigma) where
  settings state := backend.settings state.2
  sourceRoots state document := backend.sourceRoots state.2 document
  start state request := keepNotes (state.1 ++ [request]) (backend.start state.2 request)
  lint state document := keepNotes state.1 (backend.lint state.2 document)
  definitions state document position :=
    keepNotes state.1 (backend.definitions state.2 document position)
  references state document position withDeclaration :=
    keepNotes state.1 (backend.references state.2 document position withDeclaration)
  highlights state document position :=
    keepNotes state.1 (backend.highlights state.2 document position)

/-- A start, with what is around the program at that time. -/
structure StartCall where
  surroundings : Surroundings
  request : StartRequest

namespace StartCall

/-- The settings of a start: those it is given, or the defaults if these are invalid. -/
def settings (call : StartCall) : Settings :=
  match Settings.ofEditor call.request.settings with
  | .ok settings => settings
  | .error _ => {}

/-- The source directory of a start: the chosen one, or the root if the current directory, against
which it is read, is unknown. -/
def sourceDirectory (call : StartCall) : Path :=
  match call.surroundings.directory.fault? with
  | none =>
      chosenDirectory call.settings.sourceDirectory call.surroundings.sourceVariable?
        call.surroundings.directory.path
  | some _ => call.request.root

end StartCall

/-! ## Problems -/

/-- What may be wrong at a start. -/
inductive StartProblem where
  | settings (fault : SettingsFault)
  | currentDirectory (error : FileError)
  | noSources (directory : Path)
  | otherVersion (declared known : Text)
  deriving DecidableEq, Repr

namespace StartProblem

/-- What the user is told about a problem. -/
def message : StartProblem → Text
  | settings fault => (SettingsError.invalid fault).message.toList
  | currentDirectory error => (SettingsError.noDirectory error).message.toList
  | noSources directory => "Bess sources not found in ".toList ++ directory.display
  | otherVersion declared known =>
      "Different bess versions. Source: ".toList ++ declared ++ ", pyls_bess: ".toList ++ known

/-- Whether something is wrong at a start. -/
inductive ArisesAt (call : StartCall) (schemaVersion : Option Text) : StartProblem → Prop
  | settings {fault : SettingsFault} :
      Settings.ofEditor call.request.settings = .error (.invalid fault) →
      ArisesAt call schemaVersion (.settings fault)
  | currentDirectory {error : FileError} :
      call.surroundings.directory.fault? = some error →
      ArisesAt call schemaVersion (.currentDirectory error)
  | noSources :
      call.surroundings.doesExist (call.sourceDirectory.join (.ofText "bessctl".toList)) = false →
      ArisesAt call schemaVersion (.noSources call.sourceDirectory)
  | otherVersion {declared known : Text} :
      call.surroundings.doesExist (call.sourceDirectory.join (.ofText "bessctl".toList)) = true →
      declaredVersion? call.surroundings call.sourceDirectory = some declared →
      declared ≠ unknownVersion →
      schemaVersion = some known →
      declared ≠ known →
      ArisesAt call schemaVersion (.otherVersion declared known)

end StartProblem

namespace StartCall

def settingsProblem? (call : StartCall) : Option StartProblem :=
  match Settings.ofEditor call.request.settings with
  | .error (.invalid fault) => some (.settings fault)
  | _ => none

def directoryProblem? (call : StartCall) : Option StartProblem :=
  call.surroundings.directory.fault?.map .currentDirectory

def sourcesProblem? (call : StartCall) (schemaVersion : Option Text) : Option StartProblem :=
  if call.surroundings.doesExist (call.sourceDirectory.join (.ofText "bessctl".toList)) then
    match declaredVersion? call.surroundings call.sourceDirectory, schemaVersion with
    | some declared, some known =>
        if declared ≠ unknownVersion ∧ declared ≠ known then some (.otherVersion declared known)
        else none
    | _, _ => none
  else
    some (.noSources call.sourceDirectory)

/-- What is wrong at a start. -/
def problems (call : StartCall) (schemaVersion : Option Text) : List StartProblem :=
  call.settingsProblem?.toList ++ call.directoryProblem?.toList ++
    (call.sourcesProblem? schemaVersion).toList

variable {call : StartCall} {schemaVersion : Option Text} {problem : StartProblem}

theorem settingsProblem?_eq_some_iff :
    call.settingsProblem? = some problem ↔
      ∃ fault, Settings.ofEditor call.request.settings = .error (.invalid fault) ∧
        problem = .settings fault := by
  unfold settingsProblem?
  split
  · next fault read => simp [read, eq_comm]
  · next valid =>
      simp only [reduceCtorEq, false_iff]
      rintro ⟨fault, read, -⟩
      exact valid fault read

theorem directoryProblem?_eq_some_iff :
    call.directoryProblem? = some problem ↔
      ∃ error, call.surroundings.directory.fault? = some error ∧
        problem = .currentDirectory error := by
  unfold directoryProblem?
  cases call.surroundings.directory.fault? <;> simp [eq_comm]

theorem sourcesProblem?_eq_some_iff :
    call.sourcesProblem? schemaVersion = some problem ↔
      (call.surroundings.doesExist (call.sourceDirectory.join (.ofText "bessctl".toList)) = false ∧
        problem = .noSources call.sourceDirectory) ∨
      (call.surroundings.doesExist (call.sourceDirectory.join (.ofText "bessctl".toList)) = true ∧
        ∃ declared known, declaredVersion? call.surroundings call.sourceDirectory = some declared ∧
          schemaVersion = some known ∧ declared ≠ unknownVersion ∧ declared ≠ known ∧
          problem = .otherVersion declared known) := by
  unfold sourcesProblem?
  cases call.surroundings.doesExist (call.sourceDirectory.join (.ofText "bessctl".toList)) with
  | false => simp [eq_comm]
  | true =>
      cases declaredVersion? call.surroundings call.sourceDirectory with
      | none => simp
      | some declared =>
          cases schemaVersion with
          | none => simp
          | some known => simp [and_assoc, eq_comm]

theorem mem_problems_iff :
    problem ∈ call.problems schemaVersion ↔ problem.ArisesAt call schemaVersion := by
  simp only [problems, List.mem_append, Option.mem_toList,
    settingsProblem?_eq_some_iff, directoryProblem?_eq_some_iff, sourcesProblem?_eq_some_iff]
  constructor
  · rintro ((⟨fault, read, rfl⟩ | ⟨error, nowhere, rfl⟩) |
      ⟨missing, rfl⟩ | ⟨found, declared, known, declares, knows, isKnown, different, rfl⟩)
    · exact .settings read
    · exact .currentDirectory nowhere
    · exact .noSources missing
    · exact .otherVersion found declares isKnown knows different
  · rintro (read | nowhere | missing | ⟨found, declares, isKnown, knows, different⟩)
    · exact .inl (.inl ⟨_, read, rfl⟩)
    · exact .inl (.inr ⟨_, nowhere, rfl⟩)
    · exact .inr (.inl ⟨missing, rfl⟩)
    · exact .inr (.inr ⟨found, _, _, declares, knows, isKnown, different, rfl⟩)

theorem nodup_problems (call : StartCall) (schemaVersion : Option Text) :
    (call.problems schemaVersion).Nodup := by
  refine List.nodup_append'.2 ⟨List.nodup_append'.2
    ⟨Option.toList_nodup _, Option.toList_nodup _, ?_⟩, Option.toList_nodup _, ?_⟩
  · intro problem here there
    rw [Option.mem_toList] at here there
    obtain ⟨fault, -, rfl⟩ := settingsProblem?_eq_some_iff.1 here
    obtain ⟨error, -, same⟩ := directoryProblem?_eq_some_iff.1 there
    cases same
  · intro problem here there
    rw [List.mem_append, Option.mem_toList, Option.mem_toList,
      settingsProblem?_eq_some_iff, directoryProblem?_eq_some_iff] at here
    rw [Option.mem_toList, sourcesProblem?_eq_some_iff] at there
    rcases here with ⟨fault, -, rfl⟩ | ⟨error, -, rfl⟩ <;> simp at there

end StartCall

theorem exists_fault_of_ofEditor
    {settings : Json} {error : SettingsError}
    (failed : Settings.ofEditor settings = .error error) :
    ∃ fault, error = .invalid fault := by
  unfold Settings.ofEditor at failed
  split at failed
  · cases failed
  · cases failed
  · next written _ _ =>
      cases read : Settings.readSection written with
      | ok settings => rw [read] at failed; cases failed
      | error fault =>
          rw [read] at failed
          cases failed
          exact ⟨fault, rfl⟩

theorem sourcesNotice?_eq (call : StartCall) (schemaVersion : Option Text) :
    sourcesNotice? call.surroundings call.sourceDirectory schemaVersion =
      (call.sourcesProblem? schemaVersion).map StartProblem.message := by
  unfold sourcesNotice? StartCall.sourcesProblem?
  split
  · cases declaredVersion? call.surroundings call.sourceDirectory with
    | none => cases schemaVersion <;> rfl
    | some declared =>
        cases schemaVersion with
        | none => rfl
        | some known =>
            have sameTest : (declared != unknownVersion && declared != known) = true ↔
                declared ≠ unknownVersion ∧ declared ≠ known := by
              rw [Bool.and_eq_true, bne_iff_ne, bne_iff_ne]
            refine (if_congr sameTest rfl rfl).trans ?_
            exact (apply_ite (Option.map StartProblem.message)
              (declared ≠ unknownVersion ∧ declared ≠ known) (some (.otherVersion declared known))
              none).symm
  · rfl

namespace Wrapper

/-- A wrapper behind several starts. -/
def startAll (backend : Backend sigma) (wrapper : Wrapper sigma) (calls : List StartCall) :
    Wrapper sigma :=
  calls.foldl
    (fun wrapper call => (wrapper.start backend call.surroundings call.request).2.2) wrapper

/-! ## One start -/

section Start

variable (backend : Backend sigma) (wrapper : Wrapper sigma) (call : StartCall)

theorem start_settings :
    (wrapper.start backend call.surroundings call.request).2.2.settings = call.settings := by
  unfold start StartCall.settings
  cases Settings.ofEditor call.request.settings <;> rfl

theorem start_sourceDirectory :
    (wrapper.start backend call.surroundings call.request).2.2.sourceDirectory =
      call.sourceDirectory := by
  unfold start StartCall.sourceDirectory StartCall.settings Settings.sourcePath
  cases Settings.ofEditor call.request.settings <;> cases call.surroundings.directory.fault? <;> rfl

/-- The notice about a problem. -/
def tell (problem : StartProblem) : Notice :=
  wrapper.problem problem.message

theorem settingsNotices_eq :
    (match Settings.ofEditor call.request.settings with
      | .ok _ => []
      | .error error => [wrapper.problem error.message.toList]) =
      call.settingsProblem?.toList.map wrapper.tell := by
  unfold StartCall.settingsProblem?
  cases read : Settings.ofEditor call.request.settings with
  | ok settings => rfl
  | error error =>
      obtain ⟨fault, rfl⟩ := exists_fault_of_ofEditor read
      rfl

theorem directoryNotices_eq :
    (match call.surroundings.directory.fault? with
      | none => []
      | some error => [wrapper.problem (SettingsError.noDirectory error).message.toList]) =
      call.directoryProblem?.toList.map wrapper.tell := by
  unfold StartCall.directoryProblem?
  cases call.surroundings.directory.fault? <;> rfl

theorem sourcesNotices_eq (schemaVersion : Option Text) :
    ((sourcesNotice? call.surroundings call.sourceDirectory schemaVersion).map
        wrapper.problem).toList =
      (call.sourcesProblem? schemaVersion).toList.map wrapper.tell := by
  rw [sourcesNotice?_eq]
  cases call.sourcesProblem? schemaVersion <;> rfl

/-- A start tells of what is wrong, problem by problem. -/
theorem start_notices :
    (wrapper.start backend call.surroundings call.request).2.1 =
      (call.problems ((wrapper.schema.schema? call.surroundings).map Schema.version)).map
        wrapper.tell := by
  rw [StartCall.problems, List.map_append, List.map_append, ← settingsNotices_eq,
    ← directoryNotices_eq, ← sourcesNotices_eq]
  unfold start StartCall.sourceDirectory StartCall.settings Settings.sourcePath
  cases Settings.ofEditor call.request.settings <;> cases call.surroundings.directory.fault? <;> rfl

end Start

/-! ## Runs of starts -/

/-- Whether an outcome of a start is as it should be: the backend was started once and its result is
the result, settings and source directory are those of the call, and each problem is told of by one
notice. -/
structure StartsAnyway (backend : Backend sigma) (before : Wrapper (List StartRequest × sigma))
    (call : StartCall) (schema? : Option Schema)
    (outcome : Except BackendFailure Unit × List Notice × Wrapper (List StartRequest × sigma)) :
    Prop where
  started : outcome.2.2.inner =
    (before.inner.1 ++ [call.request], (backend.start before.inner.2 call.request).2)
  result : outcome.1 = (backend.start before.inner.2 call.request).1
  settings : outcome.2.2.settings = call.settings
  sourceDirectory : outcome.2.2.sourceDirectory = call.sourceDirectory
  notices : ∃ problems : List StartProblem, problems.Nodup ∧
    (∀ problem, problem ∈ problems ↔ problem.ArisesAt call (schema?.map Schema.version)) ∧
    outcome.2.1 = problems.map before.tell

theorem startsAnyway_start (backend : Backend sigma)
    (before : Wrapper (List StartRequest × sigma)) (call : StartCall) :
    StartsAnyway backend before call (before.schema.schema? call.surroundings)
      (before.start backend.notingStarts call.surroundings call.request) where
  started := rfl
  result := rfl
  settings := start_settings _ _ _
  sourceDirectory := start_sourceDirectory _ _ _
  notices :=
    ⟨_, call.nodup_problems _, fun _ => StartCall.mem_problems_iff, start_notices _ _ _⟩

section Run

variable (backend : Backend sigma)

theorem noticeDelay_startAll (wrapper : Wrapper sigma) (calls : List StartCall) :
    (wrapper.startAll backend calls).noticeDelay = wrapper.noticeDelay := by
  induction calls generalizing wrapper with
  | nil => rfl
  | cons call later inductionHypothesis => exact inductionHypothesis _

/-- The schema at a start is the one that is decided at the first start of the run. -/
theorem schema?_startAll (wrapper : Wrapper sigma) (earlier : List StartCall) (call : StartCall) :
    (wrapper.startAll backend earlier).schema.schema? call.surroundings =
      wrapper.schema.schema? (earlier.headD call).surroundings := by
  induction earlier generalizing wrapper with
  | nil => rfl
  | cons first later inductionHypothesis =>
      exact (inductionHypothesis _).trans (wrapper.schema.schema?_get first.surroundings _)

theorem starts_startAll (wrapper : Wrapper (List StartRequest × sigma)) (calls : List StartCall) :
    (wrapper.startAll backend.notingStarts calls).inner.1 =
      wrapper.inner.1 ++ calls.map StartCall.request := by
  induction calls generalizing wrapper with
  | nil => exact (List.append_nil _).symm
  | cons call later inductionHypothesis =>
      refine (inductionHypothesis _).trans ?_
      exact List.append_assoc wrapper.inner.1 [call.request] (later.map StartCall.request)

/-- Behind any starts the next one starts the backend, too, whatever is wrong.  So a run of starts
hands all of its requests to the backend, each of them once.  Of what earlier starts found, only the
schema counts. -/
theorem startsAnyway_startAll (wrapper : Wrapper (List StartRequest × sigma))
    (earlier : List StartCall) (call : StartCall) :
    let before := wrapper.startAll backend.notingStarts earlier
    before.inner.1 = wrapper.inner.1 ++ earlier.map StartCall.request ∧
      before.noticeDelay = wrapper.noticeDelay ∧
      StartsAnyway backend before call
        (wrapper.schema.schema? (earlier.headD call).surroundings)
        (before.start backend.notingStarts call.surroundings call.request) := by
  intro before
  refine ⟨starts_startAll backend wrapper earlier, noticeDelay_startAll _ wrapper earlier, ?_⟩
  rw [← schema?_startAll backend.notingStarts wrapper earlier call]
  exact startsAnyway_start backend before call

end Run

end Wrapper

end Pipescript
