import Pipescript.Files.FileTree

/-!
# Notices

A notice is a message that the user is shown some time after it was scheduled, so that the editor is
ready for it.  The notice about versions compares the sources with the schema.
-/

namespace Pipescript

inductive NoticeKind where
  | error
  | warning
  | info
  | log
  deriving DecidableEq, Repr

/-- A message to be shown after a delay in milliseconds. -/
structure Notice where
  delay : Nat
  kind : NoticeKind
  message : Text
  deriving DecidableEq, Repr

/-- How long a notice waits unless something else is asked for. -/
def usualDelay : Nat :=
  2000

/-- Who waits until a notice is shown. -/
inductive NoticeTimer where
  /-- The runtime that also keeps the clock. -/
  | runtime
  /-- A thread of its own, of whose waiting the clock knows nothing. -/
  | thread
  deriving DecidableEq, Repr

/-- The time on the clock at which a notice is shown that is scheduled at time zero. -/
def Notice.shownAt (notice : Notice) : NoticeTimer → Nat
  | .runtime => notice.delay
  | .thread => 0

/-! ## Versions -/

/-- The text between the first quotation mark that another one follows on its line and the last one
on that line. -/
def quotedOnLine? : Text → Option Text
  | [] => none
  | c :: rest =>
      if c = '"' then
        let line := rest.takeWhile (· != '\n')
        if line.contains '"' then
          some ((line.reverse.dropWhile (· != '"')).drop 1).reverse
        else
          quotedOnLine? rest
      else
        quotedOnLine? rest

/-- The version that the sources declare in their header file. -/
def declaredVersion? (surroundings : Surroundings) (directory : Path) : Option Text :=
  let path := (directory.join (.ofText "core".toList)).join (.ofText "version.h".toList)
  (surroundings.text? path).bind quotedOnLine?

/-- The version of sources that declare none. -/
def unknownVersion : Text :=
  "unknown".toList

/-- What the user is told if the sources are missing or have another version than the schema. -/
def sourcesNotice? (surroundings : Surroundings) (directory : Path) (schemaVersion : Option Text) :
    Option Text :=
  if surroundings.doesExist (directory.join (.ofText "bessctl".toList)) then
    let version := (declaredVersion? surroundings directory).getD unknownVersion
    match schemaVersion with
    | some known =>
        if version != unknownVersion && version != known then
          some ("Different bess versions. Source: ".toList ++ version ++
            ", pyls_bess: ".toList ++ known)
        else
          none
    | none => none
  else
    some ("Bess sources not found in ".toList ++ directory.display)

end Pipescript
