import Pipescript.Editor.Document

/-!
# The command line

The command prints a script as the backend reads it, and on request the rows on which something was
replaced and the places of the arrows.
-/

namespace Pipescript

namespace CommandLine

def usage : String :=
  "usage: bess-desugar [--header] [--rows] [--arrows] <file>

Prints the text a language backend sees for a BESS script.

  --header   prepend the star-import header line like the plugin does
  --rows     list rows touched by a rewrite
  --arrows   list the positions of pipeline arrows
  -h, --help show this message"

/-- What to print for which file. -/
structure Options where
  header : Bool := false
  rows : Bool := false
  arrows : Bool := false
  file : Option Text := none
  deriving DecidableEq, Repr

/-- What the arguments ask for. -/
inductive Request where
  | help
  | print (options : Options) (file : Text)
  deriving DecidableEq, Repr

/-- Why arguments make no sense. -/
inductive UsageError where
  | unknownOption (option : Text)
  | secondFile
  | noFile
  deriving DecidableEq, Repr

namespace UsageError

def message : UsageError → String
  | unknownOption option => s!"unknown option: {String.ofList option}"
  | secondFile => "more than one input file"
  | noFile => "missing input file"

end UsageError

/-- Read arguments behind those that gave the options so far.  Asking for help makes the arguments
behind it void. -/
def readArguments (options : Options) : List Text → Except UsageError Request
  | [] =>
      match options.file with
      | some file => .ok (.print options file)
      | none => .error .noFile
  | argument :: later =>
      if argument = "-h".toList ∨ argument = "--help".toList then .ok .help
      else if argument = "--header".toList then readArguments { options with header := true } later
      else if argument = "--rows".toList then readArguments { options with rows := true } later
      else if argument = "--arrows".toList then readArguments { options with arrows := true } later
      else if argument.head? = some '-' ∧ argument ≠ ['-'] then .error (.unknownOption argument)
      else if options.file.isSome then .error .secondFile
      else readArguments { options with file := some argument } later

/-- Whether a file name stands for the standard input. -/
def isStandardInput (file : Text) : Bool :=
  file == ['-']

/-- The number of a row in five places, dimmed if colour is wanted. -/
def rowText (color : Bool) (row : Nat) : Text :=
  let digits := Nat.toDigits 10 row
  let label := List.replicate (5 - digits.length) ' ' ++ digits
  if color then "\x1b[2m".toList ++ label ++ "\x1b[0m".toList else label

/-- The word before each listing, green and bold if colour is wanted. -/
def titleMark (color : Bool) : Text :=
  if color then "\x1b[1m\x1b[92mREWRITE\x1b[39m\x1b[0m".toList else "REWRITE".toList

/-- A listing behind the text. -/
def listing (color : Bool) (title : String) (lines : List Text) : Text :=
  '\n' :: titleMark color ++ ' ' :: title.toList ++ ":\n".toList ++
    lines.flatMap (· ++ ['\n'])

/-- What is printed for a script. -/
def report (color : Bool) (options : Options) (script : Text) : Text :=
  let view :=
    if options.header then ScriptView.ofScript script
    else
      let plain := PlainScript.ofScript script
      ⟨plain.text, .identity, plain.changedRows, plain.arrows⟩
  view.text ++
    (if options.rows then listing color "rows" (view.changedRows.rows.map (rowText color))
      else []) ++
    (if options.arrows then
      listing color "arrows" (view.arrows.map fun arrow =>
        rowText color arrow.row ++ ':' :: Nat.toDigits 10 arrow.column)
      else [])

/-- What the command leaves behind. -/
structure Outcome where
  exitCode : Nat
  output : Text
  /-- What is told about a wrong usage. -/
  complaint : Option Text
  deriving DecidableEq, Repr

/-- Run the command.  `read?` gives the text of a file or of the standard input. -/
def run (color : Bool) (arguments : List Text) (read? : Text → Option Text) : Outcome :=
  match readArguments {} arguments with
  | .error error => ⟨2, [], some (s!"{error.message}\n\n{usage}\n").toList⟩
  | .ok .help => ⟨0, (usage ++ "\n").toList, none⟩
  | .ok (.print options file) =>
      match read? file with
      | some script => ⟨0, report color options script, none⟩
      | none => ⟨1, [], none⟩

end CommandLine

end Pipescript
