import Specfile.CommandLine.Command
import Specfile.Plain.Argument
import Specfile.Plain.Integer

/-! How arguments name commands. A call for help or for the version counts as soon as it is read,
among the options in front of the command or among those of the command. -/

set_option autoImplicit false

namespace Specfile.Plain

open CommandLine (Command)

def helpForm : OptionForm := { name := .help, spelling := "--help" }

def versionForm : OptionForm := { name := .version, spelling := "--version" }

def dryRunForm : OptionForm := { name := .dryRun, spelling := "--dry-run" }

def changelogForms : List OptionForm :=
  [{ name := .line, spelling := "--line", takesValue := true },
    { name := .column, spelling := "--column", takesValue := true },
    { name := .message, spelling := "--message", letter := some 'm', takesValue := true },
    { name := .printOnly, spelling := "--print" }, dryRunForm,
    { name := .config, spelling := "--config", takesValue := true }, helpForm]

def integerAtLeast? (least : Int) (arguments : Arguments) (name : OptionName) :
    Option (Option Int) :=
  match arguments.value? name with
  | none => some none
  | some value => do
    let number ← integer? value
    if least ≤ number then some (some number) else none

def path? (argument : Text) : Option Path :=
  let path := Path.ofText argument
  if path.hasNull then none else some path

def changelog? (arguments : Arguments) : Option Command :=
  match arguments.positionals with
  | [document] => do
    let line ← integerAtLeast? 1 arguments .line
    let column ← integerAtLeast? 0 arguments .column
    let document ← path? document
    let config ← (arguments.value? .config).mapM path?
    some (.changelog document {
      line, column := column.getD 0
      message := arguments.value? .message
      printOnly := arguments.has .printOnly
      dryRun := arguments.has .dryRun
      config })
  | _ => none

def bump? (arguments : Arguments) : Option Command :=
  match arguments.positionals with
  | [document] => do some (.bump (← path? document) (arguments.has .dryRun))
  | _ => none

def expand? (arguments : Arguments) : Option Command :=
  match arguments.positionals with
  | [document, text] => do some (.expand (← path? document) text)
  | _ => none

def helpCode : Nat := 0

def wrongUsageCode : Nat := 2

def early? (arguments : Arguments) : Option (Except Nat Command) :=
  arguments.options.head?.bind fun
    | (.help, _) => some (.error helpCode)
    | (.version, _) => some (.ok .version)
    | _ => none

def orWrongUsage (command : Option Command) : Except Nat Command :=
  command.elim (.error wrongUsageCode) .ok

def readOptions (forms : List OptionForm) (build : Arguments → Option Command)
    (rest : List Text) : Except Nat Command :=
  match readArguments? forms true rest with
  | none => .error wrongUsageCode
  | some arguments =>
    if arguments.has .help then .error helpCode else orWrongUsage (build arguments)

def readEarly? (arguments : List Text) : Option Arguments :=
  readArguments? [helpForm, versionForm] false arguments

/-- An unknown name is read as an option once more, since two dashes may have hidden it. -/
def readCommand (arguments : List Text) : Except Nat Command :=
  match readEarly? arguments with
  | none => .error wrongUsageCode
  | some early =>
    match early? early, early.positionals with
    | some answer, _ => answer
    | none, [] => .error wrongUsageCode
    | none, name :: rest =>
      if name = "changelog".toList then readOptions changelogForms changelog? rest
      else if name = "bump".toList then readOptions [dryRunForm, helpForm] bump? rest
      else if name = "expand".toList then readOptions [helpForm] expand? rest
      else ((readEarly? (name :: rest)).bind early?).getD (.error wrongUsageCode)

end Specfile.Plain
