import Specfile.Text.Basic

/-! The grammar of arguments. An option is written out or as a letter, takes its value
from behind an equals sign or from the next argument, and may stand among the positional
arguments; two dashes end the options. -/

set_option autoImplicit false

namespace Specfile.Plain

inductive OptionName where
  | help
  | version
  | dryRun
  | printOnly
  | line
  | column
  | message
  | config
  deriving DecidableEq, Repr

structure OptionForm where
  name : OptionName
  spelling : String
  letter : Option Char := none
  takesValue : Bool := false
  deriving DecidableEq, Repr

/-- The options given, in their order, flags with an empty value; the other arguments. -/
structure Arguments where
  options : List (OptionName × Text) := []
  positionals : List Text := []
  deriving DecidableEq, Repr

namespace Arguments

def has (arguments : Arguments) (name : OptionName) : Bool :=
  arguments.options.any (·.1 = name)

def value? (arguments : Arguments) (name : OptionName) : Option Text :=
  ((arguments.options.filter (·.1 = name)).getLast?).map Prod.snd

def withOptions (options : List (OptionName × Text)) (arguments : Arguments) : Arguments :=
  { arguments with options := options ++ arguments.options }

def withPositional (argument : Text) (arguments : Arguments) : Arguments :=
  { arguments with positionals := argument :: arguments.positionals }

end Arguments

/-- The options that one argument gives, and an option that still waits for its value. -/
abbrev Taken := List (OptionName × Text) × Option OptionName

/-- Reads letters after a dash. What follows a letter that takes a value is its value. -/
def takeLetters? (forms : List OptionForm) : Text → Option Taken
  | [] => some ([], none)
  | c :: rest => do
    let form ← forms.find? (·.letter = some c)
    if form.takesValue then
      if rest = [] then some ([], some form.name) else some ([(form.name, rest)], none)
    else do
      let (options, waiting) ← takeLetters? forms rest
      some ((form.name, []) :: options, waiting)

def takeOption? (forms : List OptionForm) (argument : Text) : Option Taken :=
  let attached? := match argument.dropWhile (· != '=') with
    | [] => none
    | _ :: value => some value
  match forms.find? (·.spelling.toList = argument.takeWhile (· != '=')) with
  | some form =>
    match form.takesValue, attached? with
    | true, some value => some ([(form.name, value)], none)
    | true, none => some ([], some form.name)
    | false, none => some ([(form.name, [])], none)
    | false, some _ => none
  | none =>
    if argument.take 2 = ['-', '-'] then none else takeLetters? forms (argument.drop 1)

def isOption (argument : Text) : Bool := argument.head? = some '-' && argument.length > 1

/-- Reads all arguments; `none` stands for an unknown option, a missing value, or a value
of an option that takes none. Unless options may follow positional arguments, the first of
these ends the options. -/
def readArguments? (forms : List OptionForm) (mixed : Bool) : List Text → Option Arguments
  | [] => some {}
  | argument :: rest =>
    if argument = ['-', '-'] then some { positionals := rest }
    else if isOption argument then
      match takeOption? forms argument, rest with
      | none, _ => none
      | some (options, none), rest =>
        (readArguments? forms mixed rest).map (.withOptions options)
      | some (_, some _), [] => none
      | some (options, some name), value :: rest =>
        (readArguments? forms mixed rest).map (.withOptions (options ++ [(name, value)]))
    else if mixed then (readArguments? forms mixed rest).map (.withPositional argument)
    else some { positionals := argument :: rest }

end Specfile.Plain
