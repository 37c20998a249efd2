import Specfile.Config
import Specfile.Tool

/-! Who an entry names. A complete configured identity is used as it is; otherwise git
is asked for the name and then for the email. -/

set_option autoImplicit false

namespace Specfile

structure GitOutcomes where
  name : Tool.Ending
  email : Tool.Ending
  deriving DecidableEq, Repr

namespace GitOutcomes

def nameKey : Text := "user.name".toList

def emailKey : Text := "user.email".toList

def timeLimit : Seconds := .double (.ofDecimal false { digits := 10, exponent := 0 })

def command (key : Text) : List Text :=
  ["git".toList, "config".toList, "--get".toList, key]

/-- The trimmed value of a key; git says nothing about a key that is not set. -/
def value (key : Text) (ending : Tool.Ending) : Except Failure Text :=
  let unavailable (reason : Text) : Except Failure Text :=
    .error (.problem (.identityUnavailable reason))
  match Tool.answer (command key) (some timeLimit) ending with
  | .error fault => .error (.fault fault)
  | .ok (.error failure) =>
    let reason := failure.errors.trim
    unavailable (if reason = [] then key ++ " is not set".toList else reason)
  | .ok (.ok output) =>
    let value := output.trim
    if value = [] then unavailable (key ++ " is empty".toList) else .ok value

def identity (git : GitOutcomes) : Except Failure Identity := do
  let name ← value nameKey git.name
  let email ← value emailKey git.email
  pure { name, email }

end GitOutcomes

inductive Packager where
  | configured (identity : Identity)
  | git (outcomes : GitOutcomes)
  deriving DecidableEq, Repr

namespace Packager

def ofConfig (config : Config) (git : GitOutcomes) : Packager :=
  match config.identity? with
  | some identity => .configured identity
  | none => .git git

def identity : Packager → Except Failure Identity
  | configured identity => .ok identity
  | git outcomes => outcomes.identity

end Packager

end Specfile
