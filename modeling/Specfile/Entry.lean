import Specfile.Calendar
import Specfile.Failure
import Specfile.Macro.Expansion
import Specfile.Tags

/-! Entries of the log of changes. An entry is a header line, which names the day, the
packager and the package's epoch, version and release, and a line for a message. -/

set_option autoImplicit false

namespace Specfile

structure Identity where
  name : Text
  email : Text
  deriving DecidableEq, Repr

def Identity.text (identity : Identity) : Text :=
  identity.name ++ " <".toList ++ identity.email ++ ['>']

namespace Entry

/-- The version and release with their macros expanded, after an epoch that is not empty. -/
def evr (table : Macro.Table) (tags : Tags) : Text :=
  let package :=
    Macro.expand table tags.version ++ '-' :: Macro.expand table tags.release
  match Macro.expand table tags.epoch with
  | [] => package
  | epoch => epoch ++ ':' :: package

def render (evr date : Text) (identity : Identity) : Text :=
  "* ".toList ++ date ++ ' ' :: identity.text ++ " - ".toList ++ evr ++ "\n- ".toList

def requireTags (lines : List Text) : Except Problem Tags :=
  let tags := Tags.ofLines lines
  if tags.missing = [] then .ok tags else .error (.tagsMissing tags.missing)

def generate (text date : Text) (identity : Identity) : Except Problem Text := do
  let lines := Text.lines text
  let tags ← requireTags lines
  pure (render (evr (.ofLines lines) tags) date identity)

def header (entry : Text) : Text := entry.takeWhile (· != '\n')

end Entry

end Specfile
