import Specfile.Files.Errno
import Specfile.Files.Path
import Specfile.Text.Numeral
import Specfile.Text.Quoted

/-! What can go wrong. A problem is reported with a message, a hint and an exit code; a
fault breaks an operation off and carries a message only. -/

set_option autoImplicit false

namespace Specfile

inductive Problem where
  | noDocument (path : Path) (reason : Text)
  | tagsMissing (tags : List Text)
  | identityUnavailable (reason : Text)
  | releaseNotInteger (expanded template : Text)
  | configUnusable (path : Option Path) (message : Text)
  deriving DecidableEq, Repr

namespace Problem

def message : Problem → Text
  | noDocument path reason =>
    "No spec document at ".toList ++ path.text ++ ": ".toList ++ reason
  | tagsMissing tags => Text.join " or ".toList tags ++ " not found in the spec file".toList
  | identityUnavailable reason =>
    "Failed to retrieve git user configuration: ".toList ++ reason
  | releaseNotInteger expanded template =>
    "Release '".toList ++ expanded ++ "' (from '".toList ++ template
      ++ "') is not an integer".toList
  | configUnusable _ message => message

def hint? : Problem → Option Text
  | noDocument .. => some "Pass the path of an existing .spec file".toList
  | tagsMissing tags =>
    let quoted := tags.map fun tag => '\x27' :: tag ++ [':', '\x27']
    some ("Add a ".toList ++ Text.join ", ".toList quoted
      ++ " line at the start of a line".toList)
  | identityUnavailable _ =>
    some ("Run: git config --global user.name/user.email, ".toList
      ++ "or set [identity] in the config file".toList)
  | releaseNotInteger .. =>
    some "The Release value must start with a number or expand to one".toList
  | configUnusable path _ => path.map fun path => "Fix or remove ".toList ++ path.text

def exitCode : Problem → Nat
  | noDocument .. => 5
  | identityUnavailable _ => 2
  | tagsMissing _ | releaseNotInteger .. | configUnusable .. => 1

end Problem

inductive Fault where
  | lineOutOfRange (line : Int) (count : Nat)
  | numeral (fault : NumeralFault)
  | system (errno : Errno) (path : Option Path)
  | nullInPath
  | noHome
  | undecodable (message : Text)
  | unencodable (message : Text)
  | tooDeep (message : Text)
  deriving DecidableEq, Repr

def Fault.message : Fault → Text
  | lineOutOfRange line count =>
    "line ".toList ++ Numeral.signed line ++ " out of range (document has ".toList
      ++ Numeral.decimal count ++ " lines)".toList
  | numeral fault => fault.message
  | system errno path =>
    let place := match path with
      | none => []
      | some path => ": ".toList ++ path.text.quoted
    "[Errno ".toList ++ Numeral.decimal errno.number ++ "] ".toList ++ errno.description ++ place
  | nullInPath => "embedded null byte".toList
  | noHome => "Could not determine home directory.".toList
  | undecodable message | unencodable message | tooDeep message => message

inductive Failure where
  | problem (problem : Problem)
  | fault (fault : Fault)
  deriving DecidableEq, Repr

end Specfile
