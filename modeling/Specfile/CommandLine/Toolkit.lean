import Specfile.CommandLine.Command
import Specfile.Data
import Specfile.Notice

/-! What the program leaves to the libraries that it is built on: reading the arguments and the
configuration, and putting what is said on the two streams. Nothing is laid down here of how they
do it, except that a program which runs knows what of it other programs may rely on. -/

set_option autoImplicit false

namespace Specfile.CommandLine

inductive Utterance where
  | notice (notice : Notice)
  | line (text : Text)
  deriving DecidableEq, Repr

def Utterance.stream : Utterance → Stream
  | .notice shown => shown.stream
  | .line _ => .output

structure Toolkit where
  /-- Gives a command, or the exit code with which a text on the usage ends the run. -/
  readCommand : List Text → Except Nat Command
  readData : Data.Reader
  showNotice : Notice → Text
  showLine : Text → Text

namespace Toolkit

def shows (toolkit : Toolkit) : Utterance → Text
  | .notice notice => toolkit.showNotice notice
  | .line text => toolkit.showLine text

def printed (toolkit : Toolkit) (stream : Stream) (said : List Utterance) : Text :=
  (said.filter (·.stream = stream)).flatMap toolkit.shows

/-- A line is shown as it stands, with a newline behind it, unless it has escape characters. -/
def KeepsLines (toolkit : Toolkit) : Prop :=
  ∀ text, '\x1b' ∉ text → toolkit.showLine text = text ++ ['\n']

end Toolkit

end Specfile.CommandLine
