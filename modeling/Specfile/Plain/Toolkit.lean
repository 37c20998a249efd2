import Specfile.CommandLine.Toolkit
import Specfile.Plain.Bracket
import Specfile.Plain.Columns
import Specfile.Plain.Command
import Specfile.Plain.Control
import Specfile.Toml.Reader

/-! One toolkit, for a console without colours whose lines do not end at an edge, and an output
that is no terminal. Notices have their escapes dropped and their tabs expanded, lines lose their
control sequences, and nothing is said of what is wrong with a malformed configuration. -/

set_option autoImplicit false

namespace Specfile.Plain

def toolkit : CommandLine.Toolkit where
  readCommand := readCommand
  readData := Toml.readData
  showNotice notice := notice.text.dropEscapes.expandTabs ++ ['\n']
  showLine text := text.dropSequences ++ ['\n']

theorem keepsLines : toolkit.KeepsLines :=
  fun _ plain => congrArg (· ++ ['\n']) (Text.dropSequences_of_notMem plain)

end Specfile.Plain
