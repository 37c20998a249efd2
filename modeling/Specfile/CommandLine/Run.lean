import Specfile.CommandLine.Toolkit
import Specfile.Edit
import Specfile.Files.Tree

/-! Running a command in a world: the files, the home directory, the answers of git and the date.
A run never changes the world itself. It reports what it says, how it ends, and the one save that
it asks for, if any; the world has told how it answers that. -/

set_option autoImplicit false

namespace Specfile.CommandLine

def versionText : Text := "0.3.0".toList

/-- The home directory is the one that the environment names, or else the user's account. -/
structure World where
  disk : Disk
  home : Option Text
  git : GitOutcomes
  today : Date

/-- A text on the usage, which the toolkit gives before any command runs, is no part of a report. -/
inductive Ending where
  | usage (code : Nat)
  | exit (code : Nat)
  | broken (fault : Fault)
  deriving DecidableEq, Repr

structure Report where
  ending : Ending
  said : List Utterance := []
  save : Option (Path × Bytes) := none
  deriving DecidableEq, Repr

namespace Report

def ofNotices (ending : Ending) (notices : List Notice) : Report where
  ending := ending
  said := notices.map .notice

def ofFailure : Failure → Report
  | .problem problem => ofNotices (.exit problem.exitCode) problem.notices
  | .fault fault => { ending := .broken fault }

def ofLine (text : Text) : Report := { ending := .exit 0, said := [.line text] }

def shown (toolkit : Toolkit) (stream : Stream) (report : Report) : Text :=
  toolkit.printed stream report.said

def ofEdit (disk : Disk) (edit : Edit) : Report :=
  let (path, bytes) := (edit.document.path, edit.document.bytes)
  let (notices, fault?) := edit.outcome (disk.save path bytes)
  { ofNotices (fault?.elim (.exit 0) .broken) notices with
    save := if edit.saves then some (path, bytes) else none }

end Report

/-- Where the entry goes, counted from zero; a column counts only beside a line. -/
def EntryOptions.cursor (options : EntryOptions) : Option (Int × Int) :=
  options.line.map fun line => (line - 1, options.column)

/-- What a tilde in front of a path stands for. Slashes at the end of the home directory are
dropped, but for a root; without a home directory the tilde stays. -/
def tilde : Option Text → Text
  | none => ['~']
  | some home =>
    match (home.reverse.dropWhile (· = '/')).reverse with
    | [] => ['/']
    | home => home

namespace World

def defaultConfig (world : World) : Except Failure Path :=
  let home := tilde world.home
  if home.head? = some '~' then .error (.fault .noHome)
  else .ok ((Path.ofText home).below ".config/rpm-changelog/config.toml".toList)

def document (world : World) (path : Path) : Except Failure Document :=
  Document.ofRead path (world.disk.read path)

/-- A given configuration has to load; the default one counts only if its file exists. -/
def config (toolkit : Toolkit) (world : World) (given : Option Path) : Except Failure Config :=
  let load (path : Path) := Config.ofRead toolkit.readData path (world.disk.read path)
  match given with
  | some path => load path
  | none => do
    let path ← world.defaultConfig
    if ← (world.disk.isFile path).mapError .fault then load path else pure {}

def entryRequest (world : World) (config : Config) (options : EntryOptions) : EntryRequest where
  packager := .ofConfig config world.git
  today := world.today
  message := options.message <|> config.message

def changelog (toolkit : Toolkit) (world : World) (path : Path) (options : EntryOptions) :
    Except Failure Report := do
  let config ← world.config toolkit options.config
  let document ← world.document path
  let request := world.entryRequest config options
  if options.printOnly then
    let entry ← request.entry document
    pure (.ofLine entry)
  else
    let edit ← Edit.addEntry request options.cursor options.dryRun document
    pure (.ofEdit world.disk edit)

/-- The default configuration is not read, but its path is made up. -/
def bump (world : World) (path : Path) (dryRun : Bool) : Except Failure Report := do
  let _ ← world.defaultConfig
  let document ← world.document path
  let (edit, _) ← Edit.bump dryRun document
  pure (.ofEdit world.disk edit)

def expand (world : World) (path : Path) (text : Text) : Except Failure Report := do
  let _ ← world.defaultConfig
  let document ← world.document path
  pure (.ofLine (Macro.expand (.ofLines document.lines) text))

end World

def Command.run (toolkit : Toolkit) (command : Command) (world : World) : Report :=
  let result : Except Failure Report := match command with
    | .version => .ok (.ofLine versionText)
    | .changelog path options => world.changelog toolkit path options
    | .bump path dryRun => world.bump path dryRun
    | .expand path text => world.expand path text
  match result with
  | .ok report => report
  | .error failure => .ofFailure failure

def run (toolkit : Toolkit) (arguments : List Text) (world : World) : Report :=
  match toolkit.readCommand arguments with
  | .error code => { ending := .usage code }
  | .ok command => command.run toolkit world

/-- A file tree after the save that a report asks for. One that is refused changes nothing. -/
def Report.applyTo (report : Report) (tree : FileTree) : FileTree :=
  match report.save with
  | none => tree
  | some (path, bytes) => (tree.write path bytes).toOption.getD tree

structure Invocation where
  arguments : List Text
  home : Option Text
  git : GitOutcomes
  today : Date
  deriving DecidableEq, Repr

namespace Invocation

def world (invocation : Invocation) (tree : FileTree) : World where
  disk := tree.disk
  home := invocation.home
  git := invocation.git
  today := invocation.today

def runOn (toolkit : Toolkit) (invocation : Invocation) (tree : FileTree) : Report × FileTree :=
  let report := run toolkit invocation.arguments (invocation.world tree)
  (report, report.applyTo tree)

end Invocation

def runAll (toolkit : Toolkit) : List Invocation → FileTree → List (Report × FileTree)
  | [], _ => []
  | invocation :: rest, tree =>
    let (report, tree) := invocation.runOn toolkit tree
    (report, tree) :: runAll toolkit rest tree

end Specfile.CommandLine
