import Specfile.CommandLine.Run
import Specfile.Plain.Toolkit
import Std.Time

/-! The program. Files are read before the run and at most one is written after it; when that
fails, the run is repeated with the answer that the system has given. Git is not started from
here, so an identity has to be configured. -/

set_option autoImplicit false

namespace Specfile.CommandLine

/-- The number and the description of an error; some calls negate the number. -/
def numberOfError : IO.Error → Nat × String
  | .noFileOrDirectory _ code details | .permissionDenied _ code details
  | .inappropriateType _ code details | .invalidArgument _ code details
  | .resourceExhausted _ code details | .noSuchThing _ code details
  | .hardwareFault code details | .otherError code details =>
    ((if code < 0x80000000 then code else 0 - code).toNat, details)
  | error => (0, error.toString)

def errnoOfError (error : IO.Error) : Errno :=
  let (number, details) := numberOfError error
  .ofNumber number details.toList

def readPath (path : Path) : IO (Except ReadRefusal Bytes) := do
  try
    let bytes ← IO.FS.readBinFile (String.ofList path.text)
    pure (.ok bytes.toList)
  catch error => pure (.error (.system (errnoOfError error) (some path)))

def savePath (path : Path) (bytes : Bytes) : IO SaveAnswer := do
  try
    IO.FS.writeBinFile (String.ofList path.text) ⟨bytes.toArray⟩
    pure .stored
  catch error => pure (.refused (.system (errnoOfError error) (some path)))

def World.paths (world : World) : Command → List Path
  | .version => []
  | .bump path _ | .expand path _ => [path]
  | .changelog path options =>
    path :: (options.config.or world.defaultConfig.toOption).toList

def diskOfContents (contents : List (Path × Except ReadRefusal Bytes)) (answer : SaveAnswer) :
    Disk :=
  let read (path : Path) := (contents.lookup path).getD (.error (.system .notFound (some path)))
  { read
    status path := match read path with
      | .ok _ => .ok true
      | .error (.system .isDirectory _) => .ok false
      | .error refusal => .error refusal
    save _ _ := answer }

def gitOutcome : Tool.Ending := .notStarted "other programs are not started from here".toList

def dateToday : IO Date := do
  let date ← Std.Time.PlainDate.now
  pure ⟨date.year.toInt.toNat, date.month.toNat, date.day.toNat⟩

def usageLine : String :=
  "Usage: rpm-changelog [--version] [--help] (changelog|bump|expand) [OPTIONS] SPEC_PATH [TEXT]"

def runProgram (toolkit : Toolkit) (arguments : List Text) : IO UInt32 := do
  let empty : World := {
    disk := diskOfContents [] .stored
    home := (← IO.getEnv "HOME").map String.toList
    git := ⟨gitOutcome, gitOutcome⟩
    today := ← dateToday }
  let paths := ((toolkit.readCommand arguments).toOption.map empty.paths).getD []
  let contents ← paths.mapM fun path => do pure (path, ← readPath path)
  let answered (answer : SaveAnswer) : Report :=
    run toolkit arguments { empty with disk := diskOfContents contents answer }
  let report ← match (answered .stored).save with
    | none => pure (answered .stored)
    | some (path, bytes) => do pure (answered (← savePath path bytes))
  IO.print (String.ofList (toolkit.printed .output report.said))
  IO.eprint (String.ofList (toolkit.printed .errors report.said))
  match report.ending with
  | .usage 0 => IO.println usageLine; pure 0
  | .usage code => IO.eprintln usageLine; pure (.ofNat code)
  | .exit code => pure (.ofNat code)
  | .broken fault => IO.eprintln (String.ofList fault.message); pure 1

end Specfile.CommandLine

def main (arguments : List String) : IO UInt32 :=
  Specfile.CommandLine.runProgram Specfile.Plain.toolkit (arguments.map String.toList)
