import Specfile.Failure
import Specfile.Text.Utf8

/-! What a program can learn of files and do to them. Everything that the system is asked for it
may refuse, with a cause and, when it attaches it, the path; a path with a null character never
reaches the system. A save that is refused leaves the file alone, unless it breaks off with the
file already opened: then the file holds what the system has left of it. -/

set_option autoImplicit false

namespace Specfile

inductive ReadRefusal where
  | system (errno : Errno) (path : Option Path)
  | nullInPath
  deriving DecidableEq, Repr

inductive SaveAnswer where
  | stored
  | refused (fault : Fault)
  | torn (fault : Fault) (left : Bytes)
  deriving DecidableEq, Repr

namespace SaveAnswer

def fault? : SaveAnswer → Option Fault
  | stored => none
  | refused fault | torn fault _ => some fault

def left (before : Option Bytes) (bytes : Bytes) : SaveAnswer → Option Bytes
  | stored => some bytes
  | refused _ => before
  | torn _ left => some left

end SaveAnswer

/-- How a system answers for each path: what a file holds, whether there is a file and not
something else, and what becomes of a save. -/
structure Disk where
  read : Path → Except ReadRefusal Bytes
  status : Path → Except ReadRefusal Bool
  save : Path → Bytes → SaveAnswer

namespace Disk

/-- The errors that mean that there is no such file. -/
def absences : List Nat := [2, 9, 20, 40]

def isFile (disk : Disk) (path : Path) : Except Fault Bool :=
  match disk.status path with
  | .ok isFile => .ok isFile
  | .error .nullInPath => .ok false
  | .error (.system errno attached) =>
    if errno.number ∈ absences then .ok false else .error (.system errno attached)

def failing (errno : Errno) : Disk where
  read _ := .error (.system errno none)
  status _ := .error (.system errno none)
  save _ _ := .refused (.system errno none)

end Disk

end Specfile
