import Specfile.Failure
import Specfile.Files.Disk
import Specfile.Text.Blank
import Specfile.Text.Newline

/-! Documents: a text and the path that it is read from and saved to. Edits give a new
document and leave the disk alone. -/

set_option autoImplicit false

namespace Specfile

structure Document where
  path : Path
  text : Text
  deriving DecidableEq, Repr

namespace Document

def lines (document : Document) : List Text := document.text.lines

def withLines (document : Document) (lines : List Text) : Document :=
  { document with text := Text.joinLines lines }

def bytes (document : Document) : Bytes := Utf8.encode document.text

def replaceLine (document : Document) (index : Int) (line : Text) : Except Fault Document :=
  let lines := document.lines
  if 0 ≤ index ∧ index < lines.length then
    .ok (document.withLines (lines.set index.toNat line))
  else .error (.lineOutOfRange index lines.length)

/-- Puts a block into the text at a line and a column. A position outside the text stands
for the nearest one within it. -/
def insert (document : Document) (line column : Int) (block : Text) : Document :=
  let lines := document.lines
  let line := min line.toNat (lines.length - 1)
  let current := lines.getD line []
  let column := min column.toNat current.length
  document.withLines (lines.set line (current.take column ++ block ++ current.drop column))

def isHeader (line : Text) : Bool := Text.lower line.trim = "%changelog".toList

def gap (line : Option Text) : List Text :=
  if line.any (·.trim ≠ []) then [[]] else []

/-- Puts an entry at the top of the section for changes and keeps it apart from the entry
below. A text without the section gets one at its end. -/
def addEntry (document : Document) (entry : Text) : Document :=
  let lines := document.lines
  match lines.dropWhile (!isHeader ·) with
  | header :: after =>
    document.withLines (lines.takeWhile (!isHeader ·)
      ++ header :: entry.lines ++ gap after.head? ++ after)
  | [] =>
    let (body, tail) :=
      if lines.getLast? = some [] then (lines.dropLast, [[]]) else (lines, [])
    document.withLines (body ++ gap body.getLast? ++ "%changelog".toList :: entry.lines ++ tail)

def readReason : Errno → Text
  | .notFound => "file not found".toList
  | .isDirectory => "is a directory".toList
  | .accessDenied | .notPermitted => "permission denied".toList
  | errno => errno.description

def ofRead (path : Path) (result : Except ReadRefusal Bytes) : Except Failure Document :=
  let missing (reason : Text) : Except Failure Document :=
    .error (.problem (.noDocument path reason))
  match result with
  | .error (.system errno _) => missing (readReason errno)
  | .error .nullInPath => .error (.fault .nullInPath)
  | .ok bytes =>
    match Utf8.decode bytes with
    | .error refusal =>
      missing ("not valid UTF-8 (".toList ++ refusal.reason.message ++ [')'])
    | .ok text => .ok ⟨path, text.unifyNewlines⟩

end Document

end Specfile
