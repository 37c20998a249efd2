import Specfile.Files.Disk

/-! File trees. Files stand under the components that lead to them from the root, every beginning
of a file's components is a folder, and so is the working directory. A path is followed one
component at a time, and what it leads to may be vacant: a write puts a file there. Some places
may not be entered, read or written. -/

set_option autoImplicit false

namespace Specfile

/-- What may be forbidden at a place: to look up a name in a folder, to read a file, and to change
a file or the names in a folder. -/
inductive Deed where
  | enter
  | read
  | write
  deriving DecidableEq, Repr

structure Ban where
  deed : Deed
  place : List Text
  errno : Errno
  deriving DecidableEq, Repr

structure FileTree where
  files : List (List Text × Bytes)
  folders : List (List Text) := []
  here : List Text := []
  bans : List Ban := []
  deriving DecidableEq, Repr

namespace FileTree

def maxPathBytes : Nat := 4095

def maxNameBytes : Nat := 255

def file? (tree : FileTree) (place : List Text) : Option Bytes :=
  (tree.files.find? (·.1 = place)).map Prod.snd

def isFolder (tree : FileTree) (place : List Text) : Bool :=
  place.isEmpty || (tree.here :: tree.folders).any (place.isPrefixOf ·)
    || tree.files.any fun file => place.isPrefixOf file.1 && place ≠ file.1

def ban? (tree : FileTree) (deed : Deed) (place : List Text) : Option Errno :=
  (tree.bans.find? fun ban => ban.deed = deed ∧ ban.place = place).map Ban.errno

/-- Follows components from a folder. All but the last must lead to folders. -/
def walk (tree : FileTree) : (place : List Text) → (names : List Text) →
    Except Errno (List Text)
  | place, [] => .ok place
  | place, name :: names =>
    match tree.ban? .enter place with
    | some errno => .error errno
    | none =>
      if name = ['.', '.'] then walk tree place.dropLast names
      else if (Utf8.encode name).length > maxNameBytes then .error .nameTooLong
      else
        let next := place ++ [name]
        if names.isEmpty || tree.isFolder next then walk tree next names
        else .error (if (tree.file? next).isSome then .notDirectory else .notFound)

def resolve (tree : FileTree) (path : Path) : Except Errno (List Text) :=
  if (Utf8.encode path.text).length > maxPathBytes then .error .nameTooLong
  else tree.walk (if path.root = .here then tree.here else []) path.parts

def contents (tree : FileTree) (place : List Text) : Except Errno Bytes :=
  match tree.file? place, tree.ban? .read place with
  | some bytes, none => .ok bytes
  | some _, some errno => .error errno
  | none, _ => .error (if tree.isFolder place then .isDirectory else .notFound)

def read (tree : FileTree) (path : Path) : Except ReadRefusal Bytes :=
  if path.hasNull then .error .nullInPath
  else (tree.resolve path >>= tree.contents).mapError (.system · (some path))

def status (tree : FileTree) (path : Path) : Except ReadRefusal Bool :=
  let found (place : List Text) : Except Errno Bool :=
    if (tree.file? place).isSome then .ok true
    else if tree.isFolder place then .ok false
    else .error .notFound
  if path.hasNull then .error .nullInPath
  else (tree.resolve path >>= found).mapError (.system · (some path))

def put (tree : FileTree) (place : List Text) (bytes : Bytes) : FileTree :=
  { tree with files :=
      if (tree.file? place).isSome then
        tree.files.map fun file => if file.1 = place then (place, bytes) else file
      else tree.files ++ [(place, bytes)] }

/-- Changes a file, or else its folder, which gets a new file. -/
def change (tree : FileTree) (bytes : Bytes) (place : List Text) : Except Errno FileTree :=
  if tree.isFolder place then .error .isDirectory
  else
    match tree.ban? .write (if (tree.file? place).isSome then place else place.dropLast) with
    | some errno => .error errno
    | none => .ok (tree.put place bytes)

def write (tree : FileTree) (path : Path) (bytes : Bytes) : Except Fault FileTree :=
  if path.hasNull then .error .nullInPath
  else (tree.resolve path >>= tree.change bytes).mapError (.system · (some path))

def disk (tree : FileTree) : Disk where
  read := tree.read
  status := tree.status
  save path bytes := match tree.write path bytes with
    | .ok _ => .stored
    | .error fault => .refused fault

end FileTree

end Specfile
