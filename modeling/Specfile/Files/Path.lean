import Specfile.Text.Basic

/-! File paths in normal form: a root and the components below it. Empty components and
single dots carry no meaning and are dropped; double dots stay, because what they lead to
depends on the files. The empty path is written as a single dot. -/

set_option autoImplicit false

namespace Specfile

/-- Where a path starts. Two leading slashes, and only two, are a root of their own. -/
inductive Path.Root where
  | here
  | slash
  | doubleSlash
  deriving DecidableEq, Repr

structure Path where
  root : Path.Root
  parts : List Text
  deriving DecidableEq, Repr

namespace Path

def Root.ofSlashes : Nat → Root
  | 0 => .here
  | 2 => .doubleSlash
  | _ => .slash

def Root.text : Root → Text
  | .here => []
  | .slash => ['/']
  | .doubleSlash => ['/', '/']

def ofText (text : Text) : Path where
  root := .ofSlashes (text.takeWhile (· = '/')).length
  parts := (Text.split '/' text).filter fun part => part ≠ [] ∧ part ≠ ['.']

def text (path : Path) : Text :=
  match path.root, path.parts with
  | .here, [] => ['.']
  | root, parts => root.text ++ Text.join ['/'] parts

def hasNull (path : Path) : Bool := path.parts.any (·.contains '\x00')

def below (path : Path) (text : Text) : Path :=
  { path with parts := path.parts ++ (ofText text).parts }

end Path

end Specfile
