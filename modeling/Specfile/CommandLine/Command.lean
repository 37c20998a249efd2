import Specfile.Files.Path

/-! The commands and their options. -/

set_option autoImplicit false

namespace Specfile.CommandLine

/-- Options of the command that adds an entry; the line counts from one. -/
structure EntryOptions where
  line : Option Int := none
  column : Int := 0
  message : Option Text := none
  printOnly : Bool := false
  dryRun : Bool := false
  config : Option Path := none
  deriving DecidableEq, Repr

inductive Command where
  | version
  | changelog (document : Path) (options : EntryOptions)
  | bump (document : Path) (dryRun : Bool)
  | expand (document : Path) (text : Text)
  deriving DecidableEq, Repr

end Specfile.CommandLine
