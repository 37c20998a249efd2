import Specfile.Plain.Width

/-! Tab stops. A tab is a space and as many more as reach the next multiple of eight cells;
cells are counted from the start of each line. -/

set_option autoImplicit false

namespace Specfile.Text

def tabWidth : Nat := 8

/-- The stretches between the tabs of a line, set from a column on. The space of a tab
belongs to the stretch before it, where a joiner may hide it. -/
def setStretches : (column : Nat) → List Text → Text
  | _, [] => []
  | _, [stretch] => stretch
  | column, stretch :: stretches =>
    let stretch := stretch ++ [' ']
    let reached := column + stretch.cells
    let gap := (tabWidth - reached % tabWidth) % tabWidth
    stretch ++ List.replicate gap ' ' ++ setStretches (reached + gap) stretches

def expandTabs (text : Text) : Text :=
  joinLines ((lines text).map fun line => setStretches 0 (split '\t' line))

end Specfile.Text
