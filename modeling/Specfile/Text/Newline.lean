import Specfile.Text.Basic

/-! One newline for all line endings. A carriage return directly before a newline is
dropped and every other one becomes a newline, so the result holds none. -/

set_option autoImplicit false

namespace Specfile.Text

/-- Works from the end of the text; the flag tells whether a newline follows. -/
def endLine (c : Char) : Text × Bool → Text × Bool
  | (rest, newlineFollows) =>
    if c = '\r' then (if newlineFollows then rest else '\n' :: rest, false)
    else (c :: rest, c = '\n')

def unifyNewlines (text : Text) : Text := (text.foldr endLine ([], false)).1

theorem carriageReturn_notMem_unifyNewlines (text : Text) : '\r' ∉ unifyNewlines text := by
  unfold unifyNewlines
  induction text with
  | nil => simp
  | cons c text ih =>
    rw [List.foldr_cons, endLine]
    -- Whether a newline follows is of no account: what is put in is a newline itself.
    split
    · split
      · exact ih
      · simpa using ih
    · rename_i other
      simp [Ne.symm other, ih]

end Specfile.Text
