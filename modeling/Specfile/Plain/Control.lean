import Specfile.Text.Basic

/-! Control sequences for terminals: an escape character, an opening bracket, a run of
digits, semicolons and question marks, and a letter. Other sequences are not known here. -/

set_option autoImplicit false

namespace Specfile.Text

def isParameter (c : Char) : Bool := c.isDigit || c = ';' || c = '?'

def sequenceLength : Text → Nat
  | '\x1b' :: '[' :: text =>
    let parameters := text.takeWhile isParameter
    if (text.drop parameters.length).head?.any Char.isAlpha then parameters.length + 3 else 0
  | _ => 0

def dropSequencesAfter : (count : Nat) → Text → Text
  | _, [] => []
  | count + 1, _ :: text => dropSequencesAfter count text
  | 0, c :: text =>
    match sequenceLength (c :: text) with
    | 0 => c :: dropSequencesAfter 0 text
    | length + 1 => dropSequencesAfter length text

def dropSequences (text : Text) : Text := dropSequencesAfter 0 text

theorem dropSequences_of_notMem {text : Text} (plain : '\x1b' ∉ text) :
    text.dropSequences = text := by
  induction text with
  | nil => rfl
  | cons c text ih =>
    have other : c ≠ '\x1b' := fun here => plain (here ▸ List.mem_cons_self)
    have none : sequenceLength (c :: text) = 0 := by simp [sequenceLength, other]
    have rest := ih fun inside => plain (List.mem_cons_of_mem c inside)
    simpa [dropSequences, dropSequencesAfter, none] using rest

end Specfile.Text
