import Specfile.Text.Basic

/-! Templates: a text read as literals and references in turn. A reference is an opening,
a name of one or more characters other than a closing brace, and that brace; references
are found from left to right and do not overlap. Writing the pieces out again gives the
text back. -/

set_option autoImplicit false

namespace Specfile.Macro

inductive Piece where
  | literal (text : Text)
  | reference (name : Text)
  deriving DecidableEq, Repr

def referenceText (name : Text) : Text := '%' :: '\x7b' :: name ++ ['\x7d']

def Piece.text : Piece → Text
  | .literal text => text
  | .reference name => referenceText name

def reference? : Text → Option (Text × Text)
  | '%' :: '\x7b' :: rest =>
    match rest.takeWhile (· != '\x7d'), rest.dropWhile (· != '\x7d') with
    | c :: name, _ :: after => some (c :: name, after)
    | _, _ => none
  | _ => none

theorem eq_of_reference? {text name after : Text} (found : reference? text = some (name, after)) :
    text = referenceText name ++ after ∧ name ≠ [] ∧ '\x7d' ∉ name := by
  unfold reference? at found
  split at found
  · rename_i rest
    split at found
    · rename_i first tail stop following taken left
      cases found
      have whole := List.takeWhile_append_dropWhile (p := (· != '\x7d')) (l := rest)
      rw [taken, left] at whole
      -- The name ends where the first closing brace stands.
      have closing : stop = '\x7d' := by
        have halt := List.head?_dropWhile_not (· != '\x7d') rest
        simpa [left] using halt
      have inside := List.all_takeWhile (p := (· != '\x7d')) (l := rest)
      rw [taken, List.all_eq_true] at inside
      refine ⟨by rw [← whole, closing]; simp [referenceText], List.cons_ne_nil _ _, ?_⟩
      intro member
      simpa using inside _ member
    · cases found
  · cases found

def prepend (c : Char) : List Piece → List Piece
  | .literal text :: pieces => .literal (c :: text) :: pieces
  | pieces => .literal [c] :: pieces

/-- Literals and references in turn, from a literal to a literal; a literal may be empty. -/
def pieces (text : Text) : List Piece :=
  match text with
  | [] => [.literal []]
  | c :: rest =>
    match _found : reference? (c :: rest) with
    | some (name, after) => .literal [] :: .reference name :: pieces after
    | none => prepend c (pieces rest)
termination_by text.length
decreasing_by
  · rw [(eq_of_reference? _found).1]
    simp only [referenceText, List.length_append, List.length_cons, List.length_nil]
    omega
  · simp

def written (pieces : List Piece) : Text := pieces.flatMap Piece.text

theorem written_prepend (c : Char) (pieces : List Piece) :
    written (prepend c pieces) = c :: written pieces := by
  unfold prepend
  split <;> simp [written, Piece.text]

@[simp] theorem written_pieces (text : Text) : written (pieces text) = text := by
  fun_induction pieces text with
  | case1 => rfl
  | case2 c rest name after found ih =>
    rw [(eq_of_reference? found).1]
    simpa [written, Piece.text] using ih
  | case3 c rest missing ih => rw [written_prepend, ih]

def references (text : Text) : List Text :=
  (pieces text).filterMap fun
    | .literal _ => none
    | .reference name => some name

end Specfile.Macro
