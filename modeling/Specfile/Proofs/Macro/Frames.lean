import Specfile.Macro.Expansion

/-! The stack of frames computes the recursive expansion. A stack stands for one text: the
text that the recursion would give if it went on from every half-read level. No step
changes that text, so it is what the stack holds when its last level closes. -/

set_option autoImplicit false

namespace Specfile.Macro

theorem Table.replacement?_eq_some_iff {table : Table} {active : List Text} {name value : Text} :
    table.replacement? active name = some value ↔
      name ∉ active ∧ table.lookup? name = some value := by
  simp [replacement?]

theorem Table.replacement?_eq_none_iff {table : Table} {active : List Text} {name : Text} :
    table.replacement? active name = none ↔ name ∈ active ∨ table.lookup? name = none := by
  simp [replacement?, Classical.or_iff_not_imp_left]

def Piece.expandUnder (table : Table) (active : List Text) : Piece → Text
  | .literal text => text
  | .reference name =>
    match table.replacement? active name with
    | some value => Macro.expandUnder table (name :: active) value
    | none => referenceText name

theorem expandUnder_eq_flatMap (table : Table) (active : List Text) (text : Text) :
    expandUnder table active text = (pieces text).flatMap (Piece.expandUnder table active) := by
  rw [expandUnder]
  congr 1
  -- The recursion keeps the fact that a replacement was found, for its measure; hence both splits.
  funext piece
  cases piece with
  | literal text => rfl
  | reference name =>
    simp only [Piece.expandUnder]
    split <;> split <;> simp_all

/-- The text of a level: what it has produced, and the expansion of what it has yet to read. -/
def Frame.meaning (table : Table) (frame : Frame) : Text :=
  frame.output ++ frame.pending.flatMap (Piece.expandUnder table frame.active)

theorem Frame.meaning_opening (table : Table) (active : List Text) (text : Text) :
    (Frame.opening active text).meaning table = expandUnder table active text := by
  rw [expandUnder_eq_flatMap]
  rfl

theorem Frame.meaning_cons (table : Table) (piece : Piece) (pending : List Piece)
    (active done : List Text) :
    Frame.meaning table ⟨piece :: pending, active, done⟩ =
      (Frame.put ⟨pending, active, done⟩ (piece.expandUnder table active)).meaning table := by
  simp [meaning, output, put]

/-- The text of a stack: every waiting level takes in the text of the level above it. -/
def Stack.meaning (table : Table) (stack : Stack) : Text :=
  stack.below.foldl (fun text caller => (caller.put text).meaning table) (stack.top.meaning table)

theorem Stack.meaning_of_step_eq_inl {table : Table} {stack : Stack} {text : Text}
    (stepped : stack.step table = .inl text) : stack.meaning table = text := by
  unfold step at stepped
  split at stepped
  · cases stepped
    simp [meaning, Frame.meaning]
  · cases stepped
  · cases stepped
  · split at stepped <;> cases stepped

inductive Stack.Step (table : Table) : Stack → Stack → Prop where
  | close (active done : List Text) (caller : Frame) (below : List Frame) :
      Step table ⟨⟨[], active, done⟩, caller :: below⟩
        ⟨caller.put (Frame.output ⟨[], active, done⟩), below⟩
  | literal (text : Text) (pending : List Piece) (active done : List Text) (below : List Frame) :
      Step table ⟨⟨.literal text :: pending, active, done⟩, below⟩
        ⟨Frame.put ⟨pending, active, done⟩ text, below⟩
  | enter {name value : Text} (pending : List Piece) {active : List Text} (done : List Text)
      (below : List Frame) (found : table.replacement? active name = some value) :
      Step table ⟨⟨.reference name :: pending, active, done⟩, below⟩
        ⟨.opening (name :: active) value, ⟨pending, active, done⟩ :: below⟩
  | keep {name : Text} (pending : List Piece) {active : List Text} (done : List Text)
      (below : List Frame) (kept : table.replacement? active name = none) :
      Step table ⟨⟨.reference name :: pending, active, done⟩, below⟩
        ⟨Frame.put ⟨pending, active, done⟩ (referenceText name), below⟩

theorem Stack.step_eq_inr_iff {table : Table} {stack next : Stack} :
    stack.step table = .inr next ↔ Stack.Step table stack next := by
  constructor
  · intro stepped
    unfold step at stepped
    split at stepped
    · cases stepped
    · cases stepped
      exact .close ..
    · cases stepped
      exact .literal ..
    · split at stepped
      · rename_i found
        cases stepped
        exact .enter _ _ _ found
      · rename_i kept
        cases stepped
        exact .keep _ _ _ kept
  · intro stepped
    cases stepped with
    | close | literal => rfl
    | enter _ _ _ found => simp only [step, found]
    | keep _ _ _ kept => simp only [step, kept]

/-- No step changes the text that a stack stands for. -/
theorem Stack.meaning_of_step_eq_inr {table : Table} {stack next : Stack}
    (stepped : stack.step table = .inr next) : next.meaning table = stack.meaning table := by
  cases step_eq_inr_iff.1 stepped with
  | close active done caller below =>
    -- A closed level: its text moves from the top of the stack into its caller.
    simp [meaning, Frame.meaning]
  | literal text pending active done below =>
    simp only [meaning, Frame.meaning_cons, Piece.expandUnder]
  | enter pending done below found =>
    -- A new level: the expansion that its caller waits for is its whole text.
    simp only [meaning, List.foldl_cons, Frame.meaning_opening, Frame.meaning_cons,
      Piece.expandUnder, found]
  | keep pending done below kept =>
    simp only [meaning, Frame.meaning_cons, Piece.expandUnder, kept]

theorem Stack.run_eq_meaning (table : Table) (stack : Stack) :
    stack.run table = stack.meaning table := by
  -- Along the run, backwards from the step that finishes it.
  fun_induction Stack.run table stack with
  | case1 stack text stepped => exact (meaning_of_step_eq_inl stepped).symm
  | case2 stack next stepped ih => rw [ih, meaning_of_step_eq_inr stepped]

theorem expand_eq_flatMap (table : Table) (text : Text) :
    expand table text = (pieces text).flatMap (Piece.expandUnder table []) := by
  rw [expand, Stack.run_eq_meaning]
  exact (Frame.meaning_opening table [] text).trans (expandUnder_eq_flatMap table [] text)

/-- The frames give, for every table and every text, the recursive expansion under no name. -/
theorem expand_eq_expandUnder (table : Table) (text : Text) :
    expand table text = expandUnder table [] text := by
  rw [expand_eq_flatMap, expandUnder_eq_flatMap]

end Specfile.Macro
