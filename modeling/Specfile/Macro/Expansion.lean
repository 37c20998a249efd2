import Specfile.Macro.Table
import Specfile.Macro.Template

/-! Expansion of the references in a text. A reference is replaced by the expansion of its
macro's value, unless the table lacks the name or the name is being expanded further up
the chain; then it stands as written. Expansion is given twice: by recursion on the
chain, and by a stack of frames, one for each level, that spends no call depth on long
chains. Both end because every level of a chain uses up one name of the table. -/

set_option autoImplicit false

namespace Specfile.Macro

def Table.replacement? (table : Table) (active : List Text) (name : Text) : Option Text :=
  if active.contains name then none else table.lookup? name

/-- How many names of the table a chain has not reached yet. -/
def Table.unused (table : Table) (active : List Text) : Nat :=
  (table.names.filter (!active.contains ·)).length

theorem Table.unused_cons_lt {table : Table} {active : List Text} {name value : Text}
    (found : table.replacement? active name = some value) :
    table.unused (name :: active) < table.unused active := by
  unfold replacement? at found
  split at found
  · cases found
  · rename_i fresh
    have defined := mem_names_of_lookup? found
    unfold unused
    -- The names that are left are those from before without the one now in use.
    have narrower : table.names.filter (!(name :: active).contains ·) =
        (table.names.filter (!active.contains ·)).filter fun other => !decide (other = name) := by
      rw [List.filter_filter]
      congr 1
      funext other
      simp
    rw [narrower]
    apply List.length_filter_lt_length_iff_exists.2
    exact ⟨name, by simpa [defined] using fresh, by simp⟩

def expandUnder (table : Table) (active : List Text) (text : Text) : Text :=
  (pieces text).flatMap fun
    | .literal text => text
    | .reference name =>
      match _found : table.replacement? active name with
      | some value => expandUnder table (name :: active) value
      | none => referenceText name
termination_by table.unused active
decreasing_by exact Table.unused_cons_lt _found

/-- One level of a chain: what is still to be read, the names being expanded there, and
the stretches of text produced, last one first. -/
structure Frame where
  pending : List Piece
  active : List Text
  done : List Text

def Frame.opening (active : List Text) (text : Text) : Frame := ⟨pieces text, active, []⟩

def Frame.output (frame : Frame) : Text := frame.done.reverse.flatten

def Frame.put (frame : Frame) (text : Text) : Frame := { frame with done := text :: frame.done }

/-- The level being read, and the levels that wait for it, innermost first. -/
structure Stack where
  top : Frame
  below : List Frame

/-- Reads one piece, or closes a level that has been read to its end. The result is the
whole text when the last level closes. -/
def Stack.step (table : Table) : Stack → Text ⊕ Stack
  | ⟨⟨[], active, done⟩, []⟩ => .inl (Frame.output ⟨[], active, done⟩)
  | ⟨⟨[], active, done⟩, caller :: below⟩ =>
    .inr ⟨caller.put (Frame.output ⟨[], active, done⟩), below⟩
  | ⟨⟨.literal text :: pending, active, done⟩, below⟩ =>
    .inr ⟨Frame.put ⟨pending, active, done⟩ text, below⟩
  | ⟨⟨.reference name :: pending, active, done⟩, below⟩ =>
    match table.replacement? active name with
    | some value => .inr ⟨.opening (name :: active) value, ⟨pending, active, done⟩ :: below⟩
    | none => .inr ⟨Frame.put ⟨pending, active, done⟩ (referenceText name), below⟩

/-- The number of steps that the level of a text takes, those above it included. -/
def levelSteps (table : Table) (active : List Text) (text : Text) : Nat :=
  ((pieces text).map fun
    | .literal _ => 1
    | .reference name =>
      match _found : table.replacement? active name with
      | some value => 1 + levelSteps table (name :: active) value
      | none => 1).foldr (· + ·) 1
termination_by table.unused active
decreasing_by exact Table.unused_cons_lt _found

def pieceSteps (table : Table) (active : List Text) : Piece → Nat
  | .literal _ => 1
  | .reference name =>
    match table.replacement? active name with
    | some value => 1 + levelSteps table (name :: active) value
    | none => 1

def Frame.steps (table : Table) (frame : Frame) : Nat :=
  (frame.pending.map (pieceSteps table frame.active)).foldr (· + ·) 1

def Stack.steps (table : Table) (stack : Stack) : Nat :=
  stack.top.steps table + (stack.below.map (Frame.steps table)).foldr (· + ·) 0

theorem steps_opening (table : Table) (active : List Text) (text : Text) :
    (Frame.opening active text).steps table = levelSteps table active text := by
  rw [levelSteps, Frame.steps, Frame.opening]
  congr 2
  funext piece
  cases piece with
  | literal text => rfl
  | reference name =>
    simp only [pieceSteps]
    split <;> split <;> simp_all

theorem Stack.steps_of_step {table : Table} {stack next : Stack}
    (stepped : stack.step table = .inr next) : stack.steps table = next.steps table + 1 := by
  unfold Stack.step at stepped
  split at stepped
  · cases stepped
  · cases stepped
    simp [Stack.steps, Frame.steps, Frame.put]
    omega
  · cases stepped
    simp [Stack.steps, Frame.steps, Frame.put, pieceSteps]
    omega
  -- A level that opens brings its steps along; its caller has counted them already.
  · split at stepped
    · rename_i found
      cases stepped
      simp [Stack.steps, steps_opening]
      simp [Frame.steps, pieceSteps, found]
      omega
    · rename_i missing
      cases stepped
      simp [Stack.steps, Frame.steps, Frame.put, pieceSteps, missing]
      omega

def Stack.run (table : Table) (stack : Stack) : Text :=
  match _stepped : stack.step table with
  | .inl text => text
  | .inr next => next.run table
termination_by stack.steps table
decreasing_by
  rw [Stack.steps_of_step _stepped]
  exact Nat.lt_succ_self _

def expand (table : Table) (text : Text) : Text := Stack.run table ⟨.opening [] text, []⟩

end Specfile.Macro
