import Specfile.Proofs.Macro.Idempotence
import Specfile.Proofs.Macro.Levels

/-! What the guard against cycles leaves standing. A name that is being expanded already is on a
cycle, so the guard keeps no other references. Where a text leads to no cycle the guard never acts:
a reference stands for the expansion of its macro's value on its own, wherever it is found. -/

set_option autoImplicit false

namespace Specfile.Macro

namespace Table

def IsOnCycle (table : Table) (name : Text) : Prop := Relation.TransGen table.Refers name name

/-- The names that a text refers to, and those that the values of reached names refer to. -/
inductive Reaches (table : Table) (text : Text) : Text → Prop where
  | here {name : Text} (referred : name ∈ references text) : Reaches table text name
  | through {name other : Text} (reached : Reaches table text name)
      (refers : table.Refers name other) : Reaches table text other

variable {table : Table} {text name value other : Text}

theorem transGen_of_reaches (defined : table.lookup? name = some value)
    (reached : table.Reaches value other) : Relation.TransGen table.Refers name other := by
  induction reached with
  | here referred => exact .single ⟨value, defined, referred⟩
  | through _ refers ih => exact ih.tail refers

theorem Reaches.trans_value (reached : table.Reaches text name)
    (defined : table.lookup? name = some value) (further : table.Reaches value other) :
    table.Reaches text other := by
  induction further with
  | here referred => exact .through reached ⟨value, defined, referred⟩
  | through _ refers ih => exact ih.through refers

end Table

variable {table : Table} {text : Text}

namespace Chain

variable {active : List Text} {source name : Text} (chain : Chain table text active source)
include chain

theorem reaches (reached : table.Reaches source name) : table.Reaches text name := by
  induction chain with
  | outermost => exact reached
  | inner _ referred found ih =>
    have defined := (Table.replacement?_eq_some_iff.1 found).2
    exact ih (.trans_value (.here referred) defined reached)

theorem leads {above : Text} (member : above ∈ active) (reached : table.Reaches source name) :
    Relation.TransGen table.Refers above name := by
  induction chain with
  | outermost => cases member
  | inner _ referred found ih =>
    have defined := (Table.replacement?_eq_some_iff.1 found).2
    rcases List.mem_cons.1 member with rfl | member
    · exact Table.transGen_of_reaches defined reached
    · exact ih member (.trans_value (.here referred) defined reached)

end Chain

/-- The next step writes a reference out as it stands. -/
def Stack.Keeps (table : Table) (stack : Stack) (name : Text) : Prop :=
  ∃ pending active done below, stack = ⟨⟨.reference name :: pending, active, done⟩, below⟩ ∧
    stack.step table = .inr ⟨Frame.put ⟨pending, active, done⟩ (referenceText name), below⟩

theorem Stack.IsNested.isOnCycle_of_keeps {stack : Stack} {name : Text}
    (nested : stack.IsNested table text) (keeps : stack.Keeps table name)
    (known : name ∈ table.names) : table.IsOnCycle name := by
  obtain ⟨pending, active, done, below, rfl, kept⟩ := keeps
  obtain ⟨source, reads⟩ := nested.reads _ List.mem_cons_self
  have blocked : table.replacement? active name = none := by
    cases found : table.replacement? active name with
    | none => rfl
    | some value => simp [step, found] at kept
  rcases Table.replacement?_eq_none_iff.1 blocked with expanding | unknown
  · exact reads.chain.leads expanding (.here reads.mem_references)
  · exact absurd known (Table.lookup?_eq_none_iff.1 unknown)

/-- Names that are out of reach may be among the ones being expanded or not. -/
theorem expandUnder_congr {active other : List Text} {source : Text}
    (acyclic : ∀ name, table.Reaches source name → ¬ table.IsOnCycle name)
    (fresh : ∀ name, table.Reaches source name → name ∉ active ∧ name ∉ other) :
    expandUnder table active source = expandUnder table other source := by
  induction active, source using expandUnder.induct table generalizing other with
  | case1 active source ih =>
    rw [expandUnder_eq_flatMap, expandUnder_eq_flatMap]
    apply List.flatMap_congr
    intro piece member
    cases piece with
    | literal text => rfl
    | reference name =>
      have reached : table.Reaches source name := .here (mem_references.2 member)
      obtain ⟨inactive, apart⟩ := fresh name reached
      have same : table.replacement? other name = table.replacement? active name := by
        simp [Table.replacement?, inactive, apart]
      simp only [Piece.expandUnder, same]
      cases found : table.replacement? active name with
      | none => rfl
      | some value =>
        have defined := (Table.replacement?_eq_some_iff.1 found).2
        have onward (further : Text) (reachedOn : table.Reaches value further) :
            table.Reaches source further := reached.trans_value defined reachedOn
        refine ih name value found (fun further on => acyclic further (onward further on))
          fun further on => ?_
        obtain ⟨inactive, apart⟩ := fresh further (onward further on)
        -- The name itself is not reached again, or it would be on a cycle.
        have new : further ≠ name := by
          rintro rfl
          exact acyclic further reached (Table.transGen_of_reaches defined on)
        simp [new, inactive, apart]

theorem Chain.expandUnder_eq {active : List Text} {source : Text}
    (chain : Chain table text active source)
    (acyclic : ∀ name, table.Reaches text name → ¬ table.IsOnCycle name) :
    expandUnder table active source = expand table source := by
  rw [expand_eq_expandUnder]
  refine expandUnder_congr (fun name reached => acyclic name (chain.reaches reached))
    fun name reached => ⟨fun expanding => ?_, List.not_mem_nil⟩
  exact acyclic name (chain.reaches reached) (chain.leads expanding reached)

def Piece.expandAlone (table : Table) : Piece → Text
  | .literal text => text
  | .reference name =>
    match table.lookup? name with
    | some value => expand table value
    | none => referenceText name

theorem expand_eq_flatMap_alone
    (acyclic : ∀ name, table.Reaches text name → ¬ table.IsOnCycle name) :
    expand table text = (pieces text).flatMap (Piece.expandAlone table) := by
  rw [expand_eq_flatMap]
  apply List.flatMap_congr
  intro piece member
  cases piece with
  | literal text => rfl
  | reference name =>
    -- At the outermost level no name is in use, so every defined one is replaced.
    have bare : table.replacement? [] name = table.lookup? name := rfl
    simp only [Piece.expandUnder, Piece.expandAlone, bare]
    cases defined : table.lookup? name with
    | none => rfl
    | some value =>
      have chain := Chain.outermost.inner (mem_references.2 member) (bare.trans defined)
      exact chain.expandUnder_eq acyclic

def Frame.Expands (table : Table) (text : Text) (frame : Frame) : Prop :=
  ∃ source, Chain table text frame.active source ∧
    frame.meaning table = expandUnder table frame.active source

/-- The top level stands for the expansion of its text, and each of the others does once the level
above it has handed down its own. -/
def Frame.AllExpand (table : Table) (text : Text) (frame : Frame) : List Frame → Prop
  | [] => frame.Expands table text
  | caller :: below =>
    frame.Expands table text ∧ (caller.put (frame.meaning table)).AllExpand table text below

theorem Frame.AllExpand.top {frame : Frame} {below : List Frame}
    (all : frame.AllExpand table text below) : frame.Expands table text := by
  cases below with
  | nil => exact all
  | cons => exact all.1

theorem Frame.AllExpand.congr {frame other : Frame} {below : List Frame}
    (all : frame.AllExpand table text below) (active : other.active = frame.active)
    (meaning : other.meaning table = frame.meaning table) : other.AllExpand table text below := by
  cases below with
  | nil => simpa only [AllExpand, Expands, active, meaning] using all
  | cons => simpa only [AllExpand, Expands, active, meaning] using all

theorem Stack.allExpand_of_step {stack next : Stack} (nested : stack.IsNested table text)
    (all : stack.top.AllExpand table text stack.below) (stepped : stack.Step table next) :
    next.top.AllExpand table text next.below := by
  cases stepped with
  | close active done caller below =>
    -- The text that the caller waited for is there, and this is what was said of it.
    have output : Frame.meaning table ⟨[], active, done⟩ = Frame.output ⟨[], active, done⟩ :=
      List.append_nil _
    exact output ▸ all.2
  | literal literal pending active done below =>
    exact all.congr rfl (Frame.meaning_cons table (.literal literal) pending active done).symm
  | enter pending done below found =>
    obtain ⟨source, reads⟩ := nested.reads _ List.mem_cons_self
    have chain := reads.chain.inner reads.mem_references found
    refine ⟨⟨_, chain, Frame.meaning_opening table _ _⟩, all.congr rfl ?_⟩
    rw [Frame.meaning_opening, Frame.meaning_cons]
    simp only [Piece.expandUnder, found]
  | keep pending done below kept =>
    refine all.congr rfl ?_
    rw [Frame.meaning_cons]
    simp only [Piece.expandUnder, kept]

theorem Stack.expands_of_after {count : Nat} {stack : Stack}
    (reached : (Stack.start text).after table count = .inr stack) :
    stack.top.Expands table text := by
  have start : (Stack.start text).top.AllExpand table text (Stack.start text).below :=
    ⟨text, .outermost, Frame.meaning_opening table [] text⟩
  have both := invariant_of_after
    (fun stack next (holds : stack.IsNested table text ∧
        stack.top.AllExpand table text stack.below) stepped =>
      ⟨isNested_of_step holds.1 stepped, allExpand_of_step holds.1 holds.2 stepped⟩)
    ⟨isNested_start table text, start⟩ reached
  exact both.2.top

/-- A name that the guard leaves standing although the table has it is on a cycle. So where a text
leads to no cycle its pieces can be expanded one by one, each without regard to its context, and
every level of the run gives what its macro's value gives on its own. -/
theorem expand_guarded (table : Table) (text : Text) :
    (∀ count stack name, (Stack.start text).after table count = .inr stack →
      stack.Keeps table name → name ∈ table.names → table.IsOnCycle name) ∧
    ((∀ name, table.Reaches text name → ¬ table.IsOnCycle name) →
      expand table text = (pieces text).flatMap (Piece.expandAlone table) ∧
      ∀ count stack name outer, (Stack.start text).after table count = .inr stack →
        stack.top.pending = [] → stack.top.active = name :: outer →
        ∃ value, table.lookup? name = some value ∧ stack.top.output = expand table value) := by
  refine ⟨fun count stack name reached => (Stack.isNested_of_after reached).isOnCycle_of_keeps,
    fun acyclic => ⟨expand_eq_flatMap_alone acyclic, ?_⟩⟩
  intro count stack name outer reached read expanding
  obtain ⟨value, chain, whole⟩ := Stack.expands_of_after reached
  have output : stack.top.output = expand table value := by
    rw [← chain.expandUnder_eq acyclic, ← whole, Frame.meaning, read]
    exact (List.append_nil _).symm
  rw [expanding] at chain
  cases chain with
  | inner _ _ found => exact ⟨value, (Table.replacement?_eq_some_iff.1 found).2, output⟩

def diamondTable : Table :=
  .ofLines ["%global a %\x7bb\x7d%\x7bc\x7d".toList, "%global b <%\x7bd\x7d>".toList,
    "%global c (%\x7bd\x7d)".toList, "%global d x".toList]

theorem expand_guarded_diamond :
    let text := "%\x7ba\x7d-%\x7bd\x7d".toList
    (∀ name, ¬ diamondTable.IsOnCycle name) ∧
      expand diamondTable text = (pieces text).flatMap (Piece.expandAlone diamondTable) ∧
      expand diamondTable text = "<x>(x)-x".toList := by
  intro text
  have acyclic : diamondTable.IsAcyclic :=
    Table.isAcyclic_of_rank (fun name => if name = ['a'] then 2 else if name = ['d'] then 0 else 1)
      (by decide +kernel)
  obtain ⟨-, apart⟩ := expand_guarded diamondTable text
  exact ⟨acyclic, (apart fun name _ => acyclic name).1, by decide +kernel⟩

end Specfile.Macro
