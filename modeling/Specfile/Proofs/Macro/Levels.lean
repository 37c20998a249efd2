import Specfile.Proofs.Macro.Frames
import Specfile.Proofs.Macro.Pieces
import Mathlib.Data.List.Infix

/-! The levels of a run. Each level expands the value of one macro more than the level that waits
for it, and no macro is expanded twice in one chain of levels; so there are never more levels than
the table has names, and one for the text itself. The run ends, since each step leaves fewer
steps. -/

set_option autoImplicit false

namespace Specfile.Macro

/-- The names that are being expanded, innermost first, and the text that is read under them: the
text of the run, or the value of the innermost name. -/
inductive Chain (table : Table) (text : Text) : List Text → Text → Prop where
  | outermost : Chain table text [] text
  | inner {active : List Text} {source name value : Text} (outer : Chain table text active source)
      (referred : name ∈ references source)
      (found : table.replacement? active name = some value) :
      Chain table text (name :: active) value

namespace Chain

variable {table : Table} {text source : Text} {active : List Text}
  (chain : Chain table text active source)
include chain

theorem nodup : active.Nodup := by
  induction chain with
  | outermost => exact List.nodup_nil
  | inner _ _ found ih =>
    exact List.nodup_cons.2 ⟨(Table.replacement?_eq_some_iff.1 found).1, ih⟩

theorem subset_names : active ⊆ table.names := by
  induction chain with
  | outermost => exact List.nil_subset _
  | inner _ _ found ih =>
    have known := Table.mem_names_of_lookup? (Table.replacement?_eq_some_iff.1 found).2
    exact List.cons_subset.2 ⟨known, ih⟩

theorem length_le : active.length ≤ table.names.length :=
  chain.nodup.length_le_of_subset chain.subset_names

end Chain

structure Frame.Reads (table : Table) (text : Text) (frame : Frame) (source : Text) : Prop where
  chain : Chain table text frame.active source
  left : frame.pending <:+ pieces source

/-- Invariant of a run: every level reads along a chain, and the chains of the waiting levels are
the ends of the chain of the top one. -/
structure Stack.IsNested (table : Table) (text : Text) (stack : Stack) : Prop where
  actives : (stack.top :: stack.below).map Frame.active = stack.top.active.tails
  reads : ∀ level ∈ stack.top :: stack.below, ∃ source, level.Reads table text source

def Stack.start (text : Text) : Stack := ⟨.opening [] text, []⟩

variable {table : Table} {text : Text}

theorem Frame.reads_opening {active : List Text} {source : Text}
    (chain : Chain table text active source) :
    (Frame.opening active source).Reads table text source :=
  ⟨chain, List.suffix_rfl⟩

theorem Frame.Reads.next {piece : Piece} {pending : List Piece} {active done : List Text}
    {source : Text} (reads : Frame.Reads table text ⟨piece :: pending, active, done⟩ source)
    (more : List Text) : Frame.Reads table text ⟨pending, active, more⟩ source :=
  ⟨reads.chain, (List.suffix_cons piece pending).trans reads.left⟩

theorem Frame.Reads.mem_references {name : Text} {pending : List Piece} {active done : List Text}
    {source : Text}
    (reads : Frame.Reads table text ⟨.reference name :: pending, active, done⟩ source) :
    name ∈ references source :=
  Macro.mem_references.2 (reads.left.subset List.mem_cons_self)

theorem Stack.isNested_start (table : Table) (text : Text) :
    (Stack.start text).IsNested table text where
  actives := rfl
  reads level member := by
    obtain rfl := List.mem_singleton.1 member
    exact ⟨text, Frame.reads_opening .outermost⟩

theorem Frame.Reads.put {frame : Frame} {source : Text} (reads : frame.Reads table text source)
    (produced : Text) : (frame.put produced).Reads table text source :=
  ⟨reads.chain, reads.left⟩

theorem Stack.isNested_of_step {stack next : Stack} (nested : stack.IsNested table text)
    (stepped : stack.Step table next) : next.IsNested table text := by
  obtain ⟨actives, reads⟩ := nested
  cases stepped with
  | close active done caller below =>
    obtain ⟨-, reads⟩ := List.forall_mem_cons.1 reads
    obtain ⟨⟨source, here⟩, waiting⟩ := List.forall_mem_cons.1 reads
    refine ⟨?_, List.forall_mem_cons.2 ⟨⟨source, here.put _⟩, waiting⟩⟩
    -- The chain of the closed level has a name more, which goes with it.
    cases active with
    | nil => simp at actives
    | cons name rest =>
      simp only [List.map_cons, List.tails_cons, List.cons.injEq, true_and] at actives
      have same : caller.active = rest := by
        cases rest <;> simp_all
      rw [List.map_cons]
      exact same ▸ actives
  | literal literal pending active done below =>
    obtain ⟨⟨source, here⟩, waiting⟩ := List.forall_mem_cons.1 reads
    exact ⟨actives, List.forall_mem_cons.2 ⟨⟨source, here.next _⟩, waiting⟩⟩
  | enter pending done below found =>
    obtain ⟨⟨source, here⟩, waiting⟩ := List.forall_mem_cons.1 reads
    have chain := here.chain.inner here.mem_references found
    refine ⟨?_, List.forall_mem_cons.2 ⟨⟨_, Frame.reads_opening chain⟩,
      List.forall_mem_cons.2 ⟨⟨source, here.next _⟩, waiting⟩⟩⟩
    rw [List.map_cons, Frame.opening, List.tails_cons]
    exact congrArg _ actives
  | keep pending done below kept =>
    obtain ⟨⟨source, here⟩, waiting⟩ := List.forall_mem_cons.1 reads
    exact ⟨actives, List.forall_mem_cons.2 ⟨⟨source, here.next _⟩, waiting⟩⟩

def Stack.levels (stack : Stack) : List Frame := (stack.top :: stack.below).reverse

namespace Stack.IsNested

variable {stack : Stack} (nested : stack.IsNested table text)
include nested

theorem length_levels : stack.levels.length = stack.top.active.length + 1 := by
  have count := congrArg List.length nested.actives
  rw [List.length_map, List.length_tails] at count
  rw [levels, List.length_reverse, count]

/-- Seen from outside, a level has as many names of the chain as there are levels around it. -/
theorem active_of_levels {depth : Nat} {level : Frame} (here : stack.levels[depth]? = some level) :
    level.active = stack.top.active.drop (stack.top.active.length - depth) := by
  obtain ⟨bound, -⟩ := List.getElem?_eq_some_iff.1 here
  rw [nested.length_levels] at bound
  have whole : stack.levels.map Frame.active = stack.top.active.tails.reverse := by
    rw [levels, List.map_reverse, nested.actives]
  have named : (stack.levels.map Frame.active)[depth]? = some level.active := by
    rw [List.getElem?_map, here, Option.map_some]
  rw [whole, List.getElem?_reverse (by rw [List.length_tails]; exact bound), List.length_tails,
    List.getElem?_eq_getElem (by rw [List.length_tails]; omega), List.getElem_tails] at named
  exact (Option.some.inj named).symm

theorem level {depth : Nat} {level : Frame} (here : stack.levels[depth]? = some level) :
    level.active.Nodup ∧ level.active.length = depth ∧ level.active ⊆ table.names ∧
      ∀ inner, stack.levels[depth + 1]? = some inner →
        ∃ name, name ∉ level.active ∧ inner.active = name :: level.active := by
  have chained {depth : Nat} {level : Frame} (here : stack.levels[depth]? = some level) :
      ∃ source, Chain table text level.active source := by
    obtain ⟨source, reads⟩ := nested.reads level (List.mem_reverse.1 (List.mem_of_getElem? here))
    exact ⟨source, reads.chain⟩
  -- Its names are an end of those of the top level, one for each level around it.
  have active := nested.active_of_levels here
  obtain ⟨bound, -⟩ := List.getElem?_eq_some_iff.1 here
  rw [nested.length_levels] at bound
  obtain ⟨source, chain⟩ := chained here
  refine ⟨chain.nodup, ?_, chain.subset_names, fun inner within => ?_⟩
  · rw [active, List.length_drop]
    omega
  · obtain ⟨lower, -⟩ := List.getElem?_eq_some_iff.1 within
    rw [nested.length_levels] at lower
    have next : stack.top.active.length - (depth + 1) + 1 = stack.top.active.length - depth := by
      omega
    have longer := nested.active_of_levels within
    rw [List.drop_eq_getElem_cons (by omega), next, ← active] at longer
    obtain ⟨_, innerChain⟩ := chained within
    have fresh := innerChain.nodup
    rw [longer] at fresh
    exact ⟨_, (List.nodup_cons.1 fresh).1, longer⟩

end Stack.IsNested

/-- Where so many steps lead, unless the run ends before. -/
def Stack.after (table : Table) : (count : Nat) → Stack → Text ⊕ Stack
  | 0, stack => .inr stack
  | count + 1, stack =>
    match stack.step table with
    | .inl text => .inl text
    | .inr next => next.after table count

theorem Stack.invariant_of_after {Holds : Stack → Prop}
    (kept : ∀ stack next, Holds stack → stack.Step table next → Holds next)
    {count : Nat} {stack next : Stack} (first : Holds stack)
    (reached : stack.after table count = .inr next) : Holds next := by
  induction count generalizing stack with
  | zero =>
    cases reached
    exact first
  | succ count ih =>
    rw [after] at reached
    split at reached
    · cases reached
    · rename_i middle stepped
      exact ih (kept stack middle first (step_eq_inr_iff.1 stepped)) reached

theorem Stack.steps_of_step_eq_inl {stack : Stack} {result : Text}
    (stepped : stack.step table = .inl result) : stack.steps table = 1 := by
  unfold step at stepped
  split at stepped
  · rfl
  · cases stepped
  · cases stepped
  · split at stepped <;> cases stepped

/-- The steps that are counted as left are the ones that the run takes. -/
theorem Stack.after_steps (table : Table) (stack : Stack) :
    stack.after table (stack.steps table) = .inl (stack.run table) ∧
      ∀ count < stack.steps table, ∃ next, stack.after table count = .inr next := by
  -- The count goes down with the run, one for each step.
  fun_induction Stack.run table stack with
  | case1 stack result stepped =>
    rw [steps_of_step_eq_inl stepped]
    refine ⟨by simp only [after, stepped], fun count fewer => ?_⟩
    obtain rfl := Nat.lt_one_iff.1 fewer
    exact ⟨stack, rfl⟩
  | case2 stack next stepped ih =>
    rw [steps_of_step stepped]
    refine ⟨by simp only [after, stepped, ih.1], fun count fewer => ?_⟩
    cases count with
    | zero => exact ⟨stack, rfl⟩
    | succ count =>
      simp only [after, stepped]
      exact ih.2 count (Nat.lt_of_succ_lt_succ fewer)

theorem Stack.isNested_of_after {count : Nat} {stack : Stack}
    (reached : (Stack.start text).after table count = .inr stack) : stack.IsNested table text :=
  invariant_of_after (fun _ _ => isNested_of_step) (isNested_start table text) reached

/-- Whatever the table and the text, the run ends after some number of steps. Until then the level
at each depth expands as many names of the table as levels are around it, and the level within it
one name more, so there is at most one level more than the table has names. -/
theorem expand_ends (table : Table) (text : Text) :
    ∃ count, (Stack.start text).after table count = .inl (expand table text) ∧
      ∀ fewer < count, ∃ stack, (Stack.start text).after table fewer = .inr stack ∧
        stack.levels.length ≤ table.names.length + 1 ∧
        ∀ depth level, stack.levels[depth]? = some level →
          level.active.Nodup ∧ level.active.length = depth ∧ level.active ⊆ table.names ∧
          ∀ inner, stack.levels[depth + 1]? = some inner →
            ∃ name, name ∉ level.active ∧ inner.active = name :: level.active := by
  obtain ⟨ends, passes⟩ := Stack.after_steps table (Stack.start text)
  refine ⟨_, ends, fun fewer before => ?_⟩
  obtain ⟨stack, reached⟩ := passes fewer before
  have nested := Stack.isNested_of_after reached
  obtain ⟨source, top⟩ := nested.reads stack.top List.mem_cons_self
  refine ⟨stack, reached, ?_, fun depth level here => nested.level here⟩
  rw [nested.length_levels]
  exact Nat.succ_le_succ top.chain.length_le

-- Two macros that refer to each other: the two of them and the text are read at once.
example :
    let table : Table := .ofLines ["%global a %\x7bb\x7d".toList, "%global b %\x7ba\x7d".toList]
    let stack := ((Stack.start "%\x7ba\x7d".toList).after table 4).getRight?
    stack.map (·.levels.map Frame.active) = some [[], [['a']], [['b'], ['a']]] := by
  decide +kernel

end Specfile.Macro
