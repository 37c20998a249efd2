import Specfile.Entry
import Specfile.Proofs.Macro.Concatenation
import Specfile.Proofs.Macro.Cycles
import Specfile.Proofs.Text.Core
import Specfile.Release.Bump

/-! The definitions that an expansion depends on: those of the names that the text reaches. Over two
tables that agree on these names the runs pass through the same stacks, one step after the other,
and so end with the same text. What the other definitions are, and whether there are any, makes no
difference to the expansions in an entry or in a bump. -/

set_option autoImplicit false

namespace Specfile.Macro

variable {table other : Table} {text : Text}

namespace Table

/-- On the names that the text reaches, the two tables have the same values and lack the same
names. -/
def AgreesFrom (table other : Table) (text : Text) : Prop :=
  ∀ name, table.Reaches text name → other.lookup? name = table.lookup? name

theorem Reaches.mem {closed : List Text} {name : Text} (reached : table.Reaches text name)
    (start : references text ⊆ closed)
    (onward : ∀ name ∈ closed, ∀ value ∈ table.lookup? name, references value ⊆ closed) :
    name ∈ closed := by
  induction reached with
  | here referred => exact start referred
  | through _ refers ih =>
    obtain ⟨value, defined, referred⟩ := refers
    exact onward _ ih value defined referred

theorem Reaches.mono {source name : Text} (reached : table.Reaches source name)
    (within : references source ⊆ references text) : table.Reaches text name := by
  induction reached with
  | here referred => exact .here (within referred)
  | through _ refers ih => exact .through ih refers

end Table

theorem references_trim_subset (text : Text) : references text.trim ⊆ references text := by
  have blank : '%' ∉ text.leading := Text.notMem_leading (by decide) text
  have whole : references text =
      references text.leading ++ references (text.trim ++ text.trailing) := by
    rw [← references_append (cutsNoReference_of_notMem blank _),
      Text.leading_append_trim_append_trailing]
  have kept := (references_prefix_append text.trim text.trailing).subset
  rw [whole]
  exact List.Subset.trans kept (List.subset_append_right _ _)

theorem Table.AgreesFrom.trim (agrees : table.AgreesFrom other text) :
    table.AgreesFrom other text.trim :=
  fun name reached => agrees name (reached.mono (references_trim_subset text))

namespace Stack

theorem step_congr {stack : Stack} (agrees : table.AgreesFrom other text)
    (nested : stack.IsNested table text) : stack.step other = stack.step table := by
  obtain ⟨⟨pending, active, done⟩, below⟩ := stack
  cases pending with
  | nil => cases below <;> rfl
  | cons piece pending =>
    cases piece with
    | literal literal => rfl
    | reference name =>
      -- The only name that the step looks up is one that the text reaches.
      obtain ⟨source, reads⟩ := nested.reads _ List.mem_cons_self
      have reached : table.Reaches text name := reads.chain.reaches (.here reads.mem_references)
      have same : other.replacement? active name = table.replacement? active name := by
        rw [Table.replacement?, Table.replacement?, agrees name reached]
      simp only [step, same]

theorem after_congr {stack : Stack} (agrees : table.AgreesFrom other text)
    (nested : stack.IsNested table text) (count : Nat) :
    stack.after other count = stack.after table count := by
  induction count generalizing stack with
  | zero => rfl
  | succ count ih =>
    rw [after, after, step_congr agrees nested]
    cases stepped : stack.step table with
    | inl result => rfl
    | inr next => exact ih (isNested_of_step nested (step_eq_inr_iff.1 stepped))

theorem run_of_after_eq_inl {stack : Stack} {count : Nat} {result : Text}
    (ended : stack.after table count = .inl result) : stack.run table = result := by
  -- Steps go one way only, so where they end is where the run ends.
  fun_induction Stack.run table stack generalizing count with
  | case1 stack text stepped =>
    cases count with
    | zero => cases ended
    | succ count =>
      simp only [after, stepped] at ended
      exact Sum.inl.inj ended
  | case2 stack next stepped ih =>
    cases count with
    | zero => cases ended
    | succ count =>
      simp only [after, stepped] at ended
      exact ih ended

end Stack

theorem expand_of_agreesFrom (agrees : table.AgreesFrom other text) :
    expand other text = expand table text := by
  have nested := Stack.isNested_start table text
  obtain ⟨ends, -⟩ := Stack.after_steps table (Stack.start text)
  exact Stack.run_of_after_eq_inl ((Stack.after_congr agrees nested _).trans ends)

/-- What a table says of names out of reach is read by no step of an expansion. It bears neither on
the version, release and epoch that an entry shows nor on what a value is bumped to. -/
theorem reads_reached_only (table other : Table) :
    (∀ text, table.AgreesFrom other text →
      expand other text = expand table text ∧
        ∀ count, (Stack.start text).after other count = (Stack.start text).after table count) ∧
    (∀ tags : Tags, table.AgreesFrom other tags.version → table.AgreesFrom other tags.release →
      table.AgreesFrom other tags.epoch → Entry.evr other tags = Entry.evr table tags) ∧
    ∀ valuePart : Text, table.AgreesFrom other valuePart →
      Release.bumpValue other valuePart = Release.bumpValue table valuePart := by
  refine ⟨fun text agrees => ⟨expand_of_agreesFrom agrees, ?_⟩, ?_, ?_⟩
  · exact Stack.after_congr agrees (Stack.isNested_start table text)
  · intro tags version release epoch
    simp only [Entry.evr, expand_of_agreesFrom version, expand_of_agreesFrom release,
      expand_of_agreesFrom epoch]
  · intro valuePart agrees
    simp only [Release.bumpValue, Release.bumpCore, expand_of_agreesFrom agrees.trim]

def loopTable : Table :=
  .ofLines ["%global a %\x7bb\x7d".toList, "%global b <%\x7ba\x7d>".toList, "%global c 1".toList,
    "%global d 2".toList]

def loopTableRevised : Table :=
  .ofLines ["%global e %\x7ba\x7d".toList, "%global b <%\x7ba\x7d>".toList, "%global c 3".toList,
    "%define a %\x7bb\x7d".toList]

theorem reads_reached_only_loop :
    let text := " %\x7ba\x7d%\x7bmissing\x7d".toList
    let tags : Tags := { version := text, release := "%\x7bb\x7d".toList }
    expand loopTableRevised text = expand loopTable text ∧
      Entry.evr loopTableRevised tags = Entry.evr loopTable tags ∧
      Release.bumpValue loopTableRevised text = Release.bumpValue loopTable text := by
  intro text tags
  let reached := [['a'], ['b'], "missing".toList]
  have agrees (source : Text) (start : references source ⊆ reached) :
      loopTable.AgreesFrom loopTableRevised source := by
    intro name reaches
    -- The names reached are closed under references, and the tables agree on them.
    have onward :
        ∀ name ∈ reached, ∀ value ∈ loopTable.lookup? name, references value ⊆ reached := by
      decide +kernel
    have same : ∀ name ∈ reached, loopTableRevised.lookup? name = loopTable.lookup? name := by
      decide +kernel
    exact same name (reaches.mem start onward)
  obtain ⟨expansion, evr, bump⟩ := reads_reached_only loopTable loopTableRevised
  have version := agrees text (by decide +kernel)
  exact ⟨(expansion text version).1,
    evr tags version (agrees _ (by decide +kernel)) (agrees _ (by decide +kernel)),
    bump text version⟩

end Specfile.Macro
