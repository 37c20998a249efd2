import Specfile.Proofs.Macro.Cycles
import Specfile.Proofs.Macro.Values

/-! Texts that expand to nothing. They are made of references alone, to macros whose values vanish
in turn; so they lead to no cycle, and unless they are empty themselves some macro that they lead
to has an empty value. -/

set_option autoImplicit false

namespace Specfile.Macro

/-- The text is made of references to macros whose values vanish. -/
inductive Table.Vanishes (table : Table) : Text → Prop where
  | nil : Vanishes table []
  | reference {name value rest : Text} (named : IsName name)
      (defined : table.lookup? name = some value) (inner : Vanishes table value)
      (more : Vanishes table rest) : Vanishes table (referenceText name ++ rest)

variable {table : Table} {text : Text}

theorem vanishes_written {parts : List Piece}
    (literals : ∀ literal, .literal literal ∈ parts → literal = [])
    (references : ∀ name, .reference name ∈ parts →
      IsName name ∧ ∃ value, table.lookup? name = some value ∧ table.Vanishes value) :
    table.Vanishes (written parts) := by
  -- Empty literals write nothing, so the references are the whole text.
  induction parts with
  | nil => exact .nil
  | cons part parts ih =>
    have rest := ih (fun literal member => literals literal (List.mem_cons_of_mem _ member))
      fun name member => references name (List.mem_cons_of_mem _ member)
    cases part with
    | literal literal =>
      cases literals literal List.mem_cons_self
      exact rest
    | reference name =>
      obtain ⟨named, value, defined, inner⟩ := references name List.mem_cons_self
      exact .reference named defined inner rest

theorem vanishes_of_expandUnder {active : List Text} (empty : expandUnder table active text = []) :
    table.Vanishes text := by
  induction active, text using expandUnder.induct table with
  | case1 active text ih =>
    rw [expandUnder_eq_flatMap, List.flatMap_eq_nil_iff] at empty
    rw [← written_pieces text]
    refine vanishes_written (fun literal member => empty _ member) fun name member => ?_
    have gone := empty _ member
    simp only [Piece.expandUnder] at gone
    cases found : table.replacement? active name with
    | some value =>
      rw [found] at gone
      exact ⟨isName_of_mem_references (mem_references.2 member), value,
        (Table.replacement?_eq_some_iff.1 found).2, ih name value found gone⟩
    | none =>
      -- A reference that stands as written is not empty.
      rw [found] at gone
      simp [referenceText] at gone

theorem Table.not_isOnCycle_of_acc {name : Text}
    (ends : Acc (fun other name => table.Refers name other) name) : ¬ table.IsOnCycle name := by
  -- Along a cycle one could go on for ever.
  induction ends with
  | intro name _ ih =>
    intro cycle
    obtain ⟨next, refers, back⟩ := Relation.TransGen.head'_iff.1 cycle
    exact ih next refers (.tail' back refers)

namespace Table.Vanishes

variable (vanishes : table.Vanishes text)
include vanishes

theorem acc_of_mem_references {name : Text} (member : name ∈ references text) :
    Acc (fun other name => table.Refers name other) name := by
  induction vanishes generalizing name with
  | nil => simp [references, pieces] at member
  | @reference first value rest named defined inner more ihInner ihMore =>
    rw [references_eq_filterMap, pieces_referenceText_append named] at member
    rcases List.mem_cons.1 member with rfl | member
    · constructor
      rintro other ⟨found, same, referred⟩
      cases defined.symm.trans same
      exact ihInner referred
    · exact ihMore member

theorem acyclic (name : Text) (reached : table.Reaches text name) : ¬ table.IsOnCycle name := by
  apply not_isOnCycle_of_acc
  induction reached with
  | here referred => exact vanishes.acc_of_mem_references referred
  | through _ refers ih => exact ih.inv refers

theorem expand_eq_nil : expand table text = [] := by
  induction vanishes with
  | nil => simp [expand_eq_flatMap, pieces, Piece.expandUnder]
  | reference named defined inner more ihInner ihMore =>
    have whole := Vanishes.reference named defined inner more
    rw [expand_eq_flatMap_alone whole.acyclic, pieces_referenceText_append named,
      List.flatMap_cons, List.flatMap_cons, ← expand_eq_flatMap_alone more.acyclic, ihMore]
    simp [Piece.expandAlone, defined, ihInner]

theorem eq_nil_or_exists : text = [] ∨ ∃ name, table.lookup? name = some [] := by
  induction vanishes with
  | nil => exact .inl rfl
  | reference named defined inner more ihInner ihMore =>
    rcases ihInner with rfl | blank
    · exact .inr ⟨_, defined⟩
    · exact .inr blank

end Table.Vanishes

theorem expand_eq_nil_iff : expand table text = [] ↔ table.Vanishes text := by
  constructor
  · intro empty
    rw [expand_eq_expandUnder] at empty
    exact vanishes_of_expandUnder empty
  · exact Table.Vanishes.expand_eq_nil

end Specfile.Macro
