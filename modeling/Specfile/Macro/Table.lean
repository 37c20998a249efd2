import Specfile.Macro.Definition

/-! Macro tables: definitions with distinct names, in the order of their first
definition. Defining a name again replaces its value. -/

set_option autoImplicit false

namespace Specfile.Macro

structure Table where
  definitions : List Definition
  distinct : (definitions.map Definition.name).Nodup

namespace Table

def names (table : Table) : List Text := table.definitions.map Definition.name

def empty : Table := ⟨[], List.nodup_nil⟩

def lookup? (table : Table) (name : Text) : Option Text :=
  (table.definitions.find? (·.name = name)).map Definition.value

theorem names_map_replace (definitions : List Definition) (new : Definition) :
    (definitions.map fun old => if old.name = new.name then new else old).map Definition.name
      = definitions.map Definition.name := by
  rw [List.map_map]
  apply List.map_congr_left
  intro old _
  by_cases same : old.name = new.name <;> simp [same]

def define (table : Table) (new : Definition) : Table :=
  if known : new.name ∈ table.names then
    { definitions := table.definitions.map fun old => if old.name = new.name then new else old
      distinct := (names_map_replace _ new).symm ▸ table.distinct }
  else
    { definitions := table.definitions ++ [new]
      distinct := by
        rw [List.map_append, List.nodup_append]
        refine ⟨table.distinct, by simp, ?_⟩
        intro name member other last same
        simp only [List.map_cons, List.map_nil, List.mem_singleton] at last
        exact known (last ▸ same ▸ member) }

def ofDefinitions (definitions : List Definition) : Table := definitions.foldl define empty

/-- Reads the lines from first to last, one definition at most from each. -/
def ofLines (lines : List Text) : Table :=
  ofDefinitions (lines.filterMap Definition.first?)

@[simp] theorem lookup?_empty (name : Text) : empty.lookup? name = none := rfl

theorem find?_map_replace (definitions : List Definition) (new : Definition) (name : Text) :
    (definitions.map fun old => if old.name = new.name then new else old).find? (·.name = name)
      = (definitions.find? (·.name = name)).map
          fun old => if old.name = new.name then new else old := by
  rw [List.find?_map]
  congr 2
  funext old
  by_cases same : old.name = new.name <;> simp [same]

theorem lookup?_eq_none_iff {table : Table} {name : Text} :
    table.lookup? name = none ↔ name ∉ table.names := by
  simp [lookup?, names]

theorem lookup?_define (table : Table) (new : Definition) (name : Text) :
    (table.define new).lookup? name =
      if name = new.name then some new.value else table.lookup? name := by
  unfold define
  split
  · -- A name is found in the place where it was, whatever its value has become.
    rename_i known
    simp only [lookup?, find?_map_replace, Option.map_map]
    cases found : table.definitions.find? (·.name = name) with
    | none =>
      have other : name ≠ new.name := by
        rintro rfl
        exact lookup?_eq_none_iff.1 (Option.map_eq_none_iff.2 found) known
      simp [other]
    | some old =>
      have matched : old.name = name := by simpa using List.find?_some found
      by_cases same : name = new.name <;> simp [matched, same]
  · rename_i unknown
    simp only [lookup?, List.find?_append]
    by_cases same : name = new.name
    · have absent : table.definitions.find? (·.name = new.name) = none :=
        Option.map_eq_none_iff.1 (lookup?_eq_none_iff.2 unknown)
      simp [same, absent]
    · cases table.definitions.find? (·.name = name) <;> simp [same, Ne.symm same]

theorem mem_names_of_lookup? {table : Table} {name value : Text}
    (found : table.lookup? name = some value) : name ∈ table.names := by
  obtain ⟨definition, member, rfl⟩ := Option.map_eq_some_iff.1 found
  exact List.mem_map.2 ⟨definition, List.mem_of_find?_eq_some member,
    by simpa using List.find?_some member⟩

end Table

end Specfile.Macro
