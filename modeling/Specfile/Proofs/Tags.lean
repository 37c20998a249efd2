import Specfile.Tags

/-! Which line gives a tag its value: the last one that starts with the tag and a colon. -/

set_option autoImplicit false

namespace Specfile.Tags

def last? (tag : Text) (lines : List Text) : Option Text :=
  (lines.filterMap (valueOn? tag)).getLast?

theorem lastValue_eq (tag : Text) (lines : List Text) :
    lastValue tag lines = (last? tag lines).getD [] := rfl

theorem valueOn?_append (tag rest : Text) : valueOn? tag (tag ++ ':' :: rest) = some rest.trim := by
  have found : Text.after? (tag ++ [':']) (tag ++ ':' :: rest) = some rest :=
    Text.after?_eq_some_iff.2 (by simp)
  rw [valueOn?, found, Option.map_some]

theorem valueOn?_eq_none_iff {tag line : Text} :
    valueOn? tag line = none ↔ ¬ tag ++ [':'] <+: line := by
  rw [valueOn?, Option.map_eq_none_iff, Option.eq_none_iff_forall_ne_some]
  simp only [ne_eq, Text.after?_eq_some_iff]
  constructor
  · rintro absent ⟨rest, whole⟩
    exact absent rest whole.symm
  · rintro other rest whole
    exact other ⟨rest, whole.symm⟩

theorem last?_append (tag : Text) (above below : List Text) :
    last? tag (above ++ below) = (last? tag below).or (last? tag above) := by
  simp [last?]

theorem last?_cons (tag line : Text) (below : List Text) :
    last? tag (line :: below) = (last? tag below).or (valueOn? tag line) := by
  rw [← List.singleton_append, last?_append]
  congr 1
  cases here : valueOn? tag line <;> simp [last?, here]

theorem last?_eq_none_iff {tag : Text} {lines : List Text} :
    last? tag lines = none ↔ ∀ line ∈ lines, ¬ tag ++ [':'] <+: line := by
  simp [last?, valueOn?_eq_none_iff]

structure IsLastAt (tag : Text) (lines : List Text) (index : Nat) : Prop where
  here : ∃ line ∈ lines[index]?, tag ++ [':'] <+: line
  below : ∀ line ∈ lines.drop (index + 1), ¬ tag ++ [':'] <+: line

end Specfile.Tags
