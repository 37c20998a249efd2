import Specfile.Proofs.Macro.Percent
import Specfile.Proofs.Text.Core

/-! Values of macros. Of several definitions of a name the last one gives the value, which has no
characters but those of its line. An expansion is made of characters of the text and of values, so
it has no others than the text and the lines. -/

set_option autoImplicit false

namespace Specfile.Macro

namespace Definition

theorem subset_of_valueAfterName? {text value : Text} (found : valueAfterName? text = some value) :
    value ⊆ text := by
  unfold valueAfterName? at found
  split at found
  · cases found
  · rename_i first rest
    split at found
    · split at found
      · -- Blanks alone: the value is empty.
        split at found <;> cases found
        exact List.nil_subset _
      · cases found
        intro c member
        have body := (List.takeWhile_sublist _).subset (Text.mem_of_mem_trim member)
        exact List.mem_cons_of_mem first ((List.dropWhile_sublist _).subset body)
    · cases found

theorem subset_of_first? {text : Text} {definition : Definition}
    (found : first? text = some definition) : definition.value ⊆ text := by
  obtain ⟨above, start, rfl, there⟩ := exists_of_first? found
  obtain ⟨named, behind, -, read⟩ := exists_of_startingAt? there
  have within :=
    (List.dropWhile_suffix isWordChar).trans (behind.trans (List.suffix_append above start))
  exact fun c member => within.subset (subset_of_valueAfterName? read member)

end Definition

namespace Table

theorem lookup?_foldl_define (definitions : List Definition) (table : Table) (name : Text) :
    (definitions.foldl define table).lookup? name =
      ((definitions.filter (·.name = name)).getLast?.map Definition.value).or
        (table.lookup? name) := by
  induction definitions generalizing table with
  | nil => simp
  | cons first definitions ih =>
    rw [List.foldl_cons, ih, lookup?_define]
    by_cases same : first.name = name
    · rw [List.filter_cons_of_pos (by simpa using same), List.getLast?_cons, if_pos same.symm]
      cases (definitions.filter (·.name = name)).getLast? <;> rfl
    · rw [List.filter_cons_of_neg (by simpa using same), if_neg (Ne.symm same)]

theorem lookup?_ofLines (lines : List Text) (name : Text) :
    (ofLines lines).lookup? name =
      ((lines.filterMap Definition.first?).filter (·.name = name)).getLast?.map
        Definition.value := by
  rw [ofLines, ofDefinitions, lookup?_foldl_define, lookup?_empty, Option.or_none]

theorem subset_of_lookup? {lines : List Text} {name value : Text}
    (found : (ofLines lines).lookup? name = some value) : ∃ line ∈ lines, value ⊆ line := by
  rw [lookup?_ofLines, Option.map_eq_some_iff] at found
  obtain ⟨definition, last, rfl⟩ := found
  obtain ⟨line, member, read⟩ :=
    List.mem_filterMap.1 (List.mem_filter.1 (List.mem_of_getLast? last)).1
  exact ⟨line, member, Definition.subset_of_first? read⟩

end Table

theorem mem_of_mem_expandUnder {table : Table} {active : List Text} {text : Text} {c : Char}
    (member : c ∈ expandUnder table active text) :
    c ∈ text ∨ ∃ name value, table.lookup? name = some value ∧ c ∈ value := by
  induction active, text using expandUnder.induct table with
  | case1 active text ih =>
    rw [expandUnder_eq_flatMap, List.mem_flatMap] at member
    obtain ⟨piece, inText, member⟩ := member
    have kept (here : c ∈ piece.text) : c ∈ text := by
      rw [← written_pieces text]
      exact List.mem_flatMap.2 ⟨piece, inText, here⟩
    -- A character comes from the text itself unless its piece is replaced.
    cases piece with
    | literal text => exact .inl (kept member)
    | reference name =>
      simp only [Piece.expandUnder] at member
      cases found : table.replacement? active name with
      | some value =>
        rw [found] at member
        obtain ⟨-, defined⟩ := Table.replacement?_eq_some_iff.1 found
        exact .inr ((ih name value found member).elim (fun here => ⟨name, value, defined, here⟩) id)
      | none =>
        rw [found] at member
        exact .inl (kept member)

theorem mem_of_mem_expand {lines : List Text} {text : Text} {c : Char}
    (member : c ∈ expand (.ofLines lines) text) : c ∈ text ∨ ∃ line ∈ lines, c ∈ line := by
  rw [expand_eq_expandUnder] at member
  refine (mem_of_mem_expandUnder member).imp_right ?_
  rintro ⟨name, value, found, here⟩
  obtain ⟨line, inLines, part⟩ := Table.subset_of_lookup? found
  exact ⟨line, inLines, part here⟩

end Specfile.Macro
