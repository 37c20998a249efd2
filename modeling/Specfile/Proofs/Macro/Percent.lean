import Specfile.Proofs.Macro.Frames
import Mathlib.Data.List.TakeWhile
import Mathlib.Data.Option.Basic

/-! Where a percent sign stands. Every reference and every definition begins with one, so a
text without the sign is its own expansion and defines nothing. Names in a table of
definitions are made of word characters; hence the sign survives in the expansion of a text
that holds a definition. -/

set_option autoImplicit false

namespace Specfile.Macro

theorem reference?_cons_of_ne {c : Char} (other : '%' ≠ c) (rest : Text) :
    reference? (c :: rest) = none := by
  unfold reference?
  split
  · rename_i same
    exact absurd (List.cons.inj same).1.symm other
  · rfl

theorem pieces_of_notMem {text : Text} (plain : '%' ∉ text) : pieces text = [.literal text] := by
  induction text with
  | nil => simp [pieces]
  | cons c rest ih =>
    simp only [List.mem_cons, not_or] at plain
    obtain ⟨other, plain⟩ := plain
    rw [pieces]
    split
    · rename_i name after found
      rw [reference?_cons_of_ne other] at found
      cases found
    · rw [ih plain, prepend]

theorem expand_of_notMem {text : Text} (plain : '%' ∉ text) (table : Table) :
    expand table text = text := by
  simp [expand_eq_flatMap, pieces_of_notMem plain, Piece.expandUnder]

theorem afterKeyword?_cons_of_ne {c : Char} (other : '%' ≠ c) (rest : Text) :
    afterKeyword? (c :: rest) = none := by
  simp [afterKeyword?, Text.after?, other]

theorem Definition.startingAt?_cons_of_ne {c : Char} (other : '%' ≠ c) (rest : Text) :
    startingAt? (c :: rest) = none := by
  simp [startingAt?, afterKeyword?_cons_of_ne other]

theorem Definition.first?_cons_of_some {c : Char} {text : Text} {definition : Definition}
    (here : startingAt? (c :: text) = some definition) : first? (c :: text) = some definition := by
  simp [first?, here]

theorem Definition.first?_cons_of_none {c : Char} {text : Text}
    (missing : startingAt? (c :: text) = none) : first? (c :: text) = first? text := by
  simp [first?, missing]

theorem Definition.first?_append {front : Text} (plain : '%' ∉ front) (rest : Text) :
    first? (front ++ rest) = first? rest := by
  induction front with
  | nil => rfl
  | cons c front ih =>
    simp only [List.mem_cons, not_or] at plain
    obtain ⟨other, plain⟩ := plain
    rw [List.cons_append, first?_cons_of_none (startingAt?_cons_of_ne other _), ih plain]

theorem Definition.exists_of_first? {text : Text} {definition : Definition}
    (found : first? text = some definition) :
    ∃ above start, text = above ++ start ∧ startingAt? start = some definition := by
  induction text with
  | nil => cases found
  | cons c text ih =>
    cases here : startingAt? (c :: text) with
    | some earliest =>
      rw [first?_cons_of_some here] at found
      exact ⟨[], c :: text, rfl, here.trans found⟩
    | none =>
      rw [first?_cons_of_none here] at found
      obtain ⟨above, start, rfl, there⟩ := ih found
      exact ⟨c :: above, start, rfl, there⟩

theorem suffix_of_afterKeyword? {text rest : Text} (found : afterKeyword? text = some rest) :
    rest <:+ text := by
  rw [afterKeyword?, Option.orElse_eq_some] at found
  rcases found with global | ⟨-, define⟩
  · exact ⟨_, (Text.after?_eq_some_iff.1 global).symm⟩
  · exact ⟨_, (Text.after?_eq_some_iff.1 define).symm⟩

theorem Definition.exists_of_startingAt? {text : Text} {definition : Definition}
    (found : startingAt? text = some definition) :
    ∃ named : Text, named <:+ text ∧ definition.name = named.takeWhile isWordChar ∧
      valueAfterName? (named.dropWhile isWordChar) = some definition.value := by
  simp only [startingAt?, Option.bind_eq_bind, Option.bind_eq_some_iff] at found
  obtain ⟨rest, keyword, found⟩ := found
  split at found
  · obtain ⟨value, read, same⟩ := Option.bind_eq_some_iff.1 found
    cases same
    have behind := (List.dropWhile_suffix isBlank).trans (suffix_of_afterKeyword? keyword)
    exact ⟨rest.dropWhile isBlank, behind, rfl, read⟩
  · cases found

theorem Definition.isWordChar_of_first? {text : Text} {definition : Definition}
    (found : first? text = some definition) : ∀ c ∈ definition.name, isWordChar c = true := by
  obtain ⟨-, start, -, there⟩ := exists_of_first? found
  obtain ⟨named, -, same, -⟩ := exists_of_startingAt? there
  rw [same]
  exact fun c => List.mem_takeWhile_imp

theorem Table.mem_names_define {table : Table} {new : Definition} {name : Text} :
    name ∈ (table.define new).names ↔ name ∈ table.names ∨ name = new.name := by
  unfold define
  split
  · rename_i known
    simp only [names, names_map_replace]
    exact ⟨.inl, fun either => either.elim id fun same => same ▸ known⟩
  · simp [names]

theorem Table.mem_names_foldl_define {definitions : List Definition} {table : Table} {name : Text} :
    name ∈ (definitions.foldl define table).names ↔
      name ∈ table.names ∨ ∃ definition ∈ definitions, definition.name = name := by
  induction definitions generalizing table with
  | nil => simp
  | cons first definitions ih =>
    rw [List.foldl_cons, ih, mem_names_define, or_assoc]
    simp [eq_comm]

theorem Table.mem_names_ofLines {lines : List Text} {name : Text} :
    name ∈ (ofLines lines).names ↔
      ∃ line ∈ lines, ∃ definition, Definition.first? line = some definition ∧
        definition.name = name := by
  rw [ofLines, ofDefinitions, mem_names_foldl_define]
  simp only [List.mem_filterMap]
  constructor
  · rintro (none | ⟨definition, ⟨line, member, found⟩, named⟩)
    · cases none
    · exact ⟨line, member, definition, found, named⟩
  · rintro ⟨line, member, definition, found, named⟩
    exact .inr ⟨definition, ⟨line, member, found⟩, named⟩

theorem Table.percent_notMem_of_mem_names {lines : List Text} {name : Text}
    (known : name ∈ (ofLines lines).names) : '%' ∉ name := by
  obtain ⟨line, -, definition, found, rfl⟩ := mem_names_ofLines.1 known
  intro member
  have word := Definition.isWordChar_of_first? found '%' member
  revert word
  decide

theorem Definition.first?_referenceText_append {name : Text} (plain : '%' ∉ name) (rest : Text) :
    first? (referenceText name ++ rest) = first? rest := by
  have tail : '%' ∉ '\x7b' :: name ++ ['\x7d'] := by simp [plain]
  have here : startingAt? (referenceText name ++ rest) = none := by
    simp [startingAt?, afterKeyword?, Text.after?, referenceText]
  have whole : referenceText name ++ rest = '%' :: ('\x7b' :: name ++ ['\x7d'] ++ rest) := by
    simp [referenceText]
  rw [whole] at here ⊢
  exact (first?_cons_of_none here).trans (first?_append tail rest)

/-- A piece that leaves no percent sign in the expansion holds no beginning of a definition. -/
theorem Definition.first?_piece_append {table : Table} {active : List Text} {piece : Piece}
    (named : ∀ name ∈ table.names, '%' ∉ name) (gone : '%' ∉ piece.expandUnder table active)
    (rest : Text) : first? (piece.text ++ rest) = first? rest := by
  cases piece with
  | literal text => exact first?_append gone rest
  | reference name =>
    apply first?_referenceText_append
    cases found : table.replacement? active name with
    | none =>
      -- A reference that stands as written keeps its percent sign.
      simp [Piece.expandUnder, found, referenceText] at gone
    | some value =>
      obtain ⟨-, defined⟩ := Table.replacement?_eq_some_iff.1 found
      exact named name (Table.mem_names_of_lookup? defined)

theorem Definition.first?_append_of_expand {table : Table}
    (named : ∀ name ∈ table.names, '%' ∉ name) {text : Text} (gone : '%' ∉ expand table text)
    (rest : Text) : first? (text ++ rest) = first? rest := by
  rw [expand_eq_flatMap] at gone
  -- The text is what its pieces write, so the induction can go along the pieces.
  rw [← written_pieces text]
  generalize pieces text = pieces at gone
  induction pieces with
  | nil => rfl
  | cons piece pieces ih =>
    simp only [List.flatMap_cons, List.mem_append, not_or] at gone
    rw [written, List.flatMap_cons, List.append_assoc, first?_piece_append named gone.1]
    exact ih gone.2

end Specfile.Macro
