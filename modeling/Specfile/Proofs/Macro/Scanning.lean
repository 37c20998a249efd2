import Specfile.Proofs.Macro.Idempotence
import Specfile.Proofs.Macro.Levels

/-! Templates against a scan of their text. Scanning from left to right takes the reference that
begins earliest, and goes on behind it; what it passes over are the literals. There is one such
scan of every text, and it finds the pieces that are read from the text. So expansion can be told
in terms of scans alone. -/

set_option autoImplicit false

namespace Specfile.Macro

def BeginsReference (text : Text) : Prop :=
  ∃ name after, IsName name ∧ text = referenceText name ++ after

def HoldsReference (text : Text) : Prop := ∃ behind, behind <:+ text ∧ BeginsReference behind

theorem reference?_eq_none_iff {text : Text} : reference? text = none ↔ ¬ BeginsReference text := by
  constructor
  · rintro missing ⟨name, after, named, rfl⟩
    rw [reference?_referenceText_append named] at missing
    cases missing
  · intro other
    cases found : reference? text with
    | none => rfl
    | some cut =>
      obtain ⟨whole, inhabited, plain⟩ := eq_of_reference? found
      exact absurd ⟨cut.1, cut.2, ⟨inhabited, plain⟩, whole⟩ other

theorem not_holdsReference_nil : ¬ HoldsReference [] := by
  rintro ⟨behind, suffix, name, after, -, rfl⟩
  cases List.suffix_nil.1 suffix

theorem holdsReference_cons_iff {c : Char} {text : Text} :
    HoldsReference (c :: text) ↔ BeginsReference (c :: text) ∨ HoldsReference text := by
  simp only [HoldsReference, List.suffix_cons_iff, or_and_right, exists_or, exists_eq_left]

theorem isLiteral_iff {text : Text} : IsLiteral text ↔ ¬ HoldsReference text := by
  induction text with
  | nil => simp [IsLiteral, pieces, not_holdsReference_nil]
  | cons c text ih =>
    rw [isLiteral_cons_iff, holdsReference_cons_iff, not_or, reference?_eq_none_iff, ih]

/-- What a scan from left to right finds in a text: the reference that begins earliest, between the
text in front of it and what is found behind it; in a text that holds no reference, that text. -/
inductive Scans : Text → List Piece → Prop where
  | last {text : Text} (plain : ¬ HoldsReference text) : Scans text [.literal text]
  | next {before name after : Text} {parts : List Piece} (named : IsName name)
      (earliest : ∀ behind, behind <:+ before → behind ≠ [] →
        ¬ BeginsReference (behind ++ (referenceText name ++ after)))
      (rest : Scans after parts) :
      Scans (before ++ (referenceText name ++ after)) (.literal before :: .reference name :: parts)

/-- Literals and references in turn, with a literal at both ends. -/
inductive Alternates : List Piece → Prop where
  | last (literal : Text) : Alternates [.literal literal]
  | next (literal name : Text) {parts : List Piece} (rest : Alternates parts) :
      Alternates (.literal literal :: .reference name :: parts)

theorem pieces_append_reference {before name after : Text} (named : IsName name)
    (earliest : ∀ behind, behind <:+ before → behind ≠ [] →
      ¬ BeginsReference (behind ++ (referenceText name ++ after))) :
    pieces (before ++ (referenceText name ++ after)) =
      .literal before :: .reference name :: pieces after := by
  -- Up to the reference every character goes to the literal, since none begins another one.
  induction before with
  | nil => exact pieces_referenceText_append named after
  | cons c before ih =>
    have here := earliest (c :: before) List.suffix_rfl (List.cons_ne_nil c before)
    have missing := reference?_eq_none_iff.2 here
    have later := ih fun behind suffix => earliest behind (suffix.trans (List.suffix_cons c before))
    rw [List.cons_append] at missing ⊢
    rw [pieces_cons_of_none missing, later]
    rfl

theorem scans_cons {c : Char} {text : Text} {parts : List Piece}
    (missing : reference? (c :: text) = none) (scans : Scans text parts) :
    Scans (c :: text) (prepend c parts) := by
  have other := reference?_eq_none_iff.1 missing
  -- The new character begins no reference and goes to the front of the first literal.
  cases scans with
  | last plain => exact .last fun holds => (holdsReference_cons_iff.1 holds).elim other plain
  | @next before name after parts named earliest rest =>
    refine @Scans.next (c :: before) _ _ _ named (fun behind suffix inhabited => ?_) rest
    rcases List.suffix_cons_iff.1 suffix with rfl | suffix
    · exact other
    · exact earliest behind suffix inhabited

theorem scans_pieces (text : Text) : Scans text (pieces text) := by
  fun_induction pieces text with
  | case1 => exact .last not_holdsReference_nil
  | case2 c rest name after found ih =>
    obtain ⟨whole, inhabited, plain⟩ := eq_of_reference? found
    rw [whole]
    exact @Scans.next [] _ _ _ ⟨inhabited, plain⟩
      (fun behind suffix inhabited => absurd (List.suffix_nil.1 suffix) inhabited) ih
  | case3 c rest missing ih => exact scans_cons missing ih

namespace Scans

variable {text : Text} {parts : List Piece} (scans : Scans text parts)
include scans

theorem eq_pieces : parts = pieces text := by
  induction scans with
  | last plain => exact (isLiteral_iff.2 plain).symm
  | next named earliest rest ih => rw [pieces_append_reference named earliest, ih]

theorem alternates : Alternates parts := by
  induction scans with
  | last => exact .last _
  | next named earliest rest ih => exact .next _ _ ih

end Scans

/-- The expansion of what a scan finds, with some names being expanded: a reference to another name
that the table defines becomes the expansion of a scan of its value. -/
inductive Expands (table : Table) : (active : List Text) → List Piece → Text → Prop where
  | nil (active : List Text) : Expands table active [] []
  | literal (literal : Text) {active : List Text} {parts : List Piece} {result : Text}
      (rest : Expands table active parts result) :
      Expands table active (.literal literal :: parts) (literal ++ result)
  | replaced {active : List Text} {name value expanded result : Text} {inner parts : List Piece}
      (idle : name ∉ active) (defined : table.lookup? name = some value)
      (scans : Scans value inner) (within : Expands table (name :: active) inner expanded)
      (rest : Expands table active parts result) :
      Expands table active (.reference name :: parts) (expanded ++ result)
  | kept {active : List Text} {name result : Text} {parts : List Piece}
      (stands : name ∈ active ∨ table.lookup? name = none)
      (rest : Expands table active parts result) :
      Expands table active (.reference name :: parts) (referenceText name ++ result)

section
variable {table : Table} {active : List Text} {parts : List Piece}

theorem Expands.eq_flatMap {result : Text} (expands : Expands table active parts result) :
    result = parts.flatMap (Piece.expandUnder table active) := by
  induction expands with
  | nil => rfl
  | literal literal rest ih =>
    rw [List.flatMap_cons, ← ih]
    rfl
  | @replaced active name value expanded result inner parts idle defined scans within rest
      ihWithin ih =>
    have found := Table.replacement?_eq_some_iff.2 ⟨idle, defined⟩
    rw [List.flatMap_cons, ← ih, ihWithin, scans.eq_pieces, ← expandUnder_eq_flatMap]
    simp only [Piece.expandUnder, found]
  | kept stands rest ih =>
    rw [List.flatMap_cons, ← ih]
    simp only [Piece.expandUnder, Table.replacement?_eq_none_iff.2 stands]

theorem expands_flatMap
    (each : ∀ name value, table.replacement? active name = some value →
      Expands table (name :: active) (pieces value) (expandUnder table (name :: active) value)) :
    Expands table active parts (parts.flatMap (Piece.expandUnder table active)) := by
  induction parts with
  | nil => exact .nil active
  | cons part parts ih =>
    cases part with
    | literal literal => exact .literal literal ih
    | reference name =>
      rw [List.flatMap_cons, Piece.expandUnder]
      cases found : table.replacement? active name with
      | some value =>
        obtain ⟨idle, defined⟩ := Table.replacement?_eq_some_iff.1 found
        exact .replaced idle defined (scans_pieces value) (each name value found) ih
      | none => exact .kept (Table.replacement?_eq_none_iff.1 found) ih

theorem expands_pieces (text : Text) :
    Expands table active (pieces text) (expandUnder table active text) := by
  induction active, text using expandUnder.induct table with
  | case1 active text ih =>
    rw [expandUnder_eq_flatMap]
    exact expands_flatMap ih

/-- The frames give what scanning the text, and the values of the names found in it, gives. -/
theorem expand_eq_iff_expands {text result : Text} :
    expand table text = result ↔ ∃ parts, Scans text parts ∧ Expands table [] parts result := by
  constructor
  · rintro rfl
    rw [expand_eq_expandUnder]
    exact ⟨pieces text, scans_pieces text, expands_pieces text⟩
  · rintro ⟨parts, scans, expands⟩
    rw [expands.eq_flatMap, scans.eq_pieces, expand_eq_flatMap]

end

/-- The pieces of a level are the scan of its text: literals and references in turn, which written
out are the text. Every reference has a name, no literal holds a reference, and a text that refers
to no macro of a table is its own expansion. -/
theorem pending_opening (active : List Text) (text : Text) :
    let parts := (Frame.opening active text).pending
    Alternates parts ∧ written parts = text ∧
      (∀ name, .reference name ∈ parts → name ≠ [] ∧ '\x7d' ∉ name) ∧
      (∀ literal, .literal literal ∈ parts → ¬ HoldsReference literal) ∧
      (∀ other, Scans text other ↔ other = parts) ∧
      ∀ table : Table, (∀ name, .reference name ∈ parts → name ∉ table.names) →
        expand table text = text := by
  intro parts
  refine ⟨(scans_pieces text).alternates, written_pieces text, fun name member => ?_,
    fun literal member => isLiteral_iff.1 (isLiteral_of_mem_pieces member),
    fun other => ⟨Scans.eq_pieces, ?_⟩, fun table unknown => ?_⟩
  · have named := isName_of_mem_references (mem_references.2 member)
    exact ⟨named.inhabited, named.plain⟩
  · rintro rfl
    exact scans_pieces text
  · exact expand_of_lookup?_eq_none fun name member =>
      Table.lookup?_eq_none_iff.2 (unknown name (mem_references.1 member))

theorem pending_opening_nestedOpenings :
    let text := "%\x7b\x7d%\x7ba%\x7bb\x7d-%\x7bc".toList
    let parts : List Piece :=
      [.literal "%\x7b\x7d".toList, .reference "a%\x7bb".toList, .literal "-%\x7bc".toList]
    Scans text parts ∧ (Frame.opening [] text).pending = parts ∧
      expand percentTable text = text := by
  intro text parts
  obtain ⟨-, -, -, -, scanned, kept⟩ := pending_opening [] text
  have read : (Frame.opening [] text).pending = parts := by decide +kernel
  refine ⟨(scanned parts).2 read.symm, read, kept percentTable fun name member => ?_⟩
  rw [read] at member
  have only : name = "a%\x7bb".toList := by simpa [parts] using member
  rw [only]
  decide +kernel

end Specfile.Macro
