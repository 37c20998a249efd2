import Specfile.Proofs.Macro.Frames
import Specfile.Proofs.Macro.Pieces
import Mathlib.Logic.Relation

/-! Expanding an expansion once more. Without cycles a reference is left standing only when the
table lacks its name, so a second expansion can replace none of the references that the first one
left. It changes the text only where the pieces of the first one, put side by side, make up a
reference that was in none of them. -/

set_option autoImplicit false

namespace Specfile.Macro

namespace Table

def Refers (table : Table) (name other : Text) : Prop :=
  ∃ value, table.lookup? name = some value ∧ other ∈ references value

def IsAcyclic (table : Table) : Prop := ∀ name, ¬ Relation.TransGen table.Refers name name

theorem isAcyclic_of_rank {table : Table} (rank : Text → Nat)
    (lower : ∀ definition ∈ table.definitions, ∀ other ∈ references definition.value,
      rank other < rank definition.name) : table.IsAcyclic := by
  have step {name other : Text} (refers : table.Refers name other) : rank other < rank name := by
    obtain ⟨value, found, member⟩ := refers
    obtain ⟨definition, known, rfl⟩ := Option.map_eq_some_iff.1 found
    have named : definition.name = name := by simpa using List.find?_some known
    exact named ▸ lower definition (List.mem_of_find?_eq_some known) other member
  -- The rank goes down along references, so they never lead back.
  have chain {name other : Text} (leads : Relation.TransGen table.Refers name other) :
      rank other < rank name := by
    induction leads with
    | single refers => exact step refers
    | tail _ refers ih => exact (step refers).trans ih
  exact fun name cycle => Nat.lt_irrefl _ (chain cycle)

end Table

/-- What an expansion is made of: the literals of all its levels and the references that stand
as written. -/
def fragments (table : Table) (active : List Text) (text : Text) : List Piece :=
  (pieces text).flatMap fun
    | .literal text => [.literal text]
    | .reference name =>
      match _found : table.replacement? active name with
      | some value => fragments table (name :: active) value
      | none => [.reference name]
termination_by table.unused active
decreasing_by exact Table.unused_cons_lt _found

def Piece.fragments (table : Table) (active : List Text) : Piece → List Piece
  | .literal text => [.literal text]
  | .reference name =>
    match table.replacement? active name with
    | some value => Macro.fragments table (name :: active) value
    | none => [.reference name]

theorem fragments_eq_flatMap (table : Table) (active : List Text) (text : Text) :
    fragments table active text = (pieces text).flatMap (Piece.fragments table active) := by
  rw [fragments]
  congr 1
  funext piece
  cases piece with
  | literal text => rfl
  | reference name =>
    simp only [Piece.fragments]
    split <;> split <;> simp_all

/-- A fragment of a text is a literal or a standing reference of its own, or it comes from the value
of a macro that the text refers to. -/
theorem mem_fragments {table : Table} {active : List Text} {text : Text} {part : Piece}
    (member : part ∈ fragments table active text) :
    (∃ literal, part = .literal literal ∧ .literal literal ∈ pieces text) ∨
      (∃ name ∈ references text, part = .reference name ∧ table.replacement? active name = none) ∨
      ∃ name ∈ references text, ∃ value, table.replacement? active name = some value ∧
        part ∈ fragments table (name :: active) value := by
  rw [fragments_eq_flatMap, List.mem_flatMap] at member
  obtain ⟨piece, inText, member⟩ := member
  cases piece with
  | literal literal => exact .inl ⟨literal, List.mem_singleton.1 member, inText⟩
  | reference name =>
    have referred : name ∈ references text := mem_references.2 inText
    simp only [Piece.fragments] at member
    cases found : table.replacement? active name with
    | some value => exact .inr (.inr ⟨name, referred, value, found, by simpa [found] using member⟩)
    | none => exact .inr (.inl ⟨name, referred, by simpa [found] using member, found⟩)

theorem written_flatMap (parts : List Piece) (cut : Piece → List Piece) :
    written (parts.flatMap cut) = parts.flatMap fun part => written (cut part) := by
  simp only [written, List.flatMap_assoc]

theorem written_fragments (table : Table) (active : List Text) (text : Text) :
    written (fragments table active text) = expandUnder table active text := by
  induction active, text using fragments.induct table with
  | case1 active text ih =>
    rw [fragments_eq_flatMap, expandUnder_eq_flatMap, written_flatMap]
    congr 1
    funext piece
    cases piece with
    | literal text => simp [Piece.fragments, Piece.expandUnder, written, Piece.text]
    | reference name =>
      simp only [Piece.fragments, Piece.expandUnder]
      cases found : table.replacement? active name with
      | some value => exact ih name value found
      | none => simp [written, Piece.text]

/-- Without cycles a reference stands only because the table lacks its name. -/
theorem lookup?_of_mem_fragments {table : Table} (acyclic : table.IsAcyclic) {active : List Text}
    {text name : Text}
    (chain : ∀ above ∈ active, ∀ other ∈ references text, Relation.TransGen table.Refers above other)
    (member : .reference name ∈ fragments table active text) : table.lookup? name = none := by
  induction active, text using fragments.induct table with
  | case1 active text ih =>
    rcases mem_fragments member with ⟨literal, other, -⟩ | ⟨_, referred, ⟨⟩, stands⟩ |
      ⟨other, referred, value, found, inner⟩
    · cases other
    · rcases Table.replacement?_eq_none_iff.1 stands with expanding | unknown
      · exact absurd (chain name expanding name referred) (acyclic name)
      · exact unknown
    · obtain ⟨-, defined⟩ := Table.replacement?_eq_some_iff.1 found
      refine ih other value found ?_ inner
      -- Every name above leads on to the names in the value of this one.
      intro above isAbove next inValue
      have refers : table.Refers other next := ⟨value, defined, inValue⟩
      rcases List.mem_cons.1 isAbove with rfl | isAbove
      · exact .single refers
      · exact (chain above isAbove other referred).tail refers

theorem expand_of_lookup?_eq_none {table : Table} {text : Text}
    (unknown : ∀ name ∈ references text, table.lookup? name = none) : expand table text = text := by
  have kept : ∀ piece ∈ pieces text, piece.expandUnder table [] = piece.text := by
    intro piece member
    cases piece with
    | literal text => rfl
    | reference name =>
      have missing : table.replacement? [] name = none :=
        Table.replacement?_eq_none_iff.2 (.inr (unknown name (mem_references.2 member)))
      simp only [Piece.expandUnder, missing, Piece.text]
  rw [expand_eq_flatMap, List.flatMap_congr kept]
  exact written_pieces text

theorem lookup?_of_mem_references_expand {table : Table} (acyclic : table.IsAcyclic) {text : Text}
    (seamless : ∀ name ∈ references (expand table text), .reference name ∈ fragments table [] text) :
    ∀ name ∈ references (expand table text), table.lookup? name = none :=
  fun name member => lookup?_of_mem_fragments acyclic (by simp) (seamless name member)

/-- Without cycles, a second expansion changes nothing as long as the first one brings no
reference into being that was in none of its pieces. -/
theorem expand_expand_of_seamless {table : Table} (acyclic : table.IsAcyclic) {text : Text}
    (seamless : ∀ name ∈ references (expand table text), .reference name ∈ fragments table [] text) :
    expand table (expand table text) = expand table text :=
  expand_of_lookup?_eq_none (lookup?_of_mem_references_expand acyclic seamless)

def hundredTable : Table :=
  .ofLines ["%global a %\x7bb\x7d-%\x7bmissing\x7d".toList, "%define b 100%".toList]

theorem expand_expand_of_seamless_hundred :
    let text := "x%\x7ba\x7dy%\x7bb\x7d".toList
    expand hundredTable text = "x100%-%\x7bmissing\x7dy100%".toList ∧
      expand hundredTable (expand hundredTable text) = expand hundredTable text := by
  have acyclic : hundredTable.IsAcyclic :=
    Table.isAcyclic_of_rank (fun name => if name = ['a'] then 1 else 0) (by decide +kernel)
  exact ⟨by decide +kernel, expand_expand_of_seamless acyclic (by decide +kernel)⟩

def percentTable : Table := .ofLines ["%global a %".toList, "%global b x".toList]

/-- A percent sign from one piece and a name in braces from the next one make up a reference. -/
theorem expand_expand_ne_of_seam :
    percentTable.IsAcyclic ∧
      let text := "%\x7ba\x7d\x7bb\x7d".toList
      expand percentTable text = "%\x7bb\x7d".toList ∧
        expand percentTable (expand percentTable text) = "x".toList := by
  have acyclic : percentTable.IsAcyclic :=
    Table.isAcyclic_of_rank (fun _ => 0) (by decide +kernel)
  exact ⟨acyclic, by decide +kernel, by decide +kernel⟩

/-- Pieces that neighbours cannot turn into others. -/
def Piece.IsSolid : Piece → Prop
  | .literal text => IsLiteral text ∧ endsOpen text = false
  | .reference name => IsName name

theorem filterMap_name?_foldr_prepend (text : Text) (pieces : List Piece) :
    (text.foldr prepend pieces).filterMap Piece.name? = pieces.filterMap Piece.name? := by
  induction text with
  | nil => rfl
  | cons c text ih => rw [List.foldr_cons, filterMap_name?_prepend, ih]

theorem references_written {parts : List Piece} (solid : ∀ part ∈ parts, part.IsSolid) :
    references (written parts) = parts.filterMap Piece.name? := by
  -- Solid pieces are read one by one, each as if it stood alone.
  induction parts with
  | nil => simp [written, references, pieces]
  | cons part parts ih =>
    have rest := ih fun other member => solid other (List.mem_cons_of_mem _ member)
    have first := solid part List.mem_cons_self
    have whole : written (part :: parts) = part.text ++ written parts := rfl
    rw [references_eq_filterMap] at rest ⊢
    rw [whole]
    cases part with
    | literal text =>
      rw [Piece.text, pieces_append first.1 first.2, filterMap_name?_foldr_prepend, rest]
      rfl
    | reference name =>
      rw [Piece.text, pieces_referenceText_append first, List.filterMap_cons, List.filterMap_cons,
        List.filterMap_cons, rest]
      rfl

def HasClosedLiterals (text : Text) : Prop :=
  ∀ literal, .literal literal ∈ pieces text → endsOpen literal = false

theorem isSolid_of_mem_fragments {table : Table} {active : List Text} {text : Text} {part : Piece}
    (values : ∀ name value, table.lookup? name = some value → HasClosedLiterals value)
    (closed : HasClosedLiterals text) (member : part ∈ fragments table active text) :
    part.IsSolid := by
  induction active, text using fragments.induct table with
  | case1 active text ih =>
    rcases mem_fragments member with ⟨literal, rfl, inText⟩ | ⟨name, referred, rfl, -⟩ |
      ⟨name, -, value, found, inner⟩
    · exact ⟨isLiteral_of_mem_pieces inText, closed literal inText⟩
    · exact isName_of_mem_references referred
    · obtain ⟨-, defined⟩ := Table.replacement?_eq_some_iff.1 found
      exact ih name value found (values name value defined) inner

section
variable {table : Table} {text : Text}
  (values : ∀ name value, table.lookup? name = some value → HasClosedLiterals value)
  (closed : HasClosedLiterals text)
include values closed

/-- Where no literal of the text or of a value ends in the beginning of a reference, the pieces of
an expansion make up no reference between them. -/
theorem mem_fragments_of_closed {name : Text} (member : name ∈ references (expand table text)) :
    .reference name ∈ fragments table [] text := by
  have solid : ∀ part ∈ fragments table [] text, part.IsSolid :=
    fun part => isSolid_of_mem_fragments values closed
  rw [expand_eq_expandUnder, ← written_fragments, references_written solid] at member
  obtain ⟨part, inText, named⟩ := List.mem_filterMap.1 member
  cases part with
  | literal text => cases named
  | reference other =>
    cases named
    exact inText

theorem expand_expand_of_closed (acyclic : table.IsAcyclic) :
    expand table (expand table text) = expand table text :=
  expand_of_lookup?_eq_none <| lookup?_of_mem_references_expand acyclic fun _ =>
    mem_fragments_of_closed values closed

end

end Specfile.Macro
