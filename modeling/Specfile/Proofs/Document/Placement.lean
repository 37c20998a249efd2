import Specfile.Proofs.Document.Lines
import Specfile.Proofs.Text.Core

/-! Adding an entry puts a block of lines in at one place and leaves all other lines as they
are. Place and block follow from the looks of the lines: which of them are headers, which are
blank and which are empty. -/

set_option autoImplicit false

namespace Specfile

def insertRows (place : Nat) (block rows : List Text) : List Text :=
  rows.take place ++ (block ++ rows.drop place)

theorem insertRows_append (above block below : List Text) :
    insertRows above.length block (above ++ below) = above ++ (block ++ below) := by
  simp [insertRows]

theorem insertRows_append_of_le {place : Nat} {above : List Text} (higher : place ≤ above.length)
    (block below : List Text) :
    insertRows place block (above ++ below) = insertRows place block above ++ below := by
  simp [insertRows, List.take_append_of_le_length higher, List.drop_append_of_le_length higher]

theorem insertRows_append_add (above block below : List Text) (place : Nat) :
    insertRows (above.length + place) block (above ++ below) =
      above ++ insertRows place block below := by
  have taken : above.take (above.length + place) = above := List.take_of_length_le (by omega)
  have dropped : above.drop (above.length + place) = [] := List.drop_of_length_le (by omega)
  simp [insertRows, List.take_append, List.drop_append, taken, dropped]

theorem filterMap_insertRows {α : Type} {read : Text → Option α} {block : List Text}
    (mute : ∀ row ∈ block, read row = none) (place : Nat) (rows : List Text) :
    (insertRows place block rows).filterMap read = rows.filterMap read := by
  have silent : block.filterMap read = [] := List.filterMap_eq_nil_iff.2 mute
  rw [insertRows, List.filterMap_append, List.filterMap_append, silent, List.nil_append,
    ← List.filterMap_append, List.take_append_drop]

theorem mem_insertRows {place : Nat} {block rows : List Text} {row : Text}
    (member : row ∈ insertRows place block rows) : row ∈ block ∨ row ∈ rows := by
  simp only [insertRows, List.mem_append] at member
  rcases member with member | member | member
  · exact .inr (List.mem_of_mem_take member)
  · exact .inl member
  · exact .inr (List.mem_of_mem_drop member)

theorem areLines_insertRows {block rows : List Text} (plain : ∀ row ∈ block, '\n' ∉ row)
    (lines : AreLines rows) (place : Nat) : AreLines (insertRows place block rows) where
  inhabited := by
    intro empty
    simp only [insertRows, List.append_eq_nil_iff] at empty
    exact lines.inhabited (by rw [← List.take_append_drop place rows, empty.1, empty.2.2]; rfl)
  plain := by
    intro row member
    exact (mem_insertRows member).elim (plain row) (lines.plain row)

namespace Document

/-- What the placing of an entry depends on in a line. -/
structure Look where
  header : Bool
  filled : Bool
  empty : Bool
  deriving DecidableEq, Repr

def look (row : Text) : Look where
  header := isHeader row
  filled := row.trim ≠ []
  empty := row = []

def entryPlace (looks : List Look) : Nat :=
  match looks.findIdx? Look.header with
  | some index => index + 1
  | none => if looks.getLast?.any Look.empty then looks.length - 1 else looks.length

def gapBeside (look : Option Look) : List Text := if look.any Look.filled then [[]] else []

def entryBlock (looks : List Look) (entry : List Text) : List Text :=
  if looks.any Look.header then entry ++ gapBeside looks[entryPlace looks]?
  else gapBeside (looks.take (entryPlace looks)).getLast? ++ "%changelog".toList :: entry

theorem gap_eq (row : Option Text) : gap row = gapBeside (row.map look) := by
  cases row <;> simp [gap, gapBeside, look]

section
variable {above after : List Text} {header : Text}
  (plain : ∀ row ∈ above, isHeader row = false) (found : isHeader header = true)
include plain found

theorem findIdx?_isHeader :
    (above ++ header :: after).findIdx? isHeader = some above.length := by
  have none : above.findIdx? isHeader = none := List.findIdx?_eq_none_iff.2 plain
  simp [List.findIdx?_append, List.findIdx?_cons, none, found]

theorem entryPlace_of_header :
    entryPlace ((above ++ header :: after).map look) = above.length + 1 := by
  have index : ((above ++ header :: after).map look).findIdx? Look.header = some above.length := by
    rw [List.findIdx?_map]
    exact findIdx?_isHeader plain found
  rw [entryPlace, index]

theorem entryBlock_of_header (entry : List Text) :
    entryBlock ((above ++ header :: after).map look) entry = entry ++ gap after.head? := by
  have any : ((above ++ header :: after).map look).any Look.header = true := by
    simp [look, found]
  have next : ((above ++ header :: after).map look)[above.length + 1]? = after.head?.map look := by
    cases after <;> simp
  rw [entryBlock, if_pos any, entryPlace_of_header plain found, next, ← gap_eq]

end

section
variable {rows : List Text} (plain : ∀ row ∈ rows, isHeader row = false)
include plain

theorem entryPlace_of_noHeader :
    entryPlace (rows.map look) =
      if rows.getLast? = some [] then rows.length - 1 else rows.length := by
  have index : (rows.map look).findIdx? Look.header = none := by
    simpa [List.findIdx?_eq_none_iff, look] using plain
  rw [entryPlace, index, List.getLast?_map]
  cases rows.getLast? <;> simp [look]

theorem entryBlock_of_noHeader (entry : List Text) :
    entryBlock (rows.map look) entry =
      gap (rows.take (entryPlace (rows.map look))).getLast? ++ "%changelog".toList :: entry := by
  have any : ¬ (rows.map look).any Look.header = true := by
    simpa [look] using plain
  rw [entryBlock, if_neg any, gap_eq, ← List.getLast?_map, List.map_take]

end

def place (document : Document) : Nat := entryPlace (document.lines.map look)

def block (document : Document) (entry : Text) : List Text :=
  entryBlock (document.lines.map look) entry.lines

theorem noHeader_or_cut (rows : List Text) :
    (∀ row ∈ rows, isHeader row = false) ∨
      ∃ above header after, rows = above ++ header :: after ∧
        (∀ row ∈ above, isHeader row = false) ∧ isHeader header = true := by
  induction rows with
  | nil => exact .inl (by simp)
  | cons row rows ih =>
    cases here : isHeader row with
    | true => exact .inr ⟨[], row, rows, rfl, by simp, here⟩
    | false =>
      rcases ih with plain | ⟨above, header, after, rfl, plain, found⟩
      · exact .inl (List.forall_mem_cons.2 ⟨here, plain⟩)
      · exact .inr ⟨row :: above, header, after, rfl, List.forall_mem_cons.2 ⟨here, plain⟩, found⟩

section
variable {document : Document} (entry : Text)

theorem addEntry_of_header {above after : List Text} {header : Text}
    (cut : document.lines = above ++ header :: after)
    (plain : ∀ row ∈ above, isHeader row = false) (found : isHeader header = true) :
    document.addEntry entry =
      document.withLines (insertRows document.place (document.block entry) document.lines) := by
  have passed : ∀ row ∈ above, (!isHeader row) = true := by simpa using plain
  have stops : ∀ row ∈ (header :: after).head?, (!isHeader row) = false := by simpa using found
  have put := insertRows_append (above ++ [header]) (entry.lines ++ gap after.head?) after
  simp only [List.length_append, List.length_singleton, List.append_assoc,
    List.singleton_append] at put
  rw [addEntry, place, block, cut, entryPlace_of_header plain found,
    entryBlock_of_header plain found, put, dropWhile_append_of_stop passed stops,
    takeWhile_append_of_stop passed stops]
  simp

theorem addEntry_of_noHeader (plain : ∀ row ∈ document.lines, isHeader row = false) :
    document.addEntry entry =
      document.withLines (insertRows document.place (document.block entry) document.lines) := by
  have left : document.lines.dropWhile (!isHeader ·) = [] :=
    List.dropWhile_eq_nil_iff.2 (by simpa using plain)
  rw [addEntry, place, block, entryBlock_of_noHeader plain, entryPlace_of_noHeader plain]
  simp only [left]
  split
  · -- The final newline stays final: the section goes above the empty last line.
    rename_i ends
    obtain ⟨body, cut⟩ := List.getLast?_eq_some_iff.1 ends
    have put := insertRows_append body
      (gap body.getLast? ++ "%changelog".toList :: entry.lines) [[]]
    have dropped : document.lines.dropLast = body := by simp [cut]
    have taken : document.lines.take body.length = body := by simp [cut]
    have length : document.lines.length - 1 = body.length := by simp [cut]
    rw [dropped, length, taken, cut, put]
    simp only [List.append_assoc]
  · have put := insertRows_append document.lines
      (gap document.lines.getLast? ++ "%changelog".toList :: entry.lines) []
    rw [List.append_nil] at put
    rw [List.take_length, put]
    simp only [List.append_assoc]

end

/-- Adding an entry puts its block in at its place. -/
theorem addEntry_eq (document : Document) (entry : Text) :
    document.addEntry entry =
      document.withLines (insertRows document.place (document.block entry) document.lines) := by
  rcases noHeader_or_cut document.lines with plain | ⟨above, header, after, cut, plain, found⟩
  · exact addEntry_of_noHeader entry plain
  · exact addEntry_of_header entry cut plain found

theorem mem_block {document : Document} {entry row : Text}
    (member : row ∈ document.block entry) :
    row = [] ∨ row = "%changelog".toList ∨ row ∈ entry.lines := by
  have blank {look : Option Look} (beside : row ∈ gapBeside look) : row = [] := by
    unfold gapBeside at beside
    split at beside
    · simpa using beside
    · cases beside
  unfold block entryBlock at member
  split at member
  · rcases List.mem_append.1 member with member | member
    · exact .inr (.inr member)
    · exact .inl (blank member)
  · rcases List.mem_append.1 member with member | member
    · exact .inl (blank member)
    · exact .inr (List.mem_cons.1 member)

theorem lines_addEntry (document : Document) (entry : Text) :
    (document.addEntry entry).lines =
      insertRows document.place (document.block entry) document.lines := by
  rw [addEntry_eq]
  apply lines_withLines
  apply areLines_insertRows _ document.areLines
  intro row member
  rcases mem_block member with rfl | rfl | member
  · simp
  · decide
  · exact Text.mark_notMem_of_mem_split member

theorem mem_text_insert {document : Document} {line column : Int} {block : Text} {c : Char}
    (member : c ∈ (document.insert line column block).text) :
    c = '\n' ∨ c ∈ document.text ∨ c ∈ block := by
  rcases Text.mem_joinLines member with newline | ⟨row, inRows, inside⟩
  · exact .inl newline
  refine .inr ?_
  -- All rows are old ones but for one, and that is the block within what was there.
  have old {other : Text} (inLines : other ∈ [] :: document.lines) (inside : c ∈ other) :
      c ∈ document.text := by
    rcases List.mem_cons.1 inLines with rfl | inLines
    · cases inside
    · exact Text.subset_of_mem_lines inLines inside
  rcases List.mem_or_eq_of_mem_set inRows with inLines | rfl
  · exact .inl (old (List.mem_cons_of_mem _ inLines) inside)
  · simp only [List.mem_append] at inside
    rcases inside with (front | here) | back
    · exact .inl (old (getD_mem_of_default _) (List.mem_of_mem_take front))
    · exact .inr here
    · exact .inl (old (getD_mem_of_default _) (List.mem_of_mem_drop back))

theorem mem_text_addEntry {document : Document} {entry : Text} {c : Char}
    (member : c ∈ (document.addEntry entry).text) :
    c = '\n' ∨ c ∈ "%changelog".toList ∨ c ∈ document.text ∨ c ∈ entry := by
  rw [addEntry_eq] at member
  rcases Text.mem_joinLines member with newline | ⟨row, inRows, inside⟩
  · exact .inl newline
  refine .inr ?_
  rcases mem_insertRows inRows with inBlock | inLines
  · rcases mem_block inBlock with rfl | rfl | inEntry
    · cases inside
    · exact .inl inside
    · exact .inr (.inr (Text.subset_of_mem_lines inEntry inside))
  · exact .inr (.inl (Text.subset_of_mem_lines inLines inside))

end Document

end Specfile
