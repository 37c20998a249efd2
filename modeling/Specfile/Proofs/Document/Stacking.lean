import Specfile.Proofs.Document.Placement

/-! Entries added one after another. The first of them finds or makes the section for changes; each
later one finds the same header again and goes directly below it, with an empty line between
itself and the entry before. So the entries stand with the newest on top. -/

set_option autoImplicit false

namespace Specfile

theorem intercalate_concat {α : Type} (separator : List α) (parts : List (List α))
    (last : List α) :
    separator.intercalate (parts ++ [last]) = parts.flatMap (· ++ separator) ++ last := by
  induction parts with
  | nil => simp
  | cons part parts ih =>
    obtain ⟨next, more, cut⟩ := List.exists_cons_of_ne_nil (List.concat_ne_nil last parts)
    rw [cut] at ih
    rw [List.cons_append, cut, List.intercalate_cons_cons, ih, List.flatMap_cons,
      List.append_assoc (part ++ separator)]

namespace Document

def addEntries (document : Document) (entries : List Text) : Document :=
  entries.foldl addEntry document

def startsFilled (entry : Text) : Bool := entry.lines.head?.any (·.trim ≠ [])

/-- The lines of entries, the last of the list on top, with an empty line between any two. -/
def stacked (entries : List Text) : List Text :=
  [[]].intercalate (entries.reverse.map Text.lines)

/-- One empty line keeps a neighbour apart that is there and not blank; no other needs any. -/
inductive Spaced : (neighbour : Option Text) → List Text → Prop where
  | apart {row : Text} (filled : row.trim ≠ []) : Spaced (some row) [[]]
  | close {row : Text} (blank : row.trim = []) : Spaced (some row) []
  | edge : Spaced none []

/-- How lines are cut where entries are put in: the lines above the entries, the last of which is
the header of the section for changes, and the lines below them. -/
inductive Opens (rows : List Text) : (top rest : List Text) → Prop where
  /-- Entries go below the first header, apart from the line that follows it. -/
  | found {above after space : List Text} {header : Text} (cut : rows = above ++ header :: after)
      (first : ∀ row ∈ above, isHeader row = false) (here : isHeader header = true)
      (spaced : Spaced after.head? space) : Opens rows (above ++ [header]) (space ++ after)
  /-- Without a header the section goes to the end, apart from the line above it; an empty last
  line stays the last one. -/
  | made {body tail space : List Text} (cut : rows = body ++ tail)
      (ends : tail = [[]] ∨ tail = [] ∧ rows.getLast? ≠ some [])
      (absent : ∀ row ∈ rows, isHeader row = false) (spaced : Spaced body.getLast? space) :
      Opens rows (body ++ (space ++ ["%changelog".toList])) tail

theorem spaced_gap (neighbour : Option Text) : Spaced neighbour (gap neighbour) := by
  rcases neighbour with _ | row
  · exact .edge
  by_cases blank : row.trim = []
  · simpa [gap, blank] using Spaced.close blank
  · simpa [gap, blank] using Spaced.apart blank

theorem gap_head?_append {entry : Text} (filled : startsFilled entry = true) (rest : List Text) :
    gap (entry.lines ++ rest).head? = [[]] := by
  obtain ⟨first, more, cut⟩ := List.exists_cons_of_ne_nil (Text.split_ne_nil '\n' entry)
  have solid : first.trim ≠ [] := by simpa [startsFilled, cut] using filled
  simp [gap, cut, solid]

section
variable {document : Document} {above after : List Text} {header : Text}
  (cut : document.lines = above ++ header :: after)
  (plain : ∀ row ∈ above, isHeader row = false) (found : isHeader header = true)
include cut plain found

theorem lines_addEntry_of_header (entry : Text) :
    (document.addEntry entry).lines =
      above ++ header :: (entry.lines ++ (gap after.head? ++ after)) := by
  have put := insertRows_append (above ++ [header]) (entry.lines ++ gap after.head?) after
  simp only [List.length_append, List.length_singleton, List.append_assoc,
    List.singleton_append] at put
  rw [lines_addEntry, place, block, cut, entryPlace_of_header plain found,
    entryBlock_of_header plain found, put]

/-- Invariant of a run: the same header stays the first one, and the line below it is that of the
latest entry. -/
theorem lines_addEntries_of_header (apart : gap after.head? = [[]]) {entries : List Text}
    (filled : ∀ entry ∈ entries, startsFilled entry = true) :
    (document.addEntries entries).lines =
      above ++ header :: (entries.reverse.flatMap (fun entry => entry.lines ++ [[]]) ++ after) := by
  -- Every entry is pushed down by the next one, so the lines below the header vary.
  induction entries generalizing document after with
  | nil => simpa [addEntries] using cut
  | cons entry entries ih =>
    have step := lines_addEntry_of_header cut plain found entry
    rw [apart] at step
    have later := ih step (gap_head?_append (filled entry List.mem_cons_self) _)
      fun other member => filled other (List.mem_cons_of_mem _ member)
    rw [addEntries, List.foldl_cons, ← addEntries, later]
    simp

end

theorem lines_addEntry_of_noHeader {document : Document} {body tail : List Text}
    (cut : document.lines = body ++ tail)
    (ends : tail = [[]] ∨ tail = [] ∧ document.lines.getLast? ≠ some [])
    (plain : ∀ row ∈ document.lines, isHeader row = false) (entry : Text) :
    (document.addEntry entry).lines =
      body ++ (gap body.getLast? ++ "%changelog".toList :: (entry.lines ++ tail)) := by
  have place : entryPlace (document.lines.map look) = body.length := by
    rw [entryPlace_of_noHeader plain]
    rcases ends with rfl | ⟨rfl, filled⟩
    · simp [cut]
    · rw [if_neg filled, cut, List.append_nil]
  have above : document.lines.take body.length = body := by simp [cut]
  have put := insertRows_append body (gap body.getLast? ++ "%changelog".toList :: entry.lines) tail
  rw [lines_addEntry, Document.place, block, entryBlock_of_noHeader plain, place, above, cut, put]
  simp only [List.append_assoc, List.cons_append]

theorem opens_addEntry (document : Document) (entry : Text) :
    ∃ above header rest, Opens document.lines (above ++ [header]) rest ∧
      (∀ row ∈ above, isHeader row = false) ∧ isHeader header = true ∧
      (document.addEntry entry).lines = above ++ header :: (entry.lines ++ rest) := by
  rcases noHeader_or_cut document.lines with plain | ⟨above, header, after, cut, plain, found⟩
  -- A new section goes above the final newline, or to the end where there is none.
  · obtain ⟨body, tail, cut, ends⟩ : ∃ body tail, document.lines = body ++ tail ∧
        (tail = [[]] ∨ tail = [] ∧ document.lines.getLast? ≠ some []) := by
      by_cases empty : document.lines.getLast? = some []
      · obtain ⟨body, cut⟩ := List.getLast?_eq_some_iff.1 empty
        exact ⟨body, [[]], cut, .inl rfl⟩
      · exact ⟨document.lines, [], (List.append_nil _).symm, .inr ⟨rfl, empty⟩⟩
    refine ⟨body ++ gap body.getLast?, "%changelog".toList, tail, ?_, ?_, by decide, ?_⟩
    · rw [List.append_assoc]
      exact .made cut ends plain (spaced_gap _)
    · intro row member
      rcases List.mem_append.1 member with member | member
      · exact plain row (cut ▸ List.mem_append_left _ member)
      · have empty : row = [] := by
          unfold gap at member
          split at member <;> simp_all
        exact empty ▸ by decide
    · rw [lines_addEntry_of_noHeader cut ends plain, List.append_assoc]
  · exact ⟨above, header, _, .found cut plain found (spaced_gap _), plain, found,
      lines_addEntry_of_header cut plain found entry⟩

/-- Entries that begin with a line that is not blank stand between the same lines as a single one
would, the newest on top, with one empty line between any two. The line above them is the first
header, whatever lines the entries hold. -/
theorem lines_addEntries (document : Document) {entries : List Text} (inhabited : entries ≠ [])
    (filled : ∀ entry ∈ entries, startsFilled entry = true) :
    ∃ top rest, Opens document.lines top rest ∧
      (document.addEntries entries).lines = top ++ (stacked entries ++ rest) ∧
      (document.addEntries entries).lines.findIdx? isHeader = some (top.length - 1) := by
  obtain ⟨first, later, rfl⟩ := List.exists_cons_of_ne_nil inhabited
  -- The first entry finds the header or makes it, and the later ones go below that one.
  obtain ⟨above, header, rest, opens, plain, found, start⟩ := opens_addEntry document first
  have apart := gap_head?_append (filled first List.mem_cons_self) rest
  have run := lines_addEntries_of_header start plain found apart
    fun entry member => filled entry (List.mem_cons_of_mem _ member)
  have whole : (document.addEntries (first :: later)).lines =
      above ++ header :: (stacked (first :: later) ++ rest) := by
    rw [addEntries, List.foldl_cons, ← addEntries, run, stacked, List.reverse_cons, List.map_append,
      List.map_singleton, intercalate_concat, List.flatMap_map, List.append_assoc]
  refine ⟨above ++ [header], rest, opens, ?_, ?_⟩
  · rw [whole, List.append_assoc, List.singleton_append]
  · rw [whole, findIdx?_isHeader plain found]
    simp

def sectionless : Document := ⟨.ofText "a.spec".toList, "Name: x\n".toList⟩

def headedEntries : List Text := ["* a\n %ChangeLog".toList, "* b\n\n- c".toList]

theorem lines_addEntries_headedEntries :
    headedEntries ≠ [] ∧ (∀ entry ∈ headedEntries, startsFilled entry = true) ∧
      ∃ top rest, Opens sectionless.lines top rest ∧
        (sectionless.addEntries headedEntries).lines = top ++ (stacked headedEntries ++ rest) ∧
        (sectionless.addEntries headedEntries).lines.findIdx? isHeader = some (top.length - 1) := by
  have filled : ∀ entry ∈ headedEntries, startsFilled entry = true := by decide
  exact ⟨by decide, filled, lines_addEntries sectionless (by decide) filled⟩

example : (sectionless.addEntries headedEntries).text =
    "Name: x\n\n%changelog\n* b\n\n- c\n\n* a\n %ChangeLog\n".toList := by
  decide +kernel

end Document

end Specfile
