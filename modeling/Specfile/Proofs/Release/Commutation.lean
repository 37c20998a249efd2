import Specfile.Proofs.Document.Placement
import Specfile.Proofs.Release.Footprint

/-! A bump and a new entry do not get in each other's way. The lines of an entry are neither
release lines nor tags nor definitions, so a bump finds the same site around them; and the
bumped line looks the same as before, so the entry goes to the same place. -/

set_option autoImplicit false

namespace Specfile.Release

/-- A line that is read neither as a release line nor as a tag nor as a definition. -/
structure IsMute (row : Text) : Prop where
  release : Line.ofText? 0 row = none
  tags : ∀ tag ∈ ["Version".toList, "Release".toList, "Epoch".toList], Tags.valueOn? tag row = none
  macros : Macro.Definition.first? row = none

/-- The same change once rows have been put in: its line moves down if it is below them. -/
def Change.afterInsert (change : Change) (place count : Nat) : Change :=
  { change with index := if place ≤ change.index then change.index + count else change.index }

theorem isMute_of_mark {mark : Char} (marks : mark = '*' ∨ mark = '-') {rest : Text}
    (plain : Macro.Definition.first? (mark :: rest) = none) : IsMute (mark :: rest) where
  release := by
    cases found : Line.ofText? 0 (mark :: rest) with
    | none => rfl
    | some line =>
      obtain ⟨tag, valuePart, release, whole, -⟩ := Line.exists_tag_of_ofText? found
      cases tag with
      | nil =>
        have same : mark = ':' := (List.cons.inj whole).1
        rcases marks with rfl | rfl <;> cases same
      | cons first tag =>
        -- Neither mark is a letter of the release tag.
        have same : mark = first := (List.cons.inj whole).1
        subst same
        rcases marks with rfl | rfl
        · exact absurd (release.toLower_mem List.mem_cons_self (by decide)) (by decide)
        · exact absurd (release.toLower_mem List.mem_cons_self (by decide)) (by decide)
  tags := by
    intro tag member
    rw [Tags.valueOn?_eq_none_iff]
    rintro ⟨after, whole⟩
    simp only [List.mem_cons, List.not_mem_nil, or_false] at member
    rcases member with rfl | rfl | rfl <;> rcases marks with rfl | rfl <;> simp at whole
  macros := plain

namespace Site

theorem colon_mem_trim_row (site : Site) : ':' ∈ site.row.trim :=
  Text.mem_trim (by simp [row]) (by decide)

theorem isHeader_row (site : Site) : Document.isHeader site.row = false := by
  apply decide_eq_false
  intro same
  have lowered : ':'.toLower ∈ Text.lower site.row.trim :=
    List.mem_map_of_mem site.colon_mem_trim_row
  rw [same] at lowered
  exact absurd lowered (by decide)

theorem look_row (site : Site) : Document.look site.row = ⟨false, true, false⟩ := by
  have filled : site.row.trim ≠ [] := List.ne_nil_of_mem site.colon_mem_trim_row
  have inhabited : site.row ≠ [] := by simp [row]
  rw [Document.look, site.isHeader_row, decide_eq_true filled, decide_eq_false inhabited]

theorem map_look_withValue (site : Site) (valuePart : Text) :
    (site.withValue valuePart).rows.map Document.look = site.rows.map Document.look := by
  simp only [rows, List.map_append, List.map_cons, look_row]
  rfl

section
variable (site : Site) (place : Nat) (block : List Text)
  (mute : ∀ row ∈ block, Line.ofText? 0 row = none)

def insert : Site :=
  if place ≤ site.above.length then
    { site with
      above := insertRows place block site.above
      first := fun row member => (mem_insertRows member).elim (mute row) (site.first row) }
  else { site with below := insertRows (place - (site.above.length + 1)) block site.below }

theorem rows_insert : (site.insert place block mute).rows = insertRows place block site.rows := by
  unfold insert
  split
  · rename_i higher
    exact (insertRows_append_of_le higher block (site.row :: site.below)).symm
  · -- The release line and those above it stand in front of the place.
    rename_i lower
    obtain ⟨below, rfl⟩ := Nat.exists_eq_add_of_lt (Nat.not_le.1 lower)
    have front := insertRows_append_add (site.above ++ [site.row]) block site.below below
    have left : site.above.length + below + 1 - (site.above.length + 1) = below := by omega
    have length : (site.above ++ [site.row]).length + below = site.above.length + below + 1 := by
      simp
      omega
    rw [length, List.append_assoc, List.append_assoc] at front
    rw [left]
    exact front.symm

theorem withValue_insert (valuePart : Text) :
    (site.insert place block mute).withValue valuePart =
      (site.withValue valuePart).insert place block mute := by
  by_cases higher : place ≤ site.above.length
  · simp [insert, withValue, higher]
  · simp [insert, withValue, higher]

theorem valuePart_insert : (site.insert place block mute).valuePart = site.valuePart := by
  unfold insert
  split <;> rfl

theorem row_insert : (site.insert place block mute).row = site.row := by
  unfold insert
  split <;> rfl

theorem length_above_insert :
    (site.insert place block mute).above.length =
      if place ≤ site.above.length then site.above.length + block.length
      else site.above.length := by
  unfold insert
  split
  · rename_i higher
    simp [insertRows]
    omega
  · rfl

theorem table_insert (plain : ∀ row ∈ block, Macro.Definition.first? row = none) :
    (site.insert place block mute).table = site.table := by
  rw [table, rows_insert, Macro.Table.ofLines, filterMap_insertRows plain]
  rfl

theorem numbered_insert (counter : Counter) (number : Int) :
    (site.insert place block mute).numbered counter number =
      (site.numbered counter number).insert place block mute := by
  rw [numbered, valuePart_insert, withValue_insert]
  rfl

theorem change_insert (counter : Counter) :
    (site.insert place block mute).change counter =
      (site.change counter).afterInsert place block.length := by
  have index : ((site.insert place block mute).above.length : Int) =
      if (place : Int) ≤ site.above.length then (site.above.length : Int) + block.length
      else site.above.length := by
    rw [length_above_insert]
    split <;> split <;> omega
  have next : ((site.insert place block mute).numbered counter (counter.number + 1)).row =
      (site.numbered counter (counter.number + 1)).row := by
    rw [numbered_insert, row_insert]
  simp only [change, row_insert, valuePart_insert, next, index]
  rfl

theorem bumps_insert (plain : ∀ row ∈ block, Macro.Definition.first? row = none)
    {counter : Counter} (bumps : site.Bumps counter) :
    (site.insert place block mute).Bumps counter where
  counted := by
    rw [table_insert _ _ _ _ plain, valuePart_insert]
    exact bumps.counted
  readable := bumps.readable
  writable := bumps.writable

end

end Site

/-- An entry of a header line and a line for a message, neither of them with a definition. -/
structure IsEntry (entry : Text) : Prop where
  rows : ∃ header message, entry.lines = ['*' :: ' ' :: header, '-' :: ' ' :: message]
  macros : ∀ row ∈ entry.lines, Macro.Definition.first? row = none

theorem isMute_of_mem_block {document : Document} {entry : Text} (shape : IsEntry entry) :
    ∀ row ∈ document.block entry, IsMute row := by
  intro row member
  -- A blank line, the header of the section, or one of the two lines of the entry.
  rcases Document.mem_block member with rfl | rfl | member
  · exact ⟨rfl, by decide, rfl⟩
  · exact ⟨by decide, by decide, by decide⟩
  · obtain ⟨header, message, rows⟩ := shape.rows
    have macros := shape.macros row member
    rw [rows] at member
    simp only [List.mem_cons, List.not_mem_nil, or_false] at member
    rcases member with rfl | rfl
    · exact isMute_of_mark (.inl rfl) macros
    · exact isMute_of_mark (.inr rfl) macros

theorem tags_insertRows {block : List Text} (mute : ∀ row ∈ block, IsMute row) (place : Nat)
    (rows : List Text) : Tags.ofLines (insertRows place block rows) = Tags.ofLines rows := by
  have same {tag : Text} (known : tag ∈ ["Version".toList, "Release".toList, "Epoch".toList]) :
      Tags.lastValue tag (insertRows place block rows) = Tags.lastValue tag rows := by
    rw [Tags.lastValue, filterMap_insertRows fun row member => (mute row member).tags tag known]
    rfl
  simp only [Tags.ofLines]
  rw [same (by simp), same (by simp), same (by simp)]

end Specfile.Release

namespace Specfile.Document
open Release

theorem addEntry_withLines {document : Document} {site : Site} (rows : site.rows = document.lines)
    (valuePart entry : Text) (lines : AreLines (site.withValue valuePart).rows) :
    (document.withLines (site.withValue valuePart).rows).addEntry entry =
      document.withLines (insertRows document.place (document.block entry)
        (site.withValue valuePart).rows) := by
  -- Place and block are read off the looks, and the release line keeps its look.
  have looks : (document.withLines (site.withValue valuePart).rows).lines.map look =
      document.lines.map look := by
    rw [document.lines_withLines lines, site.map_look_withValue, rows]
  have samePlace : (document.withLines (site.withValue valuePart).rows).place = document.place := by
    rw [place, looks]
    rfl
  have sameBlock : (document.withLines (site.withValue valuePart).rows).block entry =
      document.block entry := by
    rw [block, looks]
    rfl
  rw [addEntry_eq, samePlace, sameBlock, document.lines_withLines lines, withLines_withLines]

end Specfile.Document

namespace Specfile.Edit
open Release

section
variable {document : Document} {site : Site} {counter : Counter} {entry : Text}
  (rows : site.rows = document.lines) (bumps : site.Bumps counter)
  (mute : ∀ row ∈ document.block entry, IsMute row)
include rows

theorem rows_insert_addEntry :
    (site.insert document.place (document.block entry)
      fun row member => (mute row member).release).rows = (document.addEntry entry).lines := by
  rw [Site.rows_insert, rows, Document.lines_addEntry]

include bumps mute

theorem plan_addEntry :
    plan (document.addEntry entry).lines =
      .ok ((site.change counter).afterInsert document.place (document.block entry).length) := by
  have release := fun row member => (mute row member).release
  have macros := fun row member => (mute row member).macros
  refine plan_eq_ok_iff.2 ⟨_, counter, ?_, rows_insert_addEntry rows mute, ?_⟩
  · exact site.bumps_insert document.place (document.block entry) release macros bumps
  · exact (site.change_insert _ _ release counter).symm

theorem addEntry_ofChange (dryRun : Bool) :
    (ofChange dryRun document (site.change counter)).document.addEntry entry =
      (ofChange dryRun (document.addEntry entry) ((site.change counter).afterInsert document.place
        (document.block entry).length)).document := by
  have release := fun row member => (mute row member).release
  have plain := Site.areLines_numbered (rows ▸ document.areLines) bumps.counted
    (counter.number + 1)
  -- The entry goes in at the same place before and after, since the bump changes no look.
  calc
    (ofChange dryRun document (site.change counter)).document.addEntry entry
      = (document.withLines
          (site.numbered counter (counter.number + 1)).rows).addEntry entry := by
        rw [document_ofChange rows]
    _ = document.withLines (insertRows document.place (document.block entry)
          (site.numbered counter (counter.number + 1)).rows) :=
        Document.addEntry_withLines rows _ entry plain
    _ = (document.addEntry entry).withLines ((site.insert document.place _ release).numbered
          counter (counter.number + 1)).rows := by
        rw [Site.numbered_insert, Site.rows_insert]
        simp only [Document.addEntry_eq, Document.withLines_withLines]
    _ = (ofChange dryRun (document.addEntry entry) _).document := by
        rw [← document_ofChange (rows_insert_addEntry rows mute), Site.change_insert]

end

/-- An entry leaves the tags, the macros and the planned bump as they are, save that the bumped
line moves down when the entry goes above it; and bump and entry give one text in either order. -/
theorem bump_addEntry_comm {document : Document} {change : Change} {entry : Text}
    (planned : plan document.lines = .ok change) (shape : IsEntry entry) :
    let added := document.addEntry entry
    let moved := change.afterInsert document.place (document.block entry).length
    added.lines = insertRows document.place (document.block entry) document.lines ∧
      Tags.ofLines added.lines = Tags.ofLines document.lines ∧
      Macro.Table.ofLines added.lines = .ofLines document.lines ∧
      plan added.lines = .ok moved ∧
      ∀ dryRun, ∃ bumped after,
        bump dryRun document = .ok (bumped, change) ∧ bump dryRun added = .ok (after, moved) ∧
        bumped.document.addEntry entry = after.document := by
  intro added moved
  have mute : ∀ row ∈ document.block entry, IsMute row := isMute_of_mem_block shape
  have lines : added.lines = _ := document.lines_addEntry entry
  obtain ⟨site, counter, bumps, rows, rfl⟩ := plan_eq_ok_iff.1 planned
  -- With the lines of the block in between, the lines are still those of a site.
  have planMoved : plan added.lines = .ok moved := plan_addEntry rows bumps mute
  refine ⟨lines, lines ▸ tags_insertRows mute _ _, ?_, planMoved, ?_⟩
  · rw [← rows_insert_addEntry rows mute, ← rows]
    exact site.table_insert _ _ _ fun row member => (mute row member).macros
  · intro dryRun
    exact ⟨_, _, bump_rows rows bumps dryRun, bump_eq_ok_iff.2 ⟨planMoved, rfl⟩,
      addEntry_ofChange rows bumps mute dryRun⟩

def releaseUnderHeader : Document where
  path := Path.ofText "a.spec".toList
  text := "%Changelog\nRELEASE: 09.fc\nVersion: 2\n".toList

def sampleEntry : Text := "* Mon Mar 10 2025 A <a@b> - 2-9\n- Release: x".toList

theorem bump_addEntry_comm_releaseUnderHeader :
    ∃ change, plan releaseUnderHeader.lines = .ok change ∧ IsEntry sampleEntry ∧
      plan (releaseUnderHeader.addEntry sampleEntry).lines = .ok { change with index := 4 } ∧
      ∃ bumped after, bump false releaseUnderHeader = .ok (bumped, change) ∧
        bump false (releaseUnderHeader.addEntry sampleEntry) =
          .ok (after, { change with index := 4 }) ∧
        bumped.document.addEntry sampleEntry = after.document := by
  have shape : IsEntry sampleEntry := ⟨⟨_, _, rfl⟩, by decide⟩
  have second : (plan releaseUnderHeader.lines).toOption.map Change.index = some 1 := by
    decide +kernel
  obtain ⟨change, planned, index⟩ := exists_of_toOption_map second
  have moved : change.afterInsert releaseUnderHeader.place
      (releaseUnderHeader.block sampleEntry).length = { change with index := 4 } := by
    rw [Change.afterInsert, index]
    rfl
  obtain ⟨-, -, -, replanned, both⟩ := bump_addEntry_comm planned shape
  rw [moved] at replanned both
  exact ⟨change, planned, shape, replanned, both false⟩

end Specfile.Edit
