import Specfile.Proofs.Release.Change
import Specfile.Proofs.Tags

/-! What the rest of the program sees of a bump. Definitions begin with a percent sign: on the
bumped line they stand behind the number or, where the number was found by expansion, nowhere.
So the macros stay the same, and of the tags only the release can change. -/

set_option autoImplicit false

namespace Specfile.Release

theorem percent_notMem_of_integer? {text : Text} {found : Bool × Text}
    (integer : integer? text = some found) : '%' ∉ text := by
  intro member
  unfold integer? at integer
  split at integer
  rename_i negative digits cut
  split at integer
  · rename_i all
    have absent : '%' ∉ digits := fun inside => by
      have digit := List.all_eq_true.1 all.2 '%' inside
      revert digit
      decide
    -- A sign at most stands in front of the digits.
    split at cut <;> cases cut <;> simp_all
  · cases integer

theorem first?_counted_append {table : Macro.Table} {core : Text} {counter : Counter}
    (named : ∀ name ∈ table.names, '%' ∉ name) (counted : counter? table core = some counter)
    (rest : Text) :
    Macro.Definition.first? (core ++ rest) = Macro.Definition.first? (counter.rest ++ rest) := by
  unfold counter? at counted
  split at counted
  · -- Found by expansion: an integer holds no percent sign, hence neither does the expansion.
    obtain ⟨found, integer, same⟩ := Option.map_eq_some_iff.1 counted
    cases same
    have gone : '%' ∉ Macro.expand table core := by
      rw [← Text.leading_append_trim_append_trailing (Macro.expand table core)]
      simp only [List.mem_append, not_or]
      exact ⟨Text.notMem_leading (by decide) _, percent_notMem_of_integer? integer,
        Text.notMem_trailing (by decide) _⟩
    exact Macro.Definition.first?_append_of_expand named gone rest
  · rename_i digits cut
    cases counted
    -- Found in front: digits begin no definition, so the search goes on behind them.
    have plain : '%' ∉ core.takeWhile Char.isDigit := fun member =>
      absurd (List.mem_takeWhile_imp member) (by decide)
    have split : core ++ rest =
        core.takeWhile Char.isDigit ++ (core.dropWhile Char.isDigit ++ rest) := by
      rw [← List.append_assoc, List.takeWhile_append_dropWhile]
    rw [split, Macro.Definition.first?_append plain]

theorem IsTag.percent_notMem {tag : Text} (release : IsTag tag) : '%' ∉ tag :=
  fun member => absurd (release.toLower_mem member (by decide)) (by decide)

namespace Site

variable {site : Site} {counter : Counter}
  (counted : counter? site.table site.valuePart.trim = some counter) (number : Int)
include counted

theorem first?_row_numbered :
    Macro.Definition.first? (site.numbered counter number).row =
      Macro.Definition.first? site.row := by
  have front : '%' ∉ site.tag ++ ':' :: site.valuePart.leading := by
    have blank : '%' ∉ site.valuePart.leading := Text.notMem_leading (by decide) _
    simp [site.release.percent_notMem, blank]
  have digits : '%' ∉ Numeral.signed number := Numeral.notMem_signed (by decide) (by decide)
  -- Both rows begin without a percent sign, and go on with the same definitions.
  have named : ∀ name ∈ site.table.names, '%' ∉ name :=
    fun _ => Macro.Table.percent_notMem_of_mem_names
  have before : site.row = (site.tag ++ ':' :: site.valuePart.leading)
      ++ (site.valuePart.trim ++ site.valuePart.trailing) := by
    simp [row, Text.leading_append_trim_append_trailing]
  have after : (site.numbered counter number).row =
      (site.tag ++ ':' :: site.valuePart.leading)
        ++ (Numeral.signed number ++ (counter.rest ++ site.valuePart.trailing)) := by
    simp [row, numbered, withValue, Counter.valueAt]
  rw [before, after, Macro.Definition.first?_append front, Macro.Definition.first?_append digits,
    Macro.Definition.first?_append front, first?_counted_append named counted]

theorem table_numbered : (site.numbered counter number).table = site.table := by
  have same := first?_row_numbered counted number
  simp only [table, rows, Macro.Table.ofLines, List.filterMap_append, List.filterMap_cons, same]
  rfl

end Site

namespace Site

theorem prefix_row_iff (site : Site) {name : Text} (plain : ':' ∉ name) :
    name ++ [':'] <+: site.row ↔ name = site.tag := by
  constructor
  · rintro ⟨rest, whole⟩
    have cut := Line.takeWhile_colon plain rest
    have whole : name ++ ':' :: rest = site.row := by simpa using whole
    rw [whole, row, Line.takeWhile_colon site.release.plain] at cut
    exact cut.symm
  · rintro rfl
    exact ⟨site.valuePart, by simp [row]⟩

theorem last?_rows (site : Site) {name : Text} (plain : ':' ∉ name) :
    Tags.last? name site.rows =
      ((Tags.last? name site.below).or
        (if name = site.tag then some site.valuePart.trim else none)).or
        (Tags.last? name site.above) := by
  rw [rows, Tags.last?_append, Tags.last?_cons]
  congr 2
  split
  · rename_i same
    rw [row, ← same, Tags.valueOn?_append]
  · rename_i other
    rwa [Tags.valueOn?_eq_none_iff, site.prefix_row_iff plain]

theorem lastValue_rows (site : Site) {name : Text} (plain : ':' ∉ name) (same : name = site.tag)
    (later : Tags.last? name site.below = none) :
    Tags.lastValue name site.rows = site.valuePart.trim := by
  rw [Tags.lastValue_eq, site.last?_rows plain, later, if_pos same]
  rfl

theorem lastValue_withValue (site : Site) {name : Text} (plain : ':' ∉ name)
    (elsewhere : ¬ (name = site.tag ∧ Tags.last? name site.below = none)) (valuePart : Text) :
    Tags.lastValue name (site.withValue valuePart).rows = Tags.lastValue name site.rows := by
  have after : Tags.last? name (site.withValue valuePart).rows =
      ((Tags.last? name site.below).or (if name = site.tag then some valuePart.trim else none)).or
        (Tags.last? name site.above) := last?_rows (site.withValue valuePart) plain
  rw [Tags.lastValue_eq, Tags.lastValue_eq, after, site.last?_rows plain]
  -- A later line hides the release line, whatever the value on it.
  cases later : Tags.last? name site.below with
  | some value => rfl
  | none =>
    have other : name ≠ site.tag := fun same => elsewhere ⟨same, later⟩
    rw [if_neg other, if_neg other]

theorem tag_ne (site : Site) {name : Text} (named : Text.lower name.trim ≠ "release".toList) :
    name ≠ site.tag := by
  rintro rfl
  exact named site.release.named

theorem isLastAt_iff (site : Site) {name : Text} (plain : ':' ∉ name) :
    Tags.IsLastAt name site.rows site.above.length ↔
      name = site.tag ∧ Tags.last? name site.below = none := by
  have here : site.rows[site.above.length]? = some site.row := by simp [rows]
  have below : site.rows.drop (site.above.length + 1) = site.below := by
    simp [rows, ← List.drop_drop]
  rw [Tags.last?_eq_none_iff, ← site.prefix_row_iff plain]
  -- The line at the place is the release line, so all that is left is that no later one has the
  -- tag.
  constructor
  · rintro ⟨⟨row, member, starts⟩, later⟩
    rw [here] at member
    cases member
    exact ⟨starts, below ▸ later⟩
  · rintro ⟨starts, later⟩
    exact ⟨⟨site.row, here, starts⟩, below.symm ▸ later⟩

end Site

end Specfile.Release

namespace Specfile.Edit
open Release

/-- After a bump the macros, the version and the epoch are the same; the release that entries
read is the new one where the bumped line is the one that they read it from, and the same
elsewhere; and the next bump finds the new value in the same place. -/
theorem bump_footprint {dryRun : Bool} {document : Document} {edit : Edit} {change : Change}
    (bumped : bump dryRun document = .ok (edit, change)) :
    Macro.Table.ofLines edit.document.lines = .ofLines document.lines ∧
      (Tags.ofLines edit.document.lines).version = (Tags.ofLines document.lines).version ∧
      (Tags.ofLines edit.document.lines).epoch = (Tags.ofLines document.lines).epoch ∧
      (Tags.IsLastAt "Release".toList document.lines change.index.toNat →
        (Tags.ofLines edit.document.lines).release = change.newValue) ∧
      (¬ Tags.IsLastAt "Release".toList document.lines change.index.toNat →
        (Tags.ofLines edit.document.lines).release = (Tags.ofLines document.lines).release) ∧
      ∃ line next, Line.first? document.lines = some line ∧
        Line.first? edit.document.lines = some next ∧
        line.index = change.index ∧ next.index = line.index ∧ next.tag = line.tag ∧
        next.tagPart = line.tagPart ∧ next.value = change.newValue := by
  obtain ⟨planned, rfl⟩ := bump_eq_ok_iff.1 bumped
  obtain ⟨site, counter, bumps, rows, rfl⟩ := plan_eq_ok_iff.1 planned
  -- Before and after, the lines are those of one site, with another value on the release line.
  rw [lines_document_ofChange rows bumps.counted dryRun, ← rows]
  have index : (site.change counter).index.toNat = site.above.length := rfl
  rw [index, site.isLastAt_iff (by decide)]
  refine ⟨Site.table_numbered bumps.counted _, ?_, ?_, ?_, ?_, ?_⟩
  · exact site.lastValue_withValue (by decide) (fun last => site.tag_ne (by decide) last.1) _
  · exact site.lastValue_withValue (by decide) (fun last => site.tag_ne (by decide) last.1) _
  · rintro ⟨same, later⟩
    have value := trim_numbered bumps.counted (counter.number + 1)
    exact ((site.numbered counter _).lastValue_rows (by decide) same later).trans value
  · exact fun elsewhere => site.lastValue_withValue (by decide) elsewhere _
  · exact ⟨site.line, (site.numbered counter (counter.number + 1)).line, site.first?_rows,
      Site.first?_rows _, rfl, rfl, rfl, rfl, trim_numbered bumps.counted _⟩

def definingRelease : Document where
  path := Path.ofText "a.spec".toList
  text := "Release: 9%define next 10\nrelease: 3\nVersion: %\x7bnext\x7d".toList

theorem bump_footprint_definingRelease :
    ∃ edit change, bump false definingRelease = .ok (edit, change) ∧
      Tags.IsLastAt "Release".toList definingRelease.lines change.index.toNat ∧
      (Tags.ofLines edit.document.lines).release = "10%define next 10".toList ∧
      Macro.Table.ofLines edit.document.lines = .ofLines definingRelease.lines := by
  have changed : (bump false definingRelease).toOption.map
      (fun made => (made.2.index, made.2.newValue)) = some (0, "10%define next 10".toList) := by
    decide +kernel
  obtain ⟨⟨edit, change⟩, bumped, same⟩ := exists_of_toOption_map changed
  obtain ⟨index, newValue⟩ := Prod.mk.inj same
  have last : Tags.IsLastAt "Release".toList definingRelease.lines change.index.toNat := by
    rw [index]
    exact ⟨⟨_, rfl, by decide⟩, by decide⟩
  obtain ⟨table, -, -, release, -, -⟩ := bump_footprint bumped
  exact ⟨edit, change, bumped, last, (release last).trans newValue, table⟩

end Specfile.Edit
