import Specfile.Proofs.Entry
import Specfile.Proofs.Macro.Grammar
import Specfile.Proofs.Macro.Vanishing
import Specfile.Proofs.Release.Site
import Specfile.Proofs.Tags

/-! Which lines an entry is generated from. The values of the tags are read from the last line of
each, and the macros from the lines with a definition, so other lines can come and go. The required
tags are checked as they are written: one that is filled with macros without a value passes, and
leaves its place in the entry empty. -/

set_option autoImplicit false

namespace Specfile

namespace Tags

def afterColon (line : Text) : Text := (line.dropWhile (· != ':')).tail

/-- The value of a tag is what stands, between blanks, behind the first colon of the last line that
starts with the tag and a colon. Without such a line it is empty. -/
inductive IsRaw (tag : Text) (lines : List Text) : Text → Prop where
  | last {above below : List Text} {line : Text} (cut : lines = above ++ line :: below)
      (starts : tag ++ [':'] <+: line) (later : ∀ row ∈ below, ¬ tag ++ [':'] <+: row) :
      IsRaw tag lines (afterColon line).trim
  | absent (none : ∀ row ∈ lines, ¬ tag ++ [':'] <+: row) : IsRaw tag lines []

theorem exists_isRaw (tag : Text) (lines : List Text) : ∃ value, IsRaw tag lines value := by
  induction lines with
  | nil => exact ⟨[], .absent (by simp)⟩
  | cons line below ih =>
    obtain ⟨value, raw⟩ := ih
    -- A line counts unless one below it starts with the tag as well.
    cases raw with
    | @last above later row cut starts hidden =>
      have longer : line :: below = (line :: above) ++ row :: later := by rw [cut, List.cons_append]
      exact ⟨_, .last longer starts hidden⟩
    | absent none =>
      by_cases starts : tag ++ [':'] <+: line
      · exact ⟨_, .last (List.nil_append _).symm starts none⟩
      · exact ⟨[], .absent (List.forall_mem_cons.2 ⟨starts, none⟩)⟩

section
variable {tag : Text} (plain : ':' ∉ tag)
include plain

theorem valueOn?_of_prefix {line : Text} (starts : tag ++ [':'] <+: line) :
    valueOn? tag line = some (afterColon line).trim := by
  obtain ⟨rest, rfl⟩ := starts
  have behind : afterColon (tag ++ ':' :: rest) = rest := by
    rw [afterColon, Release.Line.dropWhile_colon plain]
    rfl
  rw [List.append_assoc, List.singleton_append, behind]
  exact valueOn?_append tag rest

theorem IsRaw.eq_lastValue {lines : List Text} {value : Text} (raw : IsRaw tag lines value) :
    value = lastValue tag lines := by
  rw [lastValue_eq]
  cases raw with
  | last cut starts later =>
    rw [cut, last?_append, last?_cons, last?_eq_none_iff.2 later, valueOn?_of_prefix plain starts]
    rfl
  | absent none =>
    rw [last?_eq_none_iff.2 none]
    rfl

theorem isRaw_lastValue (lines : List Text) : IsRaw tag lines (lastValue tag lines) := by
  obtain ⟨value, raw⟩ := exists_isRaw tag lines
  exact raw.eq_lastValue plain ▸ raw

end

theorem missing_eq_nil_iff {tags : Tags} :
    tags.missing = [] ↔ tags.version ≠ [] ∧ tags.release ≠ [] := by
  have filled (value name : Text) : (if value = [] then [name] else []) = [] ↔ value ≠ [] := by
    by_cases empty : value = [] <;> simp [empty]
  rw [missing, List.append_eq_nil_iff]
  exact and_congr (filled _ _) (filled _ _)

end Tags

namespace Entry

/-- The line neither starts with a tag nor holds a definition. -/
structure IsUnread (row : Text) : Prop where
  tags : ∀ tag ∈ ["Version".toList, "Release".toList, "Epoch".toList], ¬ tag ++ [':'] <+: row
  macros : Macro.Definition.first? row = none

/-- Rows that others become when unread rows are put in and taken out, one after another. -/
inductive Rewritten (rows : List Text) : List Text → Prop where
  | same : Rewritten rows rows
  | insert {above below : List Text} {row : Text} (before : Rewritten rows (above ++ below))
      (unread : IsUnread row) : Rewritten rows (above ++ row :: below)
  | delete {above below : List Text} {row : Text} (before : Rewritten rows (above ++ row :: below))
      (unread : IsUnread row) : Rewritten rows (above ++ below)

theorem Rewritten.filterMap_eq {α : Type} {read : Text → Option α} {rows others : List Text}
    (mute : ∀ row, IsUnread row → read row = none) (rewritten : Rewritten rows others) :
    others.filterMap read = rows.filterMap read := by
  induction rewritten with
  | same => rfl
  | insert before unread ih | delete before unread ih =>
    rw [← ih, List.filterMap_append, List.filterMap_append,
      List.filterMap_cons_none (mute _ unread)]

theorem Rewritten.tags_eq {rows others : List Text} (rewritten : Rewritten rows others) :
    Tags.ofLines others = Tags.ofLines rows := by
  have value {tag : Text} (known : tag ∈ ["Version".toList, "Release".toList, "Epoch".toList]) :
      Tags.lastValue tag others = Tags.lastValue tag rows := by
    rw [Tags.lastValue, rewritten.filterMap_eq fun row unread =>
      Tags.valueOn?_eq_none_iff.2 (unread.tags tag known)]
    rfl
  rw [Tags.ofLines, value (by simp), value (by simp), value (by simp)]
  rfl

theorem Rewritten.table_eq {rows others : List Text} (rewritten : Rewritten rows others) :
    Macro.Table.ofLines others = .ofLines rows := by
  rw [Macro.Table.ofLines, rewritten.filterMap_eq fun row unread => unread.macros]
  rfl

theorem Rewritten.generate_eq {text other : Text} (rewritten : Rewritten text.lines other.lines)
    (date : Text) (identity : Identity) :
    generate other date identity = generate text date identity := by
  simp only [generate, requireTags, rewritten.tags_eq, rewritten.table_eq]

theorem generate_eq_ite (text date : Text) (identity : Identity) :
    let tags := Tags.ofLines text.lines
    generate text date identity =
      if tags.missing = [] then .ok (render (evr (.ofLines text.lines) tags) date identity)
      else .error (.tagsMissing tags.missing) := by
  intro tags
  simp only [generate, requireTags]
  split <;> rfl

theorem evr_eq (table : Macro.Table) (tags : Tags) :
    let value := Macro.expand table
    evr table tags =
      (if value tags.epoch = [] then [] else value tags.epoch ++ [':'])
        ++ value tags.version ++ '-' :: value tags.release := by
  intro value
  unfold evr
  split
  · rename_i none
    simp [value, none]
  · rename_i filled
    simp [value, if_neg filled]

/-- An entry is generated from the last lines of the tags and from the definitions: an error names
the required tags without a value, and without such tags the entry has the day, the packager and
the expanded values. Lines that are not read make no difference. -/
theorem generate_reads (text date : Text) (identity : Identity) :
    (∃ version release epoch,
      Tags.IsRaw "Version".toList text.lines version ∧
      Tags.IsRaw "Release".toList text.lines release ∧
      Tags.IsRaw "Epoch".toList text.lines epoch ∧
      let missing := (if version = [] then ["Version".toList] else [])
        ++ (if release = [] then ["Release".toList] else [])
      let value := Macro.expand (.ofLines text.lines)
      let evr := (if value epoch = [] then [] else value epoch ++ [':'])
        ++ value version ++ '-' :: value release
      generate text date identity =
        if missing = [] then
          .ok ("* ".toList ++ date ++ ' ' :: identity.name ++ " <".toList ++ identity.email
            ++ "> - ".toList ++ evr ++ "\n- ".toList)
        else .error (.tagsMissing missing)) ∧
    ∀ other : Text, Rewritten text.lines other.lines →
      generate other date identity = generate text date identity := by
  refine ⟨⟨_, _, _, Tags.isRaw_lastValue (by decide) _, Tags.isRaw_lastValue (by decide) _,
    Tags.isRaw_lastValue (by decide) _, ?_⟩,
    fun other rewritten => rewritten.generate_eq date identity⟩
  intro missing value evr
  have named : Entry.evr (.ofLines text.lines) (.ofLines text.lines) = evr := evr_eq _ _
  have entry : render evr date identity =
      "* ".toList ++ date ++ ' ' :: identity.name ++ " <".toList ++ identity.email
        ++ "> - ".toList ++ evr ++ "\n- ".toList := by
    simp [render_eq, heading]
  rw [generate_eq_ite, named, entry]
  rfl

def taggedText : Text := "%global v 1.2\nVersion: 9\nVersion: %\x7bv\x7d \nRelease: 4\n".toList

def commentedText : Text :=
  "# tags\n%global v 1.2\nVersion: 9\nVersion: %\x7bv\x7d \n Release: 5\nRelease: 4".toList

theorem generate_reads_commentedText :
    let date := "Mon Mar 10 2025".toList
    let identity : Identity := ⟨"Jane Doe".toList, "j@x".toList⟩
    Rewritten taggedText.lines commentedText.lines ∧
      generate commentedText date identity = generate taggedText date identity ∧
      generate taggedText date identity =
        .ok "* Mon Mar 10 2025 Jane Doe <j@x> - 1.2-4\n- ".toList := by
  intro date identity
  have rewritten : Rewritten taggedText.lines commentedText.lines := by
    let top := ["%global v 1.2".toList, "Version: 9".toList, "Version: %\x7bv\x7d ".toList]
    have before : taggedText.lines = top ++ ["Release: 4".toList] ++ [] :: [] := by decide +kernel
    have after : commentedText.lines = [] ++ "# tags".toList ::
        (top ++ " Release: 5".toList :: ["Release: 4".toList]) := by decide +kernel
    have whole : Rewritten taggedText.lines (top ++ ["Release: 4".toList] ++ [] :: []) :=
      before ▸ .same
    have shorter := whole.delete ⟨by decide +kernel, by decide +kernel⟩
    rw [List.append_nil] at shorter
    have indented : Rewritten taggedText.lines
        (top ++ " Release: 5".toList :: ["Release: 4".toList]) :=
      shorter.insert ⟨by decide +kernel, by decide +kernel⟩
    rw [after]
    exact .insert indented ⟨by decide +kernel, by decide +kernel⟩
  exact ⟨rewritten, (generate_reads taggedText date identity).2 _ rewritten, by decide +kernel⟩

-- A later blank tag hides an earlier one.
example :
    generate "Version: 1\nVersion:\t\nRelease: 2".toList [] ⟨[], []⟩ =
      .error (.tagsMissing ["Version".toList]) := by
  decide +kernel

/-- The version and the release in an entry are filled as they are written. Expanded, one of them is
empty exactly when it vanishes, and then some line defines a macro as blanks. -/
theorem generate_vanishes_iff {text date entry : Text} {identity : Identity}
    (made : generate text date identity = .ok entry) :
    let table : Macro.Table := .ofLines text.lines
    let tags := Tags.ofLines text.lines
    entry = render (evr table tags) date identity ∧
      ∀ value ∈ [tags.version, tags.release], value ≠ [] ∧
        (Macro.expand table value = [] ↔ table.Vanishes value) ∧
        (Macro.expand table value = [] →
          ∃ line ∈ text.lines, ∃ name, Macro.Definition.first? line = some ⟨name, []⟩) := by
  intro table tags
  obtain ⟨complete, rfl⟩ := generate_eq_ok_iff.1 made
  obtain ⟨version, release⟩ := Tags.missing_eq_nil_iff.1 complete
  refine ⟨rfl, fun value member => ?_⟩
  have filled : value ≠ [] := by
    simp only [List.mem_cons, List.not_mem_nil, or_false] at member
    rcases member with rfl | rfl
    · exact version
    · exact release
  refine ⟨filled, Macro.expand_eq_nil_iff, fun empty => ?_⟩
  -- A filled text vanishes only where some macro on the way has an empty value.
  obtain ⟨name, blank⟩ := (Macro.expand_eq_nil_iff.1 empty).eq_nil_or_exists.resolve_left filled
  obtain ⟨above, line, below, cut, first, -⟩ := Macro.Table.lookup?_ofLines_eq_some_iff.1 blank
  exact ⟨line, cut ▸ List.mem_append_right above List.mem_cons_self, name, first⟩

def vanishingText : Text :=
  "%global a %\x7bb\x7d%\x7bb\x7d\n%define b \t\nVersion: %\x7ba\x7d\nRelease: 4%\x7ba\x7d".toList

theorem generate_vanishes_iff_nested :
    let date := "Mon Mar 10 2025".toList
    let identity : Identity := ⟨"Jane Doe".toList, "j@x".toList⟩
    let table : Macro.Table := .ofLines (Text.lines vanishingText)
    generate vanishingText date identity =
        .ok "* Mon Mar 10 2025 Jane Doe <j@x> - -4\n- ".toList ∧
      table.Vanishes "%\x7ba\x7d".toList ∧ ¬ table.Vanishes "4%\x7ba\x7d".toList := by
  intro date identity table
  have made : generate vanishingText date identity =
      .ok "* Mon Mar 10 2025 Jane Doe <j@x> - -4\n- ".toList := by
    decide +kernel
  obtain ⟨-, parts⟩ := generate_vanishes_iff made
  have version := parts "%\x7ba\x7d".toList (by decide +kernel)
  have release := parts "4%\x7ba\x7d".toList (by decide +kernel)
  exact ⟨made, version.2.1.1 (by decide +kernel),
    fun gone => absurd (release.2.1.2 gone) (by decide +kernel)⟩

def blankVersion : Text := "%global v  \nVersion: %\x7bv\x7d\nRelease: 4\n".toList

/-- The required tags are written, so an entry is made; the version in it is empty. -/
theorem generate_blankVersion :
    let identity : Identity := ⟨"Jane Doe".toList, "jane@example.com".toList⟩
    let tags := Tags.ofLines (Text.lines blankVersion)
    generate blankVersion "Mon Mar 10 2025".toList identity =
        .ok "* Mon Mar 10 2025 Jane Doe <jane@example.com> - -4\n- ".toList ∧
      Macro.expand (.ofLines (Text.lines blankVersion)) tags.version = [] := by
  decide +kernel

end Entry

end Specfile
