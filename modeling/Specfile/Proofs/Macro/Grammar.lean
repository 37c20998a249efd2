import Specfile.Proofs.Macro.Cycles
import Specfile.Proofs.Macro.Values
import Mathlib.Data.List.DropRight

/-! The grammar of definitions. The reader finds on every line the definition that begins earliest,
and a table has for each name the value that the last line gives it. Names are runs of word
characters, so references with other characters in them are never replaced. -/

set_option autoImplicit false

namespace Specfile

theorem isBlank_of_isWordChar {c : Char} (word : isWordChar c = true) : isBlank c = false := by
  have none : blanks.all (!isWordChar ·) = true := by decide +kernel
  rw [isBlank, List.contains_eq_mem, decide_eq_false_iff_not]
  intro member
  have other := List.all_eq_true.1 none c member
  simp [word] at other

theorem Text.trim_cons_of_isBlank {c : Char} (blank : isBlank c = true) (text : Text) :
    trim (c :: text) = trim (text.dropWhile isBlank) := by
  rw [trim, trim, List.dropWhile_cons_of_pos blank, List.dropWhile_idempotent]

namespace Macro

/-- The parts of a definition around its name: a keyword, a run of blanks, and what follows the
name, which begins with a blank, has another character and holds the value. -/
structure Definition.HasParts (definition : Definition) (keyword gap rest : Text) : Prop where
  keyword : keyword ∈ ["%global".toList, "%define".toList]
  gap : gap.IsRun isBlank
  name : definition.name.IsRun isWordChar
  ends : ∀ c ∈ rest.head?, isWordChar c = false
  apart : ∃ c ∈ rest.head?, isBlank c = true
  long : 2 ≤ rest.length
  value : definition.value = rest.trim

def Definition.Spells (definition : Definition) (text : Text) : Prop :=
  ∃ keyword gap rest, definition.HasParts keyword gap rest ∧
    text = keyword ++ (gap ++ (definition.name ++ rest))

def Definition.IsFirstIn (definition : Definition) (line : Text) : Prop :=
  ∃ place, definition.Spells (line.drop place) ∧
    ∀ earlier < place, ∀ other : Definition, ¬ other.Spells (line.drop earlier)

theorem afterKeyword?_eq_some_iff {text rest : Text} :
    afterKeyword? text = some rest ↔
      ∃ keyword ∈ ["%global".toList, "%define".toList], text = keyword ++ rest := by
  have other : Text.after? "%global".toList ("%define".toList ++ rest) = none := by
    simp [Text.after?]
  rw [afterKeyword?, Option.orElse_eq_some]
  simp only [Text.after?_eq_some_iff, List.exists_mem_cons_iff, List.not_mem_nil, false_and,
    exists_false, or_false]
  constructor
  · exact fun either => either.imp_right And.right
  · rintro (global | rfl)
    · exact .inl global
    · exact .inr ⟨other, rfl⟩

theorem valueAfterName?_eq_some_iff {text value : Text} (plain : '\n' ∉ text) :
    valueAfterName? text = some value ↔
      (∃ c ∈ text.head?, isBlank c = true) ∧ 2 ≤ text.length ∧ value = text.trim := by
  cases text with
  | nil => simp [valueAfterName?]
  | cons c rest =>
    simp only [List.mem_cons, not_or] at plain
    obtain ⟨-, plain⟩ := plain
    by_cases blank : isBlank c = true
    · have starts : ∃ d ∈ (c :: rest).head?, isBlank d = true := ⟨c, rfl, blank⟩
      rw [Text.trim_cons_of_isBlank blank]
      simp only [valueAfterName?, if_pos blank]
      cases cut : rest.dropWhile isBlank with
      | nil =>
        cases rest with
        | nil => simp
        | cons d rest =>
          -- Without newlines, one more blank is enough for an empty value.
          have other : d ≠ '\n' := fun same => plain (same ▸ List.mem_cons_self)
          have more : (d :: rest).any (· != '\n') = true := by simp [other]
          have long : 2 ≤ (c :: d :: rest).length := by simp
          simp only [if_pos more, Option.some.injEq]
          exact ⟨fun same => ⟨starts, long, same.symm⟩, fun read => read.2.2.symm⟩
      | cons d body =>
        have onLine : ∀ e ∈ d :: body, (e != '\n') = true := by
          intro e member
          rw [bne_iff_ne]
          rintro rfl
          exact plain ((List.dropWhile_sublist _).subset (cut ▸ member))
        have long : 2 ≤ (c :: rest).length := by
          cases rest with
          | nil => cases cut
          | cons => simp
        simp only [List.takeWhile_eq_self_iff.2 onLine, Option.some.injEq]
        exact ⟨fun same => ⟨starts, long, same.symm⟩, fun read => read.2.2.symm⟩
    · simp [valueAfterName?, blank]

namespace Definition

variable {text line : Text} {definition : Definition}

theorem spells_of_startingAt? (plain : '\n' ∉ text) (found : startingAt? text = some definition) :
    definition.Spells text := by
  simp only [startingAt?, Option.bind_eq_bind, Option.bind_eq_some_iff] at found
  obtain ⟨behind, opened, found⟩ := found
  obtain ⟨keyword, known, rfl⟩ := afterKeyword?_eq_some_iff.1 opened
  split at found
  · rename_i guard
    obtain ⟨value, read, same⟩ := Option.bind_eq_some_iff.1 found
    cases same
    obtain ⟨blank, named⟩ := Bool.and_eq_true_iff.1 guard
    -- The three stretches that reading cuts off are the gap, the name and what is behind it.
    let inner := behind.dropWhile isBlank
    have onLine : '\n' ∉ inner.dropWhile isWordChar := by
      intro member
      have inside := (List.dropWhile_sublist _).subset ((List.dropWhile_sublist _).subset member)
      exact plain (List.mem_append_right _ inside)
    obtain ⟨apart, long, value⟩ := (valueAfterName?_eq_some_iff onLine).1 read
    refine ⟨keyword, behind.takeWhile isBlank, inner.dropWhile isWordChar, ?_, ?_⟩
    · constructor
      · exact known
      · exact .of_head? ((Option.any_eq_true _ _).1 blank)
      · exact ⟨by simpa using named, fun c => List.mem_takeWhile_imp⟩
      · exact stops_dropWhile isWordChar inner
      · exact apart
      · exact long
      · exact value
    · rw [List.takeWhile_append_dropWhile, List.takeWhile_append_dropWhile]
  · cases found

theorem startingAt?_of_spells (plain : '\n' ∉ text) (spelled : definition.Spells text) :
    startingAt? text = some definition := by
  obtain ⟨keyword, gap, rest, parts, rfl⟩ := spelled
  simp only [List.mem_append, not_or] at plain
  have opened : afterKeyword? (keyword ++ (gap ++ (definition.name ++ rest))) =
      some (gap ++ (definition.name ++ rest)) :=
    afterKeyword?_eq_some_iff.2 ⟨keyword, parts.keyword, rfl⟩
  -- Each stretch stops where the next one begins, so reading cuts in the same places.
  have solid : ∀ c ∈ (definition.name ++ rest).head?, isBlank c = false :=
    fun _ first => isBlank_of_isWordChar (parts.name.of_mem_head? first)
  have read : valueAfterName? rest = some definition.value :=
    (valueAfterName?_eq_some_iff plain.2.2.2).2 ⟨parts.apart, parts.long, parts.value⟩
  have guard : ((gap ++ (definition.name ++ rest)).head?.any isBlank && !definition.name.isEmpty) =
      true := by
    obtain ⟨c, tail, cut⟩ := List.exists_cons_of_ne_nil parts.gap.inhabited
    have blank := parts.gap.all c (cut ▸ List.mem_cons_self)
    simp [cut, blank, parts.name.inhabited]
  simp only [startingAt?, opened, Option.bind_eq_bind, Option.bind_some,
    dropWhile_append_of_stop parts.gap.all solid,
    takeWhile_append_of_stop parts.name.all parts.ends,
    dropWhile_append_of_stop parts.name.all parts.ends, guard, if_true, read]

theorem not_spells_nil : ¬ definition.Spells [] := by
  rintro ⟨keyword, gap, rest, parts, empty⟩
  simp only [List.nil_eq, List.append_eq_nil_iff] at empty
  exact parts.gap.inhabited empty.2.1

theorem first?_eq_some_iff (plain : '\n' ∉ line) :
    first? line = some definition ↔ definition.IsFirstIn line := by
  induction line with
  | nil =>
    constructor
    · intro found
      cases found
    · rintro ⟨place, spelled, -⟩
      rw [List.drop_nil] at spelled
      exact absurd spelled not_spells_nil
  | cons c line ih =>
    cases here : startingAt? (c :: line) with
    | some earliest =>
      have spelled := spells_of_startingAt? plain here
      rw [first?_cons_of_some here]
      constructor
      · rintro ⟨rfl⟩
        exact ⟨0, spelled, fun earlier before => absurd before (Nat.not_lt_zero earlier)⟩
      · rintro ⟨place, other, first⟩
        cases place with
        | zero => exact here.symm.trans (startingAt?_of_spells plain other)
        | succ place => exact absurd spelled (first 0 (Nat.succ_pos place) earliest)
    | none =>
      have missing (other : Definition) : ¬ other.Spells (c :: line) := by
        intro spelled
        cases here.symm.trans (startingAt?_of_spells plain spelled)
      rw [first?_cons_of_none here, ih fun member => plain (List.mem_cons_of_mem c member)]
      -- The same definition, one place further on.
      constructor
      · rintro ⟨place, spelled, first⟩
        refine ⟨place + 1, spelled, fun earlier before => ?_⟩
        cases earlier with
        | zero => exact missing
        | succ earlier => exact first earlier (Nat.lt_of_succ_lt_succ before)
      · rintro ⟨place, spelled, first⟩
        cases place with
        | zero => exact absurd spelled (missing definition)
        | succ place =>
          refine ⟨place, spelled, fun earlier before => ?_⟩
          exact first (earlier + 1) (Nat.succ_lt_succ before)

end Definition

namespace Table

theorem lookup?_ofLines_eq_some_iff {lines : List Text} {name value : Text} :
    (ofLines lines).lookup? name = some value ↔
      ∃ above line below, lines = above ++ line :: below ∧
        Definition.first? line = some ⟨name, value⟩ ∧
        ∀ later ∈ below, ∀ other, Definition.first? later ≠ some ⟨name, other⟩ := by
  rw [lookup?_ofLines, List.filter_filterMap, List.getLast?_filterMap, Option.map_eq_some_iff]
  simp only [List.findSome?_eq_some_iff, Option.filter_eq_some_iff, Option.filter_eq_none_iff,
    decide_eq_true_eq]
  -- The last definition is the first one in the lines turned around.
  constructor
  · rintro ⟨⟨_, _⟩, ⟨below, line, above, turned, ⟨found, rfl⟩, later⟩, rfl⟩
    refine ⟨above.reverse, line, below.reverse, ?_, found, ?_⟩
    · simpa using congrArg List.reverse turned
    · exact fun row member other defined => later row (List.mem_reverse.1 member) _ defined rfl
  · rintro ⟨above, line, below, rfl, found, later⟩
    refine ⟨⟨name, value⟩, ⟨below.reverse, line, above.reverse, by simp, ⟨found, rfl⟩, ?_⟩, rfl⟩
    rintro row member ⟨_, other⟩ defined rfl
    exact later row (List.mem_reverse.1 member) other defined

/-- The table of a text has the names that its lines define, each with the value from the last line
that defines it. A reference to anything but a run of word characters stays as it is wherever
expansion comes to read it. -/
theorem ofLines_lastDefinition (text : Text) :
    let table := ofLines text.lines
    (∀ name, name ∈ table.names ↔
      ∃ line ∈ text.lines, ∃ value, Definition.IsFirstIn ⟨name, value⟩ line) ∧
    (∀ name value, table.lookup? name = some value ↔
      ∃ above line below, text.lines = above ++ line :: below ∧
        Definition.IsFirstIn ⟨name, value⟩ line ∧
        ∀ later ∈ below, ∀ other, ¬ Definition.IsFirstIn ⟨name, other⟩ later) ∧
    (∀ name ∈ table.names, name.IsRun isWordChar) ∧
    ∀ name, ¬ name.IsRun isWordChar → ∀ pending active done below,
      Stack.Keeps table ⟨⟨.reference name :: pending, active, done⟩, below⟩ name := by
  intro table
  -- The grammar is one of single lines, and the lines of a text are such.
  have onLine {line : Text} (member : line ∈ text.lines) : '\n' ∉ line :=
    Text.mark_notMem_of_mem_split member
  have known (name : Text) : name ∈ table.names ↔
      ∃ line ∈ text.lines, ∃ value, Definition.IsFirstIn ⟨name, value⟩ line := by
    rw [mem_names_ofLines]
    constructor
    · rintro ⟨line, member, ⟨_, value⟩, found, rfl⟩
      exact ⟨line, member, value, (Definition.first?_eq_some_iff (onLine member)).1 found⟩
    · rintro ⟨line, member, value, first⟩
      exact ⟨line, member, _, (Definition.first?_eq_some_iff (onLine member)).2 first, rfl⟩
  have word (name : Text) (member : name ∈ table.names) : name.IsRun isWordChar := by
    obtain ⟨line, -, value, place, ⟨keyword, gap, rest, parts, -⟩, -⟩ := (known name).1 member
    exact parts.name
  refine ⟨known, fun name value => ?_, word, fun name other pending active done below => ?_⟩
  · rw [lookup?_ofLines_eq_some_iff]
    refine exists_congr fun above => exists_congr fun line => exists_congr fun below =>
      and_congr_right fun cut => ?_
    have within {row : Text} (member : row ∈ line :: below) : '\n' ∉ row :=
      onLine (cut ▸ List.mem_append_right above member)
    refine and_congr (Definition.first?_eq_some_iff (within List.mem_cons_self))
      (forall₂_congr fun later member => forall_congr' fun other => not_congr ?_)
    exact Definition.first?_eq_some_iff (within (List.mem_cons_of_mem line member))
  · have unknown : table.lookup? name = none :=
      lookup?_eq_none_iff.2 fun member => other (word name member)
    have missing : table.replacement? active name = none :=
      replacement?_eq_none_iff.2 (.inr unknown)
    exact ⟨pending, active, done, below, rfl, by simp only [Stack.step, missing]⟩

theorem ofLines_lastDefinition_conditional :
    let text := "%global dist 1\n%global dist\t .fc ".toList
    (ofLines (Text.lines text)).lookup? "dist".toList = some ".fc".toList ∧
      Stack.Keeps (ofLines (Text.lines text)) ⟨⟨[.reference "?dist".toList], [], []⟩, []⟩
        "?dist".toList := by
  intro text
  obtain ⟨-, values, -, unknown⟩ := ofLines_lastDefinition text
  have spelled : Definition.Spells ⟨"dist".toList, ".fc".toList⟩ "%global dist\t .fc ".toList := by
    refine ⟨"%global".toList, " ".toList, "\t .fc ".toList, ?_, by decide +kernel⟩
    exact {
      keyword := List.mem_cons_self
      gap := by decide +kernel
      name := by decide +kernel
      ends := by rintro _ ⟨⟩; decide +kernel
      apart := ⟨'\t', by decide +kernel, by decide +kernel⟩
      long := by decide +kernel
      value := by decide +kernel }
  refine ⟨(values _ _).2 ?_, unknown _ (fun run => ?_) [] [] [] []⟩
  · exact ⟨["%global dist 1".toList], _, [], by decide +kernel,
      ⟨0, spelled, fun earlier before => absurd before (Nat.not_lt_zero earlier)⟩, by simp⟩
  · exact absurd (run.all '?' List.mem_cons_self) (by decide +kernel)

-- A keyword without a name, one behind another definition, a value of blanks, a parameter list.
example :
    let text : Text :=
      "%global %define a  x %global c \n%global b\t \n%define d() 1\n%define a\u3000y".toList
    (ofLines text.lines).definitions = [⟨['a'], ['y']⟩, ⟨['b'], []⟩] := by
  decide +kernel

end Table

end Macro

end Specfile
