import Specfile.Edit
import Specfile.Proofs.Document.Lines
import Specfile.Proofs.Release.Counter
import Specfile.Proofs.Release.Site

/-! When a bump succeeds and what it does then: the lines are a site whose value has a
counter, and the bumped document is that site with the next number. So the text around the value
of the release line stays. -/

set_option autoImplicit false

namespace Specfile.Release

namespace Site

def table (site : Site) : Macro.Table := .ofLines site.rows

def numbered (site : Site) (counter : Counter) (number : Int) : Site :=
  site.withValue (site.valuePart.leading ++ (counter.valueAt number ++ site.valuePart.trailing))

def change (site : Site) (counter : Counter) : Change where
  index := site.above.length
  oldLine := site.row
  newLine := (site.numbered counter (counter.number + 1)).row
  oldValue := site.valuePart.trim
  newValue := counter.valueAt (counter.number + 1)
  expanded := counter.expanded

structure Bumps (site : Site) (counter : Counter) : Prop where
  counted : counter? site.table site.valuePart.trim = some counter
  readable : counter.digits.length ≤ Numeral.maxDigits
  writable : Numeral.IsShort (counter.number + 1)

end Site

theorem isCore_of_counter? {table : Macro.Table} {text : Text} {counter : Counter}
    (counted : counter? table text.trim = some counter) : Text.IsCore text.trim :=
  Text.isCore_trim (ne_nil_of_counter? counted)

theorem isCore_valueAt {table : Macro.Table} {text : Text} {counter : Counter}
    (counted : counter? table text.trim = some counter) (number : Int) :
    Text.IsCore (counter.valueAt number) := by
  obtain ⟨old, whole⟩ := (tail_of_counter? counted).suffix
  have core := isCore_of_counter? counted
  rw [← whole] at core
  exact core.replaceFront (Numeral.signed_ne_nil number) fun _ => Numeral.isBlank_of_mem_signed

section
variable {table : Macro.Table} {text : Text} {counter : Counter}
  (counted : counter? table text.trim = some counter) (number : Int)
include counted

theorem leading_numbered :
    Text.leading (text.leading ++ (counter.valueAt number ++ text.trailing)) = text.leading :=
  Text.leading_append (fun _ => Text.isBlank_of_mem_leading) (isCore_valueAt counted number)

theorem trim_numbered :
    Text.trim (text.leading ++ (counter.valueAt number ++ text.trailing)) =
      counter.valueAt number :=
  Text.trim_append (fun _ => Text.isBlank_of_mem_leading) (isCore_valueAt counted number)
    fun _ => Text.isBlank_of_mem_trailing

theorem trailing_numbered :
    Text.trailing (text.leading ++ (counter.valueAt number ++ text.trailing)) = text.trailing :=
  Text.trailing_append (fun _ => Text.isBlank_of_mem_leading) (isCore_valueAt counted number)
    fun _ => Text.isBlank_of_mem_trailing

end

theorem notMem_numbered {table : Macro.Table} {text : Text} {counter : Counter}
    (counted : counter? table text.trim = some counter) {c : Char} (absent : c ∉ text)
    (sign : c ≠ '-') (digit : c.isDigit = false) (number : Int) :
    c ∉ text.leading ++ (counter.valueAt number ++ text.trailing) := by
  rw [← Text.leading_append_trim_append_trailing text] at absent
  simp only [List.mem_append, not_or] at absent
  have rest : c ∉ counter.rest :=
    fun member => absent.2.1 ((tail_of_counter? counted).suffix.subset member)
  simp [Counter.valueAt, absent.1, absent.2.2, rest, Numeral.notMem_signed sign digit]

namespace Site

variable {site : Site} (lines : AreLines site.rows)
include lines

theorem newline_notMem_row : '\n' ∉ site.tag ∧ '\n' ∉ site.valuePart := by
  have plain := lines.plain site.row (by simp [rows])
  simp only [row, List.mem_append, List.mem_cons, not_or] at plain
  exact ⟨plain.1, plain.2.2⟩

theorem areLines_withValue {valuePart : Text} (plain : '\n' ∉ valuePart) :
    AreLines (site.withValue valuePart).rows where
  inhabited := by simp [rows]
  plain := by
    intro row member
    rw [rows_withValue] at member
    rcases List.mem_or_eq_of_mem_set member with member | rfl
    · exact lines.plain row member
    · simp [row_withValue, newline_notMem_row lines, plain]

theorem areLines_numbered {counter : Counter}
    (counted : counter? site.table site.valuePart.trim = some counter) (number : Int) :
    AreLines (site.numbered counter number).rows := by
  apply areLines_withValue lines
  exact notMem_numbered counted (newline_notMem_row lines).2 (by decide) (by decide) number

end Site

theorem bumpValue_eq_ok_iff {table : Macro.Table} {text : Text} {bumped : Bumped} :
    bumpValue table text = .ok bumped ↔
      ∃ counter, counter? table text.trim = some counter ∧
        counter.digits.length ≤ Numeral.maxDigits ∧ Numeral.IsShort (counter.number + 1) ∧
        bumped = ⟨text.leading ++ (counter.valueAt (counter.number + 1) ++ text.trailing),
          counter.expanded⟩ := by
  simp only [bumpValue, Text.replaceCore_eq, bind_eq_ok_iff, pure_eq_ok_iff, bumpCore_eq]
  cases counted : counter? table text.trim with
  | none => simp
  | some counter => simp [Counter.bump_eq_ok_iff, and_assoc]

def Line.raised (line : Line) (counter : Counter) : Change where
  index := line.index
  oldLine := line.text
  newLine := line.tagPart ++ (line.valuePart.leading
    ++ (counter.valueAt (counter.number + 1) ++ line.valuePart.trailing))
  oldValue := line.value
  newValue := counter.valueAt (counter.number + 1)
  expanded := counter.expanded

theorem Line.bump_eq_ok_iff {table : Macro.Table} {line : Line} {change : Change} :
    line.bump table = .ok change ↔
      ∃ counter, counter? table line.value = some counter ∧
        counter.digits.length ≤ Numeral.maxDigits ∧ Numeral.IsShort (counter.number + 1) ∧
        change = line.raised counter := by
  simp only [Line.bump, bind_eq_ok_iff, pure_eq_ok_iff, bumpValue_eq_ok_iff]
  constructor
  · rintro ⟨bumped, ⟨counter, counted, readable, writable, rfl⟩, rfl⟩
    -- The new value is trimmed once more on its way into the change, to no effect.
    have same := trim_numbered counted (counter.number + 1)
    exact ⟨counter, counted, readable, writable, by simp only [same, raised]⟩
  · rintro ⟨counter, counted, readable, writable, rfl⟩
    have same := trim_numbered counted (counter.number + 1)
    exact ⟨_, ⟨counter, counted, readable, writable, rfl⟩, by simp only [same, raised]⟩

theorem Site.raised_line (site : Site) (counter : Counter) :
    site.line.raised counter = site.change counter := by
  simp [change, Line.raised, line, Line.text, Line.value, row, numbered, withValue]

theorem Site.bump_line_eq_ok_iff {site : Site} {planned : Change} :
    site.line.bump site.table = .ok planned ↔
      ∃ counter, site.Bumps counter ∧ planned = site.change counter := by
  simp only [Line.bump_eq_ok_iff, raised_line]
  constructor
  · rintro ⟨counter, counted, readable, writable, rfl⟩
    exact ⟨counter, ⟨counted, readable, writable⟩, rfl⟩
  · rintro ⟨counter, bumps, rfl⟩
    exact ⟨counter, bumps.counted, bumps.readable, bumps.writable, rfl⟩

theorem plan_rows (site : Site) : plan site.rows = site.line.bump site.table := by
  simp [plan, requireLine, site.first?_rows, Site.table]

theorem plan_eq_ok_iff {lines : List Text} {change : Change} :
    plan lines = .ok change ↔
      ∃ (site : Site) (counter : Counter),
        site.Bumps counter ∧ site.rows = lines ∧ change = site.change counter := by
  constructor
  · intro planned
    cases first : Line.first? lines with
    | none => simp [plan, requireLine, first] at planned
    | some line =>
      -- The release line with the lines above and below it makes up a site.
      obtain ⟨site, rfl, -⟩ := Site.exists_of_first? first
      rw [plan_rows] at planned
      obtain ⟨counter, bumps, rfl⟩ := Site.bump_line_eq_ok_iff.1 planned
      exact ⟨site, counter, bumps, rfl, rfl⟩
  · rintro ⟨site, counter, bumps, rfl, rfl⟩
    rw [plan_rows]
    exact Site.bump_line_eq_ok_iff.2 ⟨counter, bumps, rfl⟩

theorem expanded_of_plan {lines : List Text} {change : Change} (planned : plan lines = .ok change) :
    change.expanded = !change.oldValue.head?.any Char.isDigit := by
  obtain ⟨site, counter, bumps, -, rfl⟩ := plan_eq_ok_iff.1 planned
  exact expanded_of_counter? bumps.counted

theorem mem_newValue_of_plan {lines : List Text} {change : Change}
    (planned : plan lines = .ok change) {c : Char} (member : c ∈ change.newValue) :
    c ∈ change.oldValue ∨ c = '-' ∨ c.isDigit = true := by
  obtain ⟨site, counter, bumps, -, rfl⟩ := plan_eq_ok_iff.1 planned
  rcases List.mem_append.1 member with number | rest
  · exact .inr (Numeral.mem_signed number)
  · exact .inl ((tail_of_counter? bumps.counted).suffix.subset rest)

def Line.front (lines : List Text) (line : Line) : Text :=
  (lines.take line.index.toNat).flatMap (· ++ ['\n']) ++ (line.tagPart ++ line.valuePart.leading)

def Line.back (lines : List Text) (line : Line) : Text :=
  line.valuePart.trailing ++ (lines.drop (line.index.toNat + 1)).flatMap ('\n' :: ·)

namespace Site

variable (site : Site)

theorem take_rows : site.rows.take site.above.length = site.above := by
  simp [rows]

theorem drop_rows : site.rows.drop (site.above.length + 1) = site.below := by
  simp [rows]

theorem joinLines_withValue (value : Text) :
    Text.joinLines
        (site.withValue (site.valuePart.leading ++ (value ++ site.valuePart.trailing))).rows =
      site.line.front site.rows ++ (value ++ site.line.back site.rows) := by
  rw [rows, Text.joinLines_append_cons, row_withValue]
  simp [Line.front, Line.back, line, take_rows, drop_rows, withValue]

theorem joinLines_rows :
    Text.joinLines site.rows =
      site.line.front site.rows ++ (site.line.value ++ site.line.back site.rows) := by
  rw [← joinLines_withValue, Line.value, line, Text.leading_append_trim_append_trailing]
  rfl

end Site

end Specfile.Release

namespace Specfile.Edit
open Release

def ofChange (dryRun : Bool) (document : Document) (change : Change) : Edit where
  document := document.withLines (document.lines.set change.index.toNat change.newLine)
  warnings := if change.expanded then [expansionWarning change] else []
  saves := !dryRun
  announcement := announce dryRun
    ("Release bumped: ".toList ++ change.oldValue ++ " -> ".toList ++ change.newValue)
    ("would bump ".toList ++ change.summary)

theorem bump_eq_ok_iff {dryRun : Bool} {document : Document} {edit : Edit} {change : Change} :
    bump dryRun document = .ok (edit, change) ↔
      Release.plan document.lines = .ok change ∧ edit = ofChange dryRun document change := by
  -- A planned change is one of a site, so its line is one of the document.
  have replaced {site : Site} {counter : Counter} (rows : site.rows = document.lines) :
      document.replaceLine (site.change counter).index (site.change counter).newLine =
        .ok (ofChange dryRun document (site.change counter)).document := by
    have bound : site.above.length < document.lines.length := by
      simp [← rows, Site.rows]
    simp [Document.replaceLine, ofChange, Site.change, bound]
  simp only [bump, bind_eq_ok_iff, mapError_eq_ok_iff, pure_eq_ok_iff, Prod.mk.injEq]
  constructor
  · rintro ⟨planned, succeeds, updated, replacing, rfl, rfl⟩
    obtain ⟨site, counter, -, rows, rfl⟩ := plan_eq_ok_iff.1 succeeds
    cases (replaced rows).symm.trans replacing
    exact ⟨succeeds, rfl⟩
  · rintro ⟨succeeds, rfl⟩
    obtain ⟨site, counter, -, rows, rfl⟩ := plan_eq_ok_iff.1 succeeds
    exact ⟨_, succeeds, _, replaced rows, rfl, rfl⟩

theorem document_ofChange {document : Document} {site : Site} (rows : site.rows = document.lines)
    (counter : Counter) (dryRun : Bool) :
    (ofChange dryRun document (site.change counter)).document =
      document.withLines (site.numbered counter (counter.number + 1)).rows := by
  have replaced := site.rows_withValue (site.valuePart.leading
    ++ (counter.valueAt (counter.number + 1) ++ site.valuePart.trailing))
  simp only [ofChange, ← rows, Site.numbered, replaced]
  rfl

theorem lines_document_ofChange {document : Document} {site : Site} {counter : Counter}
    (rows : site.rows = document.lines)
    (counted : counter? site.table site.valuePart.trim = some counter) (dryRun : Bool) :
    (ofChange dryRun document (site.change counter)).document.lines =
      (site.numbered counter (counter.number + 1)).rows := by
  have lines : AreLines site.rows := rows ▸ document.areLines
  rw [document_ofChange rows counter dryRun]
  exact document.lines_withLines (Site.areLines_numbered lines counted _)

theorem bump_rows {document : Document} {site : Site} {counter : Counter}
    (rows : site.rows = document.lines) (bumps : site.Bumps counter) (dryRun : Bool) :
    bump dryRun document =
      .ok (ofChange dryRun document (site.change counter), site.change counter) :=
  bump_eq_ok_iff.2 ⟨plan_eq_ok_iff.2 ⟨site, counter, bumps, rows, rfl⟩, rfl⟩

/-- A bump replaces the value of the release line and keeps the text around it. -/
theorem text_bump {dryRun : Bool} {document : Document} {edit : Edit} {change : Change}
    (bumped : bump dryRun document = .ok (edit, change)) :
    ∃ line, Line.first? document.lines = some line ∧ change.oldValue = line.value ∧
      document.text = line.front document.lines ++ (change.oldValue ++ line.back document.lines) ∧
      edit.document.text =
        line.front document.lines ++ (change.newValue ++ line.back document.lines) := by
  obtain ⟨planned, rfl⟩ := bump_eq_ok_iff.1 bumped
  obtain ⟨site, counter, bumps, rows, rfl⟩ := plan_eq_ok_iff.1 planned
  have whole : document.text = Text.joinLines document.lines :=
    (Text.join_split '\n' document.text).symm
  refine ⟨site.line, rows ▸ site.first?_rows, rfl, ?_, ?_⟩
  · rw [whole, ← rows]
    exact site.joinLines_rows
  · rw [document_ofChange rows, ← rows]
    exact site.joinLines_withValue (counter.valueAt (counter.number + 1))

theorem mem_text_bump {dryRun : Bool} {document : Document} {edit : Edit} {change : Change}
    (bumped : bump dryRun document = .ok (edit, change)) {c : Char}
    (member : c ∈ edit.document.text) : c ∈ document.text ∨ c = '-' ∨ c.isDigit = true := by
  obtain ⟨line, -, -, before, after⟩ := text_bump bumped
  rw [after, List.mem_append, List.mem_append] at member
  rw [before, List.mem_append, List.mem_append]
  rcases member with front | value | back
  · exact .inl (.inl front)
  · have origin := mem_newValue_of_plan (bump_eq_ok_iff.1 bumped).1 value
    exact origin.imp_left fun old => .inr (.inl old)
  · exact .inl (.inr (.inr back))

end Specfile.Edit
