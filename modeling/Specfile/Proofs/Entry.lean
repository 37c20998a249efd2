import Specfile.Edit
import Specfile.Proofs.Document.Lines
import Specfile.Proofs.Macro.Values
import Specfile.Proofs.Success
import Specfile.Proofs.Text.Digits
import Specfile.Toml.Reader

/-! The text of an entry. It can be made up when the required tags have values and the identity is
known. Day, version and release stay on one line, so the header of an entry does if the name and
the email of the packager do; a line break in one of these breaks the header. -/

set_option autoImplicit false

namespace Specfile

theorem Date.mem_text {date : Date} {c : Char} (member : c ∈ date.text) :
    c.isAlphanum = true ∨ c = ' ' := by
  have weekday : ∀ name ∈ "" :: weekdays, name.toList.all Char.isAlphanum = true := by decide
  have month : ∀ name ∈ "" :: months, name.toList.all Char.isAlphanum = true := by decide
  have number {n : Nat} (inside : c ∈ Numeral.decimal n) : c.isAlphanum = true := by
    simp [Char.isAlphanum, Numeral.isDigit_of_mem_decimal inside]
  have day (inside : c ∈ if date.day < 10 then '0' :: Numeral.decimal date.day
      else Numeral.decimal date.day) : c.isAlphanum = true := by
    split at inside
    · rcases List.mem_cons.1 inside with rfl | inside
      · decide
      · exact number inside
    · exact number inside
  -- Weekday, month, day and year, with a blank between any two.
  simp only [text, Text.join, List.intercalate_cons_cons, List.intercalate_singleton,
    List.mem_append, List.mem_singleton] at member
  rcases member with inside | inside | inside | inside
  · exact inside.imp_left (List.all_eq_true.1 (weekday _ (getD_mem_of_default _)) c)
  · exact inside.imp_left (List.all_eq_true.1 (month _ (getD_mem_of_default _)) c)
  · exact inside.imp_left day
  · exact .inl (number inside)

theorem Date.newline_notMem_text (date : Date) : '\n' ∉ date.text := fun member => by
  simpa using mem_text member

theorem Tags.exists_of_mem_lastValue {lines : List Text} {tag : Text} {c : Char}
    (member : c ∈ lastValue tag lines) : ∃ line ∈ lines, c ∈ line := by
  rw [lastValue] at member
  cases last : (lines.filterMap (valueOn? tag)).getLast? with
  | none => simp [last] at member
  | some value =>
    rw [last] at member
    obtain ⟨line, inLines, read⟩ := List.mem_filterMap.1 (List.mem_of_getLast? last)
    obtain ⟨rest, cut, rfl⟩ := Option.map_eq_some_iff.1 read
    have whole := Text.after?_eq_some_iff.1 cut
    exact ⟨line, inLines, whole ▸ List.mem_append_right _ (Text.mem_of_mem_trim member)⟩

namespace Entry

theorem mem_evr {lines : List Text} {c : Char}
    (member : c ∈ evr (.ofLines lines) (.ofLines lines)) :
    c = '-' ∨ c = ':' ∨ ∃ line ∈ lines, c ∈ line := by
  have expanded {tag : Text}
      (inside : c ∈ Macro.expand (.ofLines lines) (Tags.lastValue tag lines)) :
      ∃ line ∈ lines, c ∈ line :=
    (Macro.mem_of_mem_expand inside).elim Tags.exists_of_mem_lastValue id
  have package (inside : c ∈ Macro.expand (.ofLines lines) (Tags.ofLines lines).version
      ++ '-' :: Macro.expand (.ofLines lines) (Tags.ofLines lines).release) :
      c = '-' ∨ c = ':' ∨ ∃ line ∈ lines, c ∈ line := by
    rcases List.mem_append.1 inside with version | inside
    · exact .inr (.inr (expanded version))
    · exact (List.mem_cons.1 inside).imp_right fun release => .inr (expanded release)
  -- The colon is there only behind an epoch.
  unfold evr at member
  split at member
  · exact package member
  · rcases List.mem_append.1 member with epoch | member
    · exact .inr (.inr (expanded epoch))
    · rcases List.mem_cons.1 member with colon | member
      · exact .inr (.inl colon)
      · exact package member

theorem newline_notMem_evr {lines : List Text} (plain : ∀ line ∈ lines, '\n' ∉ line) :
    '\n' ∉ evr (.ofLines lines) (.ofLines lines) := by
  intro member
  rcases mem_evr member with dash | colon | ⟨line, inLines, inside⟩
  · cases dash
  · cases colon
  · exact plain line inLines inside

theorem requireTags_eq_ok_iff {lines : List Text} {tags : Tags} :
    requireTags lines = .ok tags ↔ tags = .ofLines lines ∧ (Tags.ofLines lines).missing = [] := by
  by_cases complete : (Tags.ofLines lines).missing = [] <;>
    simp [requireTags, complete, eq_comm]

theorem generate_eq_ok_iff {text date entry : Text} {identity : Identity} :
    generate text date identity = .ok entry ↔
      (Tags.ofLines text.lines).missing = [] ∧
        entry = render (evr (.ofLines text.lines) (.ofLines text.lines)) date identity := by
  simp only [generate, bind_eq_ok_iff, requireTags_eq_ok_iff, pure_eq_ok_iff, and_assoc,
    exists_eq_left]

def heading (evr date : Text) (identity : Identity) : Text :=
  ["* ".toList, date, [' '], identity.name, " <".toList, identity.email, "> - ".toList,
    evr].flatten

theorem render_eq (evr date : Text) (identity : Identity) :
    render evr date identity = heading evr date identity ++ "\n- ".toList := by
  unfold render
  simp [heading, Identity.text]

theorem count_heading {evr date : Text} (plainEvr : '\n' ∉ evr) (plainDate : '\n' ∉ date)
    (identity : Identity) :
    (heading evr date identity).count '\n' =
      identity.name.count '\n' + identity.email.count '\n' := by
  simp [heading, List.count_eq_zero.2 plainEvr, List.count_eq_zero.2 plainDate]

section
variable {message : Text} (plain : '\n' ∉ message) (header : Text)
include plain

theorem count_message : (header ++ "\n- ".toList ++ message).count '\n' = header.count '\n' + 1 := by
  simp [List.count_eq_zero.2 plain]

theorem lines_message_iff :
    (header ++ "\n- ".toList ++ message).lines = [header, "- ".toList ++ message] ↔
      '\n' ∉ header := by
  have whole : header ++ "\n- ".toList ++ message = header ++ '\n' :: ("- ".toList ++ message) := by
    simp
  constructor
  · -- The two lines leave room for one newline only.
    intro cut
    have count := Text.length_lines (header ++ "\n- ".toList ++ message)
    rw [cut, count_message plain] at count
    apply List.count_eq_zero.1
    simpa using count
  · intro plainHeader
    have bullet : '\n' ∉ "- ".toList ++ message := by simpa using plain
    rw [whole, Text.lines, Text.split_append_mark plainHeader, Text.split_of_notMem bullet]

end

end Entry

namespace EntryRequest

/-- An entry is what the document alone gives for the day and the identity, with the message
behind it. -/
theorem entry_eq_ok_iff {request : EntryRequest} {document : Document} {entry : Text} :
    request.entry document = .ok entry ↔
      ∃ identity generated, request.packager.identity = .ok identity ∧
        Entry.generate document.text request.today.text identity = .ok generated ∧
        entry = generated ++ request.message.getD [] := by
  simp only [EntryRequest.entry, bind_eq_ok_iff, mapError_eq_ok_iff, pure_eq_ok_iff,
    Entry.requireTags_eq_ok_iff, Entry.generate_eq_ok_iff]
  constructor
  · rintro ⟨-, ⟨rfl, complete⟩, identity, known, rfl⟩
    exact ⟨identity, _, known, ⟨complete, rfl⟩, rfl⟩
  · rintro ⟨identity, -, known, ⟨complete, rfl⟩, rfl⟩
    exact ⟨_, ⟨rfl, complete⟩, identity, known, rfl⟩

theorem entry_congr {request other : EntryRequest} {document : Document}
    (today : request.today = other.today) (message : request.message = other.message)
    (identity : (Tags.ofLines document.lines).missing = [] →
      request.packager.identity = other.packager.identity) :
    request.entry document = other.entry document := by
  by_cases complete : (Tags.ofLines document.lines).missing = []
  · simp only [entry, today, message, identity complete]
  · simp [entry, Entry.requireTags, complete]

/-- An entry has one newline behind its header, and those of the packager's name and email. So it
consists of a header and a message line exactly when these hold none. -/
theorem lines_entry_iff {config : Config} {git : GitOutcomes} {today : Date}
    {message : Option Text} {document : Document} {entry : Text}
    (plain : '\n' ∉ message.getD [])
    (made : EntryRequest.entry ⟨.ofConfig config git, today, message⟩ document = .ok entry) :
    ∃ identity, (Packager.ofConfig config git).identity = .ok identity ∧
      let header := Entry.heading
        (Entry.evr (.ofLines document.lines) (.ofLines document.lines)) today.text identity
      entry = header ++ "\n- ".toList ++ message.getD [] ∧
        entry.count '\n' = 1 + identity.name.count '\n' + identity.email.count '\n' ∧
        (entry.lines = [header, "- ".toList ++ message.getD []] ↔
          '\n' ∉ identity.name ∧ '\n' ∉ identity.email) := by
  obtain ⟨identity, generated, known, given, rfl⟩ := entry_eq_ok_iff.1 made
  obtain ⟨-, rfl⟩ := Entry.generate_eq_ok_iff.1 given
  have counted := Entry.count_heading (Entry.newline_notMem_evr document.areLines.plain)
    today.newline_notMem_text identity
  -- All newlines of the heading are those of the name and the email.
  have broken : '\n' ∉ Entry.heading (Entry.evr (.ofLines document.lines) (.ofLines document.lines))
      today.text identity ↔ '\n' ∉ identity.name ∧ '\n' ∉ identity.email := by
    rw [← List.count_eq_zero, counted, Nat.add_eq_zero_iff, List.count_eq_zero, List.count_eq_zero]
  refine ⟨identity, known, by rw [Entry.render_eq]; rfl, ?_, ?_⟩
  · rw [Entry.render_eq, Entry.count_message plain]
    exact (congrArg (· + 1) counted).trans (by omega)
  · rw [Entry.render_eq, ← broken]
    exact Entry.lines_message_iff plain _

def noGit : GitOutcomes := ⟨.notStarted [], .notStarted []⟩

def macroDocument : Document :=
  ⟨.ofText "a.spec".toList, "%global v 1.2\nVersion: %\x7bv\x7d\nRelease: 4\n".toList⟩

theorem lines_entry_iff_oneLineName :
    let config : Config := { name := some "Jane Doe".toList, email := some "j@x".toList }
    '\n' ∉ (some "Rebuilt".toList).getD [] ∧
      ∃ entry, EntryRequest.entry ⟨.ofConfig config noGit, ⟨2025, 3, 10⟩, some "Rebuilt".toList⟩
          macroDocument = .ok entry ∧
        entry.lines = ["* Mon Mar 10 2025 Jane Doe <j@x> - 1.2-4".toList, "- Rebuilt".toList] := by
  intro config
  have made : EntryRequest.entry ⟨.ofConfig config noGit, ⟨2025, 3, 10⟩, some "Rebuilt".toList⟩
      macroDocument = .ok "* Mon Mar 10 2025 Jane Doe <j@x> - 1.2-4\n- Rebuilt".toList := by
    decide +kernel
  have plain : '\n' ∉ (some "Rebuilt".toList).getD [] := by decide
  obtain ⟨identity, known, -, -, shape⟩ := lines_entry_iff plain made
  cases known
  refine ⟨plain, _, made, (shape.2 (by decide)).trans ?_⟩
  decide +kernel

def twoLineName : Bytes :=
  Utf8.encode "[identity]\nname = \"Jane\\nDoe\"\nemail = \"j@x\"\n".toList

/-- With a line break in the configured name an entry has three lines. -/
theorem lines_entry_twoLineName :
    (Config.ofRead Toml.readData (.ofText "c.toml".toList) (.ok twoLineName)).toOption.bind
      (fun config =>
      (EntryRequest.entry ⟨.ofConfig config noGit, ⟨2025, 3, 10⟩, none⟩
        macroDocument).toOption.map Text.lines) =
      some ["* Mon Mar 10 2025 Jane".toList, "Doe <j@x> - 1.2-4".toList, "- ".toList] := by
  decide +kernel

end EntryRequest

end Specfile
