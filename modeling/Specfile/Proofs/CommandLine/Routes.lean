import Specfile.Proofs.CommandLine.Saving
import Specfile.Proofs.Entry

/-! The three routes to an entry. It is printed, announced without an edit, or put into the
document. On each of them the same document and the same entry are made ready first, so all three
fail alike there, and all three show the same entry. Only the last one can fail later, when the
document cannot be written. -/

set_option autoImplicit false

namespace Specfile.CommandLine

namespace World

/-- What a run for an entry has at hand before it prints or edits: the loaded document and the
entry for it. -/
def draft (toolkit : Toolkit) (world : World) (path : Path) (options : EntryOptions) :
    Except Failure (Document × Text) := do
  let config ← world.config toolkit options.config
  let document ← world.document path
  let entry ← (world.entryRequest config options).entry document
  pure (document, entry)

theorem draft_eq_ok_iff {toolkit : Toolkit} {world : World} {path : Path} {options : EntryOptions}
    {document : Document} {entry : Text} :
    world.draft toolkit path options = .ok (document, entry) ↔
      ∃ config, world.config toolkit options.config = .ok config ∧
        world.document path = .ok document ∧
        (world.entryRequest config options).entry document = .ok entry := by
  simp only [draft, bind_eq_ok_iff, pure_eq_ok_iff, Prod.mk.injEq]
  constructor
  · rintro ⟨config, configured, _, loaded, _, made, rfl, rfl⟩
    exact ⟨config, configured, loaded, made⟩
  · rintro ⟨config, configured, loaded, made⟩
    exact ⟨config, configured, document, loaded, entry, made, rfl, rfl⟩

end World

def EntryOptions.report (disk : Disk) (options : EntryOptions) (document : Document)
    (entry : Text) : Report :=
  if options.printOnly then .ofLine entry
  else .ofEdit disk (.ofEntry options.cursor options.dryRun document entry)

def EntryOptions.reportOf (disk : Disk) (options : EntryOptions) :
    Except Failure (Document × Text) → Report
  | .ok (document, entry) => options.report disk document entry
  | .error failure => .ofFailure failure

theorem World.changelog_eq_map (toolkit : Toolkit) (world : World) (path : Path)
    (options : EntryOptions) :
    world.changelog toolkit path options =
      (world.draft toolkit path options).map fun (document, entry) =>
        options.report world.disk document entry := by
  cases configured : world.config toolkit options.config with
  | error failure => simp [changelog, draft, configured]
  | ok config =>
    cases loaded : world.document path with
    | error failure => simp [changelog, draft, configured, loaded]
    | ok document =>
      cases made : (world.entryRequest config options).entry document <;>
        cases printed : options.printOnly <;>
        simp [changelog, draft, configured, loaded, made, printed, Edit.addEntry_eq_map,
          EntryOptions.report, pure, Except.pure]

inductive Route where
  | printing
  | trying
  | making
  deriving DecidableEq

def Route.set (route : Route) (options : EntryOptions) : EntryOptions :=
  { options with printOnly := route = .printing, dryRun := route = .trying }

/-- The document with the entry at the line and column that the options give, lines counted from
one; without a line it goes to the top of the section for changes, whatever the column. -/
def EntryOptions.place (options : EntryOptions) (document : Document) (entry : Text) : Document :=
  match options.line with
  | some line => document.insert (line - 1) options.column entry
  | none => document.addEntry entry

theorem EntryOptions.document_ofEntry (options : EntryOptions) (dryRun : Bool)
    (document : Document) (entry : Text) :
    (Edit.ofEntry options.cursor dryRun document entry).document =
      options.place document entry := by
  unfold place Edit.ofEntry cursor
  cases options.line <;> rfl

/-- What the three runs show and leave when there is an entry. Only the run that makes the edit
changes the document's file. If the file cannot be written, that run breaks off, and it has said
and changed nothing. -/
structure Route.Shows (toolkit : Toolkit) (run : Route → Report × FileTree) (tree : FileTree)
    (path : Path) (entry : Text) (updated : Document) : Prop where
  errors : ∀ route, (run route).1.shown toolkit .errors = []
  ends : ∀ route, route ≠ .making → (run route).1.ending = .exit 0 ∧ (run route).2 = tree
  printed : (run .printing).1.shown toolkit .output = toolkit.showLine entry
  announced : (run .trying).1.shown toolkit .output =
    toolkit.showNotice (.note .dim ("would add: ".toList ++ Entry.header entry))
  made : ∀ after, tree.write path (Utf8.encode updated.text) = .ok after →
    (run .making).1.ending = .exit 0 ∧ (run .making).1.shown toolkit .output =
        toolkit.showNotice (.success ("Changelog generated: ".toList ++ Entry.header entry)) ∧
      (run .making).2 = after ∧ after.read path = .ok (Utf8.encode updated.text)
  refused : ∀ fault, tree.write path (Utf8.encode updated.text) = .error fault →
    (run .making).1.ending = .broken fault ∧ (run .making).1.shown toolkit .output = [] ∧
      (run .making).2 = tree

theorem EntryOptions.report_making {disk : Disk} (options : EntryOptions) (document : Document)
    (entry : Text) :
    let bytes := Utf8.encode (options.place document entry).text
    (Route.making.set options).report disk document entry =
      { match (disk.save document.path bytes).fault? with
        | none => Report.ofNotices (.exit 0)
            [.success ("Changelog generated: ".toList ++ Entry.header entry)]
        | some fault => Report.ofNotices (.broken fault) [] with
        save := some (document.path, bytes) } := by
  intro bytes
  let edit := Edit.ofEntry options.cursor false document entry
  have path : edit.document.path = document.path := Edit.path_document_ofEntry _ _ _ _
  have contents : edit.document.bytes = bytes := by
    rw [Document.bytes, options.document_ofEntry]
  have made : (Route.making.set options).report disk document entry = .ofEdit disk edit := rfl
  have saves : edit.saves = true := rfl
  rw [made, Report.ofEdit_of_saves disk saves, path, contents]
  cases (disk.save document.path bytes).fault? <;> rfl

section
variable {toolkit : Toolkit} {run : Route → Report × FileTree} {tree : FileTree} {path : Path}
  {options : EntryOptions} {document : Document} {entry : Text}

theorem Route.shows_of_report (loaded : Document.ofRead path (tree.read path) = .ok document)
    (report : ∀ route, (run route).1 = (route.set options).report tree.disk document entry)
    (after : ∀ route, (run route).2 = (run route).1.applyTo tree) :
    Route.Shows toolkit run tree path entry (options.place document entry) := by
  -- The reports of the three routes; only the last one depends on how the save is answered.
  have printing : (run .printing).1 = .ofLine entry := report .printing
  have trying : (run .trying).1 = .ofNotices (.exit 0)
      [.note .dim ("would add: ".toList ++ Entry.header entry)] := report .trying
  have making := (report .making).trans (options.report_making document entry)
  rw [Document.path_of_ofRead loaded, FileTree.fault?_save] at making
  have asked : (run .making).1.save =
      some (path, Utf8.encode (options.place document entry).text) := by
    rw [making]
  have left := (after .making).trans (Report.applyTo_of_save asked)
  refine ⟨fun route => ?_, fun route other => ?_, ?_, ?_, fun changed written => ?_,
    fun fault refused => ?_⟩
  · cases route with
    | printing => rw [printing]; rfl
    | trying => rw [trying]; rfl
    | making =>
      rw [making]
      cases tree.write path (Utf8.encode (options.place document entry).text) <;> rfl
  · rw [after]
    cases route with
    | printing => rw [printing]; exact ⟨rfl, rfl⟩
    | trying => rw [trying]; exact ⟨rfl, rfl⟩
    | making => exact absurd rfl other
  · rw [printing]
    exact List.append_nil _
  · rw [trying]
    exact List.append_nil _
  · rw [written] at making left
    -- The document has been read there, so what is written can be read back.
    obtain ⟨bytes, -, held, -, -⟩ := Document.ofRead_eq_ok_iff.1 loaded
    have readable := FileTree.readable_of_read held
    refine ⟨by rw [making]; rfl, ?_, left, FileTree.read_write written readable⟩
    rw [making]
    exact List.append_nil _
  · rw [refused] at making left
    exact ⟨by rw [making]; rfl, by rw [making]; rfl, left⟩

end

namespace Invocation

variable {path : Path}

theorem runOn_changelog (toolkit : Toolkit) (invocation : Invocation) (tree : FileTree)
    {options : EntryOptions}
    (named : toolkit.readCommand invocation.arguments = .ok (.changelog path options)) :
    (invocation.runOn toolkit tree).1 =
      options.reportOf tree.disk ((invocation.world tree).draft toolkit path options) := by
  rw [runOn_of_named named, Command.run, World.changelog_eq_map]
  cases (invocation.world tree).draft toolkit path options <;> rfl

/-- Three runs from the same state, each on its own route. Printing and trying end alike, and when
they fail, all three runs say the same and leave all files alone. They succeed exactly when
configuration, document and identity can be had and the tags are there, and then there is one
entry that all three show: what the loaded text gives for the day and the identity, with the
message behind it. -/
theorem runOn_routes (toolkit : Toolkit) (tree : FileTree) (home : Option Text)
    (git : GitOutcomes) (today : Date) {options : EntryOptions} {arguments : Route → List Text}
    (named : ∀ route, toolkit.readCommand (arguments route) =
      .ok (.changelog path (route.set options))) :
    let run (route : Route) := runOn toolkit ⟨arguments route, home, git, today⟩ tree
    let world : World := { disk := tree.disk, home, git, today }
    (run .printing).1.ending = (run .trying).1.ending ∧
      ((run .printing).1.ending ≠ .exit 0 → ∀ route, run route = ((run .printing).1, tree)) ∧
      ((run .printing).1.ending = .exit 0 ↔
        ∃ config document identity generated,
          world.config toolkit options.config = .ok config ∧
          world.document path = .ok document ∧
          (Packager.ofConfig config git).identity = .ok identity ∧
          Entry.generate document.text today.text identity = .ok generated ∧
          let entry := generated ++ (options.message <|> config.message).getD []
          Route.Shows toolkit run tree path entry (options.place document entry) ∧
            (toolkit.KeepsLines → '\x1b' ∉ entry →
              (run .printing).1.shown toolkit .output = entry ++ ['\n'])) := by
  intro run world
  have report (route : Route) : (run route).1 =
      (route.set options).reportOf tree.disk (world.draft toolkit path options) :=
    runOn_changelog toolkit ⟨arguments route, home, git, today⟩ tree (named route)
  have after (route : Route) : (run route).2 = (run route).1.applyTo tree := rfl
  -- What is at hand for an entry is the same on all routes; what follows is not.
  cases drafted : world.draft toolkit path options with
  | error failure =>
    have same (route : Route) : run route = (.ofFailure failure, tree) := by
      have failed : (run route).1 = .ofFailure failure := by
        rw [report, drafted, EntryOptions.reportOf]
      refine Prod.ext failed ?_
      rw [after, failed, Report.applyTo, Report.save_ofFailure]
    refine ⟨by rw [same, same], fun _ route => by rw [same, same], fun succeeded => ?_, ?_⟩
    · rw [same] at succeeded
      exact absurd succeeded (Report.ending_ofFailure_ne failure)
    · rintro ⟨config, document, identity, generated, configured, loaded, known, given, -⟩
      have made : (world.entryRequest config options).entry document =
          .ok (generated ++ (options.message <|> config.message).getD []) :=
        EntryRequest.entry_eq_ok_iff.2 ⟨identity, generated, known, given, rfl⟩
      cases drafted.symm.trans (World.draft_eq_ok_iff.2 ⟨config, configured, loaded, made⟩)
  | ok draft =>
    obtain ⟨document, entry⟩ := draft
    obtain ⟨config, configured, loaded, made⟩ := World.draft_eq_ok_iff.1 drafted
    have reports (route : Route) :
        (run route).1 = (route.set options).report tree.disk document entry := by
      rw [report, drafted, EntryOptions.reportOf]
    have shows : Route.Shows toolkit run tree path entry (options.place document entry) :=
      Route.shows_of_report loaded reports after
    have printing := (shows.ends .printing (by decide)).1
    have trying := (shows.ends .trying (by decide)).1
    obtain ⟨identity, generated, known, given, rfl⟩ := EntryRequest.entry_eq_ok_iff.1 made
    refine ⟨printing.trans trying.symm, fun failed => absurd printing failed, fun _ => ?_,
      fun _ => printing⟩
    exact ⟨config, document, identity, generated, configured, loaded, known, given, shows,
      fun keeps plain => shows.printed.trans (keeps _ plain)⟩

def taggedDocument : Document := ⟨.ofText "a.spec".toList, "Version: 1\nRelease: 2\n".toList⟩

def taggedTree : FileTree := { files := [(["a.spec".toList], taggedDocument.bytes)] }

def janesGit : GitOutcomes := ⟨.finished 0 "Jane\n".toList [], .finished 0 "j@x\n".toList []⟩

def entryArguments (message : Text) (route : Route) : List Text :=
  let flags := match route with
    | .printing => ["--print".toList]
    | .trying => ["--dry-run".toList]
    | .making => []
  "changelog".toList :: flags ++ ["a.spec".toList, "-m".toList, message]

def entryRun (message : Text) (route : Route) : Report × FileTree :=
  runOn Plain.toolkit ⟨entryArguments message route, some [], janesGit, ⟨2025, 3, 10⟩⟩ taggedTree

theorem runOn_routes_rebuilt :
    let options : EntryOptions := { message := some "Rebuilt".toList }
    let entry := "* Mon Mar 10 2025 Jane <j@x> - 1-2\n- Rebuilt".toList
    (∀ route, Plain.toolkit.readCommand (entryArguments "Rebuilt".toList route) =
        .ok (.changelog taggedDocument.path (route.set options))) ∧
      (entryRun "Rebuilt".toList .printing).1.shown Plain.toolkit .output = entry ++ ['\n'] ∧
      (entryRun "Rebuilt".toList .making).2.read taggedDocument.path =
        .ok (Utf8.encode (taggedDocument.addEntry entry).text) := by
  intro options entry
  have named (route : Route) : Plain.toolkit.readCommand (entryArguments "Rebuilt".toList route) =
      .ok (.changelog taggedDocument.path (route.set options)) := by
    cases route <;> decide +kernel
  have succeeded : (entryRun "Rebuilt".toList .printing).1.ending = .exit 0 := by decide +kernel
  obtain ⟨config, document, identity, generated, configured, loaded, known, given, shows, whole⟩ :=
    (runOn_routes Plain.toolkit taggedTree (some []) janesGit ⟨2025, 3, 10⟩ named).2.2.1 succeeded
  cases configured
  have here : Document.ofRead taggedDocument.path (taggedTree.read taggedDocument.path) =
      .ok taggedDocument := by
    decide +kernel
  cases here.symm.trans loaded
  have jane : janesGit.identity = .ok ⟨"Jane".toList, "j@x".toList⟩ := by decide +kernel
  cases jane.symm.trans known
  have text : Entry.generate taggedDocument.text (Date.text ⟨2025, 3, 10⟩)
      ⟨"Jane".toList, "j@x".toList⟩ =
        .ok "* Mon Mar 10 2025 Jane <j@x> - 1-2\n- ".toList := by
    decide +kernel
  cases text.symm.trans given
  have writable : ∃ after, taggedTree.write taggedDocument.path
      (Utf8.encode (taggedDocument.addEntry entry).text) = .ok after :=
    ⟨_, rfl⟩
  obtain ⟨after, written⟩ := writable
  obtain ⟨-, -, left, placed⟩ := shows.made after written
  exact ⟨named, whole Plain.keepsLines (by decide), left ▸ placed⟩

/-- Printing leaves out the control sequences of a message that goes into the file as it is, so
no entry is both what is printed and what is put into the document. -/
theorem runOn_printing_ne_entry :
    let message := "\x1b[1mbold\x1b[0m".toList
    (entryRun message .printing).1.ending = .exit 0 ∧ (entryRun message .making).1.ending = .exit 0 ∧
      ¬ ∃ entry, (entryRun message .printing).1.shown Plain.toolkit .output = entry ++ ['\n'] ∧
        (entryRun message .making).2.read taggedDocument.path =
          .ok (Utf8.encode (taggedDocument.addEntry entry).text) := by
  intro message
  refine ⟨by decide +kernel, by decide +kernel, ?_⟩
  rintro ⟨entry, printed, placed⟩
  have output : (entryRun message .printing).1.shown Plain.toolkit .output =
      "* Mon Mar 10 2025 Jane <j@x> - 1-2\n- bold".toList ++ ['\n'] := by
    decide +kernel
  cases List.append_cancel_right (output.symm.trans printed)
  revert placed
  decide +kernel

end Invocation

end Specfile.CommandLine
