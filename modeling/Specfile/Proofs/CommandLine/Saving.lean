import Specfile.CommandLine.Run
import Specfile.Plain.Toolkit
import Specfile.Proofs.Document.Loading
import Specfile.Proofs.Edit
import Specfile.Proofs.Files.Tree

/-! What command lines do to files. A run saves the document that it edits, at the path that it
was loaded from, once everything that can fail before has succeeded; all other runs leave the
files alone, and so does a save that is refused. Since a save goes to a file that has been read, no
file comes or goes. -/

set_option autoImplicit false

namespace Specfile.CommandLine

def Command.saves? : Command → Option Path
  | .version | .expand .. => none
  | .bump path dryRun => if dryRun then none else some path
  | .changelog path options => if options.printOnly || options.dryRun then none else some path

inductive Command.Makes (toolkit : Toolkit) (world : World) : Command → Edit → Prop where
  | bump {path : Path} {dryRun : Bool} {document : Document} {edit : Edit}
      {change : Release.Change} (loaded : world.document path = .ok document)
      (made : Edit.bump dryRun document = .ok (edit, change)) :
      Makes toolkit world (.bump path dryRun) edit
  | changelog {path : Path} {options : EntryOptions} {config : Config} {document : Document}
      {edit : Edit} (configured : world.config toolkit options.config = .ok config)
      (loaded : world.document path = .ok document)
      (made : Edit.addEntry (world.entryRequest config options) options.cursor options.dryRun
        document = .ok edit) :
      Makes toolkit world (.changelog path options) edit

/-- How a run ends: it has asked for the save of a document, or for none. -/
inductive Command.Outcome (toolkit : Toolkit) (world : World) (command : Command)
    (report : Report) : Prop where
  | saving {path : Path} {document : Document} {edit : Edit} (saves : command.saves? = some path)
      (loaded : world.document path = .ok document) (made : command.Makes toolkit world edit)
      (ending : report.ending =
        ((world.disk.save path edit.document.bytes).fault?.elim (.exit 0) .broken))
      (asked : report.save = some (path, edit.document.bytes))
  | idle (reason : command.saves? = none ∨ report.ending ≠ .exit 0) (silent : report.save = none)

namespace World

theorem path_of_document {world : World} {path : Path} {document : Document}
    (loaded : world.document path = .ok document) : document.path = path :=
  Document.path_of_ofRead loaded

theorem bump_eq_ok_iff {world : World} {path : Path} {dryRun : Bool} {report : Report} :
    world.bump path dryRun = .ok report ↔
      (∃ home, world.defaultConfig = .ok home) ∧ ∃ document edit change,
        world.document path = .ok document ∧ Edit.bump dryRun document = .ok (edit, change) ∧
        report = .ofEdit world.disk edit := by
  simp only [bump, bind_eq_ok_iff, pure_eq_ok_iff, Prod.exists, exists_and_left, exists_and_right]

theorem expand_eq_ok_iff {world : World} {path : Path} {text : Text} {report : Report} :
    world.expand path text = .ok report ↔
      (∃ home, world.defaultConfig = .ok home) ∧ ∃ document, world.document path = .ok document ∧
        report = .ofLine (Macro.expand (.ofLines document.lines) text) := by
  simp only [expand, bind_eq_ok_iff, pure_eq_ok_iff, exists_and_right]

theorem changelog_eq_ok_iff {toolkit : Toolkit} {world : World} {path : Path}
    {options : EntryOptions} {report : Report} :
    world.changelog toolkit path options = .ok report ↔
      ∃ config document, world.config toolkit options.config = .ok config ∧
        world.document path = .ok document ∧
        let request := world.entryRequest config options
        if options.printOnly then
          ∃ entry, request.entry document = .ok entry ∧ report = .ofLine entry
        else
          ∃ edit, Edit.addEntry request options.cursor options.dryRun document = .ok edit ∧
            report = .ofEdit world.disk edit := by
  simp only [changelog, bind_eq_ok_iff, exists_and_left]
  cases options.printOnly <;>
    simp only [Bool.false_eq_true, if_true, if_false, bind_eq_ok_iff, pure_eq_ok_iff]

end World

theorem Report.ending_ofFailure_ne (failure : Failure) :
    (Report.ofFailure failure).ending ≠ .exit 0 := by
  rcases failure with problem | fault
  · cases problem <;> simp [ofFailure, ofNotices, Problem.exitCode]
  · simp [ofFailure]

theorem Report.save_ofFailure (failure : Failure) : (Report.ofFailure failure).save = none := by
  cases failure <;> rfl

theorem Report.ofEdit_of_saves (disk : Disk) {edit : Edit} (saves : edit.saves = true) :
    let (path, bytes) := (edit.document.path, edit.document.bytes)
    ofEdit disk edit = match (disk.save path bytes).fault? with
      | none => { ofNotices (.exit 0) edit.notices with save := some (path, bytes) }
      | some fault =>
        { ofNotices (.broken fault) edit.warnings with save := some (path, bytes) } := by
  cases answered : (disk.save edit.document.path edit.document.bytes).fault? <;>
    simp [ofEdit, Edit.outcome, saves, answered]

theorem Report.ending_ofEdit (disk : Disk) {edit : Edit} (saves : edit.saves = true) :
    (Report.ofEdit disk edit).ending =
      (disk.save edit.document.path edit.document.bytes).fault?.elim (.exit 0) .broken := by
  rw [Report.ofEdit_of_saves disk saves]
  cases (disk.save edit.document.path edit.document.bytes).fault? <;> rfl

theorem Report.applyTo_of_save {report : Report} {tree : FileTree} {path : Path} {bytes : Bytes}
    (asked : report.save = some (path, bytes)) :
    report.applyTo tree = (tree.write path bytes).toOption.getD tree := by
  rw [applyTo, asked]

section
variable {toolkit : Toolkit} {world : World} {command : Command}

theorem Command.Outcome.ofResult {result : Except Failure Report} :
    (∀ report, result = .ok report → command.Outcome toolkit world report) →
      command.Outcome toolkit world (match result with
        | .ok report => report
        | .error failure => .ofFailure failure) := by
  -- What is known of successes is no binder, so that the match is on the result alone.
  intro each
  cases result with
  | error failure =>
    exact .idle (.inr (Report.ending_ofFailure_ne failure)) (Report.save_ofFailure failure)
  | ok report => exact each report rfl

theorem Command.Outcome.ofEdit {path : Path} {document : Document} {edit : Edit}
    (loaded : world.document path = .ok document) (made : command.Makes toolkit world edit)
    (kept : edit.document.path = document.path)
    (saves : command.saves? = if edit.saves then some path else none) :
    command.Outcome toolkit world (.ofEdit world.disk edit) := by
  have samePath : edit.document.path = path := kept.trans (World.path_of_document loaded)
  cases wanted : edit.saves with
  | false => exact .idle (.inl (by simpa [wanted] using saves)) (by simp [Report.ofEdit, wanted])
  | true =>
    refine .saving (by simpa [wanted] using saves) loaded made ?_ ?_
    · rw [Report.ending_ofEdit _ wanted, samePath]
    · simp [Report.ofEdit, wanted, samePath]

variable (toolkit command world)

/-- Whatever a command does, it asks to save an edit that it made, or it asks for nothing. -/
theorem Command.outcome : command.Outcome toolkit world (command.run toolkit world) := by
  apply Command.Outcome.ofResult
  intro report ran
  -- What fails reports no save, so only the runs that get through are looked at.
  cases command with
  | version =>
    cases ran
    exact .idle (.inl rfl) rfl
  | bump path dryRun =>
    obtain ⟨-, document, edit, change, loaded, made, rfl⟩ := World.bump_eq_ok_iff.1 ran
    obtain ⟨-, rfl⟩ := Edit.bump_eq_ok_iff.1 made
    exact .ofEdit loaded (.bump loaded made) rfl (by cases dryRun <;> rfl)
  | expand path text =>
    obtain ⟨-, document, -, rfl⟩ := World.expand_eq_ok_iff.1 ran
    exact .idle (.inl rfl) rfl
  | changelog path options =>
    obtain ⟨config, document, configured, loaded, rest⟩ := World.changelog_eq_ok_iff.1 ran
    cases printed : options.printOnly with
    | true =>
      obtain ⟨entry, -, rfl⟩ := by simpa [printed] using rest
      exact .idle (.inl (by simp [saves?, printed])) rfl
    | false =>
      obtain ⟨edit, made, rfl⟩ := by simpa [printed] using rest
      obtain ⟨entry, -, rfl⟩ := Edit.addEntry_eq_ok_iff.1 made
      refine .ofEdit loaded (.changelog configured loaded made)
        (Edit.path_document_ofEntry _ _ _ _) ?_
      cases tried : options.dryRun <;> simp [saves?, printed, tried, Edit.ofEntry]

end

namespace Invocation

variable {toolkit : Toolkit} {invocation : Invocation} {tree : FileTree} {command : Command}

theorem runOn_of_named (named : toolkit.readCommand invocation.arguments = .ok command) :
    invocation.runOn toolkit tree =
      (command.run toolkit (invocation.world tree),
        (command.run toolkit (invocation.world tree)).applyTo tree) := by
  simp only [runOn, run, named]

def saves? (toolkit : Toolkit) (invocation : Invocation) : Option Path :=
  (toolkit.readCommand invocation.arguments).toOption.bind Command.saves?

/-- What a run leaves of a file tree. Only one that is to save a document and ends well changes
anything: the file that the document was loaded from, which then holds the updated text. -/
structure Leaves (toolkit : Toolkit) (invocation : Invocation) (before : FileTree)
    (report : Report) (after : FileTree) : Prop where
  shape : before.SameShape after
  untouched : invocation.saves? toolkit = none ∨ report.ending ≠ .exit 0 → after = before
  saved : ∀ path, invocation.saves? toolkit = some path → report.ending = .exit 0 →
    ∃ command place edit, toolkit.readCommand invocation.arguments = .ok command ∧
      command.Makes toolkit (invocation.world before) edit ∧
      before.resolve path = .ok place ∧
      after.file? place = some (Utf8.encode edit.document.text) ∧
      ∀ other, other ≠ place → after.file? other = before.file? other

theorem leaves_of_unchanged {report : Report} {after : FileTree} (same : after = tree)
    (reason : invocation.saves? toolkit = none ∨ report.ending ≠ .exit 0) :
    invocation.Leaves toolkit tree report after := by
  subst same
  refine ⟨.refl after, fun _ => rfl, fun path saves succeeded => ?_⟩
  rcases reason with none | failed
  · simp [none] at saves
  · exact absurd succeeded failed

theorem leaves_of_saving {report : Report} {path : Path} {document : Document} {edit : Edit}
    (named : toolkit.readCommand invocation.arguments = .ok command)
    (saves : command.saves? = some path)
    (loaded : (invocation.world tree).document path = .ok document)
    (made : command.Makes toolkit (invocation.world tree) edit)
    (ending : report.ending =
      (tree.disk.save path edit.document.bytes).fault?.elim (.exit 0) .broken)
    (asked : report.save = some (path, edit.document.bytes)) :
    invocation.Leaves toolkit tree report (report.applyTo tree) := by
  have leaves : report.applyTo tree = (tree.write path edit.document.bytes).toOption.getD tree :=
    Report.applyTo_of_save asked
  rw [FileTree.fault?_save] at ending
  cases written : tree.write path edit.document.bytes with
  | error fault =>
    rw [written] at leaves ending
    refine leaves_of_unchanged leaves (.inr ?_)
    simp [ending]
  | ok after =>
    rw [written] at leaves ending
    have succeeded : report.ending = .exit 0 := ending
    have wanted : invocation.saves? toolkit = some path := by
      simp [saves?, named, Except.toOption, saves]
    -- What was loaded was read, so the path leads to a file.
    obtain ⟨bytes, -, read, -, -⟩ := Document.ofRead_eq_ok_iff.1 loaded
    obtain ⟨shape, place, leadsTo, holds, others⟩ := FileTree.write_of_read read written
    refine leaves ▸ ⟨shape, fun reason => ?_, fun path' wanted' _ => ?_⟩
    · rcases reason with none | failed
      · cases none.symm.trans wanted
      · exact absurd succeeded failed
    · cases wanted'.symm.trans wanted
      exact ⟨command, place, edit, named, made, leadsTo, holds, others⟩

/-- A run on a file tree: the step of a sequence of runs. -/
theorem leaves_runOn (toolkit : Toolkit) (invocation : Invocation) (tree : FileTree) :
    invocation.Leaves toolkit tree (invocation.runOn toolkit tree).1
      (invocation.runOn toolkit tree).2 := by
  cases named : toolkit.readCommand invocation.arguments with
  | error code =>
    -- Without a command nothing runs and nothing is saved.
    have unnamed : invocation.saves? toolkit = none := by simp [saves?, named, Except.toOption]
    refine leaves_of_unchanged ?_ (.inl unnamed)
    simp [runOn, run, named, Report.applyTo]
  | ok command =>
    rw [runOn_of_named named]
    rcases command.outcome toolkit (invocation.world tree) with
      ⟨saves, loaded, made, ending, asked⟩ | ⟨reason, silent⟩
    · exact leaves_of_saving named saves loaded made ending asked
    · refine leaves_of_unchanged (by simp [Report.applyTo, silent]) ?_
      simpa [saves?, named, Except.toOption] using reason

end Invocation

-- A bump saves; an entry fails for want of a version and leaves the file alone.
example :
    let call (words : List String) : Invocation :=
      { arguments := words.map String.toList
        home := some []
        git := ⟨.finished 1 [] [], .finished 1 [] []⟩
        today := ⟨2025, 3, 10⟩ }
    let tree : FileTree := { files := [(["a.spec".toList], Utf8.encode "Release: 9".toList)] }
    let runs := runAll Plain.toolkit
      [call ["bump", "a.spec"], call ["changelog", "../a.spec"]] tree
    runs.map (fun run => (run.1.ending, run.2.file? ["a.spec".toList])) =
      [(.exit 0, some (Utf8.encode "Release: 10".toList)),
        (.exit 1, some (Utf8.encode "Release: 10".toList))] := by
  decide +kernel

end Specfile.CommandLine
