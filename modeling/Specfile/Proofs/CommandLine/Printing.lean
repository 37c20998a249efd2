import Specfile.Proofs.CommandLine.Dependence
import Specfile.Proofs.Packager

/-! What the printing commands put on the two streams. A run prints the text that was asked for
as a line, or it stops at the first stage that fails. The message of a problem is then the only
error, but its hint goes to the output, and every problem that can stop such a run has one. -/

set_option autoImplicit false

namespace Specfile

theorem Document.isSome_hint?_of_ofRead {path : Path} {result : Except ReadRefusal Bytes}
    {problem : Problem} (refused : ofRead path result = .error (.problem problem)) :
    problem.hint?.isSome := by
  unfold ofRead at refused
  split at refused
  · cases refused
    rfl
  · cases refused
  · split at refused
    · cases refused
      rfl
    · cases refused

theorem Config.isSome_hint?_of_ofRead {reader : Data.Reader} {path : Path}
    {result : Except ReadRefusal Bytes} {problem : Problem}
    (refused : ofRead reader path result = .error (.problem problem)) :
    problem.hint?.isSome := by
  obtain ⟨-, onProblem, -⟩ := ofRead_outcome reader path result
  obtain ⟨message, -, rfl⟩ := (onProblem problem).1 refused
  rfl

theorem Packager.isSome_hint?_of_identity {packager : Packager} {problem : Problem}
    (refused : packager.identity = .error (.problem problem)) : problem.hint?.isSome := by
  cases packager with
  | configured identity => cases refused
  | git outcomes =>
    obtain ⟨reason, -, rfl⟩ := GitOutcomes.identity_eq_problem_iff.1 refused
    rfl

namespace CommandLine

theorem World.isSome_hint?_of_config {toolkit : Toolkit} {world : World} {given : Option Path}
    {problem : Problem} (refused : world.config toolkit given = .error (.problem problem)) :
    problem.hint?.isSome := by
  rw [config_eq, bind_eq_error_iff] at refused
  rcases refused with unread | ⟨_ | ⟨path, result⟩, -, refused⟩
  · exact absurd unread (configRead_ne_problem problem)
  · cases refused
  · exact Config.isSome_hint?_of_ofRead refused

/-- A command whose output is there for other programs to read. -/
def Command.isPrinting : Command → Bool
  | .expand .. => true
  | .changelog _ options => options.printOnly
  | .version | .bump .. => false

section
variable (toolkit : Toolkit) (world : World)

inductive Command.Prints : Command → Text → Prop where
  | expansion {path : Path} {text : Text} {document : Document} (home : world.KnowsHome)
      (loaded : world.document path = .ok document) :
      Prints (.expand path text) (Macro.expand (.ofLines document.lines) text)
  | entry {path : Path} {options : EntryOptions} {config : Config} {document : Document}
      {identity : Identity} {generated : Text} (printing : options.printOnly = true)
      (configured : world.config toolkit options.config = .ok config)
      (loaded : world.document path = .ok document)
      (known : (Packager.ofConfig config world.git).identity = .ok identity)
      (given : Entry.generate document.text world.today.text identity = .ok generated) :
      Prints (.changelog path options) (generated ++ (options.message <|> config.message).getD [])

/-- The first stage at which a printing command stops, and how. -/
inductive Command.Stops : Command → Failure → Prop where
  | home {path : Path} {text : Text} (unknown : ¬ world.KnowsHome) :
      Stops (.expand path text) (.fault .noHome)
  | expansion {path : Path} {text : Text} {failure : Failure} (home : world.KnowsHome)
      (refused : world.document path = .error failure) : Stops (.expand path text) failure
  | configuration {path : Path} {options : EntryOptions} {failure : Failure}
      (printing : options.printOnly = true)
      (refused : world.config toolkit options.config = .error failure) :
      Stops (.changelog path options) failure
  | document {path : Path} {options : EntryOptions} {config : Config} {failure : Failure}
      (printing : options.printOnly = true)
      (configured : world.config toolkit options.config = .ok config)
      (refused : world.document path = .error failure) :
      Stops (.changelog path options) failure
  | tags {path : Path} {options : EntryOptions} {config : Config} {document : Document}
      (printing : options.printOnly = true)
      (configured : world.config toolkit options.config = .ok config)
      (loaded : world.document path = .ok document)
      (incomplete : (Tags.ofLines document.lines).missing ≠ []) :
      Stops (.changelog path options)
        (.problem (.tagsMissing (Tags.ofLines document.lines).missing))
  | identity {path : Path} {options : EntryOptions} {config : Config} {document : Document}
      {failure : Failure} (printing : options.printOnly = true)
      (configured : world.config toolkit options.config = .ok config)
      (loaded : world.document path = .ok document)
      (complete : (Tags.ofLines document.lines).missing = [])
      (refused : (Packager.ofConfig config world.git).identity = .error failure) :
      Stops (.changelog path options) failure

end

namespace Command

variable {toolkit : Toolkit} {world : World} {command : Command}

theorem run_of_prints {payload : Text} (prints : command.Prints toolkit world payload) :
    command.run toolkit world = .ofLine payload := by
  cases prints with
  | @expansion path text document home loaded =>
    have ran : world.expand path text =
        .ok (.ofLine (Macro.expand (.ofLines document.lines) text)) :=
      World.expand_eq_ok_iff.2 ⟨home, document, loaded, rfl⟩
    simp only [run, ran]
  | @entry path options config document identity generated printing configured loaded known given =>
    have made : (world.entryRequest config options).entry document =
        .ok (generated ++ (options.message <|> config.message).getD []) :=
      EntryRequest.entry_eq_ok_iff.2 ⟨identity, generated, known, given, rfl⟩
    have drafted := World.draft_eq_ok_iff.2 ⟨config, configured, loaded, made⟩
    simp only [run, World.changelog_eq_map, drafted, map_ok, EntryOptions.report, printing, if_true]

theorem run_changelog_of_config {path : Path} {options : EntryOptions} {failure : Failure}
    (refused : world.config toolkit options.config = .error failure) :
    (changelog path options).run toolkit world = .ofFailure failure := by
  simp only [run, World.changelog, refused, error_bind]

theorem run_of_stops {failure : Failure} (stops : command.Stops toolkit world failure) :
    command.run toolkit world = .ofFailure failure := by
  cases stops with
  | home unknown =>
    simp only [run, World.expand, World.defaultConfig_of_not_knowsHome unknown, error_bind]
  | expansion home refused =>
    obtain ⟨path, known⟩ := home
    simp only [run, World.expand, known, refused, ok_bind, error_bind]
  | configuration printing refused => exact run_changelog_of_config refused
  | document printing configured refused =>
    simp only [run, World.changelog, configured, refused, ok_bind, error_bind]
  | tags printing configured loaded incomplete =>
    simp only [run, World.changelog, configured, loaded, ok_bind, printing, if_true,
      EntryRequest.entry, Entry.requireTags, incomplete, if_false, error_bind, mapError_error]
  | identity printing configured loaded complete refused =>
    simp only [run, World.changelog, configured, loaded, ok_bind, printing, if_true,
      EntryRequest.entry, Entry.requireTags, complete, World.entryRequest, refused, error_bind,
      mapError_ok]

theorem prints_or_stops (printing : command.isPrinting = true) :
    (∃ payload, command.Prints toolkit world payload) ∨
      ∃ failure, command.Stops toolkit world failure := by
  -- The stages are tried in the order in which a run comes to them.
  cases command with
  | version | bump => cases printing
  | expand path text =>
    by_cases home : world.KnowsHome
    · cases loaded : world.document path with
      | error failure => exact .inr ⟨failure, .expansion home loaded⟩
      | ok document => exact .inl ⟨_, .expansion home loaded⟩
    · exact .inr ⟨_, .home home⟩
  | changelog path options =>
    cases configured : world.config toolkit options.config with
    | error failure => exact .inr ⟨failure, .configuration printing configured⟩
    | ok config =>
      cases loaded : world.document path with
      | error failure => exact .inr ⟨failure, .document printing configured loaded⟩
      | ok document =>
        by_cases complete : (Tags.ofLines document.lines).missing = []
        · cases known : (Packager.ofConfig config world.git).identity with
          | error failure =>
            exact .inr ⟨failure, .identity printing configured loaded complete known⟩
          | ok identity =>
            have given : Entry.generate document.text world.today.text identity = .ok _ :=
              Entry.generate_eq_ok_iff.2 ⟨complete, rfl⟩
            exact .inl ⟨_, .entry printing configured loaded known given⟩
        · exact .inr ⟨_, .tags printing configured loaded complete⟩

theorem Stops.isSome_hint? {problem : Problem}
    (stops : command.Stops toolkit world (.problem problem)) : problem.hint?.isSome := by
  cases stops with
  | expansion home refused => exact Document.isSome_hint?_of_ofRead refused
  | configuration printing refused => exact World.isSome_hint?_of_config refused
  | document printing configured refused => exact Document.isSome_hint?_of_ofRead refused
  | tags printing configured loaded incomplete => rfl
  | identity printing configured loaded complete refused =>
    exact Packager.isSome_hint?_of_identity refused

theorem save_run (printing : command.isPrinting = true) :
    (command.run toolkit world).save = none := by
  rcases prints_or_stops printing with ⟨payload, prints⟩ | ⟨failure, stops⟩
  · rw [run_of_prints prints]
    rfl
  · rw [run_of_stops stops]
    exact Report.save_ofFailure failure

end Command

theorem Report.shown_ofFailure_of_hint (toolkit : Toolkit) {problem : Problem} {hint : Text}
    (hinted : problem.hint? = some hint) :
    let report := ofFailure (.problem problem)
    report.ending = .exit problem.exitCode ∧
      report.shown toolkit .output = toolkit.showNotice (.note .dim ("hint: ".toList ++ hint)) ∧
      report.shown toolkit .errors = toolkit.showNotice (.error problem.message) := by
  intro report
  have said : report = .ofNotices (.exit problem.exitCode)
      [.error problem.message, .note .dim ("hint: ".toList ++ hint)] := by
    simp only [report, ofFailure, Problem.notices, hinted]
    rfl
  rw [said]
  exact ⟨rfl, List.append_nil _, List.append_nil _⟩

/-- A printing run changes no file. Either it shows the text that was asked for as a line, and
nothing on the error stream; where lines are kept, that is the text and a newline, if the text has
no escape character. Or it stops at a stage. At a fault it says nothing of its own. At a problem
its code is not zero, the message is the only error, and the hint is all of the output. -/
theorem Invocation.runOn_printing {toolkit : Toolkit} {tree : FileTree} {invocation : Invocation}
    {command : Command} (named : toolkit.readCommand invocation.arguments = .ok command)
    (printing : command.isPrinting = true) :
    let world := invocation.world tree
    let (report, after) := invocation.runOn toolkit tree
    after = tree ∧
      ((∃ payload, command.Prints toolkit world payload) ∨
        ∃ failure, command.Stops toolkit world failure) ∧
      (∀ payload, command.Prints toolkit world payload →
        report.ending = .exit 0 ∧ report.shown toolkit .errors = [] ∧
          report.shown toolkit .output = toolkit.showLine payload ∧
          (toolkit.KeepsLines → '\x1b' ∉ payload →
            report.shown toolkit .output = payload ++ ['\n'])) ∧
      (∀ fault, command.Stops toolkit world (.fault fault) →
        report.ending = .broken fault ∧ ∀ stream, report.shown toolkit stream = []) ∧
      ∀ problem, command.Stops toolkit world (.problem problem) →
        problem.exitCode ≠ 0 ∧ ∃ hint, problem.hint? = some hint ∧
          report.ending = .exit problem.exitCode ∧
          report.shown toolkit .output =
            toolkit.showNotice (.note .dim ("hint: ".toList ++ hint)) ∧
          report.shown toolkit .errors = toolkit.showNotice (.error problem.message) := by
  intro world
  rw [runOn_of_named named]
  refine ⟨?_, Command.prints_or_stops printing, fun payload prints => ?_, fun fault stops => ?_,
    fun problem stops => ?_⟩
  · rw [Report.applyTo, Command.save_run printing]
  · rw [Command.run_of_prints prints]
    have shown : (Report.ofLine payload).shown toolkit .output = toolkit.showLine payload :=
      List.append_nil _
    exact ⟨rfl, rfl, shown, fun keeps plain => shown.trans (keeps payload plain)⟩
  · rw [Command.run_of_stops stops]
    exact ⟨rfl, fun _ => rfl⟩
  · rw [Command.run_of_stops stops]
    have failed : problem.exitCode ≠ 0 := fun zero =>
      Report.ending_ofFailure_ne (.problem problem) (congrArg Ending.exit zero)
    -- At every stage the problems have a hint, and it goes to the output.
    obtain ⟨hint, hinted⟩ := Option.isSome_iff_exists.1 stops.isSome_hint?
    exact ⟨failed, hint, hinted, Report.shown_ofFailure_of_hint toolkit hinted⟩

namespace Invocation

def expandCall (text : Text) : Invocation where
  arguments := ["expand".toList, "a.spec".toList, text]
  home := some []
  git := EntryRequest.noGit
  today := ⟨2025, 3, 10⟩

def macroTree : FileTree := { files := [(["a.spec".toList], EntryRequest.macroDocument.bytes)] }

def emptyTree : FileTree := { files := [] }

theorem runOn_printing_expandCall :
    let call := expandCall "v%\x7bv\x7d".toList
    let shown (tree : FileTree) := (call.runOn Plain.toolkit tree).1.shown Plain.toolkit
    shown macroTree .output = "v1.2\n".toList ∧ shown macroTree .errors = [] ∧
      shown emptyTree .output = "hint: Pass the path of an existing .spec file\n".toList ∧
      shown emptyTree .errors = "error: No spec document at a.spec: file not found\n".toList := by
  intro call shown
  have named : Plain.toolkit.readCommand call.arguments =
      .ok (.expand (.ofText "a.spec".toList) "v%\x7bv\x7d".toList) := by
    decide +kernel
  have home (tree : FileTree) : (call.world tree).KnowsHome := ⟨_, rfl⟩
  have loaded : (call.world macroTree).document (.ofText "a.spec".toList) =
      .ok EntryRequest.macroDocument := by
    decide +kernel
  have refused : (call.world emptyTree).document (.ofText "a.spec".toList) =
      .error (.problem (.noDocument (.ofText "a.spec".toList) "file not found".toList)) := by
    decide +kernel
  obtain ⟨-, -, onText, -⟩ := @runOn_printing _ macroTree _ _ named rfl
  obtain ⟨-, silent, -, kept⟩ := onText _ (.expansion (home _) loaded)
  obtain ⟨-, -, -, -, onProblem⟩ := @runOn_printing _ emptyTree _ _ named rfl
  obtain ⟨-, hint, hinted, -, output, errors⟩ := onProblem _ (.expansion (home _) refused)
  cases hinted
  have payload : Macro.expand (.ofLines EntryRequest.macroDocument.lines) "v%\x7bv\x7d".toList =
      "v1.2".toList := by
    decide +kernel
  rw [payload] at kept
  refine ⟨kept Plain.keepsLines (by decide), silent, output.trans ?_, errors.trans ?_⟩ <;>
    decide +kernel

/-- A run that fails prints a hint, and one that ends well may print less than the expansion. -/
theorem runOn_expandCall_ne_payload :
    let failed := ((expandCall ['x']).runOn Plain.toolkit emptyTree).1
    let sequence := "\x1b[1mx".toList
    let printed := ((expandCall sequence).runOn Plain.toolkit macroTree).1
    failed.ending = .exit 5 ∧ failed.shown Plain.toolkit .output ≠ [] ∧
      Macro.expand (.ofLines EntryRequest.macroDocument.lines) sequence = sequence ∧
      printed.ending = .exit 0 ∧ printed.shown Plain.toolkit .output = "x\n".toList := by
  decide +kernel

end Invocation

end CommandLine

end Specfile
