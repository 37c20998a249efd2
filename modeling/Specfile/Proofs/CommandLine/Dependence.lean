import Specfile.Proofs.CommandLine.Routes

/-! What a command depends on. A bump and an expansion see nothing of the world but the document.
A new entry also needs the date and the configuration, and git only if the configured identity is
incomplete and the document has both required tags. Two worlds that differ in nothing else give
the same report and leave the same document. -/

set_option autoImplicit false

namespace Specfile

theorem Disk.isFile_eq_error_iff {disk : Disk} {path : Path} {fault : Fault} :
    disk.isFile path = .error fault ↔
      ∃ errno attached, disk.status path = .error (.system errno attached) ∧
        errno.number ∉ absences ∧ fault = .system errno attached := by
  unfold isFile
  rcases disk.status path with (⟨errno, attached⟩ | _) | isFile
  · by_cases absent : errno.number ∈ absences <;> simp [absent, eq_comm]
  · simp
  · simp

namespace CommandLine

namespace World

/-- The path of the configuration in use and what reading it gives; `none` when none is given and
there is no default one. -/
def configRead (world : World) (given : Option Path) :
    Except Failure (Option (Path × Except ReadRefusal Bytes)) :=
  match given with
  | some path => .ok (some (path, world.disk.read path))
  | none => do
    let path ← world.defaultConfig
    if ← (world.disk.isFile path).mapError .fault then pure (some (path, world.disk.read path))
    else pure none

theorem config_eq (toolkit : Toolkit) (world : World) (given : Option Path) :
    world.config toolkit given = world.configRead given >>= fun
      | some (path, result) => Config.ofRead toolkit.readData path result
      | none => .ok {} := by
  cases given with
  | some path => rfl
  | none =>
    simp only [config, configRead]
    cases world.defaultConfig with
    | error failure => rfl
    | ok path => cases asked : world.disk.isFile path with
      | error fault => simp [asked]
      | ok isFile => cases isFile <;> simp [asked, pure, Except.pure]

/-- Whether a run for an entry gets as far as asking git: nothing has failed before, and the
configured identity is not complete. -/
def AsksGit (toolkit : Toolkit) (world : World) (path : Path) (options : EntryOptions) : Prop :=
  ∃ config document, world.config toolkit options.config = .ok config ∧
    config.identity? = none ∧ world.document path = .ok document ∧
    (Tags.ofLines document.lines).missing = []

def KnowsHome (world : World) : Prop := ∃ path, world.defaultConfig = .ok path

/-- Looking the default configuration up breaks off: there is no home directory, or the system
refuses to say whether there is such a file, for another reason than that there is none. -/
inductive LookupBreaks (world : World) : Fault → Prop where
  | noHome (unknown : ¬ world.KnowsHome) : LookupBreaks world .noHome
  | status {path : Path} {errno : Errno} {attached : Option Path}
      (known : world.defaultConfig = .ok path)
      (refused : world.disk.status path = .error (.system errno attached))
      (present : errno.number ∉ Disk.absences) : LookupBreaks world (.system errno attached)

/-- A document that can be read can be written to in both worlds, or it is refused alike. -/
def SavesAlike (world other : World) (path : Path) : Prop :=
  ∀ old, world.disk.read path = .ok old →
    ∀ bytes, (world.disk.save path bytes).fault? = (other.disk.save path bytes).fault?

/-- What two worlds have in common as far as a new entry depends on it. -/
structure AgreeOnEntry (toolkit : Toolkit) (world other : World) (path : Path)
    (options : EntryOptions) : Prop where
  document : world.disk.read path = other.disk.read path
  today : world.today = other.today
  config : world.configRead options.config = other.configRead options.config
  git : world.AsksGit toolkit path options → world.git = other.git

section
variable {toolkit : Toolkit} {world other : World} {path : Path} {options : EntryOptions}

theorem document_congr (agree : world.disk.read path = other.disk.read path) :
    world.document path = other.document path :=
  congrArg (Document.ofRead path) agree

theorem defaultConfig_of_not_knowsHome (unknown : ¬ world.KnowsHome) :
    world.defaultConfig = .error (.fault .noHome) := by
  unfold KnowsHome defaultConfig at unknown
  unfold defaultConfig
  by_cases missing : (tilde world.home).head? = some '~'
  · simp [missing]
  · simp [missing] at unknown

theorem configRead_none_eq_error_iff {failure : Failure} :
    world.configRead none = .error failure ↔
      ∃ fault, world.LookupBreaks fault ∧ failure = .fault fault := by
  -- The home directory comes first; the system is asked about a path that is known.
  by_cases home : world.KnowsHome
  · obtain ⟨path, known⟩ := home
    simp only [configRead, known, ok_bind, bind_eq_error_iff, mapError_eq_error_iff]
    constructor
    · rintro (⟨fault, unknown, rfl⟩ | ⟨isFile, -, made⟩)
      · obtain ⟨errno, attached, refused, present, rfl⟩ := Disk.isFile_eq_error_iff.1 unknown
        exact ⟨_, .status known refused present, rfl⟩
      · cases isFile <;> cases made
    · rintro ⟨_, unknown | ⟨known', refused, present⟩, rfl⟩
      · exact absurd ⟨path, known⟩ unknown
      · cases known.symm.trans known'
        exact .inl ⟨_, Disk.isFile_eq_error_iff.2 ⟨_, _, refused, present, rfl⟩, rfl⟩
  · simp only [configRead, defaultConfig_of_not_knowsHome home, error_bind, Except.error.injEq]
    constructor
    · rintro rfl
      exact ⟨_, .noHome home, rfl⟩
    · rintro ⟨_, _ | ⟨known, -, -⟩, rfl⟩
      · rfl
      · exact absurd ⟨_, known⟩ home

theorem configRead_ne_problem {given : Option Path} (problem : Problem) :
    world.configRead given ≠ .error (.problem problem) := by
  cases given with
  | some path => exact nofun
  | none =>
    intro refused
    obtain ⟨fault, -, other⟩ := configRead_none_eq_error_iff.1 refused
    cases other

theorem bind_defaultConfig_congr {α : Type} (home : world.KnowsHome ↔ other.KnowsHome)
    (next : Except Failure α) :
    (world.defaultConfig >>= fun _ => next) = (other.defaultConfig >>= fun _ => next) := by
  by_cases known : world.KnowsHome
  · obtain ⟨path, here⟩ := known
    obtain ⟨path', there⟩ := home.1 ⟨path, here⟩
    rw [here, there, ok_bind, ok_bind]
  · have unknown : ¬ other.KnowsHome := fun known' => known (home.2 known')
    rw [defaultConfig_of_not_knowsHome known, defaultConfig_of_not_knowsHome unknown]

theorem draft_congr (agree : world.AgreeOnEntry toolkit other path options) :
    world.draft toolkit path options = other.draft toolkit path options := by
  have sameConfig : world.config toolkit options.config = other.config toolkit options.config := by
    rw [config_eq, config_eq, agree.config]
  have sameDocument := document_congr agree.document
  cases configured : world.config toolkit options.config with
  | error failure => simp only [draft, ← sameConfig, configured, error_bind]
  | ok config =>
    cases loaded : world.document path with
    | error failure =>
      simp only [draft, ← sameConfig, ← sameDocument, configured, loaded, ok_bind, error_bind]
    | ok document =>
      -- Git is asked only when all the rest is at hand, and then both worlds answer alike.
      have sameEntry : (world.entryRequest config options).entry document =
          (other.entryRequest config options).entry document := by
        refine EntryRequest.entry_congr agree.today rfl fun complete => ?_
        change (Packager.ofConfig config world.git).identity =
          (Packager.ofConfig config other.git).identity
        cases incomplete : config.identity? with
        | some identity => simp only [Packager.ofConfig, incomplete]
        | none => rw [agree.git ⟨config, document, configured, incomplete, loaded, complete⟩]
      simp only [draft, ← sameConfig, ← sameDocument, configured, loaded, ok_bind, sameEntry]

end

end World

def Command.document? : Command → Option Path
  | .version => none
  | .changelog path _ | .bump path _ | .expand path _ => some path

def Command.Agree (toolkit : Toolkit) (world other : World) (command : Command) : Prop :=
  (∀ path, command.saves? = some path → world.SavesAlike other path) ∧
    match command with
    | .version => True
    | .bump path _ | .expand path _ =>
      world.disk.read path = other.disk.read path ∧ (world.KnowsHome ↔ other.KnowsHome)
    | .changelog path options => world.AgreeOnEntry toolkit other path options

namespace Command

variable {toolkit : Toolkit} {world other : World} {command : Command} {path : Path}

theorem ofEdit_congr {document : Document} {edit : Edit}
    (loaded : world.document path = .ok document) (kept : edit.document.path = document.path)
    (alike : edit.saves = true → world.SavesAlike other path) :
    Report.ofEdit world.disk edit = Report.ofEdit other.disk edit := by
  cases saves : edit.saves with
  | false => simp [Report.ofEdit, Edit.outcome, saves]
  | true =>
    obtain ⟨old, -, held, -, -⟩ := Document.ofRead_eq_ok_iff.1 loaded
    have same := alike saves old held edit.document.bytes
    rw [Report.ofEdit_of_saves _ saves, Report.ofEdit_of_saves _ saves, kept,
      World.path_of_document loaded, same]

theorem bump_congr {dryRun : Bool} (agree : (bump path dryRun).Agree toolkit world other) :
    world.bump path dryRun = other.bump path dryRun := by
  obtain ⟨alike, sameDocument, home⟩ := agree
  -- The default path is made up first, but nothing of it enters the edit.
  have sameEdit : (world.document path >>= fun document => Edit.bump dryRun document >>=
        fun made => pure (Report.ofEdit world.disk made.1)) =
      (other.document path >>= fun document => Edit.bump dryRun document >>=
        fun made => pure (Report.ofEdit other.disk made.1)) := by
    rw [← World.document_congr sameDocument]
    cases loaded : world.document path with
    | error failure => rfl
    | ok document =>
      cases made : Edit.bump dryRun document with
      | error failure => simp [made]
      | ok outcome =>
        obtain ⟨edit, change⟩ := outcome
        obtain ⟨-, rfl⟩ := Edit.bump_eq_ok_iff.1 made
        have reported : Report.ofEdit world.disk (Edit.ofChange dryRun document change) =
            Report.ofEdit other.disk (Edit.ofChange dryRun document change) := by
          refine ofEdit_congr loaded rfl fun saves => alike path ?_
          cases dryRun with
          | false => rfl
          | true => cases saves
        simp [made, reported]
  exact (congrArg _ (funext fun _ => sameEdit)).trans (World.bind_defaultConfig_congr home _)

theorem changelog_congr {options : EntryOptions}
    (agree : (changelog path options).Agree toolkit world other) :
    world.changelog toolkit path options = other.changelog toolkit path options := by
  obtain ⟨alike, onEntry⟩ := agree
  rw [World.changelog_eq_map, World.changelog_eq_map, ← World.draft_congr onEntry]
  cases drafted : world.draft toolkit path options with
  | error failure => rfl
  | ok draft =>
    obtain ⟨document, entry⟩ := draft
    obtain ⟨-, -, loaded, -⟩ := World.draft_eq_ok_iff.1 drafted
    suffices options.report world.disk document entry = options.report other.disk document entry
      from congrArg Except.ok this
    unfold EntryOptions.report
    split
    · rfl
    -- Only an edit that is to be saved depends on the answer to the save.
    · rename_i edits
      refine ofEdit_congr loaded (Edit.path_document_ofEntry _ _ _ _) fun saves => alike path ?_
      have made : options.dryRun = false := by simpa [Edit.ofEntry] using saves
      simp [saves?, edits, made]

theorem run_congr (agree : command.Agree toolkit world other) :
    command.run toolkit world = command.run toolkit other := by
  cases command with
  | version => rfl
  | changelog path options => simp only [run, changelog_congr agree]
  | bump path dryRun => simp only [run, bump_congr agree]
  | expand path text =>
    simp only [run, World.expand, World.document_congr agree.2.1,
      World.bind_defaultConfig_congr agree.2.2]

theorem read_congr (agree : command.Agree toolkit world other)
    (about : command.document? = some path) : world.disk.read path = other.disk.read path := by
  cases command with
  | version => cases about
  | changelog path options =>
    cases about
    exact agree.2.document
  | bump path dryRun | expand path text =>
    cases about
    exact agree.2.1

theorem document?_of_saves? (saves : command.saves? = some path) :
    command.document? = some path := by
  cases command with
  | version | expand path text => cases saves
  | changelog path options =>
    simp only [saves?] at saves
    split at saves
    · cases saves
    · exact saves
  | bump path dryRun =>
    cases dryRun with
    | false => exact saves
    | true => cases saves

end Command

namespace Invocation

theorem read_applyTo {toolkit : Toolkit} {command : Command} {world : World} {tree : FileTree}
    {path : Path} (disk : world.disk = tree.disk) (about : command.document? = some path) :
    ((command.run toolkit world).applyTo tree).read path =
      match (command.run toolkit world).save with
      | some (_, bytes) =>
        if (command.run toolkit world).ending = .exit 0 then .ok bytes else tree.read path
      | none => tree.read path := by
  rcases command.outcome toolkit world with ⟨saves, loaded, -, ending, asked⟩ | ⟨reason, silent⟩
  · cases (Command.document?_of_saves? saves).symm.trans about
    obtain ⟨old, -, held, -, -⟩ := Document.ofRead_eq_ok_iff.1 loaded
    rw [disk] at held ending
    rw [FileTree.fault?_save] at ending
    rw [Report.applyTo_of_save asked, asked, ending]
    cases written : tree.write path _ with
    | ok after => exact FileTree.read_write written (FileTree.readable_of_read held)
    | error fault => rfl
  · rw [Report.applyTo, silent]

/-- Runs of the same arguments in two worlds that agree on what the command depends on report the
same and leave the same in the document's file. -/
theorem runOn_congr {toolkit : Toolkit} {first second : Invocation} {tree tree' : FileTree}
    (same : first.arguments = second.arguments)
    (agree : ∀ command, toolkit.readCommand first.arguments = .ok command →
      command.Agree toolkit (first.world tree) (second.world tree')) :
    (first.runOn toolkit tree).1 = (second.runOn toolkit tree').1 ∧
      ∀ command path, toolkit.readCommand first.arguments = .ok command →
        command.document? = some path →
          (first.runOn toolkit tree).2.read path = (second.runOn toolkit tree').2.read path := by
  cases named : toolkit.readCommand first.arguments with
  | error code =>
    have wrong : toolkit.readCommand second.arguments = .error code := same ▸ named
    exact ⟨by simp only [runOn, run, named, wrong], fun _ _ found => by cases found⟩
  | ok command =>
    have agrees := agree command named
    have reports := command.run_congr agrees
    rw [runOn_of_named named, runOn_of_named (same ▸ named)]
    refine ⟨reports, fun command' path found about => ?_⟩
    cases found
    -- A save of the one is a save of the other; without one the file is as it was.
    have before : tree.read path = tree'.read path := command.read_congr agrees about
    rw [read_applyTo rfl about, read_applyTo rfl about, reports, before]

def ownConfig : Bytes := Utf8.encode "[identity]\nname = \"Jane\"\nemail = \"j@x\"\n".toList

def configuredTree (others : List (List Text × Bytes)) : FileTree :=
  { files := (["a.spec".toList], taggedDocument.bytes) :: (["c.toml".toList], ownConfig) :: others }

def unusableDefault : List (List Text × Bytes) :=
  [(["home".toList, ".config".toList, "rpm-changelog".toList, "config.toml".toList], [0xff])]

def configuredCall (git : GitOutcomes) : Invocation where
  arguments := ["changelog".toList, "a.spec".toList, "--config".toList, "c.toml".toList]
  home := some "home".toList
  git := git
  today := ⟨2025, 3, 10⟩

theorem runOn_congr_configuredIdentity :
    let first := (configuredCall janesGit).runOn Plain.toolkit (configuredTree [])
    let second := (configuredCall EntryRequest.noGit).runOn Plain.toolkit
      (configuredTree unusableDefault)
    (configuredCall janesGit).git ≠ (configuredCall EntryRequest.noGit).git ∧
      first.1.ending = .exit 0 ∧ first.1 = second.1 ∧
      first.2.read taggedDocument.path = second.2.read taggedDocument.path := by
  intro first second
  have named : Plain.toolkit.readCommand (configuredCall janesGit).arguments =
      .ok (.changelog taggedDocument.path { config := some (.ofText "c.toml".toList) }) := by
    decide +kernel
  have agree : ∀ command,
      Plain.toolkit.readCommand (configuredCall janesGit).arguments = .ok command →
      command.Agree Plain.toolkit ((configuredCall janesGit).world (configuredTree []))
        ((configuredCall EntryRequest.noGit).world (configuredTree unusableDefault)) := by
    intro command found
    cases named.symm.trans found
    refine ⟨fun path saves _ _ bytes => ?_, by decide +kernel, rfl, by decide +kernel, ?_⟩
    · cases saves
      rfl
    -- The configured identity is complete, so git is not asked.
    rintro ⟨config, _, configured, incomplete, -⟩
    have complete : ((configuredCall janesGit).world (configuredTree [])).config Plain.toolkit
        (some (.ofText "c.toml".toList)) =
          .ok { name := some "Jane".toList, email := some "j@x".toList } := by
      decide +kernel
    cases complete.symm.trans configured
    cases incomplete
  have same : (configuredCall janesGit).arguments = (configuredCall EntryRequest.noGit).arguments :=
    rfl
  obtain ⟨reports, contents⟩ := runOn_congr same agree
  exact ⟨by decide, by decide +kernel, reports, contents _ _ named rfl⟩

-- Without a configuration git is asked, and its answers show.
example :
    let call (git : GitOutcomes) : Invocation :=
      ⟨["changelog".toList, "a.spec".toList], some [], git, ⟨2025, 3, 10⟩⟩
    ((call janesGit).runOn Plain.toolkit taggedTree).1.ending = .exit 0 ∧
      ((call EntryRequest.noGit).runOn Plain.toolkit taggedTree).1.ending = .exit 2 := by
  decide +kernel

end Invocation

end CommandLine

end Specfile
