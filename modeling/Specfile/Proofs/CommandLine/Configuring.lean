import Specfile.Proofs.CommandLine.Printing

/-! What becomes of a configuration that cannot be loaded. Four refusals of the system, contents
that are no text and texts that are malformed end a run for an entry with the exit code of a mistake
of the user, and with a message and a hint that names the path. Every other refusal of the system
breaks the run off, although a document that meets with it is reported as missing; and so does a
refusal of the question whether there is a default configuration. -/

set_option autoImplicit false

namespace Specfile

theorem Errno.number_ofNumber (number : Nat) (description : Text) :
    (ofNumber number description).number = number := by
  unfold ofNumber
  cases found : named.find? (·.number = number) with
  | none => rfl
  | some errno => simpa using List.find?_some found

theorem Config.ofNumber_mem_reported_iff (number : Nat) (description : Text) :
    .ofNumber number description ∈ reported ↔ number ∈ [1, 2, 13, 21] := by
  constructor
  · intro known
    have numbered : ∀ errno ∈ reported, errno.number ∈ [1, 2, 13, 21] := by decide
    simpa only [Errno.number_ofNumber] using numbered _ known
  · intro known
    simp only [List.mem_cons, List.not_mem_nil, or_false] at known
    rcases known with rfl | rfl | rfl | rfl <;>
      simp [Errno.ofNumber, Errno.named, Errno.number, reported]

namespace CommandLine

/-- A configuration is loaded, or a problem with its path in it is reported, or loading it breaks
off; it breaks off at every refusal of the system but four, and at no contents unless the reader
does. A document that meets with any refusal is reported. A run for an entry that uses the
configuration ends in the same way: with exit code 1, the message as the only error and a hint to
the path as the only output, or with the fault. Without a given configuration the run also breaks
off where the default one cannot be looked up. -/
theorem config_outcome (toolkit : Toolkit) (path : Path) (result : Except ReadRefusal Bytes) :
    let reader := toolkit.readData
    (∀ config, Config.ofRead reader path result = .ok config ↔
      ∃ mapping, Config.Reads reader result mapping ∧ config = .ofMapping mapping) ∧
    (∀ problem, Config.ofRead reader path result = .error (.problem problem) ↔
      ∃ message, Config.Unusable reader path result message ∧
        problem = .configUnusable (some path) message) ∧
    (∀ fault, Config.ofRead reader path result = .error (.fault fault) ↔
      Config.Escapes reader result fault) ∧
    (∀ number description attached,
      (∃ fault, Config.Escapes reader (.error (.system (.ofNumber number description) attached))
        fault) ↔ number ∉ [1, 2, 13, 21]) ∧
    ((∀ text fault, reader text ≠ .error (.broken fault)) →
      ∀ bytes fault, ¬ Config.Escapes reader (.ok bytes) fault) ∧
    (∀ errno attached, ∃ reason, Document.ofRead path (.error (.system errno attached)) =
      .error (.problem (.noDocument path reason))) ∧
    ∀ (world : World) (document : Path) (options : EntryOptions),
      let report := (Command.changelog document options).run toolkit world
      (world.configRead options.config = .ok (some (path, result)) →
        (∀ message, Config.Unusable reader path result message →
          report.ending = .exit 1 ∧
            report.shown toolkit .output = toolkit.showNotice
              (.note .dim ("hint: ".toList ++ ("Fix or remove ".toList ++ path.text))) ∧
            report.shown toolkit .errors = toolkit.showNotice (.error message)) ∧
        ∀ fault, Config.Escapes reader result fault → report = { ending := .broken fault }) ∧
      (options.config = none →
        ∀ fault, world.LookupBreaks fault → report = { ending := .broken fault }) := by
  intro reader
  obtain ⟨onSuccess, onProblem, onFault⟩ := Config.ofRead_outcome reader path result
  refine ⟨onSuccess, onProblem, onFault, fun number description attached => ?_,
    fun whole bytes fault escapes => ?_, fun errno attached => ⟨_, rfl⟩,
    fun world document options => ⟨fun used => ?_, fun absent fault breaks => ?_⟩⟩
  · rw [← Config.ofNumber_mem_reported_iff number description]
    constructor
    -- The four numbers are those of the refusals that have a branch of their own.
    · rintro ⟨fault, ⟨other, -⟩⟩
      exact other
    · intro other
      exact ⟨_, .system other attached⟩
  · cases escapes with
    | reading decoded broken => exact whole _ _ broken
  -- The file that the run reads is this one, so the run meets what the loader does.
  · have loaded : world.config toolkit options.config = Config.ofRead reader path result := by
      rw [World.config_eq, used]
      rfl
    constructor
    · intro message unusable
      have refused := loaded.trans (Config.ofRead_of_unusable unusable)
      rw [Command.run_changelog_of_config refused]
      exact Report.shown_ofFailure_of_hint toolkit rfl
    · intro fault escapes
      have broken := loaded.trans (Config.ofRead_of_escapes escapes)
      exact Command.run_changelog_of_config broken
  -- The run does not get to the file: it fails at the question whether there is one.
  · have unread := World.configRead_none_eq_error_iff.2 ⟨fault, breaks, rfl⟩
    have broken : world.config toolkit options.config = .error (.fault fault) := by
      rw [World.config_eq, absent, unread]
      rfl
    exact Command.run_changelog_of_config broken

def refusingWorld (errno : Errno) : World where
  disk := .failing errno
  home := some "home".toList
  git := EntryRequest.noGit
  today := ⟨2025, 3, 10⟩

theorem config_outcome_refusals :
    let call (given : Option Path) := Command.changelog (.ofText "a.spec".toList) { config := given }
    let path := Path.ofText "c.toml".toList
    let denied := (call (some path)).run Plain.toolkit (refusingWorld .accessDenied)
    denied.ending = .exit 1 ∧
      denied.shown Plain.toolkit .output = "hint: Fix or remove c.toml\n".toList ∧
      denied.shown Plain.toolkit .errors = "error: Permission denied reading: c.toml\n".toList ∧
      (call (some path)).run Plain.toolkit (refusingWorld .inputOutput) =
        { ending := .broken (.system .inputOutput none) } ∧
      (call none).run Plain.toolkit (refusingWorld .accessDenied) =
        { ending := .broken (.system .accessDenied none) } := by
  intro call path denied
  obtain ⟨-, -, -, -, -, -, onDenied⟩ :=
    config_outcome Plain.toolkit path (.error (.system .accessDenied none))
  obtain ⟨-, -, -, -, -, -, onOther⟩ :=
    config_outcome Plain.toolkit path (.error (.system .inputOutput none))
  obtain ⟨ending, output, errors⟩ := ((onDenied (refusingWorld .accessDenied)
    (.ofText "a.spec".toList) { config := some path }).1 rfl).1 _ (.denied (.inl rfl) none)
  refine ⟨ending, output.trans ?_, errors.trans ?_, ?_, ?_⟩
  · decide +kernel
  · decide +kernel
  · exact ((onOther (refusingWorld .inputOutput) (.ofText "a.spec".toList)
      { config := some path }).1 rfl).2 _ (.system (by decide) none)
  · exact (onDenied (refusingWorld .accessDenied) (.ofText "a.spec".toList) {}).2 rfl _
      (.status rfl rfl (by decide))

/-- Below a file there is nothing to read: a configuration there breaks a run off without a word,
and a document there is reported. -/
theorem config_belowFile_breaks :
    let tree : FileTree := { files := [(["c.toml".toList], [])] }
    let path := Path.ofText "c.toml/x".toList
    let call (arguments : List String) : Report := (Invocation.runOn Plain.toolkit
      ⟨arguments.map String.toList, some [], EntryRequest.noGit, ⟨2025, 3, 10⟩⟩ tree).1
    let fault := Fault.system .notDirectory (some path)
    Config.ofRead Plain.toolkit.readData path (tree.read path) = .error (.fault fault) ∧
      call ["changelog", "a.spec", "--config", "c.toml/x"] = { ending := .broken fault } ∧
      (call ["bump", "c.toml/x"]).ending = .exit 5 ∧
      (call ["bump", "c.toml/x"]).shown Plain.toolkit .errors =
        "error: No spec document at c.toml/x: Not a directory\n".toList := by
  decide +kernel

end CommandLine

end Specfile
