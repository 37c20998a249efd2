import Specfile.Packager
import Specfile.Proofs.Config

/-! Who an entry names, and when nobody can be named. The name and the email come from one place:
from the configuration when it has both, else from git. Both are trimmed and neither is empty.
Without a complete configuration the first question that git does not answer is what is reported,
and nothing can be reported when git prints what is no text. -/

set_option autoImplicit false

namespace Specfile

structure Identity.IsComplete (identity : Identity) : Prop where
  name : identity.name ≠ [] ∧ identity.name.trim = identity.name
  email : identity.email ≠ [] ∧ identity.email.trim = identity.email

theorem Identity.isComplete_trim {name email : Text} (named : ∃ c ∈ name, isBlank c = false)
    (addressed : ∃ c ∈ email, isBlank c = false) : IsComplete ⟨name.trim, email.trim⟩ where
  name := ⟨Text.trim_ne_nil_iff.2 named, Text.trim_trim name⟩
  email := ⟨Text.trim_ne_nil_iff.2 addressed, Text.trim_trim email⟩

namespace GitOutcomes

/-- A question is answered: git ends with status zero and prints more than blanks. -/
def Answers (ending : Tool.Ending) (output : Text) : Prop :=
  (∃ errors, ending = .finished 0 output errors) ∧ ∃ c ∈ output, isBlank c = false

def failureReason (key said : Text) : Text :=
  if said.trim = [] then key ++ " is not set".toList else said.trim

inductive Refuses (key : Text) : Tool.Ending → Text → Prop where
  | failed {status : Int} (nonzero : status ≠ 0) (output errors : Text) :
      Refuses key (.finished status output errors) (failureReason key errors)
  | timedOut : Refuses key .timedOut "Command timed out after 10.0s".toList
  | notStarted (cause : Text) : Refuses key (.notStarted cause) (failureReason key cause)
  | blank {output : Text} (blank : ∀ c ∈ output, isBlank c = true) (errors : Text) :
      Refuses key (.finished 0 output errors) (key ++ " is empty".toList)

variable {key : Text} {ending : Tool.Ending}

theorem value_of_answers {output : Text} (answers : Answers ending output) :
    value key ending = .ok output.trim := by
  obtain ⟨⟨errors, rfl⟩, filled⟩ := answers
  simp [value, Tool.answer, Text.trim_ne_nil_iff.2 filled]

theorem value_of_refuses {reason : Text} (refuses : Refuses key ending reason) :
    value key ending = .error (.problem (.identityUnavailable reason)) := by
  cases refuses with
  | failed nonzero output errors =>
    simp only [value, Tool.answer, if_neg nonzero]
    rfl
  | timedOut =>
    -- The time limit is a constant, so the message can be computed.
    have limit : timeLimit.text = "10.0".toList := by decide +kernel
    have said : Text.trim ("Command timed out after ".toList ++ "10.0".toList ++ ['s']) =
        "Command timed out after 10.0s".toList := by
      decide +kernel
    simp only [value, Tool.answer, limit, said]
    rw [if_neg (by decide)]
  | notStarted cause => rfl
  | @blank output blank errors =>
    have empty : output.trim = [] := by
      by_contra inhabited
      obtain ⟨c, member, solid⟩ := Text.trim_ne_nil_iff.1 inhabited
      exact Bool.false_ne_true (solid.symm.trans (blank c member))
    simp only [value, Tool.answer, if_true, empty]

theorem value_of_undecodable (message : Text) :
    value key (.undecodable message) = .error (.fault (.undecodable message)) := rfl

variable (key ending)

theorem answers_or_refuses_or_undecodable :
    (∃ output, Answers ending output) ∨ (∃ reason, Refuses key ending reason) ∨
      ∃ message, ending = .undecodable message := by
  cases ending with
  | finished status output errors =>
    by_cases zero : status = 0
    · subst zero
      by_cases filled : ∃ c ∈ output, isBlank c = false
      · exact .inl ⟨output, ⟨errors, rfl⟩, filled⟩
      · exact .inr (.inl ⟨_, .blank (by simpa using filled) errors⟩)
    · exact .inr (.inl ⟨_, .failed zero output errors⟩)
  | undecodable message => exact .inr (.inr ⟨message, rfl⟩)
  | timedOut => exact .inr (.inl ⟨_, .timedOut⟩)
  | notStarted cause => exact .inr (.inl ⟨_, .notStarted cause⟩)

theorem value_outcome :
    (∀ text, value key ending = .ok text ↔ ∃ output, Answers ending output ∧ text = output.trim) ∧
    (∀ problem, value key ending = .error (.problem problem) ↔
      ∃ reason, Refuses key ending reason ∧ problem = .identityUnavailable reason) ∧
    ∀ fault, value key ending = .error (.fault fault) ↔
      ∃ message, ending = .undecodable message ∧ fault = .undecodable message := by
  apply eq_iff_of_cover
  · rintro _ ⟨output, answers, rfl⟩
    exact value_of_answers answers
  · rintro _ ⟨reason, refuses, rfl⟩
    exact value_of_refuses refuses
  · rintro _ ⟨message, rfl, rfl⟩
    exact value_of_undecodable message
  · rcases answers_or_refuses_or_undecodable key ending with
      ⟨output, answers⟩ | ⟨reason, refuses⟩ | ⟨message, garbled⟩
    · exact .inl ⟨_, output, answers, rfl⟩
    · exact .inr (.inl ⟨_, reason, refuses, rfl⟩)
    · exact .inr (.inr ⟨_, message, garbled, rfl⟩)

variable {key ending}

theorem value_eq_ok_iff {text : Text} :
    value key ending = .ok text ↔ ∃ output, Answers ending output ∧ text = output.trim :=
  (value_outcome key ending).1 text

theorem value_eq_problem_iff {problem : Problem} :
    value key ending = .error (.problem problem) ↔
      ∃ reason, Refuses key ending reason ∧ problem = .identityUnavailable reason :=
  (value_outcome key ending).2.1 problem

theorem value_eq_fault_iff {fault : Fault} :
    value key ending = .error (.fault fault) ↔
      ∃ message, ending = .undecodable message ∧ fault = .undecodable message :=
  (value_outcome key ending).2.2 fault

theorem Refuses.reason_ne_nil {reason : Text} (refuses : Refuses key ending reason) :
    reason ≠ [] := by
  have reported (said : Text) : failureReason key said ≠ [] := by
    unfold failureReason
    split
    · simp
    · assumption
  cases refuses with
  | failed nonzero output errors => exact reported errors
  | timedOut => decide
  | notStarted cause => exact reported cause
  | blank => simp

theorem Refuses.not_answers {reason : Text} (refuses : Refuses key ending reason) (output : Text) :
    ¬ Answers ending output := by
  intro answers
  cases (value_of_answers answers).symm.trans (value_of_refuses refuses)

/-- Git fails on a question or prints only blanks, and says so in text. -/
def Unanswered (ending : Tool.Ending) : Prop :=
  (∀ output, ¬ Answers ending output) ∧ ∀ message, ending ≠ .undecodable message

theorem exists_refuses_iff : (∃ reason, Refuses key ending reason) ↔ Unanswered ending := by
  constructor
  · rintro ⟨reason, refuses⟩
    refine ⟨refuses.not_answers, fun message garbled => ?_⟩
    subst garbled
    cases refuses
  · rintro ⟨none, text⟩
    rcases answers_or_refuses_or_undecodable key ending with
      ⟨output, answers⟩ | refuses | ⟨message, garbled⟩
    · exact absurd answers (none output)
    · exact refuses
    · exact absurd garbled (text message)

/-- Git names nobody: it does not answer the first question, or else not the second one. -/
inductive NamesNobody (git : GitOutcomes) (reason : Text) : Prop where
  | name (refuses : Refuses nameKey git.name reason)
  | email {output : Text} (answers : Answers git.name output)
      (refuses : Refuses emailKey git.email reason)

/-- What git prints to the first question, or else to the second one, is no text. -/
inductive Garbles (git : GitOutcomes) (message : Text) : Prop where
  | name (garbled : git.name = .undecodable message)
  | email {output : Text} (answers : Answers git.name output)
      (garbled : git.email = .undecodable message)

/-- Both questions end in a way that is handed on: with an exit status and the
texts printed, past the time limit, or without having started. -/
structure PrintsText (git : GitOutcomes) : Prop where
  name : ∀ message, git.name ≠ .undecodable message
  email : ∀ message, git.email ≠ .undecodable message

variable {git : GitOutcomes}

theorem identity_eq_ok_iff {identity : Identity} :
    git.identity = .ok identity ↔
      ∃ name email, Answers git.name name ∧ Answers git.email email ∧
        identity = ⟨name.trim, email.trim⟩ := by
  simp only [GitOutcomes.identity, bind_eq_ok_iff, pure_eq_ok_iff, value_eq_ok_iff]
  constructor
  · rintro ⟨_, ⟨name, named, rfl⟩, _, ⟨email, addressed, rfl⟩, rfl⟩
    exact ⟨name, email, named, addressed, rfl⟩
  · rintro ⟨name, email, named, addressed, rfl⟩
    exact ⟨_, ⟨name, named, rfl⟩, _, ⟨email, addressed, rfl⟩, rfl⟩

theorem identity_eq_problem_iff {problem : Problem} :
    git.identity = .error (.problem problem) ↔
      ∃ reason, git.NamesNobody reason ∧ problem = .identityUnavailable reason := by
  simp only [GitOutcomes.identity, bind_eq_error_iff, value_eq_ok_iff, value_eq_problem_iff]
  constructor
  · rintro (⟨reason, refuses, rfl⟩ | ⟨_, ⟨output, answers, -⟩,
      ⟨reason, refuses, rfl⟩ | ⟨_, -, made⟩⟩)
    · exact ⟨reason, .name refuses, rfl⟩
    · exact ⟨reason, .email answers refuses, rfl⟩
    · cases made
  · rintro ⟨reason, refuses | ⟨answers, refuses⟩, rfl⟩
    · exact .inl ⟨reason, refuses, rfl⟩
    · exact .inr ⟨_, ⟨_, answers, rfl⟩, .inl ⟨reason, refuses, rfl⟩⟩

theorem identity_eq_fault_iff {fault : Fault} :
    git.identity = .error (.fault fault) ↔
      ∃ message, git.Garbles message ∧ fault = .undecodable message := by
  simp only [GitOutcomes.identity, bind_eq_error_iff, value_eq_ok_iff, value_eq_fault_iff]
  constructor
  · rintro (⟨message, garbled, rfl⟩ | ⟨_, ⟨output, answers, -⟩,
      ⟨message, garbled, rfl⟩ | ⟨_, -, made⟩⟩)
    · exact ⟨message, .name garbled, rfl⟩
    · exact ⟨message, .email answers garbled, rfl⟩
    · cases made
  · rintro ⟨message, garbled | ⟨answers, garbled⟩, rfl⟩
    · exact .inl ⟨message, garbled, rfl⟩
    · exact .inr ⟨_, ⟨_, answers, rfl⟩, .inl ⟨message, garbled, rfl⟩⟩

theorem NamesNobody.reason_ne_nil {reason : Text} (nobody : git.NamesNobody reason) :
    reason ≠ [] := by
  cases nobody with
  | name refuses | email _ refuses => exact refuses.reason_ne_nil

theorem PrintsText.not_garbles (texts : git.PrintsText) (message : Text) :
    ¬ git.Garbles message := by
  rintro (garbled | ⟨-, garbled⟩)
  · exact texts.name message garbled
  · exact texts.email message garbled

theorem PrintsText.exists_namesNobody_iff (texts : git.PrintsText) :
    (∃ reason, git.NamesNobody reason) ↔ Unanswered git.name ∨ Unanswered git.email := by
  rw [← @exists_refuses_iff nameKey git.name, ← @exists_refuses_iff emailKey git.email]
  constructor
  · rintro ⟨reason, refuses | ⟨-, refuses⟩⟩
    · exact .inl ⟨reason, refuses⟩
    · exact .inr ⟨reason, refuses⟩
  · rintro (⟨reason, refuses⟩ | ⟨reason, refuses⟩)
    · exact ⟨reason, .name refuses⟩
    -- The second question has no answer; the reason is that of the first one if it has none either.
    · rcases answers_or_refuses_or_undecodable nameKey git.name with
        ⟨output, answers⟩ | ⟨first, refused⟩ | ⟨message, garbled⟩
      · exact ⟨reason, .email answers refuses⟩
      · exact ⟨first, .name refused⟩
      · exact absurd garbled (texts.name message)

end GitOutcomes

namespace Packager
open GitOutcomes (Answers Unanswered)

variable {mapping : Mapping} {git : GitOutcomes}

theorem identity_of_names {name email : Text} (names : Config.Names mapping name email) :
    (ofConfig (.ofMapping mapping) git).identity = .ok ⟨name.trim, email.trim⟩ := by
  have configured := Config.identity?_ofMapping_eq_some_iff.2 ⟨name, email, names, rfl⟩
  simp only [ofConfig, configured, identity]

theorem identity_of_noNames (nobody : ∀ name email, ¬ Config.Names mapping name email) :
    (ofConfig (.ofMapping mapping) git).identity = git.identity := by
  simp only [ofConfig, Config.identity?_ofMapping_eq_none_iff.2 nobody, identity]

theorem identity_eq_ok_iff {found : Identity} :
    (ofConfig (.ofMapping mapping) git).identity = .ok found ↔
      ∃ name email, found = ⟨name.trim, email.trim⟩ ∧
        (Config.Names mapping name email ∨ (∀ name email, ¬ Config.Names mapping name email) ∧
          Answers git.name name ∧ Answers git.email email) := by
  by_cases named : ∃ name email, Config.Names mapping name email
  · obtain ⟨name, email, names⟩ := named
    rw [identity_of_names names, Except.ok.injEq]
    constructor
    · rintro rfl
      exact ⟨name, email, rfl, .inl names⟩
    · rintro ⟨other, address, rfl, again | ⟨nobody, -⟩⟩
      -- However it is named, there is one outcome.
      · have first : (ofConfig (.ofMapping mapping) git).identity = .ok ⟨name.trim, email.trim⟩ :=
          identity_of_names names
        exact Except.ok.inj (first.symm.trans (identity_of_names again))
      · exact absurd names (nobody name email)
  · have nobody : ∀ name email, ¬ Config.Names mapping name email := by simpa using named
    rw [identity_of_noNames nobody, GitOutcomes.identity_eq_ok_iff]
    constructor
    · rintro ⟨name, email, answered, addressed, rfl⟩
      exact ⟨name, email, rfl, .inr ⟨nobody, answered, addressed⟩⟩
    · rintro ⟨name, email, rfl, names | ⟨-, answered, addressed⟩⟩
      · exact absurd names (nobody name email)
      · exact ⟨name, email, answered, addressed, rfl⟩

theorem identity_eq_error_iff {failure : Failure} :
    (ofConfig (.ofMapping mapping) git).identity = .error failure ↔
      (∀ name email, ¬ Config.Names mapping name email) ∧ git.identity = .error failure := by
  by_cases named : ∃ name email, Config.Names mapping name email
  · obtain ⟨name, email, names⟩ := named
    rw [identity_of_names names]
    exact ⟨nofun, fun both => absurd names (both.1 name email)⟩
  · have nobody : ∀ name email, ¬ Config.Names mapping name email := by simpa using named
    rw [identity_of_noNames nobody]
    exact ⟨fun failed => ⟨nobody, failed⟩, fun both => both.2⟩

theorem isComplete_of_identity {found : Identity}
    (known : (ofConfig (.ofMapping mapping) git).identity = .ok found) : found.IsComplete := by
  obtain ⟨name, email, rfl, names | ⟨-, answered, addressed⟩⟩ := identity_eq_ok_iff.1 known
  · obtain ⟨⟨-, -, -, -, nameFilled⟩, ⟨-, -, -, -, emailFilled⟩⟩ := names
    exact Identity.isComplete_trim nameFilled emailFilled
  · exact Identity.isComplete_trim answered.2 addressed.2

def halfNamed : Mapping :=
  [(some "identity".toList, .mapping [(some "name".toList, .text " Jane ".toList),
    (some "email".toList, .text ['\t'])])]

end Packager

end Specfile
