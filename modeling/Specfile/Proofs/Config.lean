import Specfile.Config
import Specfile.Proofs.Success
import Specfile.Proofs.Text.Core

/-! What a configuration takes from a mapping, and what comes of reading one. A setting is a text
with a character that is not blank, under its key in a section of its own; anything else is no
setting. Reading gives a configuration, a problem with the path in it, or a fault. -/

set_option autoImplicit false

namespace Specfile.Config

/-- There is a section, a mapping with texts alone for keys, and in it a text that is not blank. -/
def Sets (mapping : Mapping) (title key text : Text) : Prop :=
  ∃ entries : Mapping, mapping.get? title = some (.mapping entries) ∧
    (∀ entry ∈ entries, entry.1.isSome) ∧ entries.get? key = some (.text text) ∧
    ∃ c ∈ text, isBlank c = false

theorem setting?_eq_some_iff {mapping : Mapping} {key value : Text} :
    setting? mapping key = some value ↔
      ∃ text, mapping.get? key = some (.text text) ∧ (∃ c ∈ text, isBlank c = false) ∧
        value = text.trim := by
  unfold setting?
  split
  · rename_i text held
    simp only [held, Option.some.injEq, Data.text.injEq, exists_eq_left', ← Text.trim_ne_nil_iff]
    split
    · rename_i blank
      simp [blank]
    · rename_i filled
      rw [Option.some.injEq]
      exact ⟨fun same => ⟨filled, same.symm⟩, fun both => both.2.symm⟩
  · rename_i other
    simp only [reduceCtorEq, false_iff]
    rintro ⟨text, held, -⟩
    exact other text held

theorem get?_section?_eq_some_iff {mapping : Mapping} {title key : Text} {data : Data} :
    (section? mapping title).get? key = some data ↔
      ∃ entries : Mapping, mapping.get? title = some (.mapping entries) ∧
        (∀ entry ∈ entries, entry.1.isSome) ∧ entries.get? key = some data := by
  unfold section?
  split
  · rename_i entries held
    have texts : Mapping.hasTextKeys entries = true ↔ ∀ entry ∈ entries, entry.1.isSome :=
      List.all_eq_true
    simp only [held, Option.some.injEq, Data.mapping.injEq, exists_eq_left', ← texts]
    split
    · rename_i keys
      simp [keys]
    · rename_i other
      simp [other, Mapping.get?]
  · rename_i other
    constructor
    · intro found
      cases found
    · rintro ⟨entries, held, -⟩
      exact absurd held (other entries)

theorem setting?_section?_eq_some_iff {mapping : Mapping} {title key value : Text} :
    setting? (section? mapping title) key = some value ↔
      ∃ text, Sets mapping title key text ∧ value = text.trim := by
  simp only [setting?_eq_some_iff, get?_section?_eq_some_iff]
  constructor
  · rintro ⟨text, ⟨entries, held, keys, found⟩, filled, rfl⟩
    exact ⟨text, ⟨entries, held, keys, found, filled⟩, rfl⟩
  · rintro ⟨text, ⟨entries, held, keys, found, filled⟩, rfl⟩
    exact ⟨text, ⟨entries, held, keys, found⟩, filled, rfl⟩

structure Names (mapping : Mapping) (name email : Text) : Prop where
  name : Sets mapping "identity".toList "name".toList name
  email : Sets mapping "identity".toList "email".toList email

theorem identity?_ofMapping_eq_some_iff {mapping : Mapping} {identity : Identity} :
    (ofMapping mapping).identity? = some identity ↔
      ∃ name email, Names mapping name email ∧ identity = ⟨name.trim, email.trim⟩ := by
  constructor
  · intro found
    unfold identity? at found
    split at found
    · rename_i name email hasName hasEmail
      split at found
      · cases found
      · cases found
        obtain ⟨nameText, setsName, rfl⟩ := setting?_section?_eq_some_iff.1 hasName
        obtain ⟨emailText, setsEmail, rfl⟩ := setting?_section?_eq_some_iff.1 hasEmail
        exact ⟨nameText, emailText, ⟨setsName, setsEmail⟩, rfl⟩
    · cases found
  · rintro ⟨name, email, names, rfl⟩
    have hasName : (ofMapping mapping).name = some name.trim :=
      setting?_section?_eq_some_iff.2 ⟨name, names.name, rfl⟩
    have hasEmail : (ofMapping mapping).email = some email.trim :=
      setting?_section?_eq_some_iff.2 ⟨email, names.email, rfl⟩
    -- Settings are never blank, so the test for empty parts is always passed.
    obtain ⟨-, -, -, -, nameFilled⟩ := names.name
    obtain ⟨-, -, -, -, emailFilled⟩ := names.email
    simp [identity?, hasName, hasEmail, Text.trim_ne_nil_iff.2 nameFilled,
      Text.trim_ne_nil_iff.2 emailFilled]

theorem identity?_ofMapping_eq_none_iff {mapping : Mapping} :
    (ofMapping mapping).identity? = none ↔ ∀ name email, ¬ Names mapping name email := by
  simp only [Option.eq_none_iff_forall_ne_some, ne_eq, identity?_ofMapping_eq_some_iff, not_exists,
    not_and]
  exact ⟨fun none name email names => none _ name email names rfl,
    fun none _ name email names _ => none name email names⟩

inductive Reads (reader : Data.Reader) : Except ReadRefusal Bytes → Mapping → Prop where
  | mapping {bytes : Bytes} {text : Text} {mapping : Mapping}
      (decoded : Utf8.decode bytes = .ok text) (read : reader text = .ok mapping)
      (keys : ∀ entry ∈ mapping, entry.1.isSome) : Reads reader (.ok bytes) mapping

inductive Unusable (reader : Data.Reader) (path : Path) :
    Except ReadRefusal Bytes → Text → Prop where
  | missing (attached : Option Path) :
      Unusable reader path (.error (.system .notFound attached))
        ("Config file not found: ".toList ++ path.text)
  | denied {errno : Errno} (cause : errno = .accessDenied ∨ errno = .notPermitted)
      (attached : Option Path) :
      Unusable reader path (.error (.system errno attached))
        ("Permission denied reading: ".toList ++ path.text)
  | folder (attached : Option Path) :
      Unusable reader path (.error (.system .isDirectory attached))
        ("Config path is a directory: ".toList ++ path.text)
  | undecodable {bytes : Bytes} {refusal : Utf8.Refusal}
      (refused : Utf8.decode bytes = .error refusal) :
      Unusable reader path (.ok bytes) (decodeMessage refusal)
  | malformed {bytes : Bytes} {text detail : Text} (decoded : Utf8.decode bytes = .ok text)
      (refused : reader text = .error (.malformed detail)) :
      Unusable reader path (.ok bytes) ("Invalid TOML syntax: ".toList ++ detail)
  | otherKey {bytes : Bytes} {text : Text} {mapping : Mapping}
      (decoded : Utf8.decode bytes = .ok text) (read : reader text = .ok mapping)
      (other : ∃ entry ∈ mapping, entry.1 = none) :
      Unusable reader path (.ok bytes) "Config root must be a TOML table".toList

def reported : List Errno := [.notFound, .accessDenied, .notPermitted, .isDirectory]

/-- What breaks off the loading of a configuration: any other refusal of the system, a path that
never reaches the system, and a reader that breaks off. -/
inductive Escapes (reader : Data.Reader) : Except ReadRefusal Bytes → Fault → Prop where
  | system {errno : Errno} (other : errno ∉ reported) (attached : Option Path) :
      Escapes reader (.error (.system errno attached)) (.system errno attached)
  | nullInPath : Escapes reader (.error .nullInPath) .nullInPath
  | reading {bytes : Bytes} {text : Text} {fault : Fault} (decoded : Utf8.decode bytes = .ok text)
      (broken : reader text = .error (.broken fault)) : Escapes reader (.ok bytes) fault

section
variable {reader : Data.Reader} {path : Path} {result : Except ReadRefusal Bytes}

theorem ofRead_of_reads {mapping : Mapping} (reads : Reads reader result mapping) :
    ofRead reader path result = .ok (ofMapping mapping) := by
  obtain ⟨decoded, read, keys⟩ := reads
  have texts : mapping.hasTextKeys = true := List.all_eq_true.2 keys
  simp only [ofRead, decoded, read, texts, if_true]

theorem ofRead_of_unusable {message : Text} (unusable : Unusable reader path result message) :
    ofRead reader path result = .error (.problem (.configUnusable (some path) message)) := by
  cases unusable with
  | missing | folder => rfl
  | denied cause => rcases cause with rfl | rfl <;> rfl
  | undecodable refused => simp only [ofRead, refused]
  | malformed decoded refused => simp only [ofRead, decoded, refused]
  | @otherKey bytes text mapping decoded read other =>
    obtain ⟨entry, member, none⟩ := other
    have texts : mapping.hasTextKeys ≠ true := fun all => by
      simpa [none] using List.all_eq_true.1 all entry member
    simp only [ofRead, decoded, read, if_neg texts]

theorem ofRead_of_escapes {fault : Fault} (escapes : Escapes reader result fault) :
    ofRead reader path result = .error (.fault fault) := by
  cases escapes with
  | @system errno other attached =>
    -- The reported refusals are named in the code, and all others take its last branch.
    cases errno with
    | notFound | accessDenied | notPermitted | isDirectory => exact absurd (by decide) other
    | inputOutput | noDevice | notDirectory | tooManyOpen | nameTooLong | linkLoop | other => rfl
  | nullInPath => rfl
  | reading decoded broken => simp only [ofRead, decoded, broken]

variable (reader path result)

theorem reads_or_unusable_or_escapes :
    (∃ mapping, Reads reader result mapping) ∨ (∃ message, Unusable reader path result message) ∨
      ∃ fault, Escapes reader result fault := by
  rcases result with (⟨errno, attached⟩ | _) | bytes
  · by_cases known : errno ∈ reported
    · simp only [reported, List.mem_cons, List.not_mem_nil, or_false] at known
      rcases known with rfl | rfl | rfl | rfl
      · exact .inr (.inl ⟨_, .missing attached⟩)
      · exact .inr (.inl ⟨_, .denied (.inl rfl) attached⟩)
      · exact .inr (.inl ⟨_, .denied (.inr rfl) attached⟩)
      · exact .inr (.inl ⟨_, .folder attached⟩)
    · exact .inr (.inr ⟨_, .system known attached⟩)
  · exact .inr (.inr ⟨_, .nullInPath⟩)
  · cases decoded : Utf8.decode bytes with
    | error refusal => exact .inr (.inl ⟨_, .undecodable decoded⟩)
    | ok text =>
      rcases read : reader text with (detail | fault) | mapping
      · exact .inr (.inl ⟨_, .malformed decoded read⟩)
      · exact .inr (.inr ⟨_, .reading decoded read⟩)
      · by_cases keys : ∀ entry ∈ mapping, entry.1.isSome
        · exact .inl ⟨mapping, .mapping decoded read keys⟩
        · exact .inr (.inl ⟨_, .otherKey decoded read (by simpa using keys)⟩)

theorem ofRead_outcome :
    (∀ config, ofRead reader path result = .ok config ↔
      ∃ mapping, Reads reader result mapping ∧ config = ofMapping mapping) ∧
    (∀ problem, ofRead reader path result = .error (.problem problem) ↔
      ∃ message, Unusable reader path result message ∧
        problem = .configUnusable (some path) message) ∧
    ∀ fault, ofRead reader path result = .error (.fault fault) ↔ Escapes reader result fault := by
  refine eq_iff_of_cover ?_ ?_ (fun _ => ofRead_of_escapes) ?_
  · rintro _ ⟨mapping, reads, rfl⟩
    exact ofRead_of_reads reads
  · rintro _ ⟨message, unusable, rfl⟩
    exact ofRead_of_unusable unusable
  · rcases reads_or_unusable_or_escapes reader path result with
      ⟨mapping, reads⟩ | ⟨message, unusable⟩ | escapes
    · exact .inl ⟨_, mapping, reads, rfl⟩
    · exact .inr (.inl ⟨_, message, unusable, rfl⟩)
    · exact .inr (.inr escapes)

end

end Specfile.Config
