import Specfile.Proofs.Release.Change

/-! The outcomes of a bump. A value with a number gives the next number, between the same blanks and
with the same text behind it, or a fault when one of the two numbers has too many digits. A value
without a number is a problem to be reported, together with what it expands to. There is no other
outcome. -/

set_option autoImplicit false

namespace Specfile.Release

namespace Counter

inductive Breaks (counter : Counter) : NumeralFault → Prop where
  | reading (long : Numeral.maxDigits < counter.digits.length) :
      counter.Breaks (.readsTooLong counter.digits.length)
  | writing (readable : counter.digits.length ≤ Numeral.maxDigits)
      (long : ¬ Numeral.IsShort (counter.number + 1)) : counter.Breaks .writesTooLong

theorem bump_eq_error_iff {counter : Counter} {failure : Failure} :
    counter.bump = .error failure ↔
      ∃ numeral, counter.Breaks numeral ∧ failure = .fault (.numeral numeral) := by
  simp only [bump, bind_eq_error_iff, mapError_eq_error_iff, mapError_eq_ok_iff,
    Numeral.read_eq_error_iff, Numeral.read_eq_ok_iff, Numeral.write_eq_error_iff]
  constructor
  · rintro (⟨_, ⟨long, rfl⟩, rfl⟩ | ⟨_, ⟨readable, -⟩, ⟨_, ⟨long, rfl⟩, rfl⟩ | ⟨_, -, impossible⟩⟩)
    · exact ⟨_, .reading long, rfl⟩
    · exact ⟨_, .writing readable long, rfl⟩
    · cases impossible
  · rintro ⟨_, long | ⟨readable, long⟩, rfl⟩
    · exact .inl ⟨_, ⟨long, rfl⟩, rfl⟩
    · exact .inr ⟨_, ⟨readable, rfl⟩, .inl ⟨_, ⟨long, rfl⟩, rfl⟩⟩

end Counter

variable {table : Macro.Table}

theorem counter?_eq_none_iff {core : Text} :
    counter? table core = none ↔
      (∀ c ∈ core.head?, c.isDigit = false) ∧
        ∀ negative digits, ¬ IsInteger (Text.trim (Macro.expand table core)) negative digits := by
  rw [counter?_eq_none_iff_forall]
  constructor
  · intro none
    -- A first digit would begin a run of digits, and that is a counter.
    have other : ∀ c ∈ core.head?, c.isDigit = false := by
      by_contra digit
      obtain ⟨digits, rest, run, stops, cut⟩ := Text.IsRun.exists_append (by simpa using digit)
      exact none _ (.leading run stops cut)
    exact ⟨other, fun negative digits integer => none _ (.expansion other integer)⟩
  · rintro ⟨other, none⟩ counter (⟨run, stops, rfl⟩ | ⟨-, integer⟩)
    · obtain ⟨c, digits, rfl⟩ := List.exists_cons_of_ne_nil run.inhabited
      exact Bool.false_ne_true ((other c rfl).symm.trans (run.all c List.mem_cons_self))
    · exact none _ _ integer

variable {valuePart : Text}

theorem bumpValue_eq_error_iff {failure : Failure} :
    bumpValue table valuePart = .error failure ↔
      bumpCore table valuePart.trim = .error failure := by
  simp [bumpValue, bind_eq_error_iff, pure, Except.pure]

theorem bumpValue_eq_fault_iff {fault : Fault} :
    bumpValue table valuePart = .error (.fault fault) ↔
      ∃ (counter : Counter) (numeral : NumeralFault), counter.Counts table valuePart.trim ∧
        counter.Breaks numeral ∧ fault = .numeral numeral := by
  simp only [bumpValue_eq_error_iff, bumpCore_eq, ← counter?_eq_some_iff]
  cases counter? table valuePart.trim with
  | none => simp
  | some counter => simp [Counter.bump_eq_error_iff]

theorem bumpValue_eq_problem_iff {problem : Problem} :
    bumpValue table valuePart = .error (.problem problem) ↔
      counter? table valuePart.trim = none ∧
        problem = .releaseNotInteger (Text.trim (Macro.expand table valuePart.trim))
          valuePart.trim := by
  simp only [bumpValue_eq_error_iff, bumpCore_eq]
  cases counter? table valuePart.trim with
  | none => simp [eq_comm]
  | some counter => simp [Counter.bump_eq_error_iff]

/-- The outcomes of a bump, and what each of them takes. On success the value has a core, which is
first found where the leading blanks end. -/
theorem bumpValue_outcome (table : Macro.Table) (valuePart : Text) :
    let core := valuePart.trim
    let expansion := Text.trim (Macro.expand table core)
    valuePart = valuePart.leading ++ (core ++ valuePart.trailing) ∧
    (∀ bumped, bumpValue table valuePart = .ok bumped ↔
      ∃ counter : Counter, counter.Counts table core ∧ counter.digits.length ≤ Numeral.maxDigits ∧
        Numeral.IsShort (counter.number + 1) ∧
        bumped = {
          text := valuePart.leading
            ++ (Numeral.signed (counter.number + 1) ++ counter.rest ++ valuePart.trailing)
          expanded := counter.expanded }) ∧
    (∀ fault, bumpValue table valuePart = .error (.fault fault) ↔
      ∃ (counter : Counter) (numeral : NumeralFault), counter.Counts table core ∧
        counter.Breaks numeral ∧ fault = .numeral numeral) ∧
    (∀ problem, bumpValue table valuePart = .error (.problem problem) ↔
      (∀ c ∈ core.head?, c.isDigit = false) ∧
        (∀ negative digits, ¬ IsInteger expansion negative digits) ∧
        problem = .releaseNotInteger expansion core) ∧
    ∀ bumped, bumpValue table valuePart = .ok bumped →
      core ≠ [] ∧ Text.place? core valuePart = some valuePart.leading.length := by
  intro core expansion
  refine ⟨(Text.leading_append_trim_append_trailing valuePart).symm, fun bumped => ?_,
    fun fault => bumpValue_eq_fault_iff, fun problem => ?_, fun bumped succeeds => ?_⟩
  · simp only [bumpValue_eq_ok_iff, counter?_eq_some_iff, Counter.valueAt, core]
  · rw [bumpValue_eq_problem_iff, counter?_eq_none_iff, and_assoc]
  · obtain ⟨counter, counted, -⟩ := bumpValue_eq_ok_iff.1 succeeds
    have inhabited : core ≠ [] := ne_nil_of_counter? counted
    exact ⟨inhabited, Text.place?_trim inhabited⟩

theorem bumpValue_outcome_spaced :
    let valuePart := "\t 09.%\x7bx\x7d09\u3000".toList
    let bumped : Bumped := ⟨"\t 10.%\x7bx\x7d09\u3000".toList, false⟩
    bumpValue .empty valuePart = .ok bumped ∧
      Text.place? (Text.trim valuePart) valuePart = some 2 := by
  intro valuePart bumped
  have outcome := bumpValue_outcome .empty valuePart
  have succeeds : bumpValue .empty valuePart = .ok bumped :=
    (outcome.2.1 bumped).2 ⟨⟨false, "09".toList, ".%\x7bx\x7d09".toList, false⟩,
      .leading (by decide +kernel) (by rintro _ ⟨⟩; decide) (by decide +kernel),
      by decide +kernel, by decide +kernel, by decide +kernel⟩
  exact ⟨succeeds, (outcome.2.2.2.2 bumped succeeds).2⟩

end Specfile.Release
