import Specfile.Proofs.Edit
import Specfile.Proofs.Release.Outcome

/-! How far a bump goes. The lines need a release line and its value a number, or there is a
problem to be reported. A number is raised as long as it can be read and the next one written; a
number with too many digits, and the greatest of the others, break the bump off. -/

set_option autoImplicit false

namespace Specfile.Release

namespace Counter

variable {counter : Counter}

theorem Counts.isRun {table : Macro.Table} {core : Text} (counted : counter.Counts table core) :
    counter.digits.IsRun Char.isDigit := by
  cases counted with
  | leading run stops cut => exact run
  | expansion other integer =>
    obtain ⟨sign, -, run, -⟩ := integer
    exact run

/-- A number that is too great for a bump, told by its digits: there are too many of them, or they
are as many as there may be and all of them nines. -/
inductive Overflows (counter : Counter) : NumeralFault → Prop where
  | reading (long : Numeral.maxDigits < counter.digits.length) :
      counter.Overflows (.readsTooLong counter.digits.length)
  | writing (natural : counter.negative = false)
      (nines : counter.digits = List.replicate Numeral.maxDigits '9') :
      counter.Overflows .writesTooLong

theorem isShort_next_iff (all : ∀ c ∈ counter.digits, c.isDigit = true)
    (readable : counter.digits.length ≤ Numeral.maxDigits) :
    Numeral.IsShort (counter.number + 1) ↔
      ¬ (counter.negative = false ∧ counter.digits = List.replicate Numeral.maxDigits '9') := by
  cases sign : counter.negative with
  | false =>
    simpa [number, sign] using Numeral.isShort_value_add_one_iff all readable
  | true =>
    simpa [number, sign] using Numeral.isShort_neg_value_add_one all readable

theorem breaks_iff_overflows {fault : NumeralFault}
    (all : ∀ c ∈ counter.digits, c.isDigit = true) :
    counter.Breaks fault ↔ counter.Overflows fault := by
  constructor
  · rintro (long | ⟨readable, long⟩)
    · exact .reading long
    · obtain ⟨natural, nines⟩ := not_not.1 (long ∘ (isShort_next_iff all readable).2)
      exact .writing natural nines
  · rintro (long | ⟨natural, nines⟩)
    · exact .reading long
    · have readable : counter.digits.length ≤ Numeral.maxDigits := by simp [nines]
      exact .writing readable fun short => (isShort_next_iff all readable).1 short ⟨natural, nines⟩

theorem forall_not_overflows_iff (all : ∀ c ∈ counter.digits, c.isDigit = true) :
    (∀ fault, ¬ counter.Overflows fault) ↔
      counter.digits.length ≤ Numeral.maxDigits ∧ Numeral.IsShort (counter.number + 1) := by
  simp only [← breaks_iff_overflows all]
  constructor
  · intro whole
    have readable := Nat.not_lt.1 fun long => whole _ (.reading long)
    exact ⟨readable, not_not.1 fun long => whole _ (.writing readable long)⟩
  · rintro ⟨readable, writable⟩ fault (long | ⟨-, long⟩)
    · exact Nat.not_le.2 long readable
    · exact long writable

end Counter

variable {lines : List Text}

theorem plan_eq_raised_iff {change : Change} :
    plan lines = .ok change ↔
      ∃ (line : Line) (counter : Counter), Line.first? lines = some line ∧
        counter.Counts (.ofLines lines) line.value ∧ (∀ fault, ¬ counter.Overflows fault) ∧
        change = line.raised counter := by
  cases first : Line.first? lines with
  | none => simp [plan, requireLine, first]
  | some line =>
    simp only [plan, requireLine, first, mapError_ok, ok_bind, Line.bump_eq_ok_iff,
      counter?_eq_some_iff, Option.some.injEq]
    -- That the numbers fit is said of lengths on one side and of digits on the other.
    constructor
    · rintro ⟨counter, counted, readable, writable, rfl⟩
      have fits := (Counter.forall_not_overflows_iff counted.isRun.all).2 ⟨readable, writable⟩
      exact ⟨line, counter, rfl, counted, fits, rfl⟩
    · rintro ⟨_, counter, rfl, counted, fits, rfl⟩
      obtain ⟨readable, writable⟩ := (Counter.forall_not_overflows_iff counted.isRun.all).1 fits
      exact ⟨counter, counted, readable, writable, rfl⟩

theorem plan_eq_error_iff {failure : Failure} :
    plan lines = .error failure ↔
      (Line.first? lines = none ∧ failure = .problem (.tagsMissing ["Release".toList])) ∨
        ∃ line, Line.first? lines = some line ∧
          bumpValue (.ofLines lines) line.valuePart = .error failure := by
  cases first : Line.first? lines with
  | none => simp [plan, requireLine, first, eq_comm]
  | some line =>
    simp [plan, requireLine, first, Line.bump, bind_eq_error_iff, pure, Except.pure]

inductive Unbumpable (lines : List Text) : Problem → Prop where
  | missing (none : Line.first? lines = none) :
      Unbumpable lines (.tagsMissing ["Release".toList])
  | uncounted {line : Line} (first : Line.first? lines = some line)
      (none : ∀ counter : Counter, ¬ counter.Counts (.ofLines lines) line.value) :
      Unbumpable lines
        (.releaseNotInteger (Text.trim (Macro.expand (.ofLines lines) line.value)) line.value)

theorem plan_eq_problem_iff {problem : Problem} :
    plan lines = .error (.problem problem) ↔ Unbumpable lines problem := by
  rw [plan_eq_error_iff]
  constructor
  · rintro (⟨none, same⟩ | ⟨line, first, failed⟩)
    · cases same
      exact .missing none
    · obtain ⟨none, rfl⟩ := bumpValue_eq_problem_iff.1 failed
      exact .uncounted first (counter?_eq_none_iff_forall.1 none)
  · rintro (none | ⟨first, none⟩)
    · exact .inl ⟨none, rfl⟩
    · exact .inr ⟨_, first, bumpValue_eq_problem_iff.2 ⟨counter?_eq_none_iff_forall.2 none, rfl⟩⟩

inductive BreaksOff (lines : List Text) : Fault → Prop where
  | overflow {line : Line} {counter : Counter} {fault : NumeralFault}
      (first : Line.first? lines = some line)
      (counted : counter.Counts (.ofLines lines) line.value) (overflows : counter.Overflows fault) :
      BreaksOff lines (.numeral fault)

theorem plan_eq_fault_iff {fault : Fault} :
    plan lines = .error (.fault fault) ↔ BreaksOff lines fault := by
  rw [plan_eq_error_iff]
  constructor
  · rintro (⟨-, impossible⟩ | ⟨line, first, failed⟩)
    · cases impossible
    · obtain ⟨counter, numeral, counted, breaks, rfl⟩ := bumpValue_eq_fault_iff.1 failed
      exact .overflow first counted ((Counter.breaks_iff_overflows counted.isRun.all).1 breaks)
  · rintro ⟨first, counted, overflows⟩
    have breaks := (Counter.breaks_iff_overflows counted.isRun.all).2 overflows
    exact .inr ⟨_, first, bumpValue_eq_fault_iff.2 ⟨_, _, counted, breaks, rfl⟩⟩

end Specfile.Release

namespace Specfile.Edit
open Release

/-- A bump of a document is planned and then made, or it ends as its planning does: with a problem
that is reported, where there is no release line or its value is no number, or with a fault, where
the number is too great. A value that begins with fewer digits than a number may have is raised. -/
theorem bump_outcome (dryRun : Bool) (document : Document) :
    let lines := document.lines
    bump dryRun document =
      (plan lines).map (fun change => (ofChange dryRun document change, change)) ∧
    (∀ change, plan lines = .ok change ↔
      ∃ (line : Line) (counter : Counter), Line.first? lines = some line ∧
        counter.Counts (.ofLines lines) line.value ∧ (∀ fault, ¬ counter.Overflows fault) ∧
        change = line.raised counter) ∧
    (∀ problem, plan lines = .error (.problem problem) ↔ Unbumpable lines problem) ∧
    (∀ fault, plan lines = .error (.fault fault) ↔ BreaksOff lines fault) ∧
    ∀ line, Line.first? lines = some line →
      let digits : Text := line.value.takeWhile Char.isDigit
      digits ≠ [] → digits.length < Numeral.maxDigits →
        ∃ change, plan lines = .ok change ∧
          change.newValue = Numeral.signed (Numeral.value digits + 1)
            ++ line.value.dropWhile Char.isDigit := by
  intro lines
  refine ⟨bump_eq_map dryRun document, fun change => plan_eq_raised_iff,
    fun problem => plan_eq_problem_iff, fun fault => plan_eq_fault_iff, ?_⟩
  intro line first digits inhabited few
  have run : digits.IsRun Char.isDigit := ⟨inhabited, fun c => List.mem_takeWhile_imp⟩
  -- The digits in front make the counter, and these are too few to be all nines.
  have counted : Counter.Counts (.ofLines lines) line.value
      ⟨false, digits, line.value.dropWhile Char.isDigit, false⟩ :=
    .leading run (stops_dropWhile _ _) (List.takeWhile_append_dropWhile ..).symm
  refine ⟨_, plan_eq_raised_iff.2 ⟨line, _, first, counted, fun fault overflows => ?_, rfl⟩, rfl⟩
  cases overflows with
  | reading long => exact Nat.lt_asymm few long
  | writing natural nines =>
    dsimp only at nines
    rw [nines, List.length_replicate] at few
    exact Nat.lt_irrefl _ few

theorem bump_outcome_suffixed :
    let document : Document :=
      ⟨.ofText "a.spec".toList, "Name: x\nrelease :\t09%\x7b?dist\x7d \n".toList⟩
    ∃ change, plan document.lines = .ok change ∧ change.newValue = "10%\x7b?dist\x7d".toList := by
  intro document
  obtain ⟨change, planned, value⟩ := (bump_outcome false document).2.2.2.2
    ⟨1, "release".toList, "release :".toList, "\t09%\x7b?dist\x7d ".toList⟩
    (by decide +kernel) (by decide +kernel) (by decide +kernel)
  exact ⟨change, planned, value.trans (by decide +kernel)⟩

def plainDocument (value : Text) : Document where
  path := .ofText "a.spec".toList
  text := "Release: ".toList ++ value

theorem exists_first?_plainDocument {digits : Text} (run : digits.IsRun Char.isDigit) :
    ∃ line, Line.first? (plainDocument digits).lines = some line ∧ line.value = digits := by
  have solid (c : Char) (member : c ∈ digits) : isBlank c = false :=
    isBlank_of_isDigit (run.all c member)
  -- No blank is among digits: they stand on one line, and trimming leaves them alone.
  have plain : '\n' ∉ (plainDocument digits).text := by
    intro member
    rcases List.mem_append.1 member with front | inside
    · exact absurd front (by decide)
    · exact absurd (solid _ inside) (by decide)
  have lines : (plainDocument digits).lines = ["Release".toList ++ ':' :: ' ' :: digits] :=
    Text.split_of_notMem plain
  have release : IsTag "Release".toList := ⟨by decide, by decide⟩
  have front : ∀ c ∈ [' '], isBlank c = true := List.forall_mem_singleton.2 (by decide)
  have back : ∀ c ∈ ([] : Text), isBlank c = true := by simp
  have trimmed : Text.trim (' ' :: digits) = digits := by
    simpa using Text.trim_append front (Text.isCore_of_forall run.inhabited solid) back
  have found := Line.firstFrom?_cons_of_some (Line.ofText?_append release 0 (' ' :: digits)) []
  exact ⟨_, (congrArg Line.first? lines).trans found, trimmed⟩

theorem bump_plainDocument_of_overflows {digits : Text} {fault : NumeralFault}
    (run : digits.IsRun Char.isDigit)
    (overflows : Counter.Overflows ⟨false, digits, [], false⟩ fault) (dryRun : Bool) :
    bump dryRun (plainDocument digits) = .error (.fault (.numeral fault)) := by
  obtain ⟨line, first, value⟩ := exists_first?_plainDocument run
  have counted : Counter.Counts (.ofLines (plainDocument digits).lines) line.value
      ⟨false, digits, [], false⟩ :=
    .leading run (by simp) (by simp [value])
  have broken := plan_eq_fault_iff.2 (.overflow first counted overflows)
  rw [bump_eq_map, broken, map_error]

/-- A number of one digit too many is not read, and the successor of the greatest number of as many
digits as there may be is not written: both break a bump off. -/
theorem bump_manyDigits_breaks :
    bump false (plainDocument (List.replicate 4301 '1')) =
        .error (.fault (.numeral (.readsTooLong 4301))) ∧
      bump false (plainDocument (List.replicate 4300 '9')) =
        .error (.fault (.numeral .writesTooLong)) := by
  -- Nothing is computed with numbers of this size: their digits are known by count.
  have repeated (n : Nat) {c : Char} (digit : c.isDigit = true) :
      Text.IsRun Char.isDigit (List.replicate (n + 1) c) :=
    ⟨by simp, fun d member => (List.eq_of_mem_replicate member).symm ▸ digit⟩
  constructor
  · have long : Numeral.maxDigits < (List.replicate 4301 '1').length := by
      rw [List.length_replicate]
      decide
    have overflows : Counter.Overflows ⟨false, List.replicate 4301 '1', [], false⟩ _ :=
      .reading long
    rw [List.length_replicate] at overflows
    exact bump_plainDocument_of_overflows (repeated 4300 rfl) overflows false
  · exact bump_plainDocument_of_overflows (repeated 4299 rfl) (.writing rfl rfl) false

end Specfile.Edit
