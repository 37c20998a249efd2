import Specfile.Proofs.Macro.Percent
import Specfile.Proofs.Success
import Specfile.Proofs.Text.Core
import Specfile.Proofs.Text.Digits
import Specfile.Release.Bump

/-! Counters: the number that a bump raises by one, and the text of the value that stays
behind it. A bumped value is the next number and that same text; read again it has the
counter of the next number, whichever way the first number was found. -/

set_option autoImplicit false

namespace Specfile.Release

inductive IsSign : Text → Bool → Prop where
  | absent : IsSign [] false
  | plus : IsSign ['+'] false
  | minus : IsSign ['-'] true

def IsInteger (text : Text) (negative : Bool) (digits : Text) : Prop :=
  ∃ sign, IsSign sign negative ∧ digits.IsRun Char.isDigit ∧ text = sign ++ digits

theorem integer?_eq_some_iff {text : Text} {negative : Bool} {digits : Text} :
    integer? text = some (negative, digits) ↔ IsInteger text negative digits := by
  constructor
  · intro found
    unfold integer? at found
    split at found
    rename_i cut
    split_ifs at found with valid
    cases found
    have run := Text.IsRun.iff.2 valid
    -- What was cut off in front is a sign, or there was none.
    split at cut
    · cases cut
      exact ⟨['-'], .minus, run, rfl⟩
    · cases cut
      exact ⟨['+'], .plus, run, rfl⟩
    · cases cut
      exact ⟨[], .absent, run, rfl⟩
  · rintro ⟨sign, signed, run, rfl⟩
    have valid := Text.IsRun.iff.1 run
    cases signed with
    | absent =>
      obtain ⟨c, rest, rfl⟩ := List.exists_cons_of_ne_nil run.inhabited
      -- A digit is no sign, so nothing is cut off.
      have unsigned {sign : Char} (other : sign.isDigit = false) : c ≠ sign := by
        rintro rfl
        exact Bool.false_ne_true (other.symm.trans (run.all c List.mem_cons_self))
      have minus : c ≠ '-' := unsigned (by decide)
      have plus : c ≠ '+' := unsigned (by decide)
      simpa [integer?, minus, plus] using run.all
    | plus => simp only [integer?, List.singleton_append, if_pos valid]
    | minus => simp only [integer?, List.singleton_append, if_pos valid]

structure Counter where
  negative : Bool
  digits : Text
  rest : Text
  expanded : Bool
  deriving DecidableEq, Repr

/-- The counter of a trimmed value: the digits that it begins with or else, with nothing
behind it, the integer that it expands to. -/
def counter? (table : Macro.Table) (core : Text) : Option Counter :=
  match core.takeWhile Char.isDigit with
  | [] => (integer? (Text.trim (Macro.expand table core))).map fun (negative, digits) =>
      { negative, digits, rest := [], expanded := true }
  | digits => some {
      negative := false, digits, rest := core.dropWhile Char.isDigit, expanded := false }

theorem counter?_append (table : Macro.Table) {digits rest : Text}
    (run : digits.IsRun Char.isDigit) (stops : ∀ c ∈ rest.head?, c.isDigit = false) :
    counter? table (digits ++ rest) = some {
      negative := false, digits, rest, expanded := false } := by
  unfold counter?
  rw [takeWhile_append_of_stop run.all stops, dropWhile_append_of_stop run.all stops]
  split
  · exact absurd rfl run.inhabited
  · rfl

theorem counter?_of_other (table : Macro.Table) {core : Text}
    (other : ∀ c ∈ core.head?, c.isDigit = false) :
    counter? table core = (integer? (Text.trim (Macro.expand table core))).map
      fun (negative, digits) => { negative, digits, rest := [], expanded := true } := by
  have none : core.takeWhile Char.isDigit = [] := by
    cases core with
    | nil => rfl
    | cons c core => simp [other c rfl]
  rw [counter?, none]

/-- The number that a trimmed value has: the digits that it begins with, whatever the table holds;
in a value that begins otherwise, the integer that it expands to. -/
inductive Counter.Counts (table : Macro.Table) (core : Text) : Counter → Prop where
  | leading {digits rest : Text} (run : digits.IsRun Char.isDigit)
      (stops : ∀ c ∈ rest.head?, c.isDigit = false) (cut : core = digits ++ rest) :
      Counts table core { negative := false, digits, rest, expanded := false }
  | expansion {negative : Bool} {digits : Text} (other : ∀ c ∈ core.head?, c.isDigit = false)
      (integer : IsInteger (Text.trim (Macro.expand table core)) negative digits) :
      Counts table core { negative, digits, rest := [], expanded := true }

theorem counter?_eq_some_iff {table : Macro.Table} {core : Text} {counter : Counter} :
    counter? table core = some counter ↔ counter.Counts table core := by
  constructor
  · intro found
    -- A value that begins with a digit is not expanded, whatever else is in it.
    by_cases first : ∃ c ∈ core.head?, c.isDigit = true
    · obtain ⟨digits, rest, run, stops, rfl⟩ := Text.IsRun.exists_append first
      rw [counter?_append table run stops] at found
      cases found
      exact .leading run stops rfl
    · have other : ∀ c ∈ core.head?, c.isDigit = false := by simpa using first
      rw [counter?_of_other table other] at found
      obtain ⟨⟨negative, digits⟩, read, rfl⟩ := Option.map_eq_some_iff.1 found
      exact .expansion other (integer?_eq_some_iff.1 read)
  · rintro (⟨run, stops, rfl⟩ | ⟨other, integer⟩)
    · exact counter?_append table run stops
    · rw [counter?_of_other table other, integer?_eq_some_iff.2 integer]
      rfl

theorem counter?_eq_none_iff_forall {table : Macro.Table} {core : Text} :
    counter? table core = none ↔ ∀ counter : Counter, ¬ counter.Counts table core := by
  simp only [Option.eq_none_iff_forall_not_mem, Option.mem_def, counter?_eq_some_iff]

namespace Counter

def number (counter : Counter) : Int :=
  if counter.negative then -Numeral.value counter.digits else Numeral.value counter.digits

def valueAt (counter : Counter) (number : Int) : Text := Numeral.signed number ++ counter.rest

def bump (counter : Counter) : Except Failure Bumped := do
  let _ ← (Numeral.read counter.digits).mapError (.fault <| .numeral ·)
  let text ← (Numeral.write (counter.number + 1)).mapError (.fault <| .numeral ·)
  pure { text := text ++ counter.rest, expanded := counter.expanded }

theorem bump_eq_ok_iff {counter : Counter} {bumped : Bumped} :
    counter.bump = .ok bumped ↔
      counter.digits.length ≤ Numeral.maxDigits ∧ Numeral.IsShort (counter.number + 1) ∧
        bumped = ⟨counter.valueAt (counter.number + 1), counter.expanded⟩ := by
  simp only [bump, bind_eq_ok_iff, mapError_eq_ok_iff, pure_eq_ok_iff, Numeral.read_eq_ok_iff,
    Numeral.write_eq_ok_iff]
  constructor
  · rintro ⟨number, ⟨short, -⟩, text, ⟨shortNext, rfl⟩, rfl⟩
    exact ⟨short, shortNext, rfl⟩
  · rintro ⟨short, shortNext, rfl⟩
    exact ⟨_, ⟨short, rfl⟩, _, ⟨shortNext, rfl⟩, rfl⟩

end Counter

theorem bumpCore_eq (table : Macro.Table) (core : Text) :
    bumpCore table core =
      match counter? table core with
      | none => .error (.problem (.releaseNotInteger (Text.trim (Macro.expand table core)) core))
      | some counter => counter.bump := by
  unfold bumpCore counter?
  cases core.takeWhile Char.isDigit with
  | nil =>
    -- The reader keeps sign and digits apart, so a successor is a sum or a difference.
    dsimp only
    cases integer? (Text.trim (Macro.expand table core)) with
    | none => rfl
    | some found =>
      obtain ⟨negative, digits⟩ := found
      cases reading : Numeral.read digits with
      | error fault => simp [Counter.bump, reading]
      | ok number =>
        obtain ⟨-, rfl⟩ := Numeral.read_eq_ok_iff.1 reading
        have next : (if negative then 1 - (Numeral.value digits : Int)
            else Numeral.value digits + 1) = Counter.number ⟨negative, digits, [], true⟩ + 1 := by
          cases negative with
          | false => rfl
          | true => simp only [Counter.number, if_true]; omega
        simp only [Option.map_some, Counter.bump, reading, mapError_ok, ok_bind, next,
          List.append_nil]
  | cons c digits =>
    cases reading : Numeral.read (c :: digits) with
    | error fault => simp [Counter.bump, reading]
    | ok number =>
      obtain ⟨-, rfl⟩ := Numeral.read_eq_ok_iff.1 reading
      simp only [Counter.bump, reading, Counter.number]
      rfl

theorem expanded_of_counter? {table : Macro.Table} {core : Text} {counter : Counter}
    (found : counter? table core = some counter) :
    counter.expanded = !core.head?.any Char.isDigit := by
  cases counter?_eq_some_iff.1 found with
  | leading run stops cut =>
    obtain ⟨c, digits, rfl⟩ := List.exists_cons_of_ne_nil run.inhabited
    simp [cut, run.all c List.mem_cons_self]
  | expansion other integer =>
    cases core with
    | nil => rfl
    | cons c core => simp [other c rfl]

/-- What a counter leaves of the value that it is read from: an end of the value that does
not begin with a digit, and nothing behind a negative number. -/
structure Counter.Tail (counter : Counter) (core : Text) : Prop where
  suffix : counter.rest <:+ core
  stops : ∀ c ∈ counter.rest.head?, c.isDigit = false
  alone : counter.number < 0 → counter.rest = []

theorem tail_of_counter? {table : Macro.Table} {core : Text} {counter : Counter}
    (found : counter? table core = some counter) : counter.Tail core := by
  cases counter?_eq_some_iff.1 found with
  | leading run stops cut =>
    refine ⟨⟨_, cut.symm⟩, stops, fun negative => ?_⟩
    simp only [Counter.number, Bool.false_eq_true, if_false] at negative
    omega
  | expansion other integer => exact ⟨List.nil_suffix, by simp, fun _ => rfl⟩

theorem counter?_nil (table : Macro.Table) : counter? table [] = none := by
  have kept : Macro.expand table [] = [] := Macro.expand_of_notMem (by simp) table
  simp [counter?, kept, Text.trim, integer?]

theorem ne_nil_of_counter? {table : Macro.Table} {core : Text} {counter : Counter}
    (found : counter? table core = some counter) : core ≠ [] := by
  rintro rfl
  rw [counter?_nil] at found
  cases found

def Counter.written (number : Int) (rest : Text) : Counter where
  negative := number < 0
  digits := Numeral.decimal number.natAbs
  rest := rest
  expanded := number < 0

@[simp] theorem Counter.number_written (number : Int) (rest : Text) :
    (Counter.written number rest).number = number := by
  simp only [Counter.number, Counter.written, Numeral.value_decimal, decide_eq_true_eq]
  split <;> omega

theorem integer?_negSucc (n : Nat) :
    integer? (Numeral.signed (.negSucc n)) = some (true, Numeral.decimal (n + 1)) := by
  have digits : (Numeral.decimal (n + 1)).all Char.isDigit = true :=
    List.all_eq_true.2 fun c member => Numeral.isDigit_of_mem_decimal member
  simp only [integer?, Numeral.signed, ne_eq, Numeral.decimal_ne_nil, not_false_eq_true, digits,
    and_self, if_true]

theorem isCore_signed (number : Int) : Text.IsCore (Numeral.signed number) :=
  Text.isCore_of_forall (Numeral.signed_ne_nil number) fun _ => Numeral.isBlank_of_mem_signed

/-- A written number is read back together with the text behind it, macros or none. -/
theorem counter?_written (table : Macro.Table) {number : Int} {rest : Text}
    (stops : ∀ c ∈ rest.head?, c.isDigit = false) (alone : number < 0 → rest = []) :
    counter? table (Numeral.signed number ++ rest) = some (.written number rest) := by
  cases number with
  | ofNat n =>
    have run : (Numeral.decimal n).IsRun Char.isDigit :=
      ⟨Numeral.decimal_ne_nil n, fun c member => Numeral.isDigit_of_mem_decimal member⟩
    rw [Numeral.signed, counter?_append table run stops]
    simp [Counter.written]
  | negSucc n =>
    -- A sign is no digit: the number is found by expansion, which leaves such a text as it is.
    have plain : '%' ∉ Numeral.signed (.negSucc n) := Numeral.notMem_signed (by decide) (by decide)
    have sign : ∀ c ∈ (Numeral.signed (.negSucc n)).head?, c.isDigit = false := by
      simp [Numeral.signed]
    rw [alone (Int.negSucc_lt_zero n), List.append_nil, counter?_of_other table sign,
      Macro.expand_of_notMem plain table, Text.trim_of_isCore (isCore_signed _), integer?_negSucc,
      Option.map_some]
    simp [Counter.written, Int.negSucc_lt_zero]

end Specfile.Release
