import Specfile.Text.Blank
import Specfile.Text.Numeral
import Mathlib.Algebra.Group.Nat.Defs
import Mathlib.Data.List.Induction

/-! What written numbers consist of: digits, behind a sign when they are negative. How many digits a
number has is a matter of powers of ten, as is the greatest value of so many digits. -/

set_option autoImplicit false

namespace Specfile

theorem isBlank_of_isDigit {c : Char} (digit : c.isDigit = true) : isBlank c = false := by
  have none : blanks.all (!Char.isDigit ·) = true := rfl
  rw [isBlank, List.contains_eq_mem, decide_eq_false_iff_not]
  intro member
  have other := List.all_eq_true.1 none c member
  simp [digit] at other

namespace Numeral

def IsShort (n : Int) : Prop := (decimal n.natAbs).length ≤ maxDigits

instance (n : Int) : Decidable (IsShort n) := inferInstanceAs (Decidable (_ ≤ _))

theorem isDigit_digit (n : Nat) : (digit n).isDigit = true := by
  have bound : n % 10 < 10 := Nat.mod_lt _ (by decide)
  have all : ∀ d < 10, (Nat.digitChar d).isDigit = true := by decide
  exact all _ bound

theorem isDigit_of_mem_decimalOnto {n : Nat} {rest : Text} {c : Char}
    (member : c ∈ decimalOnto n rest) : c.isDigit = true ∨ c ∈ rest := by
  fun_induction decimalOnto n rest with
  | case1 n rest small =>
    rcases List.mem_cons.1 member with rfl | member
    · exact .inl (isDigit_digit n)
    · exact .inr member
  | case2 n rest large ih =>
    rcases ih member with isDigit | member
    · exact .inl isDigit
    · rcases List.mem_cons.1 member with rfl | member
      · exact .inl (isDigit_digit n)
      · exact .inr member

theorem isDigit_of_mem_decimal {n : Nat} {c : Char} (member : c ∈ decimal n) :
    c.isDigit = true := by
  simpa using isDigit_of_mem_decimalOnto member

theorem decimal_ne_nil (n : Nat) : decimal n ≠ [] := by
  have general : ∀ rest, decimalOnto n rest ≠ [] := by
    intro rest
    fun_induction decimalOnto n rest with
    | case1 => simp
    | case2 n rest large ih => exact ih
  exact general []

theorem signed_ne_nil (n : Int) : signed n ≠ [] := by
  cases n with
  | ofNat n => exact decimal_ne_nil n
  | negSucc n => exact List.cons_ne_nil _ _

theorem mem_signed {n : Int} {c : Char} (member : c ∈ signed n) : c = '-' ∨ c.isDigit = true := by
  cases n with
  | ofNat n => exact .inr (isDigit_of_mem_decimal member)
  | negSucc n => exact (List.mem_cons.1 member).imp id isDigit_of_mem_decimal

theorem isBlank_of_mem_signed {n : Int} {c : Char} (member : c ∈ signed n) : isBlank c = false := by
  rcases mem_signed member with rfl | digit
  · decide
  · exact isBlank_of_isDigit digit

theorem notMem_signed {n : Int} {c : Char} (sign : c ≠ '-') (digit : c.isDigit = false) :
    c ∉ signed n := by
  intro member
  rcases mem_signed member with same | isDigit
  · exact sign same
  · simp [digit] at isDigit

theorem read_eq_ok_iff {digits : Text} {n : Nat} :
    read digits = .ok n ↔ digits.length ≤ maxDigits ∧ n = value digits := by
  unfold read
  split
  · rename_i long
    simp [Nat.not_le.2 long]
  · rename_i short
    simp [Nat.not_lt.1 short, eq_comm]

theorem read_eq_error_iff {digits : Text} {fault : NumeralFault} :
    read digits = .error fault ↔
      maxDigits < digits.length ∧ fault = .readsTooLong digits.length := by
  unfold read
  split
  · rename_i long
    rw [Except.error.injEq]
    exact ⟨fun same => ⟨long, same.symm⟩, fun both => both.2.symm⟩
  · rename_i short
    exact ⟨nofun, fun both => absurd both.1 short⟩

theorem write_eq_error_iff {n : Int} {fault : NumeralFault} :
    write n = .error fault ↔ ¬ IsShort n ∧ fault = .writesTooLong := by
  unfold write IsShort
  split
  · rename_i long
    rw [Except.error.injEq]
    exact ⟨fun same => ⟨Nat.not_le.2 long, same.symm⟩, fun both => both.2.symm⟩
  · rename_i short
    exact ⟨nofun, fun both => absurd (Nat.not_lt.1 short) both.1⟩

theorem write_eq_ok_iff {n : Int} {text : Text} :
    write n = .ok text ↔ IsShort n ∧ text = signed n := by
  unfold write IsShort
  split
  · rename_i long
    simp [Nat.not_le.2 long]
  · rename_i short
    simp [Nat.not_lt.1 short, eq_comm]

theorem length_lt_length_decimalOnto (n : Nat) (rest : Text) :
    rest.length < (decimalOnto n rest).length := by
  fun_induction decimalOnto n rest with
  | case1 n rest small => simp
  | case2 n rest large ih => exact Nat.lt_of_succ_lt ih

theorem length_decimalOnto_le_iff (n k : Nat) (rest : Text) :
    (decimalOnto n rest).length ≤ rest.length + (k + 1) ↔ n < 10 ^ (k + 1) := by
  -- One digit less is one power of ten less.
  fun_induction decimalOnto n rest generalizing k with
  | case1 n rest small =>
    have power : 10 ≤ 10 ^ (k + 1) := Nat.le_pow (Nat.succ_pos k)
    simp only [List.length_cons]
    omega
  | case2 n rest large ih =>
    cases k with
    | zero =>
      have more := length_lt_length_decimalOnto (n / 10) (digit n :: rest)
      simp only [List.length_cons] at more
      omega
    | succ k =>
      have shorter := ih k
      rw [Nat.div_lt_iff_lt_mul (by decide), ← Nat.pow_succ, List.length_cons] at shorter
      rw [← shorter]
      omega

theorem length_decimal_le_iff {n k : Nat} (positive : 0 < k) :
    (decimal n).length ≤ k ↔ n < 10 ^ k := by
  obtain ⟨k, rfl⟩ := Nat.exists_eq_add_of_lt positive
  simpa [decimal] using length_decimalOnto_le_iff n k []

theorem isShort_iff {n : Int} : IsShort n ↔ n.natAbs < 10 ^ maxDigits :=
  length_decimal_le_iff (by decide)

section
variable {c : Char} (digit : c.isDigit = true)
include digit

theorem toNat_mem_of_isDigit : '0'.toNat ≤ c.toNat ∧ c.toNat ≤ '9'.toNat := by
  simp only [Char.isDigit, Bool.and_eq_true, decide_eq_true_eq] at digit
  exact ⟨UInt32.le_iff_toNat_le.1 digit.1, UInt32.le_iff_toNat_le.1 digit.2⟩

theorem digitValue_le : digitValue c ≤ 9 := by
  have bounds := toNat_mem_of_isDigit digit
  simp only [digitValue, Char.reduceToNat] at bounds ⊢
  omega

theorem digitValue_eq_nine_iff : digitValue c = 9 ↔ c = '9' := by
  have bounds := toNat_mem_of_isDigit digit
  rw [← Char.toNat_inj]
  simp only [digitValue, Char.reduceToNat] at bounds ⊢
  omega

end

theorem value_concat (digits : Text) (c : Char) :
    value (digits ++ [c]) = 10 * value digits + digitValue c := by
  simp [value, append, List.foldl_append]

theorem value_lt {digits : Text} (all : ∀ c ∈ digits, c.isDigit = true) :
    value digits < 10 ^ digits.length := by
  -- The last digit comes off, and those in front of it count tens.
  induction digits using List.reverseRecOn with
  | nil => exact Nat.one_pos
  | append_singleton digits c ih =>
    have front := ih fun d member => all d (List.mem_append_left _ member)
    have last := digitValue_le (all c (by simp))
    rw [value_concat, List.length_append, List.length_singleton, Nat.pow_succ]
    omega

/-- Of all numbers with so many digits only the one made of nines comes up to the power of ten. -/
theorem value_add_one_eq_iff {digits : Text} (all : ∀ c ∈ digits, c.isDigit = true) :
    value digits + 1 = 10 ^ digits.length ↔ digits = List.replicate digits.length '9' := by
  induction digits using List.reverseRecOn with
  | nil => simp [value]
  | append_singleton digits c ih =>
    have allFront : ∀ d ∈ digits, d.isDigit = true :=
      fun d member => all d (List.mem_append_left _ member)
    have isDigit : c.isDigit = true := all c (by simp)
    have front := value_lt allFront
    have last := digitValue_le isDigit
    have nines : digits ++ [c] = List.replicate (digits.length + 1) '9' ↔
        digits = List.replicate digits.length '9' ∧ c = '9' := by
      rw [List.replicate_succ', ← List.concat_eq_append, ← List.concat_eq_append, List.concat_inj]
    rw [value_concat, List.length_append, List.length_singleton, Nat.pow_succ, nines,
      ← ih allFront, ← digitValue_eq_nine_iff isDigit]
    omega

/-- The number after one that can be read has too many digits only behind the greatest of those
numbers. -/
theorem isShort_value_add_one_iff {digits : Text} (all : ∀ c ∈ digits, c.isDigit = true)
    (readable : digits.length ≤ maxDigits) :
    IsShort (value digits + 1) ↔ digits ≠ List.replicate maxDigits '9' := by
  have next : ((value digits : Int) + 1).natAbs = value digits + 1 := by omega
  rw [isShort_iff, next]
  have below := value_lt all
  -- With fewer digits there is room for one more.
  rcases Nat.lt_or_eq_of_le readable with fewer | same
  · have more : 10 ^ digits.length < 10 ^ maxDigits := Nat.pow_lt_pow_right (by decide) fewer
    have other : digits ≠ List.replicate maxDigits '9' := by
      rintro rfl
      simp at fewer
    exact iff_of_true (by omega) other
  · rw [← same, ne_eq, ← value_add_one_eq_iff all]
    omega

theorem isShort_neg_value_add_one {digits : Text} (all : ∀ c ∈ digits, c.isDigit = true)
    (readable : digits.length ≤ maxDigits) : IsShort (-value digits + 1) := by
  have below := value_lt all
  have most : 10 ^ digits.length ≤ 10 ^ maxDigits := Nat.pow_le_pow_right (by decide) readable
  have many : 1 < 10 ^ maxDigits := Nat.one_lt_pow (by decide) (by decide)
  rw [isShort_iff]
  omega

end Numeral

end Specfile
