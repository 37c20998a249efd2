import Specfile.Text.Basic

/-! Decimal numerals. Numbers are unbounded, but a numeral of more than 4300 digits is
neither read nor written. Main statement: the digits written for a number have its value. -/

set_option autoImplicit false

namespace Specfile

inductive NumeralFault where
  | readsTooLong (digits : Nat)
  | writesTooLong
  deriving DecidableEq, Repr

namespace Numeral

def maxDigits : Nat := 4300

def digit (n : Nat) : Char := Nat.digitChar (n % 10)

def digitValue (c : Char) : Nat := c.toNat - '0'.toNat

def append (n : Nat) (c : Char) : Nat := 10 * n + digitValue c

def value (digits : Text) : Nat := digits.foldl append 0

def isHexDigit (c : Char) : Bool :=
  c.isDigit || ('a' ≤ c && c ≤ 'f') || ('A' ≤ c && c ≤ 'F')

def hexDigitValue (c : Char) : Nat :=
  if c.isDigit then digitValue c else c.toLower.toNat - 'a'.toNat + 10

def hexValue (digits : Text) : Nat := digits.foldl (fun n c => 16 * n + hexDigitValue c) 0

def decimalOnto (n : Nat) (rest : Text) : Text :=
  if n < 10 then digit n :: rest else decimalOnto (n / 10) (digit n :: rest)

def decimal (n : Nat) : Text := decimalOnto n []

def signed : Int → Text
  | .ofNat n => decimal n
  | .negSucc n => '-' :: decimal (n + 1)

theorem digitValue_digit (n : Nat) : digitValue (digit n) = n % 10 := by
  have bound : n % 10 < 10 := Nat.mod_lt _ (by decide)
  unfold digit
  generalize n % 10 = d at bound
  have all : ∀ d < 10, digitValue (Nat.digitChar d) = d := by decide
  exact all d bound

theorem foldl_decimalOnto (n : Nat) (rest : Text) :
    (decimalOnto n rest).foldl append 0 = rest.foldl append n := by
  fun_induction decimalOnto n rest with
  | case1 n rest small =>
    simp [append, digitValue_digit, Nat.mod_eq_of_lt small]
  | case2 n rest large ih =>
    rw [ih, List.foldl_cons, append, digitValue_digit, Nat.div_add_mod]

theorem value_decimal (n : Nat) : value (decimal n) = n := foldl_decimalOnto n []

/-- Reads a run of digits; leading zeros count toward its length. -/
def read (digits : Text) : Except NumeralFault Nat :=
  if digits.length > maxDigits then .error (.readsTooLong digits.length)
  else .ok (value digits)

def write (n : Int) : Except NumeralFault Text :=
  if (decimal n.natAbs).length > maxDigits then .error .writesTooLong else .ok (signed n)

/-- Digits up to the first other character; one underscore may stand between two digits. -/
def groupedFrom (isDigit : Char → Bool) (done : Text) : Text → Text × Text
  | [] => (done.reverse, [])
  | '_' :: c :: text =>
    if isDigit c then groupedFrom isDigit (c :: done) text else (done.reverse, '_' :: c :: text)
  | c :: text =>
    if isDigit c then groupedFrom isDigit (c :: done) text else (done.reverse, c :: text)

def grouped? (isDigit : Char → Bool) : Text → Option (Text × Text)
  | [] => none
  | c :: text => if isDigit c then some (groupedFrom isDigit [c] text) else none

end Numeral

def NumeralFault.message : NumeralFault → Text
  | .readsTooLong digits =>
    "Exceeds the limit (".toList ++ Numeral.decimal Numeral.maxDigits
      ++ " digits) for integer string conversion: value has ".toList ++ Numeral.decimal digits
      ++ " digits; use sys.set_int_max_str_digits() to increase the limit".toList
  | .writesTooLong =>
    "Exceeds the limit (".toList ++ Numeral.decimal Numeral.maxDigits
      ++ " digits) for integer string conversion; ".toList
      ++ "use sys.set_int_max_str_digits() to increase the limit".toList

end Specfile
