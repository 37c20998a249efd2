import Specfile.Text.Numeral

/-! Numbers of double precision and their texts. A decimal is read as the double nearest to it,
of two equally near ones as the one with the even mantissa. A double is written with the fewest
digits that are read as it again, and with the nearest such digits; main statement: what is
chosen for writing is read as the double, if the exact decimal is. -/

set_option autoImplicit false

namespace Specfile

/-- The number `digits * 10 ^ exponent`. -/
structure Decimal where
  digits : Nat
  exponent : Int
  deriving DecidableEq, Repr

/-- The number `mantissa * 2 ^ exponent`. -/
structure Binary where
  mantissa : Nat
  exponent : Int
  deriving DecidableEq, Repr

namespace Binary

def mantissaBits : Nat := 53

def leastExponent : Int := -1074

def greatestExponent : Int := 971

def zero : Binary := { mantissa := 0, exponent := leastExponent }

/-- The quotient rounded to a whole number, a half to the even neighbour. -/
def roundedQuotient (numerator denominator : Nat) : Nat :=
  let whole := numerator / denominator
  let rest := 2 * (numerator % denominator)
  if rest < denominator || (rest = denominator && whole % 2 = 0) then whole else whole + 1

def order (numerator denominator : Nat) : Int :=
  if denominator ≤ numerator then Nat.log2 (numerator / denominator)
  else -1 - Nat.log2 ((denominator - 1) / numerator)

def ofQuotient? (numerator denominator : Nat) : Option Binary :=
  let exponent := max (order numerator denominator + 1 - mantissaBits) leastExponent
  let mantissa := roundedQuotient (numerator * Nat.pow 2 (-exponent).toNat)
    (denominator * Nat.pow 2 exponent.toNat)
  let rounded : Binary :=
    if mantissa < Nat.pow 2 mantissaBits then { mantissa, exponent }
    else { mantissa := Nat.pow 2 (mantissaBits - 1), exponent := exponent + 1 }
  if rounded.exponent ≤ greatestExponent then some rounded else none

def leastOrder : Int := -324

def greatestOrder : Int := 309

def ofDecimal? (decimal : Decimal) : Option Binary :=
  let order : Int := (Numeral.decimal decimal.digits).length + decimal.exponent
  if decimal.digits = 0 || order ≤ leastOrder then some zero
  else if greatestOrder < order then none
  else ofQuotient? (decimal.digits * Nat.pow 10 decimal.exponent.toNat)
    (Nat.pow 10 (-decimal.exponent).toNat)

def exact (number : Binary) : Decimal :=
  if number.exponent < 0 then
    { digits := number.mantissa * Nat.pow 5 (-number.exponent).toNat, exponent := number.exponent }
  else { digits := number.mantissa * Nat.pow 2 number.exponent.toNat, exponent := 0 }

end Binary

namespace Decimal

/-- The two neighbours of a decimal with so many digits fewer, the nearer one first, and of
two equally near ones the even one. -/
def neighbours (decimal : Decimal) (dropped : Nat) : List Decimal :=
  let unit := Nat.pow 10 dropped
  let low := decimal.digits / unit
  let rest := 2 * (decimal.digits % unit)
  let exponent := decimal.exponent + dropped
  if rest < unit || (rest = unit && low % 2 = 0) then
    [{ digits := low, exponent }, { digits := low + 1, exponent }]
  else [{ digits := low + 1, exponent }, { digits := low, exponent }]

/-- Drops as many digits as possible, and no more than the given number, from a decimal so
that it is still read as a number. -/
def shorten (number : Binary) (decimal : Decimal) : (dropped : Nat) → Decimal
  | 0 => decimal
  | dropped + 1 =>
    match (decimal.neighbours (dropped + 1)).find? (Binary.ofDecimal? · = some number) with
    | some shorter => shorter
    | none => shorten number decimal dropped

/-- From `0.0001` up to sixteen digits before the point the digits stand in their places; all
other numbers have one digit before the point and a power of ten behind. -/
def text (decimal : Decimal) : Text :=
  let written := Numeral.decimal decimal.digits
  let order : Int := written.length + decimal.exponent
  let digits := (written.reverse.dropWhile (· = '0')).reverse
  if decimal.digits = 0 then "0.0".toList
  else if -4 < order && order ≤ 16 then
    let whole := order.toNat
    let before := digits.take whole ++ List.replicate (whole - digits.length) '0'
    let after := List.replicate (-order).toNat '0' ++ digits.drop whole
    (if before = [] then ['0'] else before) ++ '.' :: if after = [] then ['0'] else after
  else
    let power := order - 1
    let size := Numeral.decimal power.natAbs
    digits.take 1 ++ (if digits.length ≤ 1 then [] else '.' :: digits.drop 1)
      ++ ['e', if power < 0 then '-' else '+']
      ++ List.replicate (2 - size.length) '0' ++ size

end Decimal

def Binary.shortest (number : Binary) : Decimal :=
  number.exact.shorten number ((Numeral.decimal number.exact.digits).length - 1)

/-- A sign and a magnitude; no magnitude stands for one beyond the greatest double. -/
structure Double where
  negative : Bool
  magnitude : Option Binary
  deriving DecidableEq, Repr

namespace Double

def ofDecimal (negative : Bool) (decimal : Decimal) : Double :=
  { negative, magnitude := Binary.ofDecimal? decimal }

def text (number : Double) : Text :=
  let magnitude := match number.magnitude with
    | some magnitude => magnitude.shortest.text
    | none => "inf".toList
  if number.negative then '-' :: magnitude else magnitude

end Double

end Specfile
