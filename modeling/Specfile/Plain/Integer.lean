import Specfile.Text.Blank
import Specfile.Text.Numeral

/-! Whole numbers as arguments. White space around the number, a plus sign, leading zeros,
zeros after a point and single underscores between digits are passed over; what is left must
be the plain numeral of a number. A minus sign may stand before the leading zeros or behind
them. The information separators are no white space here. -/

set_option autoImplicit false

namespace Specfile.Plain

def isPadding (c : Char) : Bool := isBlank c && !('\x1c' ≤ c && c ≤ '\x1f')

def unpadded (text : Text) : Text :=
  ((text.dropWhile isPadding).reverse.dropWhile isPadding).reverse

def withoutPlus? : Text → Option Text
  | '+' :: '-' :: _ => none
  | '+' :: text => some text
  | text => some text

def isLeadingDigit (c : Char) : Bool := '1' ≤ c && c ≤ '9'

def startsNumeral (c : Char) : Bool := c = '-' || isLeadingDigit c

def afterZeros? (last : Char) : Text → Option Text
  | [] => some [last]
  | c :: text =>
    if c = '0' || c = '_' then afterZeros? c text
    else if startsNumeral c then some (c :: text)
    else if c = '.' then some (last :: c :: text)
    else none

def withoutLeadingZeros? : Text → Option Text
  | [] => none
  | c :: text =>
    if c = '0' then afterZeros? c text
    else if startsNumeral c then some (c :: text)
    else none

/-- A point with zeros alone behind it is dropped, but not a point at the end. -/
def withoutPlaces (text : Text) : Text :=
  let places := (text.dropWhile (· ≠ '.')).drop 1
  if places ≠ [] && places.all (· = '0') then text.takeWhile (· ≠ '.') else text

def withoutUnderscores (text : Text) : Text :=
  if text.head? = some '_' || text.getLast? = some '_' || Text.occursIn ['_', '_'] text then text
  else text.filter (· ≠ '_')

def isPlainNumeral (digits : Text) : Bool :=
  digits.all Char.isDigit && (digits = ['0'] || digits.head?.any isLeadingDigit)

/-- The number of a numeral without leading zeros; a sign counts toward its length. -/
def plainInteger? (text : Text) : Option Int :=
  let digits := if text.head? = some '-' then text.drop 1 else text
  if text.length ≤ Numeral.maxDigits && isPlainNumeral digits then
    let number := Numeral.value digits
    some (if text.head? = some '-' then -number else number)
  else none

def integer? (argument : Text) : Option Int := do
  let unsigned ← withoutPlus? (unpadded argument)
  let sign := unsigned.takeWhile (· = '-')
  let digits ← withoutLeadingZeros? (unsigned.drop sign.length)
  plainInteger? (sign ++ withoutUnderscores (withoutPlaces digits))

end Specfile.Plain
