import Specfile.Text.Numeral

/-! Days of the Gregorian calendar, extended back to the year 1, whose first day is a
Monday. -/

set_option autoImplicit false

namespace Specfile

structure Date where
  year : Nat
  month : Nat
  day : Nat
  deriving DecidableEq, Repr

namespace Date

def isLeapYear (year : Nat) : Bool := year % 4 = 0 ∧ (year % 100 ≠ 0 ∨ year % 400 = 0)

def daysInMonth (year month : Nat) : Nat :=
  if month = 2 then if isLeapYear year then 29 else 28
  else if month = 4 ∨ month = 6 ∨ month = 9 ∨ month = 11 then 30
  else 31

def IsValid (date : Date) : Prop :=
  1 ≤ date.year ∧ 1 ≤ date.month ∧ date.month ≤ 12 ∧ 1 ≤ date.day
    ∧ date.day ≤ daysInMonth date.year date.month

instance (date : Date) : Decidable date.IsValid := by unfold IsValid; infer_instance

def daysBeforeYear (year : Nat) : Nat :=
  let past := year - 1
  past * 365 + past / 4 - past / 100 + past / 400

/-- Days since the day before the first of January of the year 1. -/
def dayNumber (date : Date) : Nat :=
  let months := (List.range' 1 (date.month - 1)).map (daysInMonth date.year)
  daysBeforeYear date.year + months.foldr (· + ·) date.day

def weekdays : List String := ["Mon", "Tue", "Wed", "Thu", "Fri", "Sat", "Sun"]

def months : List String :=
  ["Jan", "Feb", "Mar", "Apr", "May", "Jun", "Jul", "Aug", "Sep", "Oct", "Nov", "Dec"]

def text (date : Date) : Text :=
  let weekday := (weekdays.getD ((date.dayNumber + 6) % 7) "").toList
  let month := (months.getD (date.month - 1) "").toList
  let day := if date.day < 10 then '0' :: Numeral.decimal date.day else Numeral.decimal date.day
  Text.join [' '] [weekday, month, day, Numeral.decimal date.year]

end Date

end Specfile
