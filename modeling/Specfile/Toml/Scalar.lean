import Specfile.Calendar
import Specfile.Toml.Value

/-! Scalars of a TOML file: truth values, dates, times and numbers. They are recognised and
checked, and their values are dropped. -/

set_option autoImplicit false

namespace Specfile.Toml

def fixedNumber? (width : Nat) (text : Text) : Option (Nat × Text) :=
  let digits := text.take width
  if digits.length = width ∧ digits.all Char.isDigit then
    some (Numeral.value digits, text.drop width)
  else none

def afterMinutes? (text : Text) : Option Text := do
  let (hour, text) ← fixedNumber? 2 text
  let text ← Text.after? [':'] text
  let (minute, text) ← fixedNumber? 2 text
  if hour < 24 ∧ minute < 60 then some text else none

/-- What follows a time of day, whose seconds may have a fraction. -/
def afterTime? (text : Text) : Option Text := do
  let text ← afterMinutes? text
  let text ← Text.after? [':'] text
  let (second, text) ← fixedNumber? 2 text
  if second < 60 then
    match text with
    | '.' :: c :: rest =>
      if c.isDigit then some (rest.dropWhile Char.isDigit) else some text
    | _ => some text
  else none

def afterOffset (text : Text) : Text :=
  match text with
  | c :: rest =>
    if c = 'Z' ∨ c = 'z' then rest
    else if c = '+' ∨ c = '-' then (afterMinutes? rest).getD text
    else text
  | [] => text

def date? (text : Text) : Option (Date × Text) := do
  let (year, text) ← fixedNumber? 4 text
  let text ← Text.after? ['-'] text
  let (month, text) ← fixedNumber? 2 text
  let text ← Text.after? ['-'] text
  let (day, text) ← fixedNumber? 2 text
  if 1 ≤ month ∧ month ≤ 12 ∧ 1 ≤ day ∧ day ≤ 31 then
    let rest := match text with
      | c :: rest =>
        if c = 'T' ∨ c = 't' ∨ c = ' ' then
          match afterTime? rest with
          | some rest => afterOffset rest
          | none => text
        else text
      | [] => text
    some (⟨year, month, day⟩, rest)
  else none

def isDigitOf (base c : Char) : Bool :=
  match base with
  | 'x' => Numeral.isHexDigit c
  | 'o' => '0' ≤ c && c ≤ '7'
  | 'b' => c = '0' || c = '1'
  | _ => false

def withBase? : Text → Option Text
  | '0' :: base :: text => (Numeral.grouped? (isDigitOf base) text).map Prod.snd
  | _ => none

def afterSign : Text → Text
  | '+' :: text | '-' :: text => text
  | text => text

def afterFraction? : Text → Option Text
  | '.' :: text => (Numeral.grouped? Char.isDigit text).map Prod.snd
  | _ => none

def afterExponent? : Text → Option Text
  | c :: text =>
    if c = 'e' ∨ c = 'E' then (Numeral.grouped? Char.isDigit (afterSign text)).map Prod.snd else none
  | [] => none

/-- A decimal number: how many digits it has when it is an integer, and what follows. -/
def decimal? (text : Text) : Option (Option Nat × Text) := do
  let (digits, rest) ← match afterSign text with
    | '0' :: rest => some (['0'], rest)
    | digits => Numeral.grouped? Char.isDigit digits
  let fraction := afterFraction? rest
  let exponent := afterExponent? (fraction.getD rest)
  if fraction.isNone && exponent.isNone then some (some digits.length, rest)
  else some (none, exponent.getD (fraction.getD rest))

def words : List Text := ["true".toList, "false".toList]

def notNumbers : List Text :=
  [[], ['+'], ['-']].flatMap fun sign => [sign ++ "inf".toList, sign ++ "nan".toList]

def afterAny? (words : List Text) (text : Text) : Option Text :=
  words.findSome? (Text.after? · text)

def scalar : Reader Unit := fun text =>
  match afterAny? words text with
  | some rest => .ok ((), rest)
  | none =>
    match date? text with
    | some (date, rest) => if date.IsValid then .ok ((), rest) else .error .malformed
    | none =>
      match afterTime? text <|> withBase? text with
      | some rest => .ok ((), rest)
      | none =>
        match decimal? text with
        | some (some count, rest) =>
          if count > Numeral.maxDigits then .error (.numeral (.readsTooLong count))
          else .ok ((), rest)
        | some (none, rest) => .ok ((), rest)
        | none => (orMalformed (afterAny? notNumbers text)).map ((), ·)

end Specfile.Toml
