import Specfile.Text.Printable

/-! The quoted form of a text: delimiters around it, escapes within it, so that it stays
on one line and shows every character that cannot be printed. -/

set_option autoImplicit false

namespace Specfile.Text

def hexDigits : (width value : Nat) → Text
  | 0, _ => []
  | width + 1, value => hexDigits width (value / 16) ++ [Nat.digitChar (value % 16)]

/-- Double marks stand around a text that holds single marks and no double ones. -/
def delimiter (text : Text) : Char :=
  if text.contains '\x27' && !text.contains '\x22' then '\x22' else '\x27'

def escape (mark c : Char) : Text :=
  if c = mark ∨ c = '\\' then ['\\', c]
  else if c = '\n' then ['\\', 'n']
  else if c = '\r' then ['\\', 'r']
  else if c = '\t' then ['\\', 't']
  else if isPrintable c then [c]
  else if c.toNat < 0x100 then '\\' :: 'x' :: hexDigits 2 c.toNat
  else if c.toNat < 0x10000 then '\\' :: 'u' :: hexDigits 4 c.toNat
  else '\\' :: 'U' :: hexDigits 8 c.toNat

def quoted (text : Text) : Text :=
  let mark := delimiter text
  mark :: text.flatMap (escape mark) ++ [mark]

def applied (name argument : Text) : Text := name ++ '(' :: argument ++ [')']

end Specfile.Text
