import Specfile.Text.Basic

/-! Blank characters and the blanks at the two ends of a text. Every text is its
leading blanks, its trimmed core and its trailing blanks; a text of blanks alone counts
as leading blanks. -/

set_option autoImplicit false

namespace Specfile

/-- Horizontal and vertical white space, the four information separators included;
zero-width characters and the byte order mark are no blanks. -/
def blanks : List Char :=
  ['\t', '\n', '\x0b', '\x0c', '\r', '\x1c', '\x1d', '\x1e', '\x1f', ' ', '\u0085', '\u00a0',
    '\u1680', '\u2000', '\u2001', '\u2002', '\u2003', '\u2004', '\u2005', '\u2006', '\u2007',
    '\u2008', '\u2009', '\u200a', '\u2028', '\u2029', '\u202f', '\u205f', '\u3000']

def isBlank (c : Char) : Bool := blanks.contains c

namespace Text

def leading (text : Text) : Text := text.takeWhile isBlank

def trim (text : Text) : Text := (text.dropWhile isBlank).reverse.dropWhile isBlank |>.reverse

def trailing (text : Text) : Text :=
  (text.dropWhile isBlank).reverse.takeWhile isBlank |>.reverse

theorem leading_append_trim_append_trailing (text : Text) :
    leading text ++ (trim text ++ trailing text) = text := by
  rw [leading, trim, trailing, ← List.reverse_append, List.takeWhile_append_dropWhile,
    List.reverse_reverse, List.takeWhile_append_dropWhile]

/-- Where the trimmed core of a text begins: where it occurs first. A text of blanks has an empty
core at its end. -/
def corePlace (text : Text) : Nat :=
  if trim text = [] then text.length else (place? (trim text) text).getD 0

def replaceCore (text new : Text) : Text :=
  let place := corePlace text
  text.take place ++ new ++ text.drop (place + (trim text).length)

end Text

end Specfile
