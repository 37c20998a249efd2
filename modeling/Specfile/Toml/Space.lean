import Specfile.Text.Basic

/-! What stands between the parts of a TOML file: spaces and tabs, newlines, and comments,
which run to the end of their line and hold no control character but tabs. -/

set_option autoImplicit false

namespace Specfile.Toml

def isSpace (c : Char) : Bool := c = ' ' || c = '\t'

def isSpaceOrNewline (c : Char) : Bool := isSpace c || c = '\n'

def isControl (c : Char) : Bool := c.toNat < 0x20 || c.toNat = 0x7f

/-- Characters that may not stand in comments and in texts of one line. -/
def isForbidden (c : Char) : Bool := isControl c && c != '\t'

def skipSpaces (text : Text) : Text := text.dropWhile isSpace

/-- What follows a comment, if there is one; `none` for a forbidden character in it. -/
def skipComment? : Text → Option Text
  | '#' :: text =>
    if (text.takeWhile (· != '\n')).any isForbidden then none
    else some (text.dropWhile (· != '\n'))
  | text => some text

/-- Skips spaces, newlines and comments; the fuel bounds the number of comments. -/
def skipFillerWith? : (fuel : Nat) → Text → Option Text
  | 0, _ => none
  | fuel + 1, text =>
    match text.dropWhile isSpaceOrNewline with
    | '#' :: rest => do skipFillerWith? fuel (← skipComment? ('#' :: rest))
    | rest => some rest

def skipFiller? (text : Text) : Option Text := skipFillerWith? (text.length + 1) text

def unifyLineEnds (text : Text) : Text :=
  let keep (c : Char) : Text × Bool → Text × Bool
    | (rest, newlineFollows) =>
      if c = '\r' && newlineFollows then (rest, false) else (c :: rest, c = '\n')
  (text.foldr keep ([], false)).1

end Specfile.Toml
