import Specfile.Text.Blank

/-! The line that a release bump edits: the first one whose text before its first colon is
the release tag, whatever its letter case and the blanks around it. -/

set_option autoImplicit false

namespace Specfile.Release

/-- A line cut behind its first colon. The tag is trimmed, the two parts are as written. -/
structure Line where
  index : Int
  tag : Text
  tagPart : Text
  valuePart : Text
  deriving DecidableEq, Repr

namespace Line

def text (line : Line) : Text := line.tagPart ++ line.valuePart

def value (line : Line) : Text := line.valuePart.trim

def ofText? (index : Int) (text : Text) : Option Line :=
  let before := text.takeWhile (· != ':')
  match text.dropWhile (· != ':') with
  | [] => none
  | colon :: valuePart =>
    let tag := Text.trim before
    if Text.lower tag = "release".toList then
      some { index, tag, tagPart := before ++ [colon], valuePart }
    else none

def firstFrom? (index : Nat) : List Text → Option Line
  | [] => none
  | text :: lines => ofText? index text <|> firstFrom? (index + 1) lines

def first? (lines : List Text) : Option Line := firstFrom? 0 lines

end Line

end Specfile.Release
