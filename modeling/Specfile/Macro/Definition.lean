import Specfile.Text.Blank
import Specfile.Text.Word

/-! Macro definitions in a line: a keyword, blanks, a name of word characters, blanks and
a value. Text may stand before the keyword; the first place where a definition can be
read is the one that counts. -/

set_option autoImplicit false

namespace Specfile.Macro

structure Definition where
  name : Text
  value : Text
  deriving DecidableEq, Repr

def afterKeyword? (text : Text) : Option Text :=
  Text.after? "%global".toList text <|> Text.after? "%define".toList text

/-- The value in the text after a name. At least one blank and one more character have to
follow the name; blanks alone make an empty value unless newlines are all that is left. -/
def valueAfterName? : Text → Option Text
  | [] => none
  | c :: rest =>
    if isBlank c then
      match rest.dropWhile isBlank with
      | [] => if rest.any (· != '\n') then some [] else none
      | body => some (Text.trim (body.takeWhile (· != '\n')))
    else none

def Definition.startingAt? (text : Text) : Option Definition := do
  let rest ← afterKeyword? text
  let named := rest.dropWhile isBlank
  let name := named.takeWhile isWordChar
  if rest.head?.any isBlank && !name.isEmpty then
    let value ← valueAfterName? (named.dropWhile isWordChar)
    some { name, value }
  else none

def Definition.first? : Text → Option Definition
  | [] => none
  | c :: text => Definition.startingAt? (c :: text) <|> first? text

end Specfile.Macro
