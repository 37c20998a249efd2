import Specfile.Text.Basic

/-! Backslashes before brackets. A bracket that a lower-case letter or one of `#`, `/` and `@`
follows, and that is closed before another one opens, opens a tag; before any other opening
bracket one backslash is lost. -/

set_option autoImplicit false

namespace Specfile.Text

def isTagStart (c : Char) : Bool := c.isLower || c = '#' || c = '/' || c = '@'

def beginsTag : Text → Bool
  | [] => false
  | c :: text => isTagStart c && text.find? (fun c => c = '[' || c = ']') = some ']'

def dropEscapes : Text → Text
  | [] => []
  | '\\' :: '[' :: text =>
    if beginsTag text then '\\' :: '[' :: dropEscapes text else '[' :: dropEscapes text
  | c :: text => c :: dropEscapes text

end Specfile.Text
