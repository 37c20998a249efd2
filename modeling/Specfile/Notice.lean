import Specfile.Failure

/-! Notices to the user. Each has a style and a text; errors and warnings are meant for the
error stream and all others for the output stream. -/

set_option autoImplicit false

namespace Specfile

inductive Style where
  | plain
  | success
  | error
  | warning
  | dim
  deriving DecidableEq, Repr

inductive Notice where
  | note (style : Style) (message : Text)
  | success (message : Text)
  | error (message : Text)
  | warning (message : Text)
  deriving DecidableEq, Repr

inductive Stream where
  | output
  | errors
  deriving DecidableEq, Repr

namespace Notice

def style : Notice → Style
  | note style _ => style
  | success _ => .success
  | error _ => .error
  | warning _ => .warning

def text : Notice → Text
  | note _ message => message
  | success message => "OK ".toList ++ message
  | error message => "error: ".toList ++ message
  | warning message => "warning: ".toList ++ message

def stream : Notice → Stream
  | note .. | success _ => .output
  | error _ | warning _ => .errors

def hasStyle (style : Style) (notices : List Notice) : Bool := notices.any (·.style = style)

def mentioning (part : Text) (notices : List Notice) : List Notice :=
  notices.filter fun notice => Text.occursIn part notice.text

def transcript (notices : List Notice) : Text := Text.joinLines (notices.map text)

end Notice

/-- The message of a problem as an error, and its hint, if it has one, as a dim note. -/
def Problem.notices (problem : Problem) : List Notice :=
  .error problem.message
    :: (problem.hint?.map fun hint => Notice.note .dim ("hint: ".toList ++ hint)).toList

end Specfile
