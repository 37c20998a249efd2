import Specfile.Text.Blank

/-! The values of the version, release and epoch tags. A tag counts only at the start of a
line and in its exact spelling; of several lines with one tag the last one counts, even
when its value is blank. -/

set_option autoImplicit false

namespace Specfile

/-- Unexpanded values; a tag that is absent has the empty value. -/
structure Tags where
  version : Text := []
  release : Text := []
  epoch : Text := []
  deriving DecidableEq, Repr

namespace Tags

def valueOn? (tag line : Text) : Option Text := (Text.after? (tag ++ [':']) line).map Text.trim

def lastValue (tag : Text) (lines : List Text) : Text :=
  (lines.filterMap (valueOn? tag)).getLast?.getD []

def ofLines (lines : List Text) : Tags where
  version := lastValue "Version".toList lines
  release := lastValue "Release".toList lines
  epoch := lastValue "Epoch".toList lines

def missing (tags : Tags) : List Text :=
  (if tags.version = [] then ["Version".toList] else [])
    ++ (if tags.release = [] then ["Release".toList] else [])

end Tags

end Specfile
