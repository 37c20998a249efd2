import Specfile.Failure

/-! Untyped data, as a reader of some format hands it on. Texts and mappings count; everything
else is alike. A mapping may have keys that are no texts, and nothing is found under these. -/

set_option autoImplicit false

namespace Specfile

inductive Data where
  | text (text : Text)
  | mapping (entries : List (Option Text × Data))
  | other
  deriving Inhabited

/-- A key that is no text is `none`. -/
abbrev Mapping := List (Option Text × Data)

namespace Mapping

def get? (mapping : Mapping) (key : Text) : Option Data := List.lookup (some key) mapping

def hasTextKeys (mapping : Mapping) : Bool := mapping.all (·.1.isSome)

end Mapping

namespace Data

inductive Refusal where
  | malformed (detail : Text)
  | broken (fault : Fault)
  deriving DecidableEq, Repr

abbrev Reader := Text → Except Refusal Mapping

end Data

end Specfile
