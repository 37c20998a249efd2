import Specfile.Failure
import Specfile.Macro.Expansion
import Specfile.Release.Line

/-! Release bumps. The number at the start of a value grows by one and the rest of the
value stays. A value that starts with no digit is expanded; when the expansion is an
integer, its successor takes the place of the whole value. The blanks around the value
are kept. -/

set_option autoImplicit false

namespace Specfile.Release

/-- A bumped value, and whether expansion was needed to find its number. -/
structure Bumped where
  text : Text
  expanded : Bool
  deriving DecidableEq, Repr

def integer? (text : Text) : Option (Bool × Text) :=
  let (negative, digits) := match text with
    | '-' :: digits => (true, digits)
    | '+' :: digits => (false, digits)
    | digits => (false, digits)
  if digits ≠ [] ∧ digits.all Char.isDigit then some (negative, digits) else none

def bumpCore (table : Macro.Table) (core : Text) : Except Failure Bumped :=
  match core.takeWhile Char.isDigit with
  | [] =>
    let expansion := Text.trim (Macro.expand table core)
    match integer? expansion with
    | none => .error (.problem (.releaseNotInteger expansion core))
    | some (negative, digits) => do
      let number ← (Numeral.read digits).mapError (.fault <| .numeral ·)
      let next : Int := if negative then 1 - number else number + 1
      let text ← (Numeral.write next).mapError (.fault <| .numeral ·)
      pure { text, expanded := true }
  | digits => do
    let number ← (Numeral.read digits).mapError (.fault <| .numeral ·)
    let text ← (Numeral.write (number + 1)).mapError (.fault <| .numeral ·)
    pure { text := text ++ core.dropWhile Char.isDigit, expanded := false }

def bumpValue (table : Macro.Table) (valuePart : Text) : Except Failure Bumped := do
  let bumped ← bumpCore table valuePart.trim
  pure { bumped with text := valuePart.replaceCore bumped.text }

structure Change where
  index : Int
  oldLine : Text
  newLine : Text
  oldValue : Text
  newValue : Text
  expanded : Bool
  deriving DecidableEq, Repr

def Change.summary (change : Change) : Text :=
  "Release: ".toList ++ change.oldValue ++ " -> ".toList ++ change.newValue

def Line.bump (table : Macro.Table) (line : Line) : Except Failure Change := do
  let bumped ← bumpValue table line.valuePart
  pure {
    index := line.index
    oldLine := line.text
    newLine := line.tagPart ++ bumped.text
    oldValue := line.value
    newValue := bumped.text.trim
    expanded := bumped.expanded }

def requireLine (lines : List Text) : Except Problem Line :=
  match Line.first? lines with
  | none => .error (.tagsMissing ["Release".toList])
  | some line => .ok line

def plan (lines : List Text) : Except Failure Change := do
  let line ← (requireLine lines).mapError .problem
  line.bump (.ofLines lines)

end Specfile.Release
