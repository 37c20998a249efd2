import Specfile.Text.Numeral
import Specfile.Toml.Space

/-! Quoted texts of a TOML file. Double marks quote with escapes and single marks without;
three marks quote across lines. A text in three marks may end in up to two more of them,
and its first newline does not count. -/

set_option autoImplicit false

namespace Specfile.Toml

def doubleMark : Char := '\x22'

def singleMark : Char := '\x27'

def codePoint? (width : Nat) (text : Text) : Option (Char × Text) :=
  let digits := text.take width
  let number := Numeral.hexValue digits
  if digits.length = width ∧ digits.all Numeral.isHexDigit ∧ number.isValidChar then
    some (.ofNat number, text.drop width)
  else none

def escapes : List (Char × Char) :=
  [('b', '\x08'), ('t', '\t'), ('n', '\n'), ('f', '\x0c'), ('r', '\r'),
    (doubleMark, doubleMark), ('\\', '\\')]

def escaped? : Text → Option (Char × Text)
  | [] => none
  | 'u' :: text => codePoint? 4 text
  | 'U' :: text => codePoint? 8 text
  | c :: text => (escapes.lookup c).map (·, text)

/-- The rest of a text in double marks; `done` holds what was read, last one first. -/
def escapedLine? : (fuel : Nat) → (text done : Text) → Option (Text × Text)
  | 0, _, _ | _, [], _ => none
  | fuel + 1, c :: text, done =>
    if c = doubleMark then some (done.reverse, text)
    else if c = '\\' then do
      let (c, text) ← escaped? text
      escapedLine? fuel text (c :: done)
    else if isForbidden c then none
    else escapedLine? fuel text (c :: done)

def plainLine? (text : Text) : Option (Text × Text) :=
  let body := text.takeWhile (· != singleMark)
  match text.dropWhile (· != singleMark) with
  | [] => none
  | _ :: rest => if body.any isForbidden then none else some (body, rest)

/-- Adds the marks, two at most, that directly follow three closing ones. -/
def withExtraMarks (mark : Char) (body text : Text) : Text × Text :=
  let extra := (text.take 2).takeWhile (· = mark)
  (body ++ extra, text.drop extra.length)

def lineContinuation? (text : Text) : Option Text :=
  match skipSpaces text with
  | [] => some []
  | '\n' :: text => some (text.dropWhile isSpaceOrNewline)
  | _ => none

def escapedBlock? : (fuel : Nat) → (text done : Text) → Option (Text × Text)
  | 0, _, _ | _, [], _ => none
  | fuel + 1, c :: text, done =>
    if c = doubleMark then
      match Text.after? [doubleMark, doubleMark] text with
      | some text => some (withExtraMarks doubleMark done.reverse text)
      | none => escapedBlock? fuel text (c :: done)
    else if c = '\\' then
      if text.head?.any isSpaceOrNewline then do
        escapedBlock? fuel (← lineContinuation? text) done
      else do
        let (c, text) ← escaped? text
        escapedBlock? fuel text (c :: done)
    else if isForbidden c && c != '\n' then none
    else escapedBlock? fuel text (c :: done)

def plainBlock? : (text done : Text) → Option (Text × Text)
  | [], _ => none
  | c :: text, done =>
    match Text.after? [singleMark, singleMark, singleMark] (c :: text) with
    | some rest => some (withExtraMarks singleMark done.reverse rest)
    | none => if isForbidden c && c != '\n' then none else plainBlock? text (c :: done)

def dropFirstNewline : Text → Text
  | '\n' :: text => text
  | text => text

def quotedLine? : Text → Option (Text × Text)
  | [] => none
  | c :: text =>
    if c = doubleMark then escapedLine? (text.length + 1) text []
    else if c = singleMark then plainLine? text
    else none

def quoted? (text : Text) : Option (Text × Text) :=
  match Text.after? [doubleMark, doubleMark, doubleMark] text with
  | some body => escapedBlock? (body.length + 1) (dropFirstNewline body) []
  | none =>
    match Text.after? [singleMark, singleMark, singleMark] text with
    | some body => plainBlock? (dropFirstNewline body) []
    | none => quotedLine? text

end Specfile.Toml
