import Specfile.Data
import Specfile.Toml.Draft
import Specfile.Toml.Quoted
import Specfile.Toml.Scalar

/-! Reading a TOML file statement by statement. Every nested value and every statement
takes at least one character, so the length of the text is fuel enough. -/

set_option autoImplicit false

namespace Specfile.Toml

def isBareKeyChar (c : Char) : Bool := c.isAlphanum || c = '-' || c = '_'

def keyPart? (text : Text) : Option (Text × Text) :=
  if text.head?.any isBareKeyChar then
    some (text.takeWhile isBareKeyChar, text.dropWhile isBareKeyChar)
  else quotedLine? text

def key? : (fuel : Nat) → Text → Option (Key × Text)
  | 0, _ => none
  | fuel + 1, text => do
    let (part, text) ← keyPart? text
    match skipSpaces text with
    | '.' :: text => do
      let (parts, text) ← key? fuel (skipSpaces text)
      pure (part :: parts, text)
    | text => pure ([part], text)

def key : Reader Key := fun text => orMalformed (key? (text.length + 1) text)

def keyOfPair : Reader Key := fun text => do
  let (key, text) ← key text
  let text ← orMalformed (Text.after? ['='] text)
  pure (key, skipSpaces text)

mutual

def value : (fuel : Nat) → Reader Value
  | 0, _ => .error .malformed
  | fuel + 1, text =>
    match text with
    | '[' :: text => do
      let text ← orMalformed (skipFiller? text)
      let (items, text) ← items fuel text
      pure (.list items, text)
    | '\x7b' :: text =>
      match skipSpaces text with
      | '\x7d' :: text => pure (.table [], text)
      | text => do
        let (table, text) ← pairs fuel {} text
        pure (.table table, text)
    | c :: rest =>
      if c = doubleMark ∨ c = singleMark then do
        let (quoted, text) ← orMalformed (quoted? (c :: rest))
        pure (.text quoted, text)
      else (scalar (c :: rest)).map fun (_, text) => (.scalar, text)
    | [] => .error .malformed

def items : (fuel : Nat) → Reader (List Value)
  | 0, _ => .error .malformed
  | _ + 1, ']' :: text => pure ([], text)
  | fuel + 1, text => do
    let (first, text) ← value fuel text
    match ← orMalformed (skipFiller? text) with
    | ']' :: text => pure ([first], text)
    | ',' :: text => do
      let (rest, text) ← items fuel (← orMalformed (skipFiller? text))
      pure (first :: rest, text)
    | _ => .error .malformed

def pairs : (fuel : Nat) → InlineDraft → Reader Table
  | 0, _, _ => .error .malformed
  | fuel + 1, draft, text => do
    let (key, text) ← keyOfPair text
    let (value, text) ← value fuel text
    let draft ← orMalformed (draft.set? key value)
    match skipSpaces text with
    | '\x7d' :: text => pure (draft.table, text)
    | ',' :: text => pairs fuel draft (skipSpaces text)
    | _ => .error .malformed

end

def header (closing : Text) (update : Key → Option Draft) : Reader Draft := fun text => do
  let (key, text) ← key (skipSpaces text)
  let draft ← orMalformed (update key)
  let text ← orMalformed (Text.after? closing text)
  pure (draft, text)

def statement (draft : Draft) : Reader Draft
  | '[' :: '[' :: text => header [']', ']'] draft.closePending.openItem? text
  | '[' :: text => header [']'] draft.closePending.openTable? text
  | text => do
    let (key, text) ← keyOfPair text
    let (value, text) ← value (text.length + 1) text
    let draft ← orMalformed (draft.set? key value)
    pure (draft, text)

/-- Reads statements, each in a line of its own, with comments and empty lines between. -/
def statements : (fuel : Nat) → Draft → Text → Except Refusal Table
  | 0, _, _ => .error .malformed
  | fuel + 1, draft, text => do
    let text := skipSpaces text
    let (draft, text) ← match text with
      | [] | '\n' :: _ | '#' :: _ => pure (draft, text)
      | _ => statement draft text
    match ← orMalformed (skipComment? (skipSpaces text)) with
    | [] => pure draft.table
    | '\n' :: text => statements fuel draft text
    | _ => .error .malformed

def read (text : Text) : Except Refusal Table :=
  let text := unifyLineEnds text
  statements (text.length + 1) {} text

mutual

def Value.data : Value → Data
  | .text text => .text text
  | .scalar | .list _ => .other
  | .table entries => .mapping (mapping entries)

def mapping : List (Text × Value) → Mapping
  | [] => []
  | (key, value) :: entries => (some key, value.data) :: mapping entries

end

def readData : Data.Reader := fun text =>
  match read text with
  | .ok table => .ok (mapping table)
  | .error .malformed => .error (.malformed [])
  | .error (.numeral fault) => .error (.broken (.numeral fault))

end Specfile.Toml
