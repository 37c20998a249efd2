import Specfile.Text.Numeral

/-! Values of a TOML file. Texts, lists and tables are kept; numbers, truth values, dates
and times are known only as scalars. -/

set_option autoImplicit false

namespace Specfile.Toml

inductive Value where
  | text (text : Text)
  | scalar
  | list (items : List Value)
  | table (entries : List (Text × Value))
  deriving Inhabited

abbrev Table := List (Text × Value)

namespace Table

def get? (table : Table) (key : Text) : Option Value := List.lookup key table

def replace (table : Table) (key : Text) (value : Value) : Table :=
  table.map fun entry => if entry.1 = key then (key, value) else entry

/-- Changes the table that keys lead to. Missing tables on the way are made; where the way
leads through lists, it goes on in their last item, and it ends at anything else. -/
def change? (throughLists : Bool) (update : Table → Option Table) :
    List Text → Table → Option Table
  | [], table => update table
  | key :: keys, table =>
    match table.get? key with
    | none => do
      let nested ← change? throughLists update keys []
      pure (table ++ [(key, .table nested)])
    | some (.table nested) => do
      let nested ← change? throughLists update keys nested
      pure (table.replace key (.table nested))
    | some (.list items) =>
      match throughLists, items.getLast? with
      | true, some (.table nested) => do
        let nested ← change? throughLists update keys nested
        pure (table.replace key (.list (items.dropLast ++ [.table nested])))
      | _, _ => none
    | some _ => none

def add? (key : Text) (value : Value) (table : Table) : Option Table :=
  match table.get? key with
  | none => some (table ++ [(key, value)])
  | some _ => none

def addItem? (key : Text) (table : Table) : Option Table :=
  match table.get? key with
  | none => some (table ++ [(key, .list [.table []])])
  | some (.list items) => some (table.replace key (.list (items ++ [.table []])))
  | some _ => none

end Table

inductive Refusal where
  | malformed
  | numeral (fault : NumeralFault)
  deriving DecidableEq, Repr

/-- A reader takes a value off the front of a text and leaves the rest. -/
abbrev Reader (α : Type) := Text → Except Refusal (α × Text)

def orMalformed {α : Type} : Option α → Except Refusal α
  | none => .error .malformed
  | some value => .ok value

end Specfile.Toml
