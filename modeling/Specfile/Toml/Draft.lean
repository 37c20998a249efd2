import Specfile.Toml.Value

/-! A TOML file under construction. Beside the table read so far it keeps which tables may
not be opened by a header again and which parts may not be extended at all. -/

set_option autoImplicit false

namespace Specfile.Toml

abbrev Key := List Text

structure Draft where
  table : Table := []
  header : Key := []
  /-- Tables that no header may open, and no dotted key may pass. -/
  closed : List Key := []
  /-- Tables that become closed at the next header. -/
  pending : List Key := []
  /-- Written out lists and tables, which stay as they are with all below them. -/
  frozen : List Key := []

namespace Draft

def isFrozen (draft : Draft) (key : Key) : Bool := draft.frozen.any (·.isPrefixOf key)

def closePending (draft : Draft) : Draft :=
  { draft with closed := draft.pending ++ draft.closed, pending := [] }

def openTable? (draft : Draft) (key : Key) : Option Draft :=
  if draft.closed.contains key || draft.isFrozen key then none
  else do
    let table ← draft.table.change? true some key
    pure { draft with table, header := key, closed := key :: draft.closed }

/-- Opens a new last table of a list of tables; what was known of the one before it is
forgotten. -/
def openItem? (draft : Draft) (key : Key) : Option Draft :=
  if draft.isFrozen key then none
  else do
    let last ← key.getLast?
    let table ← draft.table.change? true (Table.addItem? last) key.dropLast
    let elsewhere := (!key.isPrefixOf ·)
    pure { draft with
      table, header := key
      closed := key :: draft.closed.filter elsewhere
      frozen := draft.frozen.filter elsewhere }

def set? (draft : Draft) (key : Key) (value : Value) : Option Draft :=
  let passed := (List.range' 1 (key.length - 1)).map fun count => draft.header ++ key.take count
  let parent := draft.header ++ key.dropLast
  if passed.any draft.closed.contains || draft.isFrozen parent then none
  else do
    let last ← key.getLast?
    let table ← draft.table.change? true (Table.add? last value) parent
    let frozen := match value with
      | .list _ | .table _ => (draft.header ++ key) :: draft.frozen
      | _ => draft.frozen
    pure { draft with table, pending := passed ++ draft.pending, frozen }

end Draft

structure InlineDraft where
  table : Table := []
  frozen : List Key := []

def InlineDraft.set? (draft : InlineDraft) (key : Key) (value : Value) : Option InlineDraft :=
  if draft.frozen.any (·.isPrefixOf key) then none
  else do
    let last ← key.getLast?
    let table ← draft.table.change? false (Table.add? last value) key.dropLast
    let frozen := match value with
      | .list _ | .table _ => key :: draft.frozen
      | _ => draft.frozen
    pure { table, frozen }

end Specfile.Toml
