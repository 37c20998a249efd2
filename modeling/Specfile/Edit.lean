import Specfile.Document
import Specfile.Notice
import Specfile.Packager
import Specfile.Release.Bump

/-! The two edits of a document: a release bump and a new entry. An edit gives the updated
document, warnings, whether the document is to be saved, and what is announced when it is made. A
dry run differs in the last two only. -/

set_option autoImplicit false

namespace Specfile

structure Edit where
  document : Document
  warnings : List Notice := []
  saves : Bool
  announcement : Notice
  deriving DecidableEq, Repr

namespace Edit

def notices (edit : Edit) : List Notice := edit.warnings ++ [edit.announcement]

/-- What is said of an edit, and the fault at which it breaks off. The warnings come before the
save, and the announcement comes after it. -/
def outcome (edit : Edit) (answer : SaveAnswer) : List Notice × Option Fault :=
  match edit.saves, answer.fault? with
  | true, some fault => (edit.warnings, some fault)
  | _, _ => (edit.notices, none)

def announce (dryRun : Bool) (made tried : Text) : Notice :=
  if dryRun then .note .dim tried else .success made

def expansionWarning (change : Release.Change) : Notice :=
  .warning ('\x27' :: change.oldValue
    ++ "' has no leading number; replaced by its expansion".toList)

def bump (dryRun : Bool) (document : Document) : Except Failure (Edit × Release.Change) := do
  let change ← Release.plan document.lines
  let updated ← (document.replaceLine change.index change.newLine).mapError .fault
  let made := "Release bumped: ".toList ++ change.oldValue ++ " -> ".toList ++ change.newValue
  let tried := "would bump ".toList ++ change.summary
  pure ({
    document := updated
    warnings := if change.expanded then [expansionWarning change] else []
    saves := !dryRun
    announcement := announce dryRun made tried }, change)

end Edit

structure EntryRequest where
  packager : Packager
  today : Date
  message : Option Text
  deriving DecidableEq, Repr

/-- The entry for a document: the tags are checked first, then the identity is fetched. -/
def EntryRequest.entry (request : EntryRequest) (document : Document) : Except Failure Text := do
  let tags ← (Entry.requireTags document.lines).mapError .problem
  let identity ← request.packager.identity
  let evr := Entry.evr (.ofLines document.lines) tags
  pure (Entry.render evr request.today.text identity ++ request.message.getD [])

def Edit.addEntry (request : EntryRequest) (cursor : Option (Int × Int)) (dryRun : Bool)
    (document : Document) : Except Failure Edit := do
  let entry ← request.entry document
  let updated := match cursor with
    | none => document.addEntry entry
    | some (line, column) => document.insert line column entry
  let header := Entry.header entry
  let made := "Changelog generated: ".toList ++ header
  let tried := "would add: ".toList ++ header
  pure { document := updated, saves := !dryRun, announcement := announce dryRun made tried }

end Specfile
