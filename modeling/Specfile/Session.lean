import Specfile.Edit

/-! Sessions of edits on one document: the document at hand, what its path holds on disk, and the
notices given so far. A call of an edit gives back the updated document, which is the one at hand
from then on. A call that fails leaves the document as it is. If a save is what fails, the
warnings have been given by then, and the disk is as the system has left it. -/

set_option autoImplicit false

namespace Specfile

structure Session where
  document : Document
  disk : Option Bytes
  notices : List Notice
  deriving DecidableEq, Repr

namespace Session

def start (document : Document) : Session := ⟨document, none, []⟩

def save (document : Document) (answer : SaveAnswer) (session : Session) :
    Session × Except Fault Unit :=
  ({ session with disk := answer.left session.disk document.bytes },
    match answer.fault? with
    | none => .ok ()
    | some fault => .error fault)

def say (notices : List Notice) (session : Session) : Session :=
  { session with notices := session.notices ++ notices }

/-- Warns, saves if the edit is to be saved, and announces the edit. -/
def apply (edit : Edit) (answer : SaveAnswer) (session : Session) : Session × Except Fault Unit :=
  let warned := session.say edit.warnings
  let (saved, result) := if edit.saves then warned.save edit.document answer else (warned, .ok ())
  match result with
  | .error fault => (saved, .error fault)
  | .ok () => ({ saved.say [edit.announcement] with document := edit.document }, .ok ())

def perform {α : Type} (made : Except Failure (Edit × α)) (answer : SaveAnswer)
    (session : Session) : Session × Except Failure α :=
  match made with
  | .error failure => (session, .error failure)
  | .ok (edit, value) =>
    let (after, result) := session.apply edit answer
    (after, (result.mapError .fault).map fun () => value)

def bump (dryRun : Bool) (answer : SaveAnswer) (session : Session) :
    Session × Except Failure (Document × Release.Change) :=
  let made := (Edit.bump dryRun session.document).map fun (edit, change) =>
    (edit, edit.document, change)
  session.perform made answer

def addEntry (request : EntryRequest) (cursor : Option (Int × Int)) (dryRun : Bool)
    (answer : SaveAnswer) (session : Session) : Session × Except Failure Document :=
  let made := (Edit.addEntry request cursor dryRun session.document).map fun edit =>
    (edit, edit.document)
  session.perform made answer

def reload (session : Session) : Session × Except Failure Unit :=
  let path := session.document.path
  let result := match session.disk with
    | none => .error (.system .notFound (some path))
    | some bytes => .ok bytes
  match Document.ofRead path result with
  | .error failure => (session, .error failure)
  | .ok document => ({ session with document }, .ok ())

end Session

end Specfile
