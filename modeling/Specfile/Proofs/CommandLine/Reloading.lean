import Specfile.Proofs.CommandLine.Bumping
import Specfile.Proofs.Entry
import Specfile.Session

/-! What is loaded after a save. A loaded text holds no carriage return, and a text without them is
loaded as it was saved. No edit brings one in but an entry whose packager or message holds one; so
the document that a run saves is, but for such entries, the one that the next run loads. -/

set_option autoImplicit false

namespace Specfile

structure EntryRequest.Lacks (request : EntryRequest) (c : Char) : Prop where
  message : c ∉ request.message.getD []
  identity : ∀ identity, request.packager.identity = .ok identity →
    c ∉ identity.name ∧ c ∉ identity.email

theorem EntryRequest.carriageReturn_notMem_entry {request : EntryRequest} {document : Document}
    {entry : Text} (made : request.entry document = .ok entry) (plain : '\r' ∉ document.text)
    (lacks : request.Lacks '\r') : '\r' ∉ entry := by
  obtain ⟨identity, generated, known, given, rfl⟩ := entry_eq_ok_iff.1 made
  obtain ⟨-, rfl⟩ := Entry.generate_eq_ok_iff.1 given
  obtain ⟨name, email⟩ := lacks.identity identity known
  have date : '\r' ∉ request.today.text := fun member => by simpa using Date.mem_text member
  have evr : '\r' ∉ Entry.evr (.ofLines document.text.lines) (.ofLines document.text.lines) := by
    intro member
    -- Tags and macro values are parts of lines of the document.
    rcases Entry.mem_evr member with dash | colon | ⟨line, inLines, inside⟩
    · cases dash
    · cases colon
    · exact plain (Text.subset_of_mem_lines inLines inside)
  rw [Entry.render_eq]
  simp [Entry.heading, date, name, email, evr, lacks.message]

theorem Session.reload_save {session : Session} (plain : '\r' ∉ session.document.text) :
    let saved := session.save session.document .stored
    saved.2 = .ok () ∧ saved.1.reload = (saved.1, .ok ()) := by
  refine ⟨rfl, ?_⟩
  simp only [reload, save, SaveAnswer.left, session.document.ofRead_bytes_of_notMem plain]

namespace CommandLine

/-- Nothing that a command takes into the document from outside has the character. -/
def Command.Lacks (toolkit : Toolkit) (world : World) (c : Char) : Command → Prop
  | .changelog _ options => ∀ config, world.config toolkit options.config = .ok config →
      (world.entryRequest config options).Lacks c
  | _ => True

namespace Command.Makes

variable {toolkit : Toolkit} {world : World} {command : Command} {edit : Edit}
  (made : command.Makes toolkit world edit)
include made

theorem loaded {path : Path} (saves : command.saves? = some path) :
    edit.document.path = path ∧ ∃ document, world.document path = .ok document := by
  cases made with
  | bump loaded bumped =>
    obtain ⟨-, rfl⟩ := Edit.bump_eq_ok_iff.1 bumped
    cases (Option.ite_none_left_eq_some.1 saves).2
    have samePath := World.path_of_document loaded
    exact ⟨samePath, _, loaded⟩
  | changelog configured loaded added =>
    obtain ⟨entry, -, rfl⟩ := Edit.addEntry_eq_ok_iff.1 added
    cases (Option.ite_none_left_eq_some.1 saves).2
    exact ⟨(Edit.path_document_ofEntry _ _ _ _).trans (World.path_of_document loaded), _, loaded⟩

theorem carriageReturn_notMem (lacks : command.Lacks toolkit world '\r') :
    '\r' ∉ edit.document.text := by
  intro member
  cases made with
  | bump loaded bumped =>
    rcases Edit.mem_text_bump bumped member with old | sign | digit
    · exact Document.carriageReturn_notMem_of_ofRead loaded old
    · cases sign
    · cases digit
  | changelog configured loaded added =>
    have plain := Document.carriageReturn_notMem_of_ofRead loaded
    obtain ⟨entry, given, rfl⟩ := Edit.addEntry_eq_ok_iff.1 added
    rcases Edit.mem_text_ofEntry member with newline | header | old | new
    · cases newline
    · -- The header that a text without the section gets.
      revert header
      decide
    · exact plain old
    · exact EntryRequest.carriageReturn_notMem_entry given plain (lacks _ configured) new

end Command.Makes

theorem Invocation.read_runOn {toolkit : Toolkit} {invocation : Invocation} {tree : FileTree}
    {path : Path} (wanted : invocation.saves? toolkit = some path)
    (succeeded : (invocation.runOn toolkit tree).1.ending = .exit 0) :
    ∃ command edit, toolkit.readCommand invocation.arguments = .ok command ∧
      command.Makes toolkit (invocation.world tree) edit ∧ edit.document.path = path ∧
      (invocation.runOn toolkit tree).2.read path = .ok edit.document.bytes := by
  have leaves := invocation.leaves_runOn toolkit tree
  obtain ⟨command, place, edit, named, made, leads, written, -⟩ :=
    leaves.saved path wanted succeeded
  have saves : command.saves? = some path := by
    simpa [saves?, named, Except.toOption] using wanted
  obtain ⟨samePath, document, loaded⟩ := made.loaded saves
  obtain ⟨bytes, -, read, -, -⟩ := Document.ofRead_eq_ok_iff.1 loaded
  -- The write moves no file, so the path leads where it led when the document was loaded.
  refine ⟨command, edit, named, made, samePath, FileTree.read_eq_ok_iff.2
    ⟨(FileTree.read_eq_ok_iff.1 read).1, place, ?_, written, ?_⟩⟩
  · exact (leaves.shape.resolve path).trans leads
  · exact (leaves.shape.ban? .read place).trans (FileTree.readable_of_read read place leads)

/-- What is loaded holds no carriage return, and what is saved without one is loaded again as it
was: by a session, and from a file of a tree, a new one too. So a document that was loaded and
saved stays the same. After a run that saved its edit the next load gives the text of that edit,
its line endings made one; it has only one kind, unless a new entry names someone or carries a
message with a carriage return. -/
theorem load_after_save (toolkit : Toolkit) (tree : FileTree) (path : Path) :
    let load (tree : FileTree) := Document.ofRead path (tree.read path)
    (∀ result document, Document.ofRead path result = .ok document → '\r' ∉ document.text) ∧
      (∀ session : Session, '\r' ∉ session.document.text →
        let saved := session.save session.document .stored
        saved.2 = .ok () ∧ saved.1.reload = (saved.1, .ok ())) ∧
      (∀ text after, '\r' ∉ text → tree.write path (Utf8.encode text) = .ok after →
        (∀ place, tree.resolve path = .ok place → tree.ban? .read place = none) →
        load after = .ok ⟨path, text⟩) ∧
      (∀ document after, load tree = .ok document → tree.write path document.bytes = .ok after →
        load after = .ok document) ∧
      (∀ invocation : Invocation, invocation.saves? toolkit = some path →
        (invocation.runOn toolkit tree).1.ending = .exit 0 →
        ∃ command edit, toolkit.readCommand invocation.arguments = .ok command ∧
          command.Makes toolkit (invocation.world tree) edit ∧
          load (invocation.runOn toolkit tree).2 =
            .ok { edit.document with text := edit.document.text.unifyNewlines } ∧
          (command.Lacks toolkit (invocation.world tree) '\r' →
            load (invocation.runOn toolkit tree).2 = .ok edit.document)) := by
  intro load
  refine ⟨fun _ _ => Document.carriageReturn_notMem_of_ofRead, fun _ => Session.reload_save,
    fun text after plain written readable => ?_, fun document after loaded written => ?_,
    fun invocation wanted succeeded => ?_⟩
  · let saved : Document := ⟨path, text⟩
    simp only [load, FileTree.read_write written readable]
    exact saved.ofRead_bytes_of_notMem plain
  -- What was loaded has no carriage return, so it comes back as it was saved.
  · obtain ⟨old, -, held, -, -⟩ := Document.ofRead_eq_ok_iff.1 loaded
    cases Document.path_of_ofRead loaded
    simp only [load, FileTree.read_write written (FileTree.readable_of_read held)]
    exact document.ofRead_bytes_of_notMem (Document.carriageReturn_notMem_of_ofRead loaded)
  · obtain ⟨command, edit, named, made, rfl, read⟩ := invocation.read_runOn wanted succeeded
    simp only [load, read]
    exact ⟨command, edit, named, made, edit.document.ofRead_bytes,
      fun lacks => edit.document.ofRead_bytes_of_notMem (made.carriageReturn_notMem lacks)⟩

theorem load_after_save_carriageReturnText :
    let path := Path.ofText "a.spec".toList
    let run := bumpCall.runOn Plain.toolkit (treeOf carriageReturnText)
    bumpCall.saves? Plain.toolkit = some path ∧ run.1.ending = .exit 0 ∧
      Document.ofRead path (run.2.read path) =
        .ok ⟨path, "Release: 2\nName: x\n".toList⟩ := by
  intro path run
  have wanted : bumpCall.saves? Plain.toolkit = some path := by decide +kernel
  have succeeded : run.1.ending = .exit 0 := by decide +kernel
  obtain ⟨-, -, -, -, onRuns⟩ := load_after_save Plain.toolkit (treeOf carriageReturnText) path
  obtain ⟨command, edit, named, made, -, loads⟩ := onRuns bumpCall wanted succeeded
  have bump : Plain.toolkit.readCommand bumpCall.arguments = .ok (.bump path false) := by
    decide +kernel
  cases bump.symm.trans named
  refine ⟨wanted, succeeded, (loads trivial).trans (congrArg Except.ok ?_)⟩
  cases made with
  | bump loaded bumped =>
    have before : (bumpCall.world (treeOf carriageReturnText)).document path =
        .ok ⟨path, "Release: 1\nName: x\n".toList⟩ := by
      decide +kernel
    cases before.symm.trans loaded
    have raised : (Edit.bump false ⟨path, "Release: 1\nName: x\n".toList⟩).toOption.map
        (fun made => made.1.document) = some ⟨path, "Release: 2\nName: x\n".toList⟩ := by
      decide +kernel
    rw [bumped] at raised
    exact Option.some.inj raised

end CommandLine

end Specfile
