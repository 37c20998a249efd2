import Specfile.Session
import Specfile.Proofs.Edit

/-! Sessions of calls. A call that fails before its save leaves a session as it is; one that
succeeds moves the document on, says so in one final notice, and saves unless it only tries. So
the disk holds the text of the latest call that saved, however far tried edits have moved the
document on. A save that fails is another matter: by then the warning has been given, and the disk
holds what the system has left there. -/

set_option autoImplicit false

namespace Specfile.Session

inductive Call where
  | bump (dryRun : Bool)
  | addEntry (request : EntryRequest) (cursor : Option (Int × Int)) (dryRun : Bool)
  deriving DecidableEq, Repr

structure Answer where
  document : Document
  change : Option Release.Change
  deriving DecidableEq, Repr

namespace Call

def dryRun : Call → Bool
  | bump dryRun => dryRun
  | addEntry _ _ dryRun => dryRun

def withDryRun (dryRun : Bool) : Call → Call
  | bump _ => .bump dryRun
  | addEntry request cursor _ => .addEntry request cursor dryRun

def edit (document : Document) : Call → Except Failure (Edit × Answer)
  | bump dryRun => (Edit.bump dryRun document).map fun (edit, change) =>
      (edit, ⟨edit.document, some change⟩)
  | addEntry request cursor dryRun =>
      (Edit.addEntry request cursor dryRun document).map fun edit => (edit, ⟨edit.document, none⟩)

end Call

/-- Makes a call when the system answers its save, if it comes to one, in a certain way. -/
def call (session : Session) (answer : SaveAnswer) : Call → Session × Except Failure Answer
  | .bump dryRun =>
    let (after, result) := session.bump dryRun answer
    (after, result.map fun (document, change) => ⟨document, some change⟩)
  | .addEntry request cursor dryRun =>
    let (after, result) := session.addEntry request cursor dryRun answer
    (after, result.map fun document => ⟨document, none⟩)

theorem call_eq_perform (session : Session) (answer : SaveAnswer) (call : Call) :
    session.call answer call = session.perform (call.edit session.document) answer := by
  cases call with
  | bump dryRun =>
    cases made : Edit.bump dryRun session.document with
    | error failure => simp [Session.call, Session.bump, perform, Call.edit, made]
    | ok made' =>
      rcases applied : session.apply made'.1 answer with ⟨after, fault | _⟩ <;>
        simp [Session.call, Session.bump, perform, Call.edit, made, applied]
  | addEntry request cursor dryRun =>
    cases made : Edit.addEntry request cursor dryRun session.document with
    | error failure => simp [Session.call, Session.addEntry, perform, Call.edit, made]
    | ok edit =>
      rcases applied : session.apply edit answer with ⟨after, fault | _⟩ <;>
        simp [Session.call, Session.addEntry, perform, Call.edit, made, applied]

/-- Whether a call was a bump of a value that begins with no digit, so that it took its number
from the expansion. -/
def Answer.expanded (answer : Answer) : Bool :=
  answer.change.any fun change => !change.oldValue.head?.any Char.isDigit

def Answer.warningStyles (answer : Answer) : List Style :=
  if answer.expanded then [.warning] else []

def finalStyle (dryRun : Bool) : Style := if dryRun then .dim else .success

theorem style_announce (dryRun : Bool) (made tried : Text) :
    (Edit.announce dryRun made tried).style = finalStyle dryRun := by
  cases dryRun <;> rfl

structure Call.Makes (call : Call) (edit : Edit) (answer : Answer) : Prop where
  document : edit.document = answer.document
  saves : edit.saves = !call.dryRun
  warnings : edit.warnings.map Notice.style = answer.warningStyles
  announcement : edit.announcement.style = finalStyle call.dryRun

theorem Call.makes_of_edit {document : Document} {call : Call} {edit : Edit} {answer : Answer}
    (made : call.edit document = .ok (edit, answer)) : call.Makes edit answer := by
  cases call with
  | bump dryRun =>
    simp only [Call.edit, Edit.bump_eq_map, map_eq_ok_iff, Prod.mk.injEq] at made
    obtain ⟨-, ⟨change, planned, rfl⟩, rfl, rfl⟩ := made
    refine ⟨rfl, rfl, ?_, style_announce _ _ _⟩
    -- The edit warns when its number came from the expansion, and that can be told from the old
    -- value.
    change (if change.expanded then [Edit.expansionWarning change] else []).map Notice.style =
      if !change.oldValue.head?.any Char.isDigit then [.warning] else []
    rw [Release.expanded_of_plan planned]
    split <;> rfl
  | addEntry request cursor dryRun =>
    simp only [Call.edit, Edit.addEntry_eq_map, map_eq_ok_iff, Prod.mk.injEq] at made
    obtain ⟨-, ⟨entry, -, rfl⟩, rfl, rfl⟩ := made
    exact ⟨rfl, rfl, rfl, style_announce _ _ _⟩

theorem Call.map_snd_edit_withDryRun (document : Document) (call : Call) (dryRun : Bool) :
    ((call.withDryRun dryRun).edit document).map Prod.snd =
      (call.edit document).map Prod.snd := by
  cases call with
  | bump other =>
    simp only [Call.withDryRun, Call.edit, Edit.bump_eq_map]
    cases Release.plan document.lines <;> rfl
  | addEntry request cursor other =>
    simp only [Call.withDryRun, Call.edit, Edit.addEntry_eq_map]
    cases request.entry document <;> rfl

theorem apply_eq (session : Session) (edit : Edit) (answer : SaveAnswer) :
    session.apply edit answer =
      match edit.outcome answer with
      | (said, some fault) =>
        (⟨session.document, answer.left session.disk edit.document.bytes, session.notices ++ said⟩,
          .error fault)
      | (said, none) =>
        (⟨edit.document, if edit.saves then some edit.document.bytes else session.disk,
          session.notices ++ said⟩, .ok ()) := by
  unfold apply Edit.outcome
  cases edit.saves with
  | false => simp [say, Edit.notices]
  | true => cases answer <;> simp [save, say, SaveAnswer.fault?, SaveAnswer.left, Edit.notices]

/-- How a call goes: it fails before anything has happened, or its save fails, or it is made. -/
inductive Step (now : Session) (answer : SaveAnswer) (call : Call) :
    Session × Except Failure Answer → Prop where
  | failed {failure : Failure} (failed : call.edit now.document = .error failure) :
      Step now answer call (now, .error failure)
  | unsaved {value : Answer} {fault : Fault} {warnings : List Notice} (real : call.dryRun = false)
      (refused : answer.fault? = some fault)
      (given : (call.edit now.document).map Prod.snd = .ok value)
      (warned : warnings.map Notice.style = value.warningStyles) :
      Step now answer call
        (⟨now.document, answer.left now.disk value.document.bytes, now.notices ++ warnings⟩,
          .error (.fault fault))
  | made {value : Answer} {notices : List Notice} (kept : call.dryRun = true ∨ answer.fault? = none)
      (said : notices.map Notice.style = value.warningStyles ++ [finalStyle call.dryRun]) :
      Step now answer call
        (⟨value.document, if call.dryRun then now.disk else some value.document.bytes,
          now.notices ++ notices⟩, .ok value)

theorem step (now : Session) (answer : SaveAnswer) (call : Call) :
    Step now answer call (now.call answer call) := by
  rw [call_eq_perform]
  cases made : call.edit now.document with
  | error failure => exact .failed made
  | ok made' =>
    obtain ⟨edit, value⟩ := made'
    have makes := Call.makes_of_edit made
    have said : edit.notices.map Notice.style =
        value.warningStyles ++ [finalStyle call.dryRun] := by
      simp [Edit.notices, makes.warnings, makes.announcement]
    -- A try and a real call make the same edit; only the real one can still fail.
    cases real : call.dryRun with
    | true =>
      have done : Step now answer call _ := .made (.inl real) said
      simpa [perform, apply_eq, Edit.outcome, makes.saves, makes.document, real] using done
    | false =>
      cases refused : answer.fault? with
      | none =>
        have done : Step now answer call _ := .made (.inr refused) said
        simpa [perform, apply_eq, Edit.outcome, makes.saves, makes.document, real, refused]
          using done
      | some fault =>
        have given : (call.edit now.document).map Prod.snd = .ok value := by rw [made, map_ok]
        have done : Step now answer call _ := .unsaved real refused given makes.warnings
        simpa [perform, apply_eq, Edit.outcome, makes.saves, makes.document, real, refused]
          using done

theorem snd_call {now : Session} {answer : SaveAnswer} {call : Call}
    (kept : call.dryRun = true ∨ answer.fault? = none) :
    (now.call answer call).2 = (call.edit now.document).map Prod.snd := by
  rw [call_eq_perform]
  cases made : call.edit now.document with
  | error failure => rfl
  | ok made' =>
    obtain ⟨edit, value⟩ := made'
    have makes := Call.makes_of_edit made
    rcases kept with tried | stored
    · simp [perform, apply_eq, Edit.outcome, makes.saves, tried]
    · simp [perform, apply_eq, Edit.outcome, stored]

/-- Makes calls one after another, each with the answer to its save. The log has what each of them
gave back. -/
def callAll (session : Session) :
    List (Call × SaveAnswer) → Session × List (Call × Except Failure Answer)
  | [] => (session, [])
  | (call, answer) :: calls =>
    let (next, result) := session.call answer call
    let (last, log) := next.callAll calls
    (last, (call, result) :: log)

def saved? : Call × Except Failure Answer → Option Document
  | (_, .error _) => none
  | (call, .ok value) => if call.dryRun then none else some value.document

/-- The system leaves no file half written. -/
def IsWhole (answer : SaveAnswer) : Prop := ∀ fault left, answer ≠ .torn fault left

theorem disk_call (now : Session) {answer : SaveAnswer} (whole : IsWhole answer) (call : Call) :
    (now.call answer call).1.disk =
      ((saved? (call, (now.call answer call).2)).map Document.bytes).or now.disk := by
  generalize outcome : now.call answer call = result
  have step := outcome ▸ step now answer call
  cases step with
  | failed => rfl
  | unsaved real refused =>
    cases answer with
    | stored => cases refused
    | refused fault => rfl
    | torn fault left => exact absurd rfl (whole fault left)
  | made => cases dryRun : call.dryRun <;> simp [saved?, dryRun]

/-- Invariant of a run: the disk holds what the latest call that saved wrote. -/
theorem disk_callAll (session : Session) (calls : List (Call × SaveAnswer))
    (whole : ∀ made ∈ calls, IsWhole made.2) :
    (session.callAll calls).1.disk =
      (((session.callAll calls).2.filterMap saved?).getLast?.map Document.bytes).or
        session.disk := by
  -- What the rest of the calls saves comes later than what the first one does.
  induction calls generalizing session with
  | nil => rfl
  | cons made calls ih =>
    obtain ⟨call, answer⟩ := made
    obtain ⟨first, rest⟩ := List.forall_mem_cons.1 whole
    simp only [callAll, ih _ rest, disk_call session first call, List.filterMap_cons]
    cases saved? (call, (session.call answer call).2) with
    | none => rfl
    | some document =>
      cases ((session.call answer call).1.callAll calls).2.filterMap saved? <;>
        simp [List.getLast?_cons]

/-- After any calls whose saves leave no file half written the disk holds the text of the latest one
that saved. A further call that succeeds makes its document the one at hand and says so in one
final notice, after a warning of an expansion; what it gives back is the same tried or made. One
that fails leaves everything as it is, unless its save is what fails: then it has warned, and the
disk holds what the system left there. -/
theorem callAll_inStep (start : Session) (calls : List (Call × SaveAnswer)) :
    let (now, log) := start.callAll calls
    ((∀ made ∈ calls, IsWhole made.2) →
      now.disk = ((log.filterMap saved?).getLast?.map Document.bytes).or start.disk) ∧
    ∀ (answer : SaveAnswer) (call : Call),
      (match now.call answer call with
      | (after, .ok value) =>
        after.document = value.document ∧
          after.disk = (if call.dryRun then now.disk else some value.document.bytes) ∧
          ∃ added, after.notices = now.notices ++ added ∧
            added.map Notice.style = value.warningStyles ++ [finalStyle call.dryRun]
      | (after, .error failure) =>
        after = now ∨ call.dryRun = false ∧ ∃ fault value added,
          answer.fault? = some fault ∧ failure = .fault fault ∧
          (now.call answer (call.withDryRun true)).2 = .ok value ∧
          after = ⟨now.document, answer.left now.disk value.document.bytes, now.notices ++ added⟩ ∧
          added.map Notice.style = value.warningStyles) ∧
      (answer.fault? = none → ∀ dryRun,
        (now.call answer (call.withDryRun dryRun)).2 = (now.call answer call).2) := by
  refine ⟨disk_callAll start calls, fun answer call => ⟨?_, fun stored dryRun => ?_⟩⟩
  · generalize outcome : (start.callAll calls).1.call answer call = result
    have step := outcome ▸ step (start.callAll calls).1 answer call
    cases step with
    | failed => exact .inl rfl
    | unsaved real refused given warned =>
      -- The value that a failed save kept back is what a try of the call gives.
      have tried : (call.withDryRun true).dryRun = true := by cases call <;> rfl
      refine .inr ⟨real, _, _, _, refused, rfl, ?_, rfl, warned⟩
      rw [snd_call (.inl tried), Call.map_snd_edit_withDryRun, given]
    | made kept said => exact ⟨rfl, rfl, _, rfl, said⟩
  · rw [snd_call (.inr stored), snd_call (.inr stored), Call.map_snd_edit_withDryRun]

def expandedDocument : Document :=
  ⟨.ofText "a.spec".toList, "%global r 4\nVersion: 1\nRelease: %\x7br\x7d\n".toList⟩

/-- Two calls whose saves fail. The one has warned by then; the other, whose message cannot be
encoded, has emptied the file. -/
theorem call_failingSave_changes :
    let now : Session := ⟨expandedDocument, some expandedDocument.bytes, []⟩
    let denied := Fault.system .accessDenied (some expandedDocument.path)
    let unencodable := Fault.unencodable "surrogates not allowed".toList
    let request : EntryRequest := ⟨.configured ⟨"Jane".toList, "j@x".toList⟩, ⟨2025, 3, 10⟩, none⟩
    now.call (.refused denied) (.bump false) =
        ({ now with notices :=
            [.warning "'%\x7br\x7d' has no leading number; replaced by its expansion".toList] },
          .error (.fault denied)) ∧
      now.call (.torn unencodable []) (.addEntry request none false) =
        ({ now with disk := some [] }, .error (.fault unencodable)) := by
  decide +kernel

-- A bump that is only tried moves the document on, so the next one saves the number after.
example :
    let document := { path := Path.ofText "a.spec".toList, text := "Release: 1".toList }
    let stored (calls : List Call) := calls.map fun call => (call, SaveAnswer.stored)
    let now := ((start document).callAll (stored [.bump true, .bump false, .bump true])).1
    now.disk = some (Utf8.encode "Release: 3".toList) ∧
      now.document.text = "Release: 4".toList := by
  decide +kernel

end Specfile.Session
