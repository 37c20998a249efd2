import Specfile.Proofs.Document.Placement
import Specfile.Proofs.Release.Change

/-! When an edit succeeds and what it is made of then. A bump succeeds when it can be planned and
a new entry when its text can be made up; whether the edit is only tried has no part in that. -/

set_option autoImplicit false

namespace Specfile.Edit

theorem bump_eq_map (dryRun : Bool) (document : Document) :
    bump dryRun document =
      (Release.plan document.lines).map fun change => (ofChange dryRun document change, change) := by
  cases planned : Release.plan document.lines with
  | error failure => simp [bump, planned]
  | ok change => exact bump_eq_ok_iff.2 ⟨planned, rfl⟩

def ofEntry (cursor : Option (Int × Int)) (dryRun : Bool) (document : Document) (entry : Text) :
    Edit where
  document := match cursor with
    | none => document.addEntry entry
    | some (line, column) => document.insert line column entry
  saves := !dryRun
  announcement := announce dryRun ("Changelog generated: ".toList ++ Entry.header entry)
    ("would add: ".toList ++ Entry.header entry)

theorem addEntry_eq_map (request : EntryRequest) (cursor : Option (Int × Int)) (dryRun : Bool)
    (document : Document) :
    addEntry request cursor dryRun document =
      (request.entry document).map (ofEntry cursor dryRun document) := by
  cases made : request.entry document with
  | error problem => simp [addEntry, made]
  | ok entry =>
    simp only [addEntry, made, ok_bind, map_ok]
    rfl

theorem addEntry_eq_ok_iff {request : EntryRequest} {cursor : Option (Int × Int)} {dryRun : Bool}
    {document : Document} {edit : Edit} :
    addEntry request cursor dryRun document = .ok edit ↔
      ∃ entry, request.entry document = .ok entry ∧
        edit = ofEntry cursor dryRun document entry := by
  simp only [addEntry_eq_map, map_eq_ok_iff, eq_comm (b := edit)]

theorem path_document_ofEntry (cursor : Option (Int × Int)) (dryRun : Bool) (document : Document)
    (entry : Text) : (ofEntry cursor dryRun document entry).document.path = document.path := by
  rcases cursor with _ | ⟨line, column⟩
  · simp only [ofEntry, Document.addEntry_eq]
    rfl
  · rfl

theorem mem_text_ofEntry {cursor : Option (Int × Int)} {dryRun : Bool} {document : Document}
    {entry : Text} {c : Char} (member : c ∈ (ofEntry cursor dryRun document entry).document.text) :
    c = '\n' ∨ c ∈ "%changelog".toList ∨ c ∈ document.text ∨ c ∈ entry := by
  rcases cursor with _ | ⟨line, column⟩
  · exact Document.mem_text_addEntry member
  · exact (Document.mem_text_insert member).imp_right .inr

end Specfile.Edit
