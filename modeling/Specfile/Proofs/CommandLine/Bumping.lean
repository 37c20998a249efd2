import Specfile.Proofs.CommandLine.Saving

/-! What a bump leaves of a file. The text with its line endings made one is kept around the value
of the release line, and the new value takes the place of the old one. So in a file without
carriage returns nothing but the value changes; those of a file that has some are lost. -/

set_option autoImplicit false

namespace Specfile.CommandLine

/-- A bump of a file keeps all of its text, with the line endings made one, but the value of the
release line. In a file without carriage returns it keeps all other bytes. -/
theorem Invocation.runOn_bump {toolkit : Toolkit} {invocation : Invocation} {tree : FileTree}
    {path : Path} (named : toolkit.readCommand invocation.arguments = .ok (.bump path false))
    (succeeded : (invocation.runOn toolkit tree).1.ending = .exit 0) :
    ∃ place bytes text line change,
      tree.resolve path = .ok place ∧ tree.file? place = some bytes ∧
      Utf8.decode bytes = .ok text ∧
      let lines := text.unifyNewlines.lines
      Release.Line.first? lines = some line ∧ Release.plan lines = .ok change ∧
      change.oldValue = line.value ∧
      text.unifyNewlines = line.front lines ++ (change.oldValue ++ line.back lines) ∧
      (invocation.runOn toolkit tree).2.file? place =
        some (Utf8.encode (line.front lines)
          ++ (Utf8.encode change.newValue ++ Utf8.encode (line.back lines))) ∧
      ('\r' ∉ text → bytes = Utf8.encode (line.front lines)
        ++ (Utf8.encode change.oldValue ++ Utf8.encode (line.back lines))) := by
  have wanted : invocation.saves? toolkit = some path := by
    simp [saves?, named, Except.toOption, Command.saves?]
  obtain ⟨command, place, edit, named', made, leads, written, -⟩ :=
    (invocation.leaves_runOn toolkit tree).saved path wanted succeeded
  cases named'.symm.trans named
  cases made with
  | bump loaded made =>
    rename_i document change
    obtain ⟨bytes, text, read, decoded, rfl⟩ := Document.ofRead_eq_ok_iff.1 loaded
    obtain ⟨-, place', leads', held, -⟩ := FileTree.read_eq_ok_iff.1 read
    -- The path led to the file when it was loaded, and it still does.
    cases leads'.symm.trans leads
    obtain ⟨line, first, old, before, after⟩ := Edit.text_bump made
    refine ⟨place, bytes, text, line, change, leads, held, decoded, first,
      (Edit.bump_eq_ok_iff.1 made).1, old, before, ?_, fun plain => ?_⟩
    · rw [written, after, Utf8.encode_append, Utf8.encode_append]
      rfl
    · rw [← Utf8.encode_append, ← Utf8.encode_append]
      exact (Document.bytes_of_decode decoded plain path).symm.trans (congrArg Utf8.encode before)

def bumpCall : Invocation where
  arguments := ["bump".toList, "a.spec".toList]
  home := some []
  git := ⟨.notStarted [], .notStarted []⟩
  today := ⟨2025, 3, 10⟩

def treeOf (text : Text) : FileTree := { files := [(["a.spec".toList], Utf8.encode text)] }

def spacedText : Text := "# ü\nrelease :\t09 \n%".toList

theorem runOn_bump_spacedText :
    (bumpCall.runOn Plain.toolkit (treeOf spacedText)).1.ending = .exit 0 ∧
      ∃ place front back,
        (treeOf spacedText).file? place = some (front ++ (Utf8.encode "09".toList ++ back)) ∧
        (bumpCall.runOn Plain.toolkit (treeOf spacedText)).2.file? place =
          some (front ++ (Utf8.encode "10".toList ++ back)) := by
  have named : Plain.toolkit.readCommand bumpCall.arguments =
      .ok (.bump (.ofText "a.spec".toList) false) := by
    decide +kernel
  have succeeded : (bumpCall.runOn Plain.toolkit (treeOf spacedText)).1.ending = .exit 0 := by
    decide +kernel
  obtain ⟨place, bytes, text, line, change, leads, held, decoded, -, planned, -, -, after, whole⟩ :=
    Invocation.runOn_bump named succeeded
  have here : (treeOf spacedText).resolve (.ofText "a.spec".toList) =
      .ok ["a.spec".toList] := by
    decide +kernel
  cases here.symm.trans leads
  have content : (treeOf spacedText).file? ["a.spec".toList] = some (Utf8.encode spacedText) := rfl
  cases content.symm.trans held
  have read : Utf8.decode (Utf8.encode spacedText) = .ok spacedText := by decide +kernel
  cases read.symm.trans decoded
  have raised : Release.plan spacedText.unifyNewlines.lines =
      .ok ⟨1, "release :\t09 ".toList, "release :\t10 ".toList, "09".toList, "10".toList, false⟩ := by
    decide +kernel
  cases raised.symm.trans planned
  exact ⟨succeeded, _, _, _, content.trans (congrArg some (whole (by decide))), after⟩

def carriageReturnText : Text := "Release: 1\r\nName: x\r\n".toList

/-- In a file with carriage returns a bump does more than put the new value in the place of the
old one: all lines end otherwise after it, that of the release included. -/
theorem runOn_bump_ne_replacement :
    (bumpCall.runOn Plain.toolkit (treeOf carriageReturnText)).1.ending = .exit 0 ∧
      (Release.plan carriageReturnText.lines).toOption.map (fun change =>
        (change.oldValue, change.newValue)) = some ("1".toList, "2".toList) ∧
      ∃ place before after,
        (treeOf carriageReturnText).file? place = some before ∧
        (bumpCall.runOn Plain.toolkit (treeOf carriageReturnText)).2.file? place = some after ∧
        ¬ ∃ front back, before = front ++ (Utf8.encode "1".toList ++ back) ∧
          after = front ++ (Utf8.encode "2".toList ++ back) := by
  refine ⟨by decide +kernel, by decide +kernel, ["a.spec".toList],
    Utf8.encode carriageReturnText, Utf8.encode "Release: 2\nName: x\n".toList, rfl,
    by decide +kernel, ?_⟩
  -- The file is shorter after the bump, though the values are of the same length.
  rintro ⟨front, back, before, after⟩
  have longer := congrArg List.length before
  have shorter := congrArg List.length after
  have lengths : (Utf8.encode carriageReturnText).length = 21 ∧
      (Utf8.encode "Release: 2\nName: x\n".toList).length = 19 ∧
      (Utf8.encode "1".toList).length = (Utf8.encode "2".toList).length := by
    decide
  simp only [List.length_append] at longer shorter
  omega

end Specfile.CommandLine
