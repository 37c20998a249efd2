import Specfile.Proofs.Document.Lines
import Mathlib.Algebra.GroupWithZero.Nat
import Mathlib.Logic.ExistsUnique

/-! Cursors. A line and a column in a text stand for a number of characters before them, and every
such number for one line and column. To insert a block at a cursor is to insert it behind so many
characters; a cursor outside the text gives way to the nearest one within it. -/

set_option autoImplicit false

namespace Specfile

/-- A line and a column, both counted from zero. -/
structure Cursor where
  line : Nat
  column : Nat
  deriving DecidableEq, Repr

namespace Cursor

/-- The cursor stands on a line of the text, at most behind its last character. -/
def IsIn (cursor : Cursor) (text : Text) : Prop :=
  ∃ row ∈ text.lines[cursor.line]?, cursor.column ≤ row.length

/-- How many characters stand before the cursor. Each line above it counts with its newline. -/
def offset (cursor : Cursor) (text : Text) : Nat :=
  ((text.lines.take cursor.line).map (·.length + 1)).sum + cursor.column

def nearest (text : Text) (line column : Int) : Cursor :=
  let row := (max 0 (min line (text.lines.length - 1))).toNat
  ⟨row, (max 0 (min column (text.lines.getD row []).length)).toNat⟩

def atEnd (text : Text) : Cursor :=
  ⟨text.lines.length - 1, (text.lines.getLast?.getD []).length⟩

structure Cuts (cursor : Cursor) (text : Text) (above : List Text) (front back : Text)
    (below : List Text) : Prop where
  lines : text.lines = above ++ (front ++ back) :: below
  line : above.length = cursor.line
  column : front.length = cursor.column

theorem IsIn.cuts {cursor : Cursor} {text : Text} (inside : cursor.IsIn text) :
    ∃ above front back below, cursor.Cuts text above front back below := by
  obtain ⟨row, here, within⟩ := inside
  obtain ⟨bound, found⟩ := List.getElem?_eq_some_iff.1 here
  refine ⟨text.lines.take cursor.line, row.take cursor.column, row.drop cursor.column,
    text.lines.drop (cursor.line + 1), ?_, ?_, ?_⟩
  · rw [List.take_append_drop, ← found, ← List.drop_eq_getElem_cons bound, List.take_append_drop]
  · rw [List.length_take, Nat.min_eq_left (Nat.le_of_lt bound)]
  · rw [List.length_take, Nat.min_eq_left within]

namespace Cuts

variable {cursor : Cursor} {text : Text} {above below : List Text} {front back : Text}
  (cuts : cursor.Cuts text above front back below)
include cuts

theorem isIn : cursor.IsIn text := by
  refine ⟨front ++ back, ?_, ?_⟩
  · simp [cuts.lines, ← cuts.line]
  · simp [← cuts.column]

theorem text_eq : text = Text.joinLines (above ++ [front]) ++ Text.joinLines (back :: below) := by
  rw [← Text.joinLines_cut, ← cuts.lines, Text.joinLines, Text.join_split]

theorem length_before : (Text.joinLines (above ++ [front])).length = cursor.offset text := by
  have upper : text.lines.take cursor.line = above := by simp [cuts.lines, ← cuts.line]
  rw [offset, upper, ← cuts.column, Text.joinLines_append_cons]
  simp [List.length_flatMap]

theorem take_offset : text.take (cursor.offset text) = Text.joinLines (above ++ [front]) := by
  have before := cuts.length_before
  rw [cuts.text_eq] at before ⊢
  exact List.take_left' before

theorem drop_offset : text.drop (cursor.offset text) = Text.joinLines (back :: below) := by
  have before := cuts.length_before
  rw [cuts.text_eq] at before ⊢
  exact List.drop_left' before

theorem lines_take : Text.lines (text.take (cursor.offset text)) = above ++ [front] := by
  have lines := areLines_cut.1 (cuts.lines ▸ areLines_lines text)
  rw [cuts.take_offset]
  exact Text.split_join lines.1.inhabited lines.1.plain

theorem eq_atEnd : cursor = atEnd (text.take (cursor.offset text)) := by
  have line : above.length = cursor.line := cuts.line
  have column : front.length = cursor.column := cuts.column
  rw [atEnd, cuts.lines_take]
  simp [line, column]

theorem joinLines_set (block : Text) :
    let row := text.lines.getD cursor.line []
    Text.joinLines (text.lines.set cursor.line
        (row.take cursor.column ++ block ++ row.drop cursor.column)) =
      text.take (cursor.offset text) ++ block ++ text.drop (cursor.offset text) := by
  intro row
  have here : row = front ++ back := by simp [row, cuts.lines, ← cuts.line]
  have edited : text.lines.set cursor.line (front ++ block ++ back) =
      above ++ (front ++ block ++ back) :: below := by
    simp [cuts.lines, ← cuts.line]
  have before : Text.joinLines (above ++ [front ++ block]) =
      Text.joinLines (above ++ [front]) ++ block := by
    simp [Text.joinLines_append_cons]
  rw [here, ← cuts.column, List.take_left, List.drop_left, edited, Text.joinLines_cut, before,
    cuts.take_offset, cuts.drop_offset]

end Cuts

theorem atEnd_cuts (before after : Text) :
    ∃ above front back below, (atEnd before).Cuts (before ++ after) above front back below ∧
      before.lines = above ++ [front] := by
  have inhabited := (areLines_lines before).inhabited
  obtain ⟨above, front, ends⟩ : ∃ above front, before.lines = above ++ [front] :=
    ⟨_, _, (List.dropLast_concat_getLast inhabited).symm⟩
  obtain ⟨back, below, starts⟩ := List.exists_cons_of_ne_nil (areLines_lines after).inhabited
  refine ⟨above, front, back, below, ⟨Text.lines_append ends starts, ?_, ?_⟩, ends⟩
  · simp [atEnd, ends]
  · simp [atEnd, ends]

theorem isIn_offset_iff {before after : Text} {cursor : Cursor} :
    cursor.IsIn (before ++ after) ∧ cursor.offset (before ++ after) = before.length ↔
      cursor = atEnd before := by
  constructor
  · rintro ⟨inside, same⟩
    obtain ⟨above, front, back, below, cuts⟩ := inside.cuts
    have ends := cuts.eq_atEnd
    rwa [same, List.take_left] at ends
  · rintro rfl
    obtain ⟨above, front, back, below, cuts, ends⟩ := atEnd_cuts before after
    refine ⟨cuts.isIn, ?_⟩
    rw [← cuts.length_before, ← ends, Text.joinLines, Text.join_split]

theorem existsUnique_offset {text : Text} {place : Nat} (within : place ≤ text.length) :
    ∃! cursor : Cursor, cursor.IsIn text ∧ cursor.offset text = place := by
  have length : (text.take place).length = place := by
    rw [List.length_take, Nat.min_eq_left within]
  have whole : text.take place ++ text.drop place = text := List.take_append_drop place text
  have same (cursor : Cursor) : cursor.IsIn text ∧ cursor.offset text = place ↔
      cursor = atEnd (text.take place) := by
    have cut := @isIn_offset_iff (text.take place) (text.drop place) cursor
    rwa [whole, length] at cut
  exact ⟨_, (same _).2 rfl, fun other inside => (same other).1 inside⟩

theorem IsIn.offset_le {cursor : Cursor} {text : Text} (inside : cursor.IsIn text) :
    cursor.offset text ≤ text.length := by
  obtain ⟨above, front, back, below, cuts⟩ := inside.cuts
  rw [← cuts.length_before, ← cuts.take_offset]
  exact List.length_take_le' _ _

theorem nearest_eq (text : Text) (line column : Int) :
    nearest text line column =
      let row := min line.toNat (text.lines.length - 1)
      ⟨row, min column.toNat (text.lines.getD row []).length⟩ := by
  have inhabited := List.length_pos_iff.2 (areLines_lines text).inhabited
  have row : (max 0 (min line (text.lines.length - 1))).toNat =
      min line.toNat (text.lines.length - 1) := by
    omega
  have place (length : Nat) : (max 0 (min column length)).toNat = min column.toNat length := by
    omega
  simp only [nearest, row, place]

theorem nearest_isIn (text : Text) (line column : Int) : (nearest text line column).IsIn text := by
  have inhabited := List.length_pos_iff.2 (areLines_lines text).inhabited
  have bound : min line.toNat (text.lines.length - 1) < text.lines.length := by
    omega
  have here := List.getElem?_eq_getElem bound
  rw [nearest_eq]
  refine ⟨_, here, ?_⟩
  simp only [List.getD_eq_getElem?_getD, here, Option.getD_some]
  exact Nat.min_le_right _ _

theorem IsIn.nearest_eq {cursor : Cursor} {text : Text} (inside : cursor.IsIn text) :
    nearest text cursor.line cursor.column = cursor := by
  obtain ⟨row, here, within⟩ := inside
  obtain ⟨bound, -⟩ := List.getElem?_eq_some_iff.1 here
  have line : min cursor.line (text.lines.length - 1) = cursor.line := by
    omega
  have same : text.lines.getD cursor.line [] = row := by
    rw [List.getD_eq_getElem?_getD, here, Option.getD_some]
  rw [Cursor.nearest_eq]
  simp only [Int.toNat_natCast, line, same, Nat.min_eq_left within]

end Cursor

namespace Document

theorem insert_eq (document : Document) (line column : Int) (block : Text) :
    let cursor := Cursor.nearest document.text line column
    let row := document.lines.getD cursor.line []
    document.insert line column block = document.withLines
      (document.lines.set cursor.line
        (row.take cursor.column ++ block ++ row.drop cursor.column)) := by
  rw [Cursor.nearest_eq]
  rfl

/-- The block goes in behind the characters that stand before the nearest cursor in the text, and
no other character changes. The cursors in a text have the offsets up to its length, one each. -/
theorem insert_nearest (document : Document) (line column : Int) (block : Text) :
    let text := document.text
    let cursor := Cursor.nearest text line column
    cursor.IsIn text ∧
      document.insert line column block =
        { document with
          text := text.take (cursor.offset text) ++ block ++ text.drop (cursor.offset text) } ∧
      (∀ other : Cursor, other.IsIn text →
        Cursor.nearest text other.line other.column = other ∧ other.offset text ≤ text.length) ∧
      ∀ place ≤ text.length, ∃! other : Cursor, other.IsIn text ∧ other.offset text = place := by
  intro text cursor
  have inside : cursor.IsIn text := Cursor.nearest_isIn text line column
  refine ⟨inside, ?_, fun other within => ⟨within.nearest_eq, within.offset_le⟩,
    fun place => Cursor.existsUnique_offset⟩
  obtain ⟨above, front, back, below, cuts⟩ := inside.cuts
  rw [← cuts.joinLines_set block, insert_eq]
  rfl

def threeLines : Document := ⟨.ofText "a.spec".toList, "ab\n\nc".toList⟩

theorem insert_nearest_threeLines :
    let text := threeLines.text
    (threeLines.insert (-3) 99 "\nx".toList).text = "ab\nx\n\nc".toList ∧
      Cursor.IsIn ⟨1, 0⟩ text ∧ Cursor.nearest text 1 0 = ⟨1, 0⟩ ∧
      3 ≤ text.length ∧ ∃! cursor : Cursor, cursor.IsIn text ∧ cursor.offset text = 3 := by
  intro text
  have inside : Cursor.IsIn ⟨1, 0⟩ text := ⟨[], rfl, Nat.le_refl 0⟩
  have within : 3 ≤ text.length := by decide
  obtain ⟨-, inserted, same, reached⟩ := insert_nearest threeLines (-3) 99 "\nx".toList
  refine ⟨?_, inside, (same ⟨1, 0⟩ inside).1, within, reached 3 within⟩
  rw [inserted]
  decide +kernel

end Document

end Specfile
