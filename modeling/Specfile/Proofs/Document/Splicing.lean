import Specfile.Proofs.Document.Stacking

/-! A new entry in the text of a document. Lines put in between others are one block of text put in
at one place, with a newline more than the lines have between them. For an entry this block holds
the entry, newlines around it and, where the section for changes has to be made, its header. -/

set_option autoImplicit false

namespace Specfile

/-- Rows put in above, between or below others need a newline on one side. -/
theorem Text.exists_joinLines_insertRows {rows block : List Text} (inhabited : rows ≠ [])
    (filled : block ≠ []) (place : Nat) :
    ∃ front back inserted, joinLines rows = front ++ back ∧
      joinLines (insertRows place block rows) = front ++ inserted ++ back ∧
      (inserted = joinLines block ++ ['\n'] ∨ inserted = '\n' :: joinLines block) := by
  have whole : rows.take place ++ rows.drop place = rows := List.take_append_drop place rows
  -- Only at the bottom is the newline needed above the rows that are put in.
  by_cases top : rows.take place = []
  · have below : rows.drop place = rows := by simpa only [top, List.nil_append] using whole
    refine ⟨[], joinLines rows, _, rfl, ?_, .inl rfl⟩
    rw [insertRows, top, below, List.nil_append, joinLines_append filled inhabited]
    simp
  by_cases bottom : rows.drop place = []
  · have above : rows.take place = rows := by simpa only [bottom, List.append_nil] using whole
    refine ⟨joinLines rows, [], _, (List.append_nil _).symm, ?_, .inr rfl⟩
    rw [insertRows, above, bottom, List.append_nil, joinLines_append inhabited filled]
    simp
  · have more : block ++ rows.drop place ≠ [] := by simp [filled]
    refine ⟨joinLines (rows.take place) ++ ['\n'], joinLines (rows.drop place), _, ?_, ?_, .inl rfl⟩
    · rw [← whole, joinLines_append top bottom, whole]
      simp
    · rw [insertRows, joinLines_append top more, joinLines_append filled bottom]
      simp

theorem Text.joinLines_append_replicate {rows : List Text} (inhabited : rows ≠ []) (count : Nat) :
    joinLines (rows ++ List.replicate count []) = joinLines rows ++ List.replicate count '\n' := by
  induction count with
  | zero => simp
  | succ count ih =>
    have more : rows ++ List.replicate count [] ≠ [] := by simp [inhabited]
    rw [List.replicate_succ', List.replicate_succ', ← List.append_assoc, ← List.append_assoc, ← ih,
      joinLines_append more (List.cons_ne_nil _ _)]
    rfl

theorem Text.joinLines_replicate_append {rows : List Text} (inhabited : rows ≠ []) (count : Nat) :
    joinLines (List.replicate count [] ++ rows) = List.replicate count '\n' ++ joinLines rows := by
  induction count with
  | zero => simp
  | succ count ih =>
    have more : List.replicate count [] ++ rows ≠ [] := by simp [inhabited]
    rw [List.replicate_succ, List.replicate_succ, List.cons_append, List.cons_append, ← ih,
      joinLines, join_cons _ _ more]
    rfl

namespace Document

/-- An entry with newlines around it, below a header of its own where there is none. -/
def padded (headed : Bool) (above below : Nat) (entry : Text) : Text :=
  List.replicate above '\n' ++ ((if headed then [] else "%changelog\n".toList) ++ entry)
    ++ List.replicate below '\n'

theorem padded_append_newline (headed : Bool) (above below : Nat) (entry : Text) :
    padded headed above below entry ++ ['\n'] = padded headed above (below + 1) entry := by
  rw [padded, padded, List.replicate_succ', List.append_assoc]

theorem newline_cons_padded (headed : Bool) (above below : Nat) (entry : Text) :
    '\n' :: padded headed above below entry = padded headed (above + 1) below entry := by
  rw [padded, padded, List.replicate_succ]
  rfl

theorem gapBeside_eq_replicate (look : Option Look) :
    ∃ count, gapBeside look = List.replicate count [] := by
  unfold gapBeside
  split
  · exact ⟨1, rfl⟩
  · exact ⟨0, rfl⟩

theorem joinLines_block (document : Document) (entry : Text) :
    ∃ above below, Text.joinLines (document.block entry) =
      padded (document.lines.any isHeader) above below entry := by
  have headed : (document.lines.map look).any Look.header = document.lines.any isHeader := by
    simp [List.any_map, Function.comp_def, look]
  have whole : Text.joinLines entry.lines = entry := Text.join_split '\n' entry
  have inhabited : entry.lines ≠ [] := (areLines_lines entry).inhabited
  -- The gap is one empty row or none, and so one newline or none.
  rw [block, entryBlock, headed]
  split
  · rename_i found
    obtain ⟨below, gap⟩ := gapBeside_eq_replicate
      (document.lines.map look)[entryPlace (document.lines.map look)]?
    refine ⟨0, below, ?_⟩
    rw [gap, Text.joinLines_append_replicate inhabited, whole]
    simp [found, padded]
  · rename_i absent
    obtain ⟨above, gap⟩ := gapBeside_eq_replicate
      ((document.lines.map look).take (entryPlace (document.lines.map look))).getLast?
    have made :
        Text.joinLines ("%changelog".toList :: entry.lines) = "%changelog\n".toList ++ entry := by
      rw [Text.joinLines, Text.join_cons _ _ inhabited, ← Text.joinLines, whole]
      rfl
    refine ⟨above, 0, ?_⟩
    rw [gap, Text.joinLines_replicate_append (List.cons_ne_nil _ _), made]
    simp [absent, padded]

theorem block_ne_nil (document : Document) (entry : Text) : document.block entry ≠ [] := by
  unfold block entryBlock
  split
  · simp [(areLines_lines entry).inhabited]
  · simp

theorem Opens.blank_below {rows top rest : List Text} (opens : Opens rows top rest) :
    ∀ row ∈ rest.head?, row.trim = [] := by
  cases opens with
  | @found above after space header cut first here spaced =>
    -- The gap is empty only where the next line is blank itself, or where there is none.
    rcases after with _ | ⟨next, after⟩
    · cases spaced
      simp
    cases spaced with
    | apart =>
      rintro row ⟨⟩
      rfl
    | close blank =>
      rintro row ⟨⟩
      exact blank
  | made cut ends absent spaced =>
    rcases ends with rfl | ⟨rfl, -⟩
    · rintro row ⟨⟩
      rfl
    · simp

theorem isHeader_iff {row : Text} : isHeader row = true ↔ row.trim.lower = "%changelog".toList :=
  decide_eq_true_iff

theorem isHeader_eq_false_iff {row : Text} :
    isHeader row = false ↔ row.trim.lower ≠ "%changelog".toList :=
  decide_eq_false_iff_not

/-- Adding an entry puts one block of text in at one place: the entry with nothing but newlines
around it, and a header above it where there was none. A header is a line that reads `%changelog`
but for case and blanks around it. In the result the entry's lines follow the first one, and the
text ends behind them or goes on with a blank line. -/
theorem addEntry_splices (document : Document) (entry : Text) :
    let reads (row : Text) : Prop := row.trim.lower = "%changelog".toList
    (∃ headed place above below, (headed = true ↔ ∃ row ∈ document.lines, reads row) ∧
      place ≤ document.text.length ∧
      document.addEntry entry =
        { document with
          text := document.text.take place ++ padded headed above below entry
            ++ document.text.drop place }) ∧
    ∃ above header rest,
      (document.addEntry entry).lines = above ++ header :: (entry.lines ++ rest) ∧
      (∀ row ∈ above, ¬ reads row) ∧ reads header ∧ ∀ row ∈ rest.head?, row.trim = [] := by
  intro reads
  constructor
  · obtain ⟨above, below, block⟩ := joinLines_block document entry
    obtain ⟨front, back, inserted, cut, result, side⟩ := Text.exists_joinLines_insertRows
      document.areLines.inhabited (block_ne_nil document entry) document.place
    rw [block, padded_append_newline, newline_cons_padded] at side
    -- The newline between the lines and the block counts as padding.
    obtain ⟨above, below, rfl⟩ : ∃ above below,
        inserted = padded (document.lines.any isHeader) above below entry := by
      rcases side with behind | before
      · exact ⟨_, _, behind⟩
      · exact ⟨_, _, before⟩
    have whole : document.text = front ++ back := by
      rw [← cut]
      exact (Text.join_split '\n' document.text).symm
    have headed : document.lines.any isHeader = true ↔ ∃ row ∈ document.lines, reads row := by
      simp only [List.any_eq_true, isHeader_iff, reads]
    refine ⟨_, front.length, above, below, headed, by simp [whole], ?_⟩
    rw [addEntry_eq, withLines, result, whole, List.take_left, List.drop_left]
  · obtain ⟨above, header, rest, opens, plain, found, lines⟩ := opens_addEntry document entry
    exact ⟨above, header, rest, lines, fun row member => isHeader_eq_false_iff.1 (plain row member),
      isHeader_iff.1 found, opens.blank_below⟩

-- Below a header that ends the text the entry needs a newline above it and none below.
example :
    (addEntry ⟨.ofText "a.spec".toList, "Name: a\n %ChangeLog".toList⟩ "* b\n- c".toList).text =
      "Name: a\n %ChangeLog\n* b\n- c".toList := by
  decide +kernel

end Document

end Specfile
