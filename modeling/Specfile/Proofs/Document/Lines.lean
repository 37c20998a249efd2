import Specfile.Document

/-! A document made of lines has these lines, as long as there is one and none holds a
newline. The lines of a document are of that kind. Its text has the characters of the lines, and
newlines between them. -/

set_option autoImplicit false

namespace Specfile

/-- Rows that a text can have as its lines. -/
structure AreLines (rows : List Text) : Prop where
  inhabited : rows ≠ []
  plain : ∀ row ∈ rows, '\n' ∉ row

theorem areLines_lines (text : Text) : AreLines text.lines where
  inhabited := Text.split_ne_nil '\n' text
  plain _ := Text.mark_notMem_of_mem_split

theorem Text.length_lines (text : Text) : text.lines.length = text.count '\n' + 1 := by
  induction text with
  | nil => rfl
  | cons c text ih =>
    rw [lines, split_cons, List.count_cons]
    by_cases newline : c = '\n' <;> simp [newline, ih]

theorem Text.joinLines_append_cons (above : List Text) (row : Text) (below : List Text) :
    joinLines (above ++ row :: below) =
      above.flatMap (· ++ ['\n']) ++ (row ++ below.flatMap ('\n' :: ·)) := by
  induction above with
  | nil =>
    induction below generalizing row with
    | nil => simp
    | cons next below ih =>
      have rest := ih next
      simp only [List.nil_append, List.flatMap_nil] at rest
      simp [join_cons, rest]
  | cons first above ih => simp [join_cons, ih]

theorem Text.joinLines_append {above below : List Text} (front : above ≠ []) (back : below ≠ []) :
    joinLines (above ++ below) = joinLines above ++ '\n' :: joinLines below := by
  induction above with
  | nil => exact absurd rfl front
  | cons row above ih =>
    by_cases last : above = []
    · simp [last, join_cons _ _ back]
    · have more : above ++ below ≠ [] := by simp [last]
      simp only [joinLines, List.cons_append, join_cons _ _ more, join_cons _ _ last] at ih ⊢
      simp [ih last]

/-- A text that is cut within a line: the first part ends, and the second one begins, with what it
has of that line. -/
theorem Text.joinLines_cut (above : List Text) (front back : Text) (below : List Text) :
    joinLines (above ++ (front ++ back) :: below) =
      joinLines (above ++ [front]) ++ joinLines (back :: below) := by
  have starts := joinLines_append_cons [] back below
  simp only [List.nil_append, List.flatMap_nil] at starts
  simp [joinLines_append_cons, starts]

theorem Text.mem_joinLines {rows : List Text} {c : Char} (member : c ∈ joinLines rows) :
    c = '\n' ∨ ∃ row ∈ rows, c ∈ row := by
  induction rows with
  | nil => cases member
  | cons row rows ih =>
    by_cases last : rows = []
    · subst last
      rw [joinLines, join_singleton] at member
      exact .inr ⟨row, List.mem_cons_self, member⟩
    · simp only [joinLines, join_cons _ _ last, List.mem_append, List.mem_singleton] at member
      rcases member with here | newline | there
      · exact .inr ⟨row, List.mem_cons_self, here⟩
      · exact .inl newline
      · exact (ih there).imp_right fun ⟨row', inRows, inside⟩ =>
          ⟨row', List.mem_cons_of_mem row inRows, inside⟩

theorem Text.subset_joinLines {rows : List Text} {row : Text} (member : row ∈ rows) :
    row ⊆ joinLines rows := by
  obtain ⟨above, below, rfl⟩ := List.append_of_mem member
  rw [joinLines_append_cons]
  intro c inside
  exact List.mem_append_right _ (List.mem_append_left _ inside)

theorem Text.subset_of_mem_lines {text row : Text} (member : row ∈ text.lines) : row ⊆ text := by
  have part := subset_joinLines member
  rwa [joinLines, join_split] at part

theorem areLines_cut {above below : List Text} {front back : Text} :
    AreLines (above ++ (front ++ back) :: below) ↔
      AreLines (above ++ [front]) ∧ AreLines (back :: below) := by
  have inhabited : above ++ (front ++ back) :: below ≠ [] := by simp
  have plain : (∀ row ∈ above ++ (front ++ back) :: below, '\n' ∉ row) ↔
      (∀ row ∈ above ++ [front], '\n' ∉ row) ∧ ∀ row ∈ back :: below, '\n' ∉ row := by
    simp only [List.forall_mem_append, List.forall_mem_cons]
    simp [and_assoc]
  constructor
  · intro lines
    obtain ⟨front, back⟩ := plain.1 lines.plain
    exact ⟨⟨by simp, front⟩, ⟨by simp, back⟩⟩
  · intro both
    exact ⟨inhabited, plain.2 ⟨both.1.plain, both.2.plain⟩⟩

/-- Of two texts side by side the last line of the first and the first line of the second make up
one line. -/
theorem Text.lines_append {text rest : Text} {above below : List Text} {front back : Text}
    (ends : text.lines = above ++ [front]) (starts : rest.lines = back :: below) :
    (text ++ rest).lines = above ++ (front ++ back) :: below := by
  have whole : text ++ rest = joinLines (above ++ (front ++ back) :: below) := by
    rw [joinLines_cut, ← ends, ← starts, joinLines, joinLines, join_split, join_split]
  have lines : AreLines (above ++ (front ++ back) :: below) :=
    areLines_cut.2 ⟨ends ▸ areLines_lines text, starts ▸ areLines_lines rest⟩
  rw [whole]
  exact split_join lines.inhabited lines.plain

theorem getD_mem_of_default {α : Type} {values : List α} {default : α} (index : Nat) :
    values.getD index default ∈ default :: values := by
  rw [List.getD_eq_getElem?_getD]
  cases found : values[index]? with
  | none => exact List.mem_cons_self
  | some value => exact List.mem_cons_of_mem _ (List.mem_of_getElem? found)

namespace Document

theorem areLines (document : Document) : AreLines document.lines := areLines_lines document.text

theorem lines_withLines (document : Document) {rows : List Text} (lines : AreLines rows) :
    (document.withLines rows).lines = rows := Text.split_join lines.inhabited lines.plain

@[simp] theorem withLines_withLines (document : Document) (first rows : List Text) :
    (document.withLines first).withLines rows = document.withLines rows := rfl

end Document

end Specfile
