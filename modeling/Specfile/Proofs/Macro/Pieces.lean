import Specfile.Macro.Template
import Specfile.Proofs.Text.Core

/-! What reading a template finds. Every reference has a name and no literal holds a reference.
Behind a text that neither holds a reference nor ends in the beginning of one, a template is read
as if it stood alone. -/

set_option autoImplicit false

namespace Specfile.Macro

structure IsName (name : Text) : Prop where
  inhabited : name ≠ []
  plain : '\x7d' ∉ name

theorem reference?_referenceText_append {name : Text} (named : IsName name) (rest : Text) :
    reference? (referenceText name ++ rest) = some (name, rest) := by
  obtain ⟨first, tail, rfl⟩ := List.exists_cons_of_ne_nil named.inhabited
  -- The name has no closing brace, so reading stops at the one behind it.
  have inside : ∀ c ∈ first :: tail, (c != '\x7d') = true := by
    intro c member
    rw [bne_iff_ne]
    rintro rfl
    exact named.plain member
  have stops : ∀ c ∈ ('\x7d' :: rest).head?, (c != '\x7d') = false := by simp
  have whole : referenceText (first :: tail) ++ rest =
      '%' :: '\x7b' :: (first :: tail ++ '\x7d' :: rest) := by
    simp [referenceText]
  rw [whole]
  simp only [reference?, takeWhile_append_of_stop inside stops,
    dropWhile_append_of_stop inside stops]

theorem pieces_cons_of_some {c : Char} {rest name after : Text}
    (found : reference? (c :: rest) = some (name, after)) :
    pieces (c :: rest) = .literal [] :: .reference name :: pieces after := by
  rw [pieces]
  split
  · rename_i other left same
    cases found.symm.trans same
    rfl
  · rename_i missing
    cases found.symm.trans missing

theorem pieces_cons_of_none {c : Char} {rest : Text} (missing : reference? (c :: rest) = none) :
    pieces (c :: rest) = prepend c (pieces rest) := by
  rw [pieces]
  split
  · rename_i name after found
    cases found.symm.trans missing
  · rfl

theorem pieces_referenceText_append {name : Text} (named : IsName name) (rest : Text) :
    pieces (referenceText name ++ rest) = .literal [] :: .reference name :: pieces rest :=
  pieces_cons_of_some (reference?_referenceText_append named rest)

theorem exists_pieces_eq_cons (text : Text) :
    ∃ literal more, pieces text = .literal literal :: more := by
  cases text with
  | nil => exact ⟨[], [], by simp [pieces]⟩
  | cons c rest =>
    cases found : reference? (c :: rest) with
    | some cut => exact ⟨[], _, pieces_cons_of_some found⟩
    | none =>
      rw [pieces_cons_of_none found]
      unfold prepend
      split
      · exact ⟨_, _, rfl⟩
      · exact ⟨_, _, rfl⟩

def Piece.name? : Piece → Option Text
  | .literal _ => none
  | .reference name => some name

theorem references_eq_filterMap (text : Text) :
    references text = (pieces text).filterMap Piece.name? := rfl

theorem mem_references {text name : Text} :
    name ∈ references text ↔ .reference name ∈ pieces text := by
  simp only [references_eq_filterMap, List.mem_filterMap]
  constructor
  · rintro ⟨piece, member, named⟩
    cases piece with
    | literal text => cases named
    | reference other => cases named; exact member
  · exact fun member => ⟨_, member, rfl⟩

theorem filterMap_name?_prepend (c : Char) (pieces : List Piece) :
    (prepend c pieces).filterMap Piece.name? = pieces.filterMap Piece.name? := by
  unfold prepend
  split <;> rfl

theorem isName_of_mem_references {text name : Text} (member : name ∈ references text) :
    IsName name := by
  rw [references_eq_filterMap] at member
  fun_induction pieces text with
  | case1 => cases member
  | case2 c rest found after here ih =>
    rcases List.mem_cons.1 member with rfl | member
    · obtain ⟨-, inhabited, plain⟩ := eq_of_reference? here
      exact ⟨inhabited, plain⟩
    · exact ih member
  | case3 c rest missing ih =>
    rw [filterMap_name?_prepend] at member
    exact ih member

def IsLiteral (text : Text) : Prop := pieces text = [.literal text]

theorem reference?_append {text name after : Text} (found : reference? text = some (name, after))
    (rest : Text) : reference? (text ++ rest) = some (name, after ++ rest) := by
  obtain ⟨rfl, inhabited, plain⟩ := eq_of_reference? found
  rw [List.append_assoc, reference?_referenceText_append ⟨inhabited, plain⟩]

theorem isLiteral_cons_iff {c : Char} {text : Text} :
    IsLiteral (c :: text) ↔ reference? (c :: text) = none ∧ IsLiteral text := by
  unfold IsLiteral
  cases found : reference? (c :: text) with
  | some cut => simp [pieces_cons_of_some found]
  | none =>
    obtain ⟨literal, more, cut⟩ := exists_pieces_eq_cons text
    simp [pieces_cons_of_none found, cut, prepend]

theorem isLiteral_of_mem_pieces {text literal : Text} (member : .literal literal ∈ pieces text) :
    IsLiteral literal := by
  have empty : IsLiteral [] := by simp [IsLiteral, pieces]
  fun_induction pieces text generalizing literal with
  | case1 =>
    cases List.mem_singleton.1 member
    exact empty
  | case2 c rest name after found ih =>
    simp only [List.mem_cons, reduceCtorEq, Piece.literal.injEq, false_or] at member
    rcases member with rfl | member
    · exact empty
    · exact ih member
  | case3 c rest missing ih =>
    -- The character joins the first literal, and the rest of the text begins with that literal.
    obtain ⟨first, more, cut⟩ := exists_pieces_eq_cons rest
    have whole : first ++ written more = rest := by
      rw [← written_pieces rest, cut]
      rfl
    rw [cut] at member ih
    simp only [prepend, List.mem_cons, Piece.literal.injEq] at member
    rcases member with rfl | member
    · refine isLiteral_cons_iff.2 ⟨?_, ih List.mem_cons_self⟩
      cases found : reference? (c :: first) with
      | none => rfl
      | some pair =>
        have longer := reference?_append found (written more)
        rw [List.cons_append, whole, missing] at longer
        cases longer
    · exact ih (List.mem_cons_of_mem _ member)

def isOpening : Text → Bool
  | ['%'] => true
  | '%' :: '\x7b' :: name => !name.contains '\x7d'
  | _ => false

/-- Whether what follows the text may complete a reference that begins in it. -/
def endsOpen : Text → Bool
  | [] => false
  | c :: text => isOpening (c :: text) || endsOpen text

theorem isOpening_of_start {c : Char} {text name : Text} (plain : '\x7d' ∉ name)
    (start : c :: text <+: '%' :: '\x7b' :: name) : isOpening (c :: text) = true := by
  obtain ⟨rfl, second⟩ := List.cons_prefix_cons.1 start
  cases text with
  | nil => rfl
  | cons d text =>
    obtain ⟨rfl, inside⟩ := List.cons_prefix_cons.1 second
    have absent : '\x7d' ∉ text := fun member => plain (inside.subset member)
    simpa [isOpening] using absent

theorem prefix_of_reference?_append {text rest name after : Text} (missing : reference? text = none)
    (found : reference? (text ++ rest) = some (name, after)) : text <+: '%' :: '\x7b' :: name := by
  obtain ⟨whole, inhabited, plain⟩ := eq_of_reference? found
  have inside (left : Text) : reference? (referenceText name ++ left) = some (name, left) :=
    reference?_referenceText_append ⟨inhabited, plain⟩ left
  -- The reference ends within the text, or with its end, or behind it.
  rcases List.append_eq_append_iff.1 whole with ⟨left, cut, -⟩ | ⟨left, cut, -⟩
  · rcases List.eq_nil_or_concat' left with rfl | ⟨front, last, rfl⟩
    · have here := inside []
      rw [cut, List.append_nil, List.append_nil, missing] at here
      cases here
    · rw [referenceText, ← List.append_assoc] at cut
      exact ⟨front, (List.append_inj_left' cut rfl).symm⟩
  · rw [cut, inside left] at missing
    cases missing

theorem reference?_append_eq_none {c : Char} {text : Text}
    (missing : reference? (c :: text) = none) (closed : isOpening (c :: text) = false)
    (rest : Text) : reference? (c :: text ++ rest) = none := by
  cases found : reference? (c :: text ++ rest) with
  | none => rfl
  | some pair =>
    obtain ⟨-, -, plain⟩ := eq_of_reference? found
    rw [isOpening_of_start plain (prefix_of_reference?_append missing found)] at closed
    cases closed

theorem pieces_append {text : Text} (plain : IsLiteral text) (closed : endsOpen text = false)
    (rest : Text) : pieces (text ++ rest) = text.foldr prepend (pieces rest) := by
  induction text with
  | nil => rfl
  | cons c text ih =>
    obtain ⟨missing, plain⟩ := isLiteral_cons_iff.1 plain
    simp only [endsOpen, Bool.or_eq_false_iff] at closed
    have kept := reference?_append_eq_none missing closed.1 rest
    rw [List.cons_append] at kept
    rw [List.cons_append, pieces_cons_of_none kept, ih plain closed.2, List.foldr_cons]

end Specfile.Macro
