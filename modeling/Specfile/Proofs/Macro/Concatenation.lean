import Specfile.Proofs.Macro.Frames
import Specfile.Proofs.Macro.Idempotence
import Mathlib.Data.List.DropRight

/-! Texts put one behind the other. Their references, and what these expand to, are those of the
two texts, unless the place where the texts meet lies within a reference. What follows a text never
takes a reference away from it. -/

set_option autoImplicit false

namespace Specfile.Text

/-- The text behind the last occurrence of a mark; all of it when the mark does not occur. -/
def afterLast (mark : Char) (text : Text) : Text := text.rtakeWhile (· != mark)

variable {mark : Char} {part text : Text}

theorem mark_notMem_afterLast : mark ∉ afterLast mark text := by
  intro member
  simpa using List.mem_rtakeWhile_imp member

theorem suffix_afterLast (plain : mark ∉ part) (suffix : part <:+ text) :
    part <:+ afterLast mark text := by
  obtain ⟨above, rfl⟩ := suffix
  have free : ∀ c ∈ part.reverse, (c != mark) = true := by
    intro c member
    rw [bne_iff_ne]
    rintro rfl
    exact plain (List.mem_reverse.1 member)
  rw [afterLast, List.rtakeWhile, List.reverse_append, List.takeWhile_append_of_pos free,
    List.reverse_append, List.reverse_reverse]
  exact List.suffix_append _ _

theorem afterLast_suffix (mark : Char) (text : Text) : afterLast mark text <:+ text :=
  List.rtakeWhile_suffix _ text

theorem afterLast_suffix_afterLast (suffix : part <:+ text) :
    afterLast mark part <:+ afterLast mark text :=
  suffix_afterLast mark_notMem_afterLast ((afterLast_suffix mark part).trans suffix)

end Specfile.Text

namespace Specfile.Macro

/-- The place where a text meets the next one lies within no reference, and not between the two
characters that open one. -/
structure CutsNoReference (text rest : Text) : Prop where
  closed : ¬ ['%', '\x7b'] <:+: Text.afterLast '\x7d' text
  unsplit : ¬ (['%'] <:+ text ∧ ['\x7b'] <+: rest)

variable {text rest : Text}

theorem cutsNoReference_of_notMem (plain : '%' ∉ text) (rest : Text) :
    CutsNoReference text rest where
  closed inside :=
    plain ((inside.trans (Text.afterLast_suffix _ _).isInfix).subset List.mem_cons_self)
  unsplit ends := plain (ends.1.subset List.mem_cons_self)

theorem CutsNoReference.of_suffix {part : Text} (apart : CutsNoReference text rest)
    (suffix : part <:+ text) : CutsNoReference part rest where
  closed inside := apart.closed (inside.trans (Text.afterLast_suffix_afterLast suffix).isInfix)
  unsplit ends := apart.unsplit ⟨ends.1.trans suffix, ends.2⟩

theorem CutsNoReference.reference?_append {c : Char} (apart : CutsNoReference (c :: text) rest)
    (missing : reference? (c :: text) = none) : reference? (c :: (text ++ rest)) = none := by
  rw [← List.cons_append]
  cases found : reference? (c :: text ++ rest) with
  | none => rfl
  | some pair =>
    obtain ⟨name, after⟩ := pair
    obtain ⟨whole, -, plain⟩ := eq_of_reference? found
    have start := prefix_of_reference?_append missing found
    obtain ⟨rfl, inner⟩ := List.cons_prefix_cons.1 start
    -- A reference that begins in the text would have to be split between the two.
    cases text with
    | nil =>
      have next : rest = '\x7b' :: name ++ ['\x7d'] ++ after := List.cons.inj whole |>.2
      exact absurd ⟨List.suffix_rfl, name ++ ['\x7d'] ++ after, next.symm⟩ apart.unsplit
    | cons d text =>
      obtain ⟨rfl, inside⟩ := List.cons_prefix_cons.1 inner
      have unclosed : '\x7d' ∉ '%' :: '\x7b' :: text := by
        simpa using fun member => plain (inside.subset member)
      have behind := Text.suffix_afterLast unclosed List.suffix_rfl
      have opening : ['%', '\x7b'] <+: '%' :: '\x7b' :: text := ⟨text, rfl⟩
      exact absurd (opening.isInfix.trans behind.isInfix) apart.closed

section
variable {α : Type} {read : Piece → List α} {letter : Char → List α}
  (letterwise : ∀ literal, read (.literal literal) = literal.flatMap letter)
include letterwise

theorem flatMap_prepend (c : Char) (pieces : List Piece) :
    (prepend c pieces).flatMap read = letter c ++ pieces.flatMap read := by
  unfold prepend
  split <;> simp [letterwise]

/-- What is read of literals character by character, and of references one by one, is read of each
of the two texts on its own. -/
theorem flatMap_pieces_append (apart : CutsNoReference text rest) :
    (pieces (text ++ rest)).flatMap read =
      (pieces text).flatMap read ++ (pieces rest).flatMap read := by
  -- What is left of the first text is cut off from the second one in the same way.
  fun_induction pieces text with
  | case1 => simp [letterwise]
  | case2 c tail name after found ih =>
    have suffix : after <:+ c :: tail := ⟨referenceText name, (eq_of_reference? found).1.symm⟩
    have kept := reference?_append found rest
    rw [List.cons_append] at kept ⊢
    rw [pieces_cons_of_some kept]
    simp only [List.flatMap_cons, ih (apart.of_suffix suffix), List.append_assoc]
  | case3 c tail missing ih =>
    rw [List.cons_append, pieces_cons_of_none (apart.reference?_append missing),
      flatMap_prepend letterwise, flatMap_prepend letterwise,
      ih (apart.of_suffix (List.suffix_cons c tail)), List.append_assoc]

end

theorem references_append (apart : CutsNoReference text rest) :
    references (text ++ rest) = references text ++ references rest := by
  have silent (literal : Text) :
      (Piece.literal literal).name?.toList = literal.flatMap fun _ => [] := by simp [Piece.name?]
  simp only [references_eq_filterMap, List.filterMap_eq_flatMap_toList]
  exact flatMap_pieces_append silent apart

/-- Where the place between two texts lies within no reference, they expand one by one. -/
theorem expand_append (table : Table) (apart : CutsNoReference text rest) :
    expand table (text ++ rest) = expand table text ++ expand table rest := by
  simp only [expand_eq_flatMap]
  exact flatMap_pieces_append (fun literal => (List.flatMap_singleton' literal).symm) apart

theorem expand_append_percentSigns :
    let text := "%\x7bb\x7d%\x7b\x7d\x7b%".toList
    let rest := "%\x7ba\x7d\x7bb\x7d".toList
    expand percentTable (text ++ rest) = expand percentTable text ++ expand percentTable rest ∧
      expand percentTable (text ++ rest) = "x%\x7b\x7d\x7b%%\x7bb\x7d".toList :=
  ⟨expand_append percentTable ⟨by decide +kernel, by decide +kernel⟩, by decide +kernel⟩

theorem references_of_notMem (plain : '\x7d' ∉ text) : references text = [] := by
  rw [List.eq_nil_iff_forall_not_mem]
  intro name member
  have part : (Piece.reference name).text ⊆ written (pieces text) :=
    fun c inside => List.mem_flatMap.2 ⟨_, mem_references.1 member, inside⟩
  rw [written_pieces] at part
  exact plain (part (by simp [Piece.text, referenceText]))

theorem references_prefix_append (text rest : Text) :
    references text <+: references (text ++ rest) := by
  simp only [references_eq_filterMap]
  fun_induction pieces text with
  | case1 => exact List.nil_prefix
  | case2 c tail name after found ih =>
    have kept := reference?_append found rest
    rw [List.cons_append] at kept ⊢
    rw [pieces_cons_of_some kept]
    exact List.cons_prefix_cons.2 ⟨rfl, ih⟩
  | case3 c tail missing ih =>
    cases again : reference? (c :: tail ++ rest) with
    | none =>
      rw [List.cons_append] at again ⊢
      rw [pieces_cons_of_none again, filterMap_name?_prepend, filterMap_name?_prepend]
      exact ih
    | some pair =>
      -- A reference that takes up the end of the text stands behind all others in it.
      obtain ⟨-, -, plain⟩ := eq_of_reference? again
      have start := prefix_of_reference?_append missing again
      have none : references (c :: tail) = [] :=
        references_of_notMem fun member => by simpa [plain] using start.subset member
      rw [references_eq_filterMap, pieces_cons_of_none missing] at none
      rw [none]
      exact List.nil_prefix

end Specfile.Macro
