import Specfile.Text.Blank
import Mathlib.Data.List.Basic
import Mathlib.Data.List.TakeWhile

/-! The three pieces of a text around its core. Blanks, then a text with no blank at its
ends, then blanks again: this cut of a text is the one into leading blanks, trimmed core
and trailing blanks. -/

set_option autoImplicit false

namespace Specfile

section
variable {α : Type} {p : α → Bool} {run rest : List α} (all : ∀ a ∈ run, p a = true)
  (stops : ∀ a ∈ rest.head?, p a = false)
include all stops

-- A run of one kind ends where the next element is of another kind.
theorem takeWhile_append_of_stop : (run ++ rest).takeWhile p = run := by
  rw [List.takeWhile_append_of_pos all]
  cases rest with
  | nil => simp
  | cons a rest => simp [stops a rfl]

theorem dropWhile_append_of_stop : (run ++ rest).dropWhile p = rest := by
  rw [List.dropWhile_append_of_pos all]
  cases rest with
  | nil => rfl
  | cons a rest => simp [stops a rfl]

end

theorem stops_dropWhile {α : Type} (p : α → Bool) (l : List α) :
    ∀ a ∈ (l.dropWhile p).head?, p a = false := by
  have halt := List.head?_dropWhile_not p l
  intro a starts
  simpa [Option.mem_def.1 starts] using halt

namespace Text

structure IsRun (kind : Char → Bool) (text : Text) : Prop where
  inhabited : text ≠ []
  all : ∀ c ∈ text, kind c = true

namespace IsRun

variable {kind : Char → Bool} {text : Text}

protected theorem iff : IsRun kind text ↔ text ≠ [] ∧ text.all kind = true := by
  rw [List.all_eq_true]
  exact ⟨fun run => ⟨run.inhabited, run.all⟩, fun ⟨inhabited, all⟩ => ⟨inhabited, all⟩⟩

instance : Decidable (IsRun kind text) := decidable_of_iff _ IsRun.iff.symm

theorem of_head? (first : ∃ c ∈ text.head?, kind c = true) : IsRun kind (text.takeWhile kind) where
  inhabited := by
    obtain ⟨c, starts, kindly⟩ := first
    obtain ⟨rest, rfl⟩ := List.head?_eq_some_iff.1 starts
    simp [kindly]
  all _ member := List.mem_takeWhile_imp member

theorem exists_append (first : ∃ c ∈ text.head?, kind c = true) :
    ∃ run rest, IsRun kind run ∧ (∀ c ∈ rest.head?, kind c = false) ∧ text = run ++ rest :=
  ⟨_, _, of_head? first, stops_dropWhile kind text, (List.takeWhile_append_dropWhile ..).symm⟩

theorem of_mem_head? (run : IsRun kind text) {rest : Text} {c : Char}
    (first : c ∈ (text ++ rest).head?) : kind c = true := by
  obtain ⟨d, tail, rfl⟩ := List.exists_cons_of_ne_nil run.inhabited
  cases first
  exact run.all _ List.mem_cons_self

end IsRun

structure IsCore (text : Text) : Prop where
  first : ∃ c ∈ text.head?, isBlank c = false
  last : ∃ c ∈ text.getLast?, isBlank c = false

theorem isBlank_of_mem_leading {text : Text} {c : Char} (member : c ∈ leading text) :
    isBlank c = true :=
  List.mem_takeWhile_imp member

theorem isBlank_of_mem_trailing {text : Text} {c : Char} (member : c ∈ trailing text) :
    isBlank c = true :=
  List.mem_takeWhile_imp (List.mem_reverse.1 member)

theorem notMem_leading {c : Char} (solid : isBlank c = false) (text : Text) : c ∉ leading text := by
  intro member
  simp [isBlank_of_mem_leading member] at solid

theorem notMem_trailing {c : Char} (solid : isBlank c = false) (text : Text) :
    c ∉ trailing text := by
  intro member
  simp [isBlank_of_mem_trailing member] at solid

theorem mem_trim {text : Text} {c : Char} (member : c ∈ text) (solid : isBlank c = false) :
    c ∈ trim text := by
  rw [← leading_append_trim_append_trailing text] at member
  simp only [List.mem_append] at member
  rcases member with member | member | member
  · exact absurd member (notMem_leading solid text)
  · exact member
  · exact absurd member (notMem_trailing solid text)

theorem mem_of_mem_trim {text : Text} {c : Char} (member : c ∈ trim text) : c ∈ text := by
  rw [← leading_append_trim_append_trailing text]
  exact List.mem_append_right _ (List.mem_append_left _ member)

namespace IsCore

theorem reverse {text : Text} (core : IsCore text) : IsCore text.reverse where
  first := by simpa using core.last
  last := by simpa using core.first

theorem stops {core : Text} (solid : IsCore core) (rest : Text) :
    ∀ c ∈ (core ++ rest).head?, isBlank c = false := by
  obtain ⟨start, starts, notBlank⟩ := solid.first
  intro c member
  rw [List.mem_head?_append_of_mem_head? starts] at member
  cases member
  exact notBlank

end IsCore

section
variable {lead core trail : Text} (blankLead : ∀ c ∈ lead, isBlank c = true) (solid : IsCore core)
  (blankTrail : ∀ c ∈ trail, isBlank c = true)

include blankLead solid in
theorem leading_append : leading (lead ++ (core ++ trail)) = lead :=
  takeWhile_append_of_stop blankLead (solid.stops trail)

include blankLead solid in
theorem reverse_dropWhile_append :
    ((lead ++ (core ++ trail)).dropWhile isBlank).reverse = trail.reverse ++ core.reverse := by
  rw [dropWhile_append_of_stop blankLead (solid.stops trail), List.reverse_append]

include blankLead solid blankTrail

theorem trim_append : trim (lead ++ (core ++ trail)) = core := by
  have blank : ∀ c ∈ trail.reverse, isBlank c = true := by simpa using blankTrail
  have stops : ∀ c ∈ core.reverse.head?, isBlank c = false := by simpa using solid.reverse.stops []
  rw [trim, reverse_dropWhile_append blankLead solid, dropWhile_append_of_stop blank stops,
    List.reverse_reverse]

theorem trailing_append : trailing (lead ++ (core ++ trail)) = trail := by
  have blank : ∀ c ∈ trail.reverse, isBlank c = true := by simpa using blankTrail
  have stops : ∀ c ∈ core.reverse.head?, isBlank c = false := by simpa using solid.reverse.stops []
  rw [trailing, reverse_dropWhile_append blankLead solid, takeWhile_append_of_stop blank stops,
    List.reverse_reverse]

end

theorem trim_of_isCore {text : Text} (core : IsCore text) : trim text = text := by
  have cut : trim ([] ++ (text ++ [])) = text := trim_append (by simp) core (by simp)
  simpa using cut

theorem first_dropWhile_isBlank {text : Text} (inhabited : text.dropWhile isBlank ≠ []) :
    ∃ c ∈ (text.dropWhile isBlank).head?, isBlank c = false := by
  obtain ⟨c, rest, cut⟩ := List.exists_cons_of_ne_nil inhabited
  have halt := List.head?_dropWhile_not isBlank text
  rw [cut] at halt ⊢
  exact ⟨c, rfl, by simpa using halt⟩

theorem isCore_trim {text : Text} (inhabited : trim text ≠ []) : IsCore (trim text) := by
  have reversed : (text.dropWhile isBlank).reverse.dropWhile isBlank ≠ [] := by
    simpa [trim] using inhabited
  have last := first_dropWhile_isBlank reversed
  have start : text.dropWhile isBlank ≠ [] := by
    intro empty
    simp [empty] at reversed
  -- The end that trimming cuts off does not reach the first character of what is left.
  obtain ⟨cut, whole⟩ := List.dropWhile_suffix (l := (text.dropWhile isBlank).reverse) isBlank
  have sameFirst : (trim text).head? = (text.dropWhile isBlank).head? := by
    rw [trim, List.head?_reverse, ← List.getLast?_append_of_ne_nil cut reversed, whole,
      List.getLast?_reverse]
  exact ⟨sameFirst ▸ first_dropWhile_isBlank start, by simpa [trim] using last⟩

theorem dropWhile_eq_nil_of_trim {text : Text} (empty : trim text = []) :
    text.dropWhile isBlank = [] := by
  by_contra inhabited
  obtain ⟨c, first, solid⟩ := first_dropWhile_isBlank inhabited
  have member := (List.dropWhile_sublist isBlank).subset (List.mem_of_mem_head? first)
  exact List.not_mem_nil (empty ▸ mem_trim member solid)

theorem trim_ne_nil_iff {text : Text} : trim text ≠ [] ↔ ∃ c ∈ text, isBlank c = false := by
  constructor
  · intro inhabited
    obtain ⟨c, first, solid⟩ := (isCore_trim inhabited).first
    exact ⟨c, mem_of_mem_trim (List.mem_of_mem_head? first), solid⟩
  · rintro ⟨c, member, solid⟩
    exact List.ne_nil_of_mem (mem_trim member solid)

@[simp] theorem trim_trim (text : Text) : trim (trim text) = trim text := by
  by_cases empty : trim text = []
  · rw [empty]
    rfl
  · exact trim_of_isCore (isCore_trim empty)

theorem place?_append {lead part : Text} {c : Char} (first : c ∈ part.head?) (new : c ∉ lead)
    (rest : Text) : place? part (lead ++ (part ++ rest)) = some lead.length := by
  obtain ⟨tail, rfl⟩ := List.head?_eq_some_iff.1 first
  induction lead with
  | nil => simp [place?]
  | cons d lead ih =>
    simp only [List.mem_cons, not_or] at new
    have later := ih new.2
    rw [List.cons_append] at later
    simp [place?, new.1, later]

theorem place?_trim {text : Text} (inhabited : trim text ≠ []) :
    place? (trim text) text = some (leading text).length := by
  obtain ⟨c, first, solid⟩ := (isCore_trim inhabited).first
  have cut := place?_append first (notMem_leading solid text) (trailing text)
  rwa [leading_append_trim_append_trailing] at cut

theorem corePlace_eq (text : Text) : corePlace text = (leading text).length := by
  unfold corePlace
  split
  · rename_i empty
    have whole := List.takeWhile_append_dropWhile (p := isBlank) (l := text)
    rw [dropWhile_eq_nil_of_trim empty, List.append_nil] at whole
    rw [leading, whole]
  · rename_i inhabited
    rw [place?_trim inhabited, Option.getD_some]

theorem replaceCore_eq (text new : Text) :
    replaceCore text new = leading text ++ new ++ trailing text := by
  have front : text.take (leading text).length = leading text :=
    (List.prefix_iff_eq_take.1 (List.takeWhile_prefix isBlank)).symm
  have back : text.drop ((leading text).length + (trim text).length) = trailing text := by
    have whole : leading text ++ trim text ++ trailing text = text := by
      rw [List.append_assoc, leading_append_trim_append_trailing]
    calc text.drop ((leading text).length + (trim text).length)
        = (leading text ++ trim text ++ trailing text).drop
            ((leading text).length + (trim text).length) := by rw [whole]
      _ = trailing text := List.drop_left' List.length_append
  rw [replaceCore, corePlace_eq, front, back]

theorem isCore_of_forall {text : Text} (inhabited : text ≠ [])
    (solid : ∀ c ∈ text, isBlank c = false) : IsCore text where
  first := ⟨text.head inhabited, List.head?_eq_some_head inhabited,
    solid _ (List.head_mem inhabited)⟩
  last := ⟨text.getLast inhabited, List.getLast?_eq_some_getLast inhabited,
    solid _ (List.getLast_mem inhabited)⟩

/-- Other characters than blanks may take the place of the front of a core. -/
theorem IsCore.replaceFront {old new rest : Text} (core : IsCore (old ++ rest))
    (inhabited : new ≠ []) (solid : ∀ c ∈ new, isBlank c = false) : IsCore (new ++ rest) := by
  have front := isCore_of_forall inhabited solid
  -- With no rest the new front is all there is, else the last character is that of the rest.
  by_cases ends : rest = []
  · rwa [ends, List.append_nil]
  · have last := core.last
    rw [List.getLast?_append_of_ne_nil _ ends] at last
    constructor
    · obtain ⟨c, starts, first⟩ := front.first
      exact ⟨c, List.mem_head?_append_of_mem_head? starts, first⟩
    · rwa [List.getLast?_append_of_ne_nil _ ends]

end Text

end Specfile
