/-! Texts are sequences of characters, so every position and length counts characters.
Splitting at a mark and joining with it undo each other, as long as no joined part holds
the mark; lines are the parts between newlines. -/

set_option autoImplicit false

namespace Specfile

abbrev Text := List Char

def inRanges (ranges : List (Nat × Nat)) (c : Char) : Bool :=
  ranges.any fun range => range.1 ≤ c.toNat && c.toNat ≤ range.2

namespace Text

/-- The stretches between the marks, the empty ones included: one more than there are marks. -/
def split (mark : Char) (text : Text) : List Text :=
  text.foldr (fun c rest => if c = mark then [] :: rest else rest.modifyHead (c :: ·)) [[]]

def join (separator : Text) (parts : List Text) : Text := separator.intercalate parts

abbrev lines (text : Text) : List Text := split '\n' text

abbrev joinLines (rows : List Text) : Text := join ['\n'] rows

@[simp] theorem split_nil (mark : Char) : split mark [] = [[]] := rfl

theorem split_cons (mark c : Char) (text : Text) :
    split mark (c :: text) =
      if c = mark then [] :: split mark text else (split mark text).modifyHead (c :: ·) := rfl

theorem split_ne_nil (mark : Char) (text : Text) : split mark text ≠ [] := by
  induction text with
  | nil => simp
  | cons c text ih =>
    rw [split_cons]
    split
    · simp
    · cases h : split mark text with
      | nil => exact absurd h ih
      | cons part parts => simp

@[simp] theorem join_singleton (separator part : Text) : join separator [part] = part := by
  simp [join, List.intercalate]

theorem join_cons (separator part : Text) {parts : List Text} (more : parts ≠ []) :
    join separator (part :: parts) = part ++ (separator ++ join separator parts) := by
  cases parts with
  | nil => exact absurd rfl more
  | cons next parts => simp [join, List.intercalate]

theorem join_modifyHead (separator : Text) (c : Char) {parts : List Text}
    (inhabited : parts ≠ []) :
    join separator (parts.modifyHead (c :: ·)) = c :: join separator parts := by
  cases parts with
  | nil => exact absurd rfl inhabited
  | cons part parts =>
    cases parts with
    | nil => simp
    | cons next parts => simp [join_cons]

@[simp] theorem join_split (mark : Char) (text : Text) : join [mark] (split mark text) = text := by
  induction text with
  | nil => simp
  | cons c text ih =>
    rw [split_cons]
    split
    · rename_i same
      simp [join_cons _ _ (split_ne_nil mark text), ih, same]
    · simp [join_modifyHead _ _ (split_ne_nil mark text), ih]

theorem mark_notMem_of_mem_split {mark : Char} {text part : Text}
    (member : part ∈ split mark text) : mark ∉ part := by
  induction text generalizing part with
  | nil => simp_all
  | cons c text ih =>
    rw [split_cons] at member
    split at member
    · rcases List.mem_cons.1 member with rfl | member
      · simp
      · exact ih member
    · rename_i other
      -- The character goes to the front of the first part, and the others stay.
      cases h : split mark text with
      | nil => exact absurd h (split_ne_nil mark text)
      | cons first parts =>
        rw [h] at member ih
        rcases List.mem_cons.1 (by simpa using member) with rfl | member
        · simp [Ne.symm other, ih List.mem_cons_self]
        · exact ih (List.mem_cons_of_mem _ member)

theorem split_append_mark {mark : Char} {part : Text} (plain : mark ∉ part) (rest : Text) :
    split mark (part ++ mark :: rest) = part :: split mark rest := by
  induction part with
  | nil => simp [split_cons]
  | cons c part ih =>
    simp only [List.mem_cons, not_or] at plain
    simp [split_cons, Ne.symm plain.1, ih plain.2]

theorem split_of_notMem {mark : Char} {part : Text} (plain : mark ∉ part) :
    split mark part = [part] := by
  induction part with
  | nil => rfl
  | cons c part ih =>
    simp only [List.mem_cons, not_or] at plain
    simp [split_cons, Ne.symm plain.1, ih plain.2]

theorem split_join {mark : Char} {parts : List Text} (inhabited : parts ≠ [])
    (plain : ∀ part ∈ parts, mark ∉ part) : split mark (join [mark] parts) = parts := by
  induction parts with
  | nil => exact absurd rfl inhabited
  | cons part parts ih =>
    have first := plain part List.mem_cons_self
    cases parts with
    | nil => simp [split_of_notMem first]
    | cons next parts =>
      rw [join_cons _ _ (List.cons_ne_nil _ _), List.singleton_append, split_append_mark first,
        ih (List.cons_ne_nil _ _) fun part member => plain part (List.mem_cons_of_mem _ member)]

def after? : (opening text : Text) → Option Text
  | [], text => some text
  | _ :: _, [] => none
  | o :: opening, c :: text => if o = c then after? opening text else none

theorem after?_eq_some_iff {opening text rest : Text} :
    after? opening text = some rest ↔ text = opening ++ rest := by
  induction opening generalizing text with
  | nil => simp [after?]
  | cons o opening ih =>
    cases text with
    | nil => simp [after?]
    | cons c text =>
      by_cases same : o = c
      · simp [after?, same, ih]
      · simp [after?, same, Ne.symm same]

/-- Folds the case of the letters A to Z and leaves every other character alone. -/
def lower (text : Text) : Text := text.map Char.toLower

def occursIn (part : Text) : Text → Bool
  | [] => part.isEmpty
  | c :: text => part.isPrefixOf (c :: text) || occursIn part text

def place? (part : Text) : Text → Option Nat
  | [] => if part = [] then some 0 else none
  | c :: text =>
    if part.isPrefixOf (c :: text) then some 0 else (place? part text).map (· + 1)

end Text

end Specfile
