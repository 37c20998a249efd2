import Specfile.Files.Tree
import Specfile.Proofs.Success

/-! Writing to the place that a path leads to. That place then holds what was written, and every
other place holds what it held, and the path leads to the same place as before. Where the path has
been read before, the place is that of a file: no file or folder comes or goes then. -/

set_option autoImplicit false

namespace Specfile.FileTree

/-- The same files and folders, whatever the files hold. -/
structure SameShape (before after : FileTree) : Prop where
  places : after.files.map Prod.fst = before.files.map Prod.fst
  folders : after.folders = before.folders
  here : after.here = before.here
  bans : after.bans = before.bans

namespace SameShape

theorem refl (tree : FileTree) : tree.SameShape tree := ⟨rfl, rfl, rfl, rfl⟩

theorem trans {first second third : FileTree} (start : first.SameShape second)
    (next : second.SameShape third) : first.SameShape third :=
  ⟨next.places.trans start.places, next.folders.trans start.folders, next.here.trans start.here,
    next.bans.trans start.bans⟩

end SameShape

section
variable {tree : FileTree} {path : Path}

theorem read_eq_ok_iff {bytes : Bytes} :
    tree.read path = .ok bytes ↔
      path.hasNull = false ∧ ∃ place, tree.resolve path = .ok place ∧
        tree.file? place = some bytes ∧ tree.ban? .read place = none := by
  have contents (place : List Text) : tree.contents place = .ok bytes ↔
      tree.file? place = some bytes ∧ tree.ban? .read place = none := by
    unfold contents
    cases tree.file? place <;> cases tree.ban? .read place <;> simp
  unfold read
  cases path.hasNull <;> simp [mapError_eq_ok_iff, bind_eq_ok_iff, contents]

theorem write_eq_ok_iff {bytes : Bytes} {after : FileTree} :
    tree.write path bytes = .ok after ↔
      path.hasNull = false ∧ ∃ place, tree.resolve path = .ok place ∧
        tree.isFolder place = false ∧
        tree.ban? .write (if (tree.file? place).isSome then place else place.dropLast) = none ∧
        after = tree.put place bytes := by
  have change (place : List Text) : tree.change bytes place = .ok after ↔
      tree.isFolder place = false ∧
        tree.ban? .write (if (tree.file? place).isSome then place else place.dropLast) = none ∧
        after = tree.put place bytes := by
    unfold change
    cases tree.isFolder place with
    | true => simp
    | false =>
      cases tree.ban? .write (if (tree.file? place).isSome then place else place.dropLast) <;>
        simp [eq_comm]
  unfold write
  cases path.hasNull <;> simp [mapError_eq_ok_iff, bind_eq_ok_iff, change]

end

theorem file?_put (tree : FileTree) (place : List Text) (bytes : Bytes) (other : List Text) :
    (tree.put place bytes).file? other =
      if other = place then some bytes else tree.file? other := by
  -- Replacing the contents of files keeps their places, so the same file is found as before.
  have same : ((fun file : List Text × Bytes => decide (file.1 = other)) ∘
      fun file => if file.1 = place then (place, bytes) else file) =
      fun file => decide (file.1 = other) := by
    funext file
    by_cases written : file.1 = place <;> simp [written]
  unfold put
  split
  · rename_i held
    simp only [file?, List.find?_map, same]
    cases found : tree.files.find? (·.1 = other) with
    | none =>
      have elsewhere : other ≠ place := by
        rintro rfl
        simp [file?, found] at held
      simp [elsewhere]
    | some file =>
      have lies : file.1 = other := by simpa using List.find?_some found
      by_cases here : other = place <;> simp [here, lies]
  · rename_i vacant
    by_cases here : other = place
    · subst here
      have none : tree.files.find? (·.1 = other) = none := by
        rw [← Option.map_eq_none_iff, ← Option.not_isSome_iff_eq_none]
        exact vacant
      simp [file?, List.find?_append, none]
    · have elsewhere : place ≠ other := Ne.symm here
      simp [file?, List.find?_append, here, elsewhere]

theorem sameShape_put {tree : FileTree} {place : List Text} (held : (tree.file? place).isSome)
    (bytes : Bytes) : tree.SameShape (tree.put place bytes) := by
  refine ⟨?_, rfl, rfl, rfl⟩
  rw [put, if_pos held, List.map_map]
  apply List.map_congr_left
  intro file _
  by_cases written : file.1 = place <;> simp [written]

namespace SameShape

variable {before after : FileTree} (shape : before.SameShape after)
include shape

theorem isSome_file? (place : List Text) :
    (after.file? place).isSome = (before.file? place).isSome := by
  have counted (tree : FileTree) : (tree.file? place).isSome =
      (tree.files.map Prod.fst).any (decide <| · = place) := by
    simp [file?, List.any_map, Function.comp_def, List.isSome_find?]
  rw [counted, counted, shape.places]

theorem isFolder (place : List Text) : after.isFolder place = before.isFolder place := by
  have counted (tree : FileTree) :
      (tree.files.any fun file => place.isPrefixOf file.1 && place ≠ file.1) =
        (tree.files.map Prod.fst).any fun other => place.isPrefixOf other && place ≠ other := by
    rw [List.any_map]
    rfl
  rw [FileTree.isFolder, FileTree.isFolder, counted, counted, shape.places, shape.folders,
    shape.here]

theorem ban? (deed : Deed) (place : List Text) : after.ban? deed place = before.ban? deed place := by
  rw [FileTree.ban?, FileTree.ban?, shape.bans]

theorem walk (place names : List Text) : after.walk place names = before.walk place names := by
  induction names generalizing place with
  | nil => rfl
  | cons name names ih =>
    simp only [FileTree.walk, ih, shape.ban?, shape.isFolder, shape.isSome_file?]

theorem resolve (path : Path) : after.resolve path = before.resolve path := by
  simp only [FileTree.resolve, shape.walk, shape.here]

end SameShape

theorem write_of_read {tree after : FileTree} {path : Path} {old bytes : Bytes}
    (held : tree.read path = .ok old) (written : tree.write path bytes = .ok after) :
    tree.SameShape after ∧ ∃ place, tree.resolve path = .ok place ∧
      after.file? place = some bytes ∧
      ∀ other, other ≠ place → after.file? other = tree.file? other := by
  obtain ⟨-, place, leads, here, -⟩ := read_eq_ok_iff.1 held
  obtain ⟨-, place', leads', -, -, rfl⟩ := write_eq_ok_iff.1 written
  cases leads'.symm.trans leads
  refine ⟨sameShape_put (by simp [here]) bytes, place, leads, ?_, fun other elsewhere => ?_⟩
  · rw [file?_put, if_pos rfl]
  · rw [file?_put, if_neg elsewhere]

theorem isFolder_of_isPrefix {tree : FileTree} {place inner : List Text} (begins : place <+: inner)
    (folder : tree.isFolder inner = true) : tree.isFolder place = true := by
  simp only [isFolder, Bool.or_eq_true, List.isEmpty_iff, List.any_eq_true, Bool.and_eq_true,
    List.isPrefixOf_iff_prefix, decide_eq_true_eq] at folder ⊢
  rcases folder with (rfl | ⟨known, listed, within⟩) | ⟨file, listed, within, other⟩
  · exact .inl (.inl (List.prefix_nil.1 begins))
  · exact .inl (.inr ⟨known, listed, begins.trans within⟩)
  · refine .inr ⟨file, listed, begins.trans within, fun same => other ?_⟩
    subst same
    exact within.eq_of_length_le begins.length_le

theorem walk_cons_eq_ok_iff {tree : FileTree} {place : List Text} {name : Text}
    {names last : List Text} :
    tree.walk place (name :: names) = .ok last ↔
      tree.ban? .enter place = none ∧
        if name = ['.', '.'] then tree.walk place.dropLast names = .ok last
        else (Utf8.encode name).length ≤ maxNameBytes ∧
          (names = [] ∨ tree.isFolder (place ++ [name]) = true) ∧
          tree.walk (place ++ [name]) names = .ok last := by
  rw [walk]
  cases tree.ban? .enter place with
  | some errno => simp
  | none =>
    by_cases up : name = ['.', '.']
    · simp [up]
    by_cases long : (Utf8.encode name).length ≤ maxNameBytes
    · by_cases onward : names = [] ∨ tree.isFolder (place ++ [name]) = true
      · simp [up, long, Nat.not_lt_of_le long, onward]
      · simp [up, long, Nat.not_lt_of_le long, onward]
    · simp [up, long, Nat.lt_of_not_le long]

/-- A path leads from a folder to a folder, or to a name in one. -/
theorem isFolder_dropLast_of_walk {tree : FileTree} {names place last : List Text}
    (starts : tree.isFolder place = true) (leads : tree.walk place names = .ok last) :
    tree.isFolder last.dropLast = true := by
  -- Only the last name may lead to something else than a folder.
  induction names generalizing place with
  | nil =>
    cases leads
    exact isFolder_of_isPrefix (List.dropLast_prefix _) starts
  | cons name names ih =>
    obtain ⟨-, next⟩ := walk_cons_eq_ok_iff.1 leads
    split at next
    · exact ih (isFolder_of_isPrefix (List.dropLast_prefix _) starts) next
    · obtain ⟨-, rfl | within, next⟩ := next
      · cases next
        simpa using starts
      · exact ih within next

theorem isFolder_dropLast_of_resolve {tree : FileTree} {path : Path} {place : List Text}
    (leads : tree.resolve path = .ok place) : tree.isFolder place.dropLast = true := by
  unfold resolve at leads
  split at leads
  · cases leads
  · refine isFolder_dropLast_of_walk ?_ leads
    split <;> simp [isFolder]

/-- A new file makes folders of the beginnings of its place only, and these are folders already. -/
theorem isFolder_put {tree : FileTree} {folder : List Text} (parent : tree.isFolder folder = true)
    (name : Text) (bytes : Bytes) (other : List Text) :
    (tree.put (folder ++ [name]) bytes).isFolder other = tree.isFolder other := by
  by_cases held : (tree.file? (folder ++ [name])).isSome
  · exact (sameShape_put held bytes).isFolder other
  -- What is above the new file, its own folder included, was a folder before.
  have known : (other.isPrefixOf (folder ++ [name]) && other ≠ folder ++ [name]) = true →
      tree.isFolder other = true := by
    simp only [Bool.and_eq_true, List.isPrefixOf_iff_prefix, decide_eq_true_eq,
      List.prefix_concat_iff]
    rintro ⟨whole | begins, strict⟩
    · exact absurd whole strict
    · exact isFolder_of_isPrefix begins parent
  have grown : (tree.put (folder ++ [name]) bytes).isFolder other = (tree.isFolder other ||
      (other.isPrefixOf (folder ++ [name]) && other ≠ folder ++ [name])) := by
    simp [isFolder, put, held, Bool.or_assoc]
  rw [grown]
  cases begins : other.isPrefixOf (folder ++ [name]) && other ≠ folder ++ [name] with
  | false => exact Bool.or_false _
  | true => rw [known begins, Bool.or_true]

theorem walk_put {tree : FileTree} {folder : List Text} (parent : tree.isFolder folder = true)
    (name : Text) (bytes : Bytes) {names place last : List Text}
    (leads : tree.walk place names = .ok last) :
    (tree.put (folder ++ [name]) bytes).walk place names = .ok last := by
  -- The new file takes away no folder and brings no ban on the way.
  induction names generalizing place with
  | nil => exact leads
  | cons next names ih =>
    obtain ⟨free, onward⟩ := walk_cons_eq_ok_iff.1 leads
    refine walk_cons_eq_ok_iff.2 ⟨free, ?_⟩
    split at onward
    · rename_i up
      rw [if_pos up]
      exact ih onward
    · rename_i down
      rw [if_neg down, isFolder_put parent]
      exact ⟨onward.1, onward.2.1, ih onward.2.2⟩

/-- What is written to a path is what is read from it next, if its place may be read. -/
theorem read_write {tree after : FileTree} {path : Path} {bytes : Bytes}
    (written : tree.write path bytes = .ok after)
    (readable : ∀ place, tree.resolve path = .ok place → tree.ban? .read place = none) :
    after.read path = .ok bytes := by
  obtain ⟨plain, place, leads, noFolder, -, rfl⟩ := write_eq_ok_iff.1 written
  refine read_eq_ok_iff.2 ⟨plain, place, ?_, by rw [file?_put, if_pos rfl], readable place leads⟩
  -- No folder is written to, the root least of all: the place is a name in a folder.
  have named : place ≠ [] := by
    rintro rfl
    cases noFolder
  have parent := isFolder_dropLast_of_resolve leads
  rw [← List.dropLast_concat_getLast named] at leads ⊢
  unfold resolve at leads ⊢
  split at leads
  · cases leads
  · rename_i short
    rw [if_neg short]
    exact walk_put parent _ bytes leads

theorem readable_of_read {tree : FileTree} {path : Path} {bytes : Bytes}
    (held : tree.read path = .ok bytes) (place : List Text)
    (leads : tree.resolve path = .ok place) : tree.ban? .read place = none := by
  obtain ⟨-, place', leads', -, free⟩ := read_eq_ok_iff.1 held
  cases leads'.symm.trans leads
  exact free

theorem fault?_save (tree : FileTree) (path : Path) (bytes : Bytes) :
    (tree.disk.save path bytes).fault? = match tree.write path bytes with
      | .ok _ => none
      | .error fault => some fault := by
  simp only [disk]
  cases tree.write path bytes <;> rfl

end Specfile.FileTree
