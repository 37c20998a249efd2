import Specfile.Proofs.Text.Core
import Specfile.Release.Line

/-! Sites: lines cut at the one that a bump edits, with that line cut at its first colon. The
lines in which a release line is found are the ones that make up a site, and another value
behind the colon leaves the rest of the site in place. -/

set_option autoImplicit false

namespace Specfile.Release

structure IsTag (text : Text) : Prop where
  plain : ':' ∉ text
  named : Text.lower text.trim = "release".toList

theorem IsTag.toLower_mem {tag : Text} (release : IsTag tag) {c : Char} (member : c ∈ tag)
    (solid : isBlank c = false) : c.toLower ∈ "release".toList := by
  rw [← release.named]
  exact List.mem_map_of_mem (Text.mem_trim member solid)

namespace Line

section
variable {before : Text} (plain : ':' ∉ before) (rest : Text)
include plain

theorem ne_colon_of_mem : ∀ c ∈ before, (c != ':') = true := by
  intro c member
  rw [bne_iff_ne]
  rintro rfl
  exact plain member

theorem takeWhile_colon : (before ++ ':' :: rest).takeWhile (· != ':') = before :=
  takeWhile_append_of_stop (ne_colon_of_mem plain) (by simp)

theorem dropWhile_colon : (before ++ ':' :: rest).dropWhile (· != ':') = ':' :: rest :=
  dropWhile_append_of_stop (ne_colon_of_mem plain) (by simp)

end

theorem ofText?_append {tag : Text} (release : IsTag tag) (index : Int) (valuePart : Text) :
    ofText? index (tag ++ ':' :: valuePart) =
      some ⟨index, tag.trim, tag ++ [':'], valuePart⟩ := by
  simp only [ofText?, dropWhile_colon release.plain, takeWhile_colon release.plain, release.named,
    if_true]

theorem exists_tag_of_ofText? {index : Int} {text : Text} {line : Line}
    (found : ofText? index text = some line) :
    ∃ tag valuePart, IsTag tag ∧ text = tag ++ ':' :: valuePart ∧
      line = ⟨index, tag.trim, tag ++ [':'], valuePart⟩ := by
  unfold ofText? at found
  split at found
  · cases found
  · rename_i colon valuePart left
    dsimp only at found
    split at found
    · rename_i named
      have whole := List.takeWhile_append_dropWhile (p := (· != ':')) (l := text)
      have halt := List.head?_dropWhile_not (· != ':') text
      rw [left] at whole halt
      -- The tag ends before the first colon, so it has none.
      have same : colon = ':' := by simpa using halt
      subst same
      refine ⟨text.takeWhile (· != ':'), valuePart, ⟨?_, named⟩, whole.symm, ?_⟩
      · intro member
        simpa using List.mem_takeWhile_imp member
      · exact (Option.some.inj found).symm
    · cases found

theorem ofText?_eq_none {index other : Int} {text : Text} (missing : ofText? index text = none) :
    ofText? other text = none := by
  cases found : ofText? other text with
  | none => rfl
  | some line =>
    obtain ⟨tag, valuePart, release, rfl, -⟩ := exists_tag_of_ofText? found
    rw [ofText?_append release] at missing
    cases missing

theorem firstFrom?_cons_of_some {start : Nat} {text : Text} {line : Line}
    (here : ofText? start text = some line) (lines : List Text) :
    firstFrom? start (text :: lines) = some line := by
  simp [firstFrom?, here]

theorem firstFrom?_cons_of_none {start : Nat} {text : Text} (missing : ofText? start text = none)
    (lines : List Text) : firstFrom? start (text :: lines) = firstFrom? (start + 1) lines := by
  simp [firstFrom?, missing]

theorem firstFrom?_append {above : List Text} (none : ∀ row ∈ above, ofText? 0 row = none)
    (start : Nat) (rest : List Text) :
    firstFrom? start (above ++ rest) = firstFrom? (start + above.length) rest := by
  induction above generalizing start with
  | nil => rfl
  | cons row above ih =>
    rw [List.cons_append, firstFrom?_cons_of_none (ofText?_eq_none (none row List.mem_cons_self)),
      ih fun row member => none row (List.mem_cons_of_mem _ member), List.length_cons]
    congr 1
    omega

end Line

structure Site where
  above : List Text
  tag : Text
  valuePart : Text
  below : List Text
  first : ∀ row ∈ above, Line.ofText? 0 row = none
  release : IsTag tag

namespace Site

def row (site : Site) : Text := site.tag ++ ':' :: site.valuePart

def rows (site : Site) : List Text := site.above ++ site.row :: site.below

def line (site : Site) : Line :=
  ⟨site.above.length, site.tag.trim, site.tag ++ [':'], site.valuePart⟩

def withValue (site : Site) (valuePart : Text) : Site := { site with valuePart }

theorem row_withValue (site : Site) (valuePart : Text) :
    (site.withValue valuePart).row = site.tag ++ ':' :: valuePart := rfl

theorem rows_withValue (site : Site) (valuePart : Text) :
    (site.withValue valuePart).rows =
      site.rows.set site.above.length (site.withValue valuePart).row := by
  simp [rows, withValue]

theorem first?_rows (site : Site) : Line.first? site.rows = some site.line := by
  rw [Line.first?, rows, Line.firstFrom?_append site.first, Nat.zero_add]
  exact Line.firstFrom?_cons_of_some (Line.ofText?_append site.release _ _) _

theorem exists_of_firstFrom? {start : Nat} {lines : List Text} {found : Line}
    (first : Line.firstFrom? start lines = some found) :
    ∃ site : Site, site.rows = lines ∧
      found = { site.line with index := (start + site.above.length : Nat) } := by
  induction lines generalizing start with
  | nil => cases first
  | cons text lines ih =>
    cases here : Line.ofText? start text with
    | some line =>
      obtain ⟨tag, valuePart, release, rfl, rfl⟩ := Line.exists_tag_of_ofText? here
      rw [Line.firstFrom?_cons_of_some here] at first
      exact ⟨⟨[], tag, valuePart, lines, by simp, release⟩, rfl, (Option.some.inj first).symm⟩
    | none =>
      rw [Line.firstFrom?_cons_of_none here] at first
      -- A line that is passed over goes on top of the site that the rest makes up.
      obtain ⟨site, rfl, rfl⟩ := ih first
      refine ⟨{ site with above := text :: site.above, first := ?_ }, rfl, ?_⟩
      · exact List.forall_mem_cons.2 ⟨Line.ofText?_eq_none here, site.first⟩
      · simp only [line, List.length_cons]
        congr 2
        omega

theorem exists_of_first? {lines : List Text} {found : Line}
    (first : Line.first? lines = some found) :
    ∃ site : Site, site.rows = lines ∧ site.line = found := by
  obtain ⟨site, rows, rfl⟩ := exists_of_firstFrom? first
  exact ⟨site, rows, by simp [line]⟩

end Site

end Specfile.Release
