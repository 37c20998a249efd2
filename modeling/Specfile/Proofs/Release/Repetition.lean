import Specfile.Proofs.Release.Change

/-! Bumps in a row. The first one leaves a written number with the rest of the value behind
it, each later one reads that number back and writes its successor, and nothing but the
number changes. -/

set_option autoImplicit false

namespace Specfile.Release

namespace Site

variable {site : Site} {counter : Counter}

theorem numbered_numbered (counted : counter? site.table site.valuePart.trim = some counter)
    (first number : Int) :
    (site.numbered counter first).numbered (.written first counter.rest) number =
      site.numbered counter number := by
  have lead := leading_numbered counted first
  have trail := trailing_numbered counted first
  simp only [numbered, withValue, lead, trail]
  rfl

theorem bumps_numbered (counted : counter? site.table site.valuePart.trim = some counter)
    {number : Int} (later : counter.number ≤ number) (short : Numeral.IsShort number)
    (shortNext : Numeral.IsShort (number + 1)) :
    (site.numbered counter number).Bumps (.written number counter.rest) where
  counted := by
    have tail := tail_of_counter? counted
    have value : (site.numbered counter number).valuePart.trim = counter.valueAt number :=
      trim_numbered counted number
    rw [value]
    exact counter?_written _ tail.stops fun negative => tail.alone (by omega)
  readable := short
  writable := by rwa [Counter.number_written]

end Site

end Specfile.Release

namespace Specfile.Edit
open Release

/-- Bumps a document once for every flag, each time the one that the bump before it gave. -/
def bumpAll (document : Document) : List Bool → Except Failure Document
  | [] => .ok document
  | dryRun :: more => do
    let (edit, _) ← bump dryRun document
    bumpAll edit.document more

theorem bumpAll_cons {document : Document} {site : Site} {counter : Counter}
    (rows : site.rows = document.lines) (bumps : site.Bumps counter) (dryRun : Bool)
    (more : List Bool) :
    bumpAll document (dryRun :: more) =
      bumpAll (document.withLines (site.numbered counter (counter.number + 1)).rows) more := by
  rw [bumpAll, bump_rows rows bumps dryRun, ← document_ofChange rows counter dryRun]
  rfl

/-- Invariant of a run: the document is the site with some number, which every bump raises. -/
theorem bumpAll_numbered {document : Document} {site : Site} {counter : Counter}
    (lines : AreLines site.rows)
    (counted : counter? site.table site.valuePart.trim = some counter) (dryRuns : List Bool)
    {number : Int} (later : counter.number ≤ number)
    (short : ∀ k : Nat, k ≤ dryRuns.length → Numeral.IsShort (number + k)) :
    bumpAll (document.withLines (site.numbered counter number).rows) dryRuns =
      .ok (document.withLines (site.numbered counter (number + dryRuns.length)).rows) := by
  -- The number grows with every flag used up, so the sum at the end stays the same.
  induction dryRuns generalizing number with
  | nil => simp [bumpAll]
  | cons dryRun more ih =>
    have shortHere : Numeral.IsShort number := by simpa using short 0 (by simp)
    have shortNext : Numeral.IsShort (number + 1) := by simpa using short 1 (by simp)
    have rows := (document.lines_withLines (Site.areLines_numbered lines counted number)).symm
    have bumps := Site.bumps_numbered counted later shortHere shortNext
    rw [bumpAll_cons rows bumps, Site.numbered_numbered counted, Counter.number_written,
      Document.withLines_withLines, ih (by omega), List.length_cons]
    · have same : number + 1 + more.length = number + (more.length + 1 : Nat) := by omega
      rw [same]
    · intro k bound
      have same : number + 1 + k = number + (k + 1 : Nat) := by omega
      rw [same]
      exact short (k + 1) (by simpa using bound)

/-- When one bump succeeds, any number of them in a row do as long as the numbers stay short
enough; they raise the number by their count and leave all other characters as they are. -/
theorem bumpAll_counts_up {document : Document} {dryRun : Bool} {edit : Edit} {change : Change}
    (bumped : bump dryRun document = .ok (edit, change)) :
    ∃ (line : Line) (counter : Counter),
      Line.first? document.lines = some line ∧
      document.lines[line.index.toNat]? =
        some (line.tagPart
          ++ (line.valuePart.leading ++ (line.value ++ line.valuePart.trailing))) ∧
      counter? (.ofLines document.lines) line.value = some counter ∧
      ∀ dryRuns : List Bool, dryRuns ≠ [] →
        (∀ k : Nat, 0 < k → k ≤ dryRuns.length → Numeral.IsShort (counter.number + k)) →
        let number := counter.number + dryRuns.length
        let rows := document.lines.set line.index.toNat (line.tagPart
          ++ (line.valuePart.leading
            ++ (Numeral.signed number ++ counter.rest ++ line.valuePart.trailing)))
        bumpAll document dryRuns = .ok (document.withLines rows) ∧
          (document.withLines rows).lines = rows := by
  obtain ⟨planned, -⟩ := bump_eq_ok_iff.1 bumped
  obtain ⟨site, counter, bumps, rows, -⟩ := plan_eq_ok_iff.1 planned
  have lines : AreLines site.rows := rows ▸ document.areLines
  have row (number : Int) : site.rows.set site.above.length (site.tag ++ [':']
      ++ (site.valuePart.leading
        ++ (Numeral.signed number ++ counter.rest ++ site.valuePart.trailing))) =
      (site.numbered counter number).rows := by
    rw [Site.numbered, Site.rows_withValue, Site.row_withValue]
    simp [Counter.valueAt]
  refine ⟨site.line, counter, rows ▸ site.first?_rows, ?_, rows ▸ bumps.counted, ?_⟩
  · have whole := Text.leading_append_trim_append_trailing site.valuePart
    simp [← rows, Site.rows, Site.line, Site.row, Line.value, whole]
  · -- The first bump may find its number otherwise than the later ones and stands alone.
    intro dryRuns some short
    obtain ⟨first, more, rfl⟩ := List.exists_cons_of_ne_nil some
    intro number result
    have same : result = (site.numbered counter number).rows := by
      simp only [result, ← rows]
      exact row number
    have count : counter.number + 1 + more.length = number := by
      simp only [number, List.length_cons]
      omega
    rw [same, bumpAll_cons rows bumps, bumpAll_numbered lines bumps.counted more (by omega), count]
    · exact ⟨rfl, document.lines_withLines (Site.areLines_numbered lines bumps.counted number)⟩
    · intro k bound
      have next := short (k + 1) (Nat.succ_pos k) (by simpa using bound)
      have same : counter.number + 1 + k = counter.number + (k + 1 : Nat) := by omega
      rwa [same]

def negativeRelease : Document where
  path := Path.ofText "a.spec".toList
  text := "%global n -2\nrelease :\t%\x7bn\x7d \nRelease: 7".toList

theorem bumpAll_counts_up_negativeRelease :
    ∃ edit change, bump false negativeRelease = .ok (edit, change) ∧
      bumpAll negativeRelease [true, false, false] =
        .ok { negativeRelease with
          text := "%global n -2\nrelease :\t1 \nRelease: 7".toList } := by
  have succeeds : (bump false negativeRelease).toOption.map (fun _ => ()) = some () := by
    decide +kernel
  obtain ⟨⟨edit, change⟩, bumped, -⟩ := exists_of_toOption_map succeeds
  obtain ⟨line, counter, first, -, counted, run⟩ := bumpAll_counts_up bumped
  have found : Line.first? negativeRelease.lines =
      some ⟨1, "release".toList, "release :".toList, "\t%\x7bn\x7d ".toList⟩ := by decide
  cases found.symm.trans first
  have number : counter? (.ofLines negativeRelease.lines) "%\x7bn\x7d".toList =
      some ⟨true, ['2'], [], true⟩ := by decide +kernel
  cases number.symm.trans counted
  have short : ∀ k < 4, Numeral.IsShort (-2 + (k : Nat)) := by decide +kernel
  have result := run [true, false, false] (by simp) fun k _ bound =>
    short k (Nat.lt_succ_of_le bound)
  refine ⟨edit, change, bumped, result.1.trans (congrArg Except.ok ?_)⟩
  decide +kernel

end Specfile.Edit
