import FixCorpus.Proofs.Patch.NamedLines
import FixCorpus.Proofs.Text.Decimal
import FixCorpus.Proofs.Unification

/-! Line numbers of 64 bits. They come from a patch and from diagnostics, and few
sums are made of them. Main statement: if 64 bits hold those numbers and three of
the sums, they hold all numbers of the datapoints and every other sum. -/

namespace FixCorpus

open Text

structure Hunk.LinesFit (h : Hunk) : Prop where
  front : FitsInt (EditScan.start h).previousLine
  lines : ∀ l ∈ h.lines, ∀ n ∈ l.sourceLine, FitsInt n

/-- 64 bits hold the line numbers of the datapoint and what its readable context is found with. -/
structure UnifiedDatapoint.LinesFit (d : UnifiedDatapoint) : Prop where
  occurrences : ∀ x ∈ d.occurrences, FitsInt x.line
  edit : ∀ n ∈ d.edit.sourceLines, FitsInt n
  start : FitsInt d.requiredLinesStart
  stop : FitsInt d.requiredLinesEnd
  before : FitsInt (d.requiredLinesStart - Unification.contextRadius)
  contextStart : FitsInt d.fileContextStart
  contextLength : FitsInt (min (d.requiredLinesEnd + Unification.contextRadius) d.numberFileLines -
    d.fileContextStart + 1)

open Unification in
/-- Matching does not overflow: 64 bits hold the given lines, the line above each diagnostic for
which insertions are looked through, and the last line that a context may show. -/
structure UnifiesExactly (o : Origin) (p : FilePatch) (diagnostics : List DiagnosticRecord)
    (source : String) : Prop where
  hunks : ∀ h ∈ p.hunks, h.LinesFit
  records : ∀ r ∈ diagnostics, FitsInt r.line
  above : ∀ r ∈ relevant o p diagnostics, findRemoval p.edits r.line = none →
    p.edits.insertions ≠ [] → FitsInt (r.line - 1)
  shown : ∀ d ∈ unifyFilePatch o p diagnostics source, FitsInt (d.requiredLinesEnd + contextRadius)

theorem Edit.fitsInt_sourceSpan {e : Edit} (lines : ∀ n ∈ e.sourceLines, FitsInt n) :
    FitsInt e.sourceSpan.1 ∧ ∀ last ∈ e.sourceSpan.2, FitsInt last := by
  cases e with
  | insert i => exact ⟨lines _ List.mem_cons_self, nofun⟩
  | delete d =>
    refine ⟨lines _ List.mem_cons_self, ?_⟩
    rintro last ⟨⟩
    exact lines _ (List.mem_cons_of_mem _ List.mem_cons_self)
  | replace r =>
    obtain ⟨sourceLines, targetLines⟩ := r
    refine ⟨?_, fun last found => lines last (List.mem_of_getLast? found)⟩
    cases sourceLines with
    | nil => exact show FitsInt 0 by decide
    | cons first others => exact lines first List.mem_cons_self

namespace Unification

theorem linesFit_datapoint {o : Origin} {p : FilePatch} {severity : String}
    {fileLines : List String} {e : Edit} {first : Occurrence} {others : List Occurrence}
    (lines : ∀ n ∈ e.sourceLines, FitsInt n) (occurrences : ∀ x ∈ first :: others, FitsInt x.line)
    (shown : FitsInt
      ((datapoint o p severity fileLines e first others).requiredLinesEnd + contextRadius)) :
    (datapoint o p severity fileLines e first others).LinesFit := by
  obtain ⟨x, x_member, least_eq⟩ := exists_line_eq_foldl min (by omega) first others
  obtain ⟨y, y_member, greatest_eq⟩ := exists_line_eq_foldl max (by omega) first others
  have x_fits := occurrences x x_member
  have y_fits := occurrences y y_member
  -- The least and the greatest line are lines of two of the occurrences.
  have x_le : x.line ≤ y.line := greatest_eq ▸ line_le_foldl_max x x_member
  obtain ⟨front_fits, last_fits⟩ := Edit.fitsInt_sourceSpan lines
  have start_eq : (datapoint o p severity fileLines e first others).requiredLinesStart =
      max (min x.line e.sourceSpan.1) 1 := by
    rw [datapoint, least_eq]
  have stop_eq : (datapoint o p severity fileLines e first others).requiredLinesEnd =
      max (e.sourceSpan.2.getD y.line) y.line := by
    simp only [datapoint, greatest_eq]
    cases e.sourceSpan.2 with
    | none => exact (Int.max_self _).symm
    | some last => rfl
  have last_or_line : FitsInt (e.sourceSpan.2.getD y.line) := by
    cases found : e.sourceSpan.2 with
    | none => exact y_fits
    | some last => exact last_fits last found
  have contextStart_eq : (datapoint o p severity fileLines e first others).fileContextStart =
      max ((datapoint o p severity fileLines e first others).requiredLinesStart -
        contextRadius) 1 := rfl
  refine ⟨occurrences, lines, ?_, ?_, ?_, ?_, ?_⟩ <;>
    simp only [contextStart_eq, start_eq, stop_eq, FitsInt, leastInt, greatestInt,
      contextRadius] at x_fits y_fits front_fits last_or_line shown ⊢ <;> omega

end Unification

open Unification in
theorem linesFit_of_mem_unifyFilePatch {o : Origin} {p : FilePatch}
    {diagnostics : List DiagnosticRecord} {source : String}
    (fits : UnifiesExactly o p diagnostics source) {d : UnifiedDatapoint}
    (member : d ∈ unifyFilePatch o p diagnostics source) : d.LinesFit := by
  have shown := fits.shown d member
  obtain ⟨severity, key, e, first, others, found, matched, rfl⟩ := mem_unifyFilePatch member
  have named := FilePatch.edits_names (fun h listed => (fits.hunks h listed).front)
    fun h listed => (fits.hunks h listed).lines
  refine linesFit_datapoint (get?_of_all named found) (fun x x_member => ?_) shown
  obtain ⟨-, r, given, rfl⟩ := matched x x_member
  exact fits.records r given

end FixCorpus
