import FixCorpus.Proofs.Edit.Removal
import FixCorpus.Proofs.Unification.Bounds

/-! The lines that a datapoint has to show. They reach from the first to the last
of the lines that its diagnostics and its edit name, also where these are no
lines of the source, and the readable context is what the source has of them and
of the lines around them. -/

namespace FixCorpus

namespace Unification

theorem linesBetween_eq_within {first : Int} (positive : 1 ≤ first) (last : Int)
    (all : List String) : linesBetween all first last = within first last all := by
  have in_range : ∀ i : Nat, (decide (first ≤ (i : Int) + 1) && decide ((i : Int) + 1 ≤ last)) =
      true ↔ (first - 1).toNat ≤ i ∧ i < (first - 1).toNat + (last - first + 1).toNat := fun i => by
    simp only [Bool.and_eq_true, decide_eq_true_eq]
    omega
  rw [linesBetween, within, keepLines_eq_take_drop _ in_range]

end Unification

theorem within_eq_nil {first last : Int} (empty : last < first) (lines : List String) :
    within first last lines = [] := by
  have none : ∀ i : Nat, 0 ≤ i → i < 0 + lines.length →
      (decide (first ≤ (i : Int) + 1) && decide ((i : Int) + 1 ≤ last)) = false := fun i _ _ => by
    simp only [Bool.and_eq_false_iff, decide_eq_false_iff_not]
    omega
  rw [within, keepLines, filter_zipIdx_of_dropped none, List.map_nil]

open Unification

namespace UnifiedDatapoint

/-- A diagnostic stands on the line, or the edit takes it out or puts lines directly behind it.
The top is not a line. -/
def Names (d : UnifiedDatapoint) (line : Int) : Prop :=
  (∃ x ∈ d.occurrences, x.line = line) ∨ removesLine line d.edit = true ∨
    (insertsBehind line d.edit = true ∧ line ≠ 0)

/-- The required lines are those from the first to the last one that is named. -/
structure Spans (d : UnifiedDatapoint) : Prop where
  positive : 1 ≤ d.requiredLinesStart
  ordered : d.requiredLinesStart ≤ d.requiredLinesEnd
  named : ∀ line, d.Names line → d.requiredLinesStart ≤ line ∧ line ≤ d.requiredLinesEnd
  first_named : d.Names d.requiredLinesStart
  last_named : d.Names d.requiredLinesEnd

/-- The readable context has the required lines and three more on each side, as far as the source
has them. -/
structure ShowsContext (d : UnifiedDatapoint) (lines : List String) : Prop where
  start : d.fileContextStart = max 1 (d.requiredLinesStart - 3)
  none_before : 0 ≤ d.fileContextStart - 1
  context : d.fileContext =
    within d.fileContextStart (min lines.length (d.requiredLinesEnd + 3)) lines
  empty : min (lines.length : Int) (d.requiredLinesEnd + 3) < d.fileContextStart →
    d.fileContext = []

end UnifiedDatapoint

section

variable {edits : HunkEdits} {o : Origin} {p : FilePatch} {severity : String}
  {lines : List String} {e : Edit} {first : Occurrence} {others : List Occurrence}
  {start : Int} {count : Nat} {target : List String}

theorem Unification.Touches.removed {line : Int} (h : Touches edits line e)
    (splices : e.Splices start count target) (some_out : 0 < count) :
    start < line ∧ line ≤ start + count := by
  rcases h with removes | ⟨-, above | below⟩
  · exact (splices.removesLine_iff line).1 removes
  · have behind := splices.eq_of_insertsBehind above
    omega
  · have behind := splices.eq_of_insertsBehind below
    omega

theorem Edit.Splices.insertsBehind_start (splices : e.Splices start 0 target) :
    insertsBehind start e = true := by
  cases splices with
  | insert => simp [insertsBehind]

theorem showsContext_datapoint (o : Origin) (p : FilePatch) (severity : String)
    (lines : List String) (e : Edit) (first : Occurrence) (others : List Occurrence) :
    (datapoint o p severity lines e first others).ShowsContext lines := by
  have context : (datapoint o p severity lines e first others).fileContext =
      within (datapoint o p severity lines e first others).fileContextStart
        (min lines.length ((datapoint o p severity lines e first others).requiredLinesEnd + 3))
        lines := by
    rw [Int.min_comm]
    exact linesBetween_eq_within (Int.le_max_right _ 1) _ lines
  have starts : (datapoint o p severity lines e first others).fileContextStart =
      max 1 ((datapoint o p severity lines e first others).requiredLinesStart - 3) :=
    Int.max_comm _ _
  exact ⟨starts, by omega, context, fun empty => context.trans (within_eq_nil empty lines)⟩

variable (touched : ∀ x ∈ first :: others, Touches edits x.line e)
include touched

theorem spans_of_insertion (positive : ∀ x ∈ first :: others, 1 ≤ x.line)
    (splices : e.Splices start 0 target) :
    (datapoint o p severity lines e first others).Spans := by
  have near := fun x member => (touched x member).near splices
  have greatest := @line_le_foldl_max first others
  obtain ⟨x, x_member, least_eq⟩ := exists_line_eq_foldl min (by omega) first others
  obtain ⟨y, y_member, greatest_eq⟩ := exists_line_eq_foldl max (by omega) first others
  have x_near := near x x_member
  have y_near := near y y_member
  have y_positive := positive y y_member
  -- Every diagnostic stands on the line before the insertion or on the one behind it.
  have start_eq : (datapoint o p severity lines e first others).requiredLinesStart =
      max start 1 := by
    simp only [datapoint, splices.sourceSpan_eq, if_pos, least_eq]
    omega
  have stop_eq : (datapoint o p severity lines e first others).requiredLinesEnd = y.line := by
    simp only [datapoint, splices.sourceSpan_eq, if_pos, greatest_eq]
  constructor
  case positive => omega
  case ordered => omega
  case named =>
    rw [start_eq, stop_eq]
    rintro line (⟨z, z_member, rfl⟩ | removes | ⟨behind, not_top⟩)
    · have z_near := near z z_member
      have z_positive := positive z z_member
      have z_le := greatest z z_member
      omega
    · have block := (splices.removesLine_iff line).1 removes
      omega
    · have place := (splices.eq_of_insertsBehind behind).2
      omega
  case first_named =>
    rw [start_eq]
    by_cases top : start < 1
    · exact Or.inl ⟨y, y_member, by omega⟩
    · rw [Int.max_eq_left (by omega)]
      exact Or.inr (Or.inr ⟨splices.insertsBehind_start, by omega⟩)
  case last_named => exact Or.inl ⟨y, y_member, stop_eq.symm⟩

theorem spans_of_removal (splices : e.Splices start count target) (some_out : 0 < count)
    (after_top : 0 ≤ start) : (datapoint o p severity lines e first others).Spans := by
  have removed := fun x member => (touched x member).removed splices some_out
  obtain ⟨x, x_member, least_eq⟩ := exists_line_eq_foldl min (by omega) first others
  obtain ⟨y, y_member, greatest_eq⟩ := exists_line_eq_foldl max (by omega) first others
  have x_removed := removed x x_member
  have y_removed := removed y y_member
  have start_eq : (datapoint o p severity lines e first others).requiredLinesStart =
      start + 1 := by
    simp only [datapoint, splices.sourceSpan_eq, if_neg (Nat.ne_of_gt some_out), least_eq]
    omega
  have stop_eq : (datapoint o p severity lines e first others).requiredLinesEnd =
      start + count := by
    simp only [datapoint, splices.sourceSpan_eq, if_neg (Nat.ne_of_gt some_out), greatest_eq]
    exact Int.max_eq_left (by omega)
  constructor
  case positive => omega
  case ordered => omega
  case named =>
    rw [start_eq, stop_eq]
    rintro line (⟨z, z_member, rfl⟩ | removes | ⟨behind, -⟩)
    · have z_removed := removed z z_member
      omega
    · have block := (splices.removesLine_iff line).1 removes
      omega
    · have none_out := (splices.eq_of_insertsBehind behind).1
      omega
  case first_named =>
    exact Or.inr (Or.inl ((splices.removesLine_iff _).2 (by omega)))
  case last_named =>
    exact Or.inr (Or.inl ((splices.removesLine_iff _).2 (by omega)))

end

theorem spans_and_shows_context {text : String} {patches : List FilePatch}
    (read : Patch.read text = .ok patches) {p : FilePatch} (patch : p ∈ patches)
    (begins : ∀ h ∈ p.hunks, 1 ≤ h.sourceStart ∨ h.sourceLength = 0) {o : Origin}
    {diagnostics : List DiagnosticRecord} (positive : ∀ r ∈ diagnostics, 1 ≤ r.line)
    {source : String} (fits : UnifiesExactly o p diagnostics source) {d : UnifiedDatapoint}
    (unified : d ∈ unifyFilePatch o p diagnostics source) :
    d.Spans ∧ d.ShowsContext (Text.readLines source) ∧ d.LinesFit := by
  have lines_fit := linesFit_of_mem_unifyFilePatch fits unified
  obtain ⟨severity, key, e, first, others, found, matched, rfl⟩ := mem_unifyFilePatch unified
  refine ⟨?_, showsContext_datapoint .., lines_fit⟩
  obtain ⟨length, start, count, splices, -, bounds⟩ := get?_of_all
    (p.edits_exists_blockwise (fun _ => Patch.numbered_read read patch)
      (fun _ => Patch.counted_read read patch) begins) found
  have touched := fun x member => (matched x member).1
  have lines_positive : ∀ x ∈ first :: others, 1 ≤ x.line := fun x member => by
    obtain ⟨r, given, rfl⟩ := (matched x member).2
    exact positive r given
  cases count with
  | zero => exact spans_of_insertion touched lines_positive splices
  | succ count =>
    have some_out := Nat.succ_pos count
    exact spans_of_removal touched splices some_out (bounds some_out).1

theorem spans_and_shows_context_past_the_end :
    let source := "a;\nb;\n"
    let p : FilePatch := ⟨"a/Cart.cs", "b/Cart.cs", [⟨9, 0, 10, 1, "", [
      ⟨.added, "c;", none, some 10⟩]⟩]⟩
    let o : Origin := ⟨"fix", "shop", "Shop.sln", "c1", "", "SA1517", none⟩
    let diagnostics : List DiagnosticRecord :=
      [⟨"shop", "SA1517", "Cart.cs", "Add 'c'", 10, 1, "Warning"⟩,
        ⟨"shop", "SA1517", "Cart.cs", "Add 'd'", 10, 4, "Warning"⟩]
    let d : UnifiedDatapoint := {
      repo := "shop", repoUrl := none, solutionFile := "Shop.sln", filePath := "Cart.cs"
      numberFileLines := 2, commit := "c1", fileUrl := none, diagnosticId := "SA1517"
      analyzerNuGet := "", severity := "Warning", requiredLinesStart := 9, requiredLinesEnd := 10
      occurrences := [⟨"Add 'c'", 10, 1⟩, ⟨"Add 'd'", 10, 4⟩], edit := .insert ⟨9, 10, ["c;"]⟩
      fileContextStart := 6, fileContext := [] }
    UnifiesExactly o p diagnostics source ∧ d ∈ unifyFilePatch o p diagnostics source ∧
      d.Spans ∧ d.ShowsContext (Text.readLines source) ∧ d.LinesFit := by
  intro source p o diagnostics d
  have read : Patch.read "--- a/Cart.cs\n+++ b/Cart.cs\n@@ -9,0 +10,1 @@\n+c;\n" = .ok [p] := by
    decide +kernel
  have fits : UnifiesExactly o p diagnostics source := by
    refine ⟨List.forall_mem_singleton.2 ⟨by decide, by decide⟩, by decide, by decide +kernel,
      by decide +kernel⟩
  have unified : d ∈ unifyFilePatch o p diagnostics source := by
    decide +kernel
  exact ⟨fits, unified,
    spans_and_shows_context read List.mem_cons_self (by decide) (by decide) fits unified⟩

end FixCorpus
