import FixCorpus.Proofs.Patch.Edits
import FixCorpus.Unification

/-! The datapoints of a patched file. A diagnostic is matched with an edit that
takes its line out or brings lines in directly before or behind it, so that the
lines a datapoint has to show are those around its edit. -/

namespace FixCorpus

namespace Edit.Splices

open Unification

variable {start : Int} {count : Nat} {target : List String} {e : Edit}

theorem removesLine_iff (h : e.Splices start count target) (line : Int) :
    removesLine line e = true ↔ start < line ∧ line ≤ start + count := by
  cases h with
  | insert =>
    simp only [removesLine, Bool.false_eq_true, false_iff]
    omega
  | delete more =>
    simp only [removesLine, Bool.and_eq_true, decide_eq_true_eq]
    omega
  | replace more =>
    simp only [removesLine, List.contains_iff_mem, mem_consecutive]
    omega

theorem eq_of_insertsBehind (h : e.Splices start count target) {line : Int}
    (behind : insertsBehind line e = true) : count = 0 ∧ line = start := by
  cases h with
  | insert => exact ⟨rfl, by simpa [insertsBehind, eq_comm] using behind⟩
  | delete => cases behind
  | replace => cases behind

end Edit.Splices

namespace Unification

/-- A diagnostic on the line can be matched with the edit. -/
def Touches (edits : HunkEdits) (line : Int) (e : Edit) : Prop :=
  removesLine line e = true ∨
    (e ∈ edits.insertions ∧ (insertsBehind (line - 1) e = true ∨ insertsBehind line e = true))

/-- Each batch is of an edit that its occurrences, which are among the given ones, can be matched
with. -/
def Fits (edits : HunkEdits) (given : List Occurrence)
    (batches : List (EditKey × List Occurrence)) : Prop :=
  ∀ batch ∈ batches, ∀ o ∈ batch.2,
    o ∈ given ∧ ∃ e, batch.1.get? edits = some e ∧ Touches edits o.line e

variable {edits : HunkEdits} {given : List Occurrence} {o : Occurrence}

theorem Fits.addTo {batches : List (EditKey × List Occurrence)} (h : Fits edits given batches)
    {key : EditKey} (known : o ∈ given)
    (new : ∃ e, key.get? edits = some e ∧ Touches edits o.line e) :
    Fits edits given (addTo key o batches) := by
  induction batches with
  | nil => simpa [Fits, Unification.addTo, known] using new
  | cons batch batches ih =>
    rw [Fits, List.forall_mem_cons] at h
    unfold Unification.addTo
    split
    · rename_i same
      rw [← same] at new
      exact List.forall_mem_cons.2
        ⟨List.forall_mem_append.2 ⟨h.1, List.forall_mem_singleton.2 ⟨known, new⟩⟩, h.2⟩
    · exact List.forall_mem_cons.2 ⟨h.1, ih h.2⟩

theorem exists_of_findIdx? {p : Edit → Bool} {es : List Edit} {i : Nat}
    (found : es.findIdx? p = some i) : ∃ e, es[i]? = some e ∧ p e = true := by
  obtain ⟨bound, holds, -⟩ := List.findIdx?_eq_some_iff_getElem.1 found
  exact ⟨es[i], List.getElem?_eq_getElem bound, holds⟩

theorem touches_of_findRemoval {line : Int} {key : EditKey}
    (found : findRemoval edits line = some key) :
    ∃ e, key.get? edits = some e ∧ Touches edits line e := by
  unfold findRemoval at found
  split at found
  · rename_i i replaced
    cases found
    obtain ⟨e, at_i, removes⟩ := exists_of_findIdx? replaced
    exact ⟨e, at_i, Or.inl removes⟩
  · obtain ⟨i, deleted, rfl⟩ := Option.map_eq_some_iff.1 found
    obtain ⟨e, at_i, removes⟩ := exists_of_findIdx? deleted
    exact ⟨e, at_i, Or.inl removes⟩

theorem exists_of_findAbove {below : List Nat} {line : Int} {i : Nat}
    (found : findAbove edits below line = some i) :
    ∃ e, edits.insertions[i]? = some e ∧ insertsBehind (line - 1) e = true := by
  obtain ⟨⟨e, j⟩, first, rfl⟩ := Option.map_eq_some_iff.1 found
  have holds := List.find?_some first
  simp only [Bool.and_eq_true] at holds
  exact ⟨e, List.mem_zipIdx_iff_getElem?.1 (List.mem_of_find?_eq_some first), holds.1⟩

theorem touches_of_findAbove {below : List Nat} {line : Int} {i : Nat}
    (found : findAbove edits below line = some i) :
    ∃ e, (EditKey.insertion i).get? edits = some e ∧ Touches edits line e := by
  obtain ⟨e, at_i, behind⟩ := exists_of_findAbove found
  exact ⟨e, at_i, Or.inr ⟨List.mem_of_getElem? at_i, Or.inl behind⟩⟩

theorem touches_of_findBelow {line : Int} {i : Nat} (found : findBelow edits line = some i) :
    ∃ e, (EditKey.insertion i).get? edits = some e ∧ Touches edits line e := by
  obtain ⟨e, at_i, behind⟩ := exists_of_findIdx? found
  exact ⟨e, at_i, Or.inr ⟨List.mem_of_getElem? at_i, Or.inr behind⟩⟩

theorem fits_step {m : Matching} (h : Fits edits given m.batches) (known : o ∈ given) :
    Fits edits given (m.step edits o).batches := by
  unfold Matching.step
  split
  · rename_i key found
    exact h.addTo known (touches_of_findRemoval found)
  · split
    · rename_i i found
      exact h.addTo known (touches_of_findAbove found)
    · split
      · rename_i i found
        exact h.addTo known (touches_of_findBelow found)
      · exact h

theorem fits_matchOccurrences (edits : HunkEdits) (given : List Occurrence) :
    Fits edits given (matchOccurrences edits given).batches := by
  have more : ∀ (occurrences : List Occurrence) (m : Matching), occurrences ⊆ given →
      Fits edits given m.batches →
      Fits edits given (occurrences.foldl (Matching.step edits) m).batches := by
    intro occurrences
    induction occurrences with
    | nil => exact fun _ _ => id
    | cons o occurrences ih =>
      intro m known h
      rw [List.cons_subset] at known
      exact ih _ known.2 (fits_step h known.1)
  exact more given ⟨[], []⟩ (List.Subset.refl given) (by simp [Fits])

theorem le_foldl_max (others : List Occurrence) (n : Int) :
    n ≤ others.foldl (fun n d => max n d.line) n := by
  induction others generalizing n with
  | nil => exact Int.le_refl n
  | cons o others ih => exact Int.le_trans (Int.le_max_left n o.line) (ih _)

theorem foldl_min_le (others : List Occurrence) (n : Int) :
    others.foldl (fun n d => min n d.line) n ≤ n := by
  induction others generalizing n with
  | nil => exact Int.le_refl n
  | cons o others ih => exact Int.le_trans (ih _) (Int.min_le_left n o.line)

theorem foldl_max_le {others : List Occurrence} {n limit : Int} (first : n ≤ limit)
    (rest : ∀ o ∈ others, o.line ≤ limit) :
    others.foldl (fun n d => max n d.line) n ≤ limit := by
  induction others generalizing n with
  | nil => exact first
  | cons o others ih =>
    rw [List.forall_mem_cons] at rest
    exact ih (Int.max_le.2 ⟨first, rest.1⟩) rest.2

theorem exists_line_eq_foldl (choose : Int → Int → Int)
    (either : ∀ a b, choose a b = a ∨ choose a b = b) (first : Occurrence)
    (others : List Occurrence) :
    ∃ x ∈ first :: others, others.foldl (fun n d => choose n d.line) first.line = x.line := by
  have one_of : ∀ n, others.foldl (fun n d => choose n d.line) n = n ∨
      ∃ x ∈ others, others.foldl (fun n d => choose n d.line) n = x.line := by
    induction others with
    | nil => exact fun n => Or.inl rfl
    | cons o others ih =>
      intro n
      rw [List.foldl_cons]
      rcases ih (choose n o.line) with first | ⟨x, member, last⟩
      · rcases either n o.line with old | new
        · exact Or.inl (first.trans old)
        · exact Or.inr ⟨o, List.mem_cons_self, first.trans new⟩
      · exact Or.inr ⟨x, List.mem_cons_of_mem o member, last⟩
  rcases one_of first.line with same | ⟨x, member, same⟩
  · exact ⟨first, List.mem_cons_self, same⟩
  · exact ⟨x, List.mem_cons_of_mem first member, same⟩

theorem line_le_foldl_max {first : Occurrence} {others : List Occurrence} :
    ∀ x ∈ first :: others, x.line ≤ others.foldl (fun n d => max n d.line) first.line := by
  have more : ∀ n, ∀ x ∈ others, x.line ≤ others.foldl (fun n d => max n d.line) n := by
    induction others with
    | nil => simp
    | cons o others ih =>
      intro n
      rw [List.foldl_cons, List.forall_mem_cons]
      exact ⟨Int.le_trans (Int.le_max_right n o.line) (le_foldl_max others _), ih _⟩
  exact List.forall_mem_cons.2 ⟨le_foldl_max others _, more _⟩

theorem get?_of_all {P : Edit → Prop} (all : edits.All P) {key : EditKey} {e : Edit}
    (found : key.get? edits = some e) : P e := by
  cases key with
  | replacement i => exact all.replacements e (List.mem_of_getElem? found)
  | deletion i => exact all.deletions e (List.mem_of_getElem? found)
  | insertion i => exact all.insertions e (List.mem_of_getElem? found)

theorem Touches.near {line : Int} {e : Edit} (h : Touches edits line e) {start : Int} {count : Nat}
    {target : List String} (splices : e.Splices start count target) :
    start ≤ line ∧ line ≤ start + count + 1 := by
  rcases h with removes | ⟨-, above | below⟩
  · have block := (splices.removesLine_iff line).1 removes
    omega
  · have behind := splices.eq_of_insertsBehind above
    omega
  · have behind := splices.eq_of_insertsBehind below
    omega

theorem Touches.mem_insertions {line : Int} {e : Edit} (h : Touches edits line e) {start : Int}
    {target : List String} (splices : e.Splices start 0 target) : e ∈ edits.insertions := by
  rcases h with removes | ⟨member, -⟩
  · have block := (splices.removesLine_iff line).1 removes
    omega
  · exact member

end Unification

/-- The edit of the datapoint replaces the `count` lines behind the line `start`, which are among
those to be shown, in a file of `length` lines. -/
structure UnifiedDatapoint.Placed (d : UnifiedDatapoint) (length start count : Nat) : Prop where
  splices : d.edit.Splices start count d.edit.targetLines
  free : ∀ t ∈ d.edit.targetLines, '\n' ∉ t.toList
  inside : start + count ≤ length
  shown_start : d.requiredLinesStart ≤ start + 1
  shown_stop : start + count ≤ d.requiredLinesEnd
  near : ∀ o ∈ d.occurrences, start ≤ o.line ∧ o.line ≤ start + count + 1

def FilePatch.InsertsInside (p : FilePatch) (length : Nat) : Prop :=
  ∀ e ∈ p.edits.insertions, ∀ line ∈ e.sourceLines, 0 ≤ line ∧ line ≤ length

instance (p : FilePatch) (length : Nat) : Decidable (p.InsertsInside length) :=
  inferInstanceAs (Decidable (∀ e ∈ p.edits.insertions, ∀ line ∈ e.sourceLines,
    0 ≤ line ∧ line ≤ (length : Int)))

open Unification in
theorem placed_datapoint {o : Origin} {p : FilePatch} {severity : String}
    {fileLines : List String} {e : Edit} {first : Occurrence} {others : List Occurrence}
    {length : Nat} (blockwise : e.Blockwise length)
    (insertions : p.InsertsInside length)
    (touched : ∀ x ∈ first :: others, Touches p.edits x.line e) :
    ∃ start count, (datapoint o p severity fileLines e first others).Placed length start count := by
  obtain ⟨start, count, splices, free, bounds⟩ := blockwise
  have near := fun x member => (touched x member).near splices
  have start_near := near first List.mem_cons_self
  have in_file : 0 ≤ start ∧ start + count ≤ length := by
    cases count with
    | zero =>
      have member := (touched first List.mem_cons_self).mem_insertions splices
      have limits := insertions e member start splices.start_mem_sourceLines
      omega
    | succ count => exact bounds (Nat.succ_pos count)
  obtain ⟨start, rfl⟩ := Int.eq_ofNat_of_zero_le in_file.1
  have greatest := le_foldl_max others first.line
  refine ⟨start, count, splices, free, by omega, ?_, ?_, near⟩ <;>
    simp only [datapoint, splices.sourceSpan_eq] <;> by_cases none_out : count = 0
  · simp only [if_pos none_out]
    omega
  · simp only [if_neg none_out]
    omega
  · simp only [if_pos none_out]
    omega
  · simp only [if_neg none_out]
    exact Int.le_max_left _ _

open Unification in
theorem mem_unifyFilePatch {o : Origin} {p : FilePatch} {diagnostics : List DiagnosticRecord}
    {source : String} {d : UnifiedDatapoint} (member : d ∈ unifyFilePatch o p diagnostics source) :
    ∃ (severity : String) (key : EditKey) (e : Edit) (first : Occurrence) (others : List Occurrence),
      key.get? p.edits = some e ∧
      (∀ x ∈ first :: others, Touches p.edits x.line e ∧ ∃ r ∈ diagnostics, r.occurrence = x) ∧
      d = datapoint o p severity (Text.readLines source) e first others := by
  unfold unifyFilePatch at member
  obtain ⟨⟨key, group⟩, batch, made⟩ := List.mem_filterMap.1 member
  have fits := fits_matchOccurrences p.edits _ _ batch
  dsimp only at made
  split at made
  · rename_i e first others found
    refine ⟨_, key, e, first, others, found, fun x x_member => ?_, (Option.some.inj made).symm⟩
    obtain ⟨given, same, at_key, touches⟩ := fits x x_member
    rw [found] at at_key
    cases at_key
    obtain ⟨r, chosen, rfl⟩ := List.mem_map.1 (List.mem_eraseDups.1 given)
    exact ⟨touches, r, (List.mem_filter.1 chosen).1, rfl⟩
  · cases made

open Unification in
theorem placed_of_mem_unifyFilePatch {o : Origin} {p : FilePatch}
    {diagnostics : List DiagnosticRecord} {source : String} {d : UnifiedDatapoint}
    (member : d ∈ unifyFilePatch o p diagnostics source) {length : Nat}
    (blockwise : p.edits.All (Edit.Blockwise length))
    (insertions : p.InsertsInside length) :
    ∃ start count, d.Placed length start count := by
  obtain ⟨severity, key, e, first, others, found, matched, rfl⟩ := mem_unifyFilePatch member
  exact placed_datapoint (get?_of_all blockwise found) insertions fun x x_member =>
    (matched x x_member).1

open Unification in
theorem required_of_mem_unifyFilePatch {o : Origin} {p : FilePatch}
    {diagnostics : List DiagnosticRecord} {source : String} {d : UnifiedDatapoint}
    (member : d ∈ unifyFilePatch o p diagnostics source) {length start count : Nat}
    (placed : d.Placed length start count)
    (on_lines : ∀ r ∈ diagnostics, 1 ≤ r.line ∧ r.line ≤ length) :
    1 ≤ d.requiredLinesStart ∧ d.requiredLinesStart ≤ d.requiredLinesEnd ∧
      d.requiredLinesEnd ≤ length := by
  obtain ⟨severity, key, e, first, others, -, matched, rfl⟩ := mem_unifyFilePatch member
  have bounds : ∀ x ∈ first :: others, 1 ≤ x.line ∧ x.line ≤ length := by
    intro x x_member
    obtain ⟨-, r, given, rfl⟩ := matched x x_member
    exact on_lines r given
  rw [List.forall_mem_cons] at bounds
  have least := foldl_min_le others first.line
  have greatest := le_foldl_max others first.line
  have limit := foldl_max_le bounds.1.2 fun x x_member => (bounds.2 x x_member).2
  have inside := placed.inside
  have span := placed.splices.sourceSpan_eq
  simp only [datapoint] at span ⊢
  rw [span]
  by_cases none_out : count = 0
  · simp only [if_pos none_out]
    omega
  · simp only [if_neg none_out]
    exact ⟨by omega, Int.le_trans (by omega) (Int.le_max_right _ _),
      Int.max_le.2 ⟨by omega, limit⟩⟩

/-- The lines of the hunks that stay or go out are the lines of the file that they are numbered
with, and lines come in behind lines of the file or at its top. -/
structure FilePatch.AppliesTo (p : FilePatch) (lines : List String) : Prop where
  source : ∀ h ∈ p.hunks, ∀ l ∈ h.lines, l.kind ≠ .added →
    l.sourceLine.bind (lineAt? lines) = some l.text
  insertions : p.InsertsInside lines.length

theorem FilePatch.AppliesTo.inside {p : FilePatch} {lines : List String} (h : p.AppliesTo lines) :
    ∀ g ∈ p.hunks, g.Inside lines.length := by
  intro g hunk l line kind number numbered
  have found := h.source g hunk l line kind
  rw [numbered] at found
  exact bounds_of_lineAt? found

theorem placed_of_patch {text : String} {patches : List FilePatch}
    (read : Patch.read text = .ok patches) {p : FilePatch} (patch : p ∈ patches)
    {source : String} (applies : p.AppliesTo (Text.readLines source)) {o : Origin}
    {diagnostics : List DiagnosticRecord} {d : UnifiedDatapoint}
    (unified : d ∈ unifyFilePatch o p diagnostics source) :
    ∃ start count, d.Placed (Text.readLines source).length start count :=
  placed_of_mem_unifyFilePatch unified
    (FilePatch.edits_blockwise (fun _ => Patch.numbered_read read patch) applies.inside)
    applies.insertions

end FixCorpus
