import FixCorpus.Proofs.Patch.Edits

/-! The lines that the edits of a hunk name. They are the lines that the hunk is
numbered with and the one before them, so that what holds of these holds of the
lines of each edit. -/

namespace FixCorpus

namespace OpenEdit

def sourceLines : OpenEdit → List Int
  | .none => []
  | .insertion i => [i.previousLine]
  | .replacement first others _ => first :: others

theorem sourceLines_subset {open_ : OpenEdit} {e : Edit} (complete : open_.edit? = some e) :
    e.sourceLines ⊆ open_.sourceLines := by
  cases open_ with
  | none => cases complete
  | insertion i =>
    cases complete
    exact List.Subset.refl _
  | replacement first others targets =>
    cases targets with
    | nil =>
      cases complete
      have last := List.getLast_mem (List.cons_ne_nil first others)
      exact List.cons_subset.2 ⟨List.mem_cons_self, List.cons_subset.2 ⟨last, List.nil_subset _⟩⟩
    | cons t targets =>
      cases complete
      exact List.Subset.refl _

end OpenEdit

namespace EditScan

structure Names (P : Int → Prop) (s : EditScan) : Prop where
  previous : P s.previousLine
  current : ∀ n ∈ s.current.sourceLines, P n
  edits : s.edits.All fun e => ∀ n ∈ e.sourceLines, P n

variable {P : Int → Prop} {s : EditScan}

theorem Names.flush (h : s.Names P) : s.flush.Names P := by
  refine ⟨?_, by simp [OpenEdit.sourceLines], ?_⟩ <;> unfold EditScan.flush <;> split
  · exact h.previous
  · exact h.previous
  · rename_i e complete
    exact h.edits.push fun n member => h.current n (OpenEdit.sourceLines_subset complete member)
  · exact h.edits

theorem Names.remove (h : s.Names P) {line : Int} (named : P line) : (s.remove line).Names P := by
  unfold EditScan.remove
  split
  · rename_i first others targets current
    have known := h.current
    rw [current] at known
    have longer : ∀ n ∈ first :: others ++ [line], P n :=
      List.forall_mem_append.2 ⟨known, List.forall_mem_singleton.2 named⟩
    exact ⟨named, longer, h.edits⟩
  · exact ⟨named, List.forall_mem_singleton.2 named, h.flush.edits⟩

theorem Names.add (h : s.Names P) (target : Int) (text : String) : (s.add target text).Names P := by
  have known := h.current
  unfold EditScan.add
  split
  · exact ⟨h.previous, List.forall_mem_singleton.2 h.previous, h.edits⟩
  · rename_i current
    rw [current] at known
    exact ⟨h.previous, known, h.edits⟩
  · rename_i current
    rw [current] at known
    exact ⟨h.previous, known, h.edits⟩

theorem Names.step (h : s.Names P) {l : HunkLine} (named : ∀ n ∈ l.sourceLine, P n) :
    (s.step l).Names P := by
  unfold EditScan.step
  split
  · rename_i line _ number
    exact { h.flush with previous := named line number }
  · exact h.flush
  · rename_i line _ number
    exact h.remove (named line number)
  · split
    · exact h.flush
    · exact h
  · exact h.add _ _

end EditScan

theorem Hunk.edits_names {P : Int → Prop} {h : Hunk} (front : P (EditScan.start h).previousLine)
    (lines : ∀ l ∈ h.lines, ∀ n ∈ l.sourceLine, P n) :
    h.edits.All fun e => ∀ n ∈ e.sourceLines, P n := by
  have scanned : ∀ (lines : List HunkLine) (s : EditScan), s.Names P →
      (∀ l ∈ lines, ∀ n ∈ l.sourceLine, P n) → (lines.foldl EditScan.step s).Names P := by
    intro lines
    induction lines with
    | nil => exact fun _ known _ => known
    | cons l lines ih =>
      intro s known named
      rw [List.forall_mem_cons] at named
      exact ih _ (known.step named.1) named.2
  have start : (EditScan.start h).Names P :=
    ⟨front, by simp [EditScan.start, OpenEdit.sourceLines], HunkEdits.all_empty⟩
  exact (scanned h.lines _ start lines).flush.edits

theorem FilePatch.edits_names {P : Int → Prop} {p : FilePatch}
    (front : ∀ h ∈ p.hunks, P (EditScan.start h).previousLine)
    (lines : ∀ h ∈ p.hunks, ∀ l ∈ h.lines, ∀ n ∈ l.sourceLine, P n) :
    p.edits.All fun e => ∀ n ∈ e.sourceLines, P n :=
  edits_induction HunkEdits.all_empty (fun _ _ left right => left.append right) fun h member =>
    Hunk.edits_names (front h member) (lines h member)

end FixCorpus
