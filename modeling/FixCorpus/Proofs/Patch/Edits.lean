import FixCorpus.Proofs.Edit
import FixCorpus.Proofs.Patch.Numbering

/-! The edits of a hunk. The lines that an edit takes out follow each other, as
the scan meets them, so that every edit of a patch replaces a block of lines. -/

namespace FixCorpus

namespace HunkEdits

structure All (P : Edit → Prop) (edits : HunkEdits) : Prop where
  replacements : ∀ e ∈ edits.replacements, P e
  insertions : ∀ e ∈ edits.insertions, P e
  deletions : ∀ e ∈ edits.deletions, P e

variable {P : Edit → Prop} {a b : HunkEdits}

theorem all_empty : empty.All P :=
  ⟨by simp [empty], by simp [empty], by simp [empty]⟩

theorem All.push (h : a.All P) {e : Edit} (new : P e) : (a.push e).All P := by
  have more : ∀ {edits : List Edit}, (∀ x ∈ edits, P x) → ∀ x ∈ edits ++ [e], P x := fun old =>
    List.forall_mem_append.2 ⟨old, List.forall_mem_singleton.2 new⟩
  cases e with
  | insert => exact { h with insertions := more h.insertions }
  | delete => exact { h with deletions := more h.deletions }
  | replace => exact { h with replacements := more h.replacements }

theorem All.mono {Q : Edit → Prop} (h : a.All P) (weaker : ∀ e, P e → Q e) : a.All Q :=
  ⟨fun e member => weaker e (h.replacements e member),
    fun e member => weaker e (h.insertions e member),
    fun e member => weaker e (h.deletions e member)⟩

theorem All.append (left : a.All P) (right : b.All P) : (a ++ b).All P := by
  refine ⟨fun e member => ?_, fun e member => ?_, fun e member => ?_⟩
  · exact (List.mem_append.1 member).elim (left.replacements e) (right.replacements e)
  · exact (List.mem_append.1 member).elim (left.insertions e) (right.insertions e)
  · exact (List.mem_append.1 member).elim (left.deletions e) (right.deletions e)

structure ByKind (edits : HunkEdits) : Prop where
  replacements : ∀ e ∈ edits.replacements, ∃ r, e = .replace r
  insertions : ∀ e ∈ edits.insertions, ∃ i, e = .insert i
  deletions : ∀ e ∈ edits.deletions, ∃ d, e = .delete d

theorem byKind_empty : empty.ByKind :=
  ⟨by simp [empty], by simp [empty], by simp [empty]⟩

theorem ByKind.push (h : a.ByKind) (e : Edit) : (a.push e).ByKind := by
  cases e with
  | insert i =>
    exact { h with insertions := List.forall_mem_append.2 ⟨h.insertions, by simp⟩ }
  | delete d =>
    exact { h with deletions := List.forall_mem_append.2 ⟨h.deletions, by simp⟩ }
  | replace r =>
    exact { h with replacements := List.forall_mem_append.2 ⟨h.replacements, by simp⟩ }

theorem ByKind.append (left : a.ByKind) (right : b.ByKind) : (a ++ b).ByKind :=
  ⟨List.forall_mem_append.2 ⟨left.replacements, right.replacements⟩,
    List.forall_mem_append.2 ⟨left.insertions, right.insertions⟩,
    List.forall_mem_append.2 ⟨left.deletions, right.deletions⟩⟩

end HunkEdits

/-- The edit replaces a block of lines by lines without newlines. Lines that go out are lines of a
file of so many lines. -/
def Edit.Blockwise (length : Nat) (e : Edit) : Prop :=
  ∃ (start : Int) (count : Nat), e.Splices start count e.targetLines ∧
    (∀ t ∈ e.targetLines, '\n' ∉ t.toList) ∧ (0 < count → 0 ≤ start ∧ start + count ≤ length)

/-- The open edit reaches up to the line read last. -/
def OpenEdit.Reaches (length : Nat) (previousLine : Int) : OpenEdit → Prop
  | .none => True
  | .insertion i =>
    i.previousLine = previousLine ∧ i.targetLines ≠ [] ∧ ∀ t ∈ i.targetLines, '\n' ∉ t.toList
  | .replacement first others targets =>
    (∃ more : Nat, first :: others = consecutive first (more + 1) ∧ previousLine = first + more) ∧
      1 ≤ first ∧ previousLine ≤ length ∧ ∀ t ∈ targets, '\n' ∉ t.toList

theorem OpenEdit.splices_of_consecutive {first : Int} {others : List Int} {targets : List String}
    {more : Nat} (lines : first :: others = consecutive first (more + 1)) {e : Edit}
    (complete : (OpenEdit.replacement first others targets).edit? = some e) :
    e.Splices (first - 1) (more + 1) targets := by
  cases targets with
  | nil =>
    have last : (first :: others).getLast (by simp) = first + more := by
      simp only [lines, consecutive_succ, List.getLast_concat]
    have deletion : Edit.Splices (first - 1) _ _ _ := .delete more
    rw [Int.sub_add_cancel, ← last] at deletion
    cases complete
    exact deletion
  | cons t targets =>
    have replacement : Edit.Splices (first - 1) _ _ _ := .replace more (List.cons_ne_nil t targets)
    rw [Int.sub_add_cancel, ← lines] at replacement
    cases complete
    exact replacement

theorem OpenEdit.Reaches.blockwise {length : Nat} {previousLine : Int} {open_ : OpenEdit}
    (h : open_.Reaches length previousLine) {e : Edit} (complete : open_.edit? = some e) :
    e.Blockwise length := by
  cases open_ with
  | none => cases complete
  | insertion i =>
    cases complete
    obtain ⟨-, nonempty, free⟩ := h
    exact ⟨i.previousLine, 0, .insert i.targetStart nonempty, free, by omega⟩
  | replacement first others targets =>
    obtain ⟨⟨more, lines, reached⟩, positive, inside, free⟩ := h
    have splices := splices_of_consecutive lines complete
    exact ⟨first - 1, more + 1, splices.targetLines_eq.symm ▸ splices,
      splices.targetLines_eq.symm ▸ free, fun _ => by omega⟩

namespace EditScan

/-- The scan stands before the source line `next`. -/
structure Inv (length : Nat) (next : Int) (s : EditScan) : Prop where
  reached : s.previousLine + 1 = next
  current : s.current.Reaches length s.previousLine
  edits : s.edits.All (Edit.Blockwise length)

variable {length : Nat} {next : Int} {s : EditScan}

@[simp] theorem current_flush (s : EditScan) : s.flush.current = .none := by
  unfold EditScan.flush
  split <;> rfl

theorem Inv.flush (h : s.Inv length next) : s.flush.Inv length next := by
  unfold EditScan.flush
  split
  · rename_i e complete
    exact ⟨h.reached, trivial, h.edits.push (h.current.blockwise complete)⟩
  · exact ⟨h.reached, trivial, h.edits⟩

theorem Inv.remove (h : s.Inv length next) (positive : 1 ≤ next) (inside : next ≤ length) :
    (s.remove next).Inv length (next + 1) := by
  have flushed := h.flush
  unfold EditScan.remove
  split
  · rename_i first others targets current
    have reaches := h.current
    rw [current] at reaches
    obtain ⟨⟨more, lines, reached⟩, first_positive, -, free⟩ := reaches
    have next_eq : next = first + (more + 1 : Nat) := by
      have before := h.reached
      omega
    have longer : first :: (others ++ [next]) = consecutive first (more + 1 + 1) := by
      rw [consecutive_succ, ← lines, next_eq, List.cons_append]
    exact ⟨rfl, ⟨⟨more + 1, longer, next_eq⟩, first_positive, inside, free⟩, h.edits⟩
  · exact ⟨rfl, ⟨⟨0, rfl, by simp⟩, positive, inside, by simp⟩, flushed.edits⟩

theorem Inv.add (h : s.Inv length next) {text : String} (free : '\n' ∉ text.toList) (target : Int) :
    (s.add target text).Inv length next := by
  have reaches := h.current
  have more : ∀ {targets : List String}, (∀ t ∈ targets, '\n' ∉ t.toList) →
      ∀ t ∈ targets ++ [text], '\n' ∉ t.toList := fun old =>
    List.forall_mem_append.2 ⟨old, List.forall_mem_singleton.2 free⟩
  unfold EditScan.add
  split
  · exact ⟨h.reached, ⟨rfl, by simp, by simpa using free⟩, h.edits⟩
  · rename_i i current
    rw [current] at reaches
    obtain ⟨behind, -, targets_free⟩ := reaches
    exact ⟨h.reached, ⟨behind, by simp, more targets_free⟩, h.edits⟩
  · rename_i first others targets current
    rw [current] at reaches
    obtain ⟨lines, positive, inside, targets_free⟩ := reaches
    exact ⟨h.reached, ⟨lines, positive, inside, more targets_free⟩, h.edits⟩

theorem Inv.step_source (h : s.Inv length next) {l : HunkLine} (kind : l.kind ≠ .added)
    (number : l.sourceLine = some next) (positive : 1 ≤ next) (inside : next ≤ length) :
    (s.step l).Inv length (next + 1) := by
  unfold EditScan.step
  rw [number]
  cases case : l.kind with
  | context => exact ⟨rfl, by simp [OpenEdit.Reaches], h.flush.edits⟩
  | added => exact absurd case kind
  | removed => exact h.remove positive inside

theorem Inv.step_added (h : s.Inv length next) {l : HunkLine} (kind : l.kind = .added)
    (free : '\n' ∉ l.text.toList) : (s.step l).Inv length next := by
  unfold EditScan.step
  rw [kind]
  exact h.add free _

theorem Inv.foldl (h : s.Inv length next) {lines : List HunkLine}
    (numbered : NumberedFrom next lines)
    (inside : ∀ l ∈ lines, l.kind ≠ .added → ∀ n, l.sourceLine = some n → 1 ≤ n ∧ n ≤ length) :
    ∃ last, (lines.foldl EditScan.step s).Inv length last := by
  induction numbered generalizing s with
  | nil next => exact ⟨next, h⟩
  | source kind number free others ih =>
    have bounds := inside _ List.mem_cons_self kind _ number
    exact ih (h.step_source kind number bounds.1 bounds.2) fun l member =>
      inside l (List.mem_cons_of_mem _ member)
  | added kind free others ih =>
    exact ih (h.step_added kind free) fun l member => inside l (List.mem_cons_of_mem _ member)

end EditScan

/-- The source lines of a hunk are lines of a file of so many lines. -/
def Hunk.Inside (h : Hunk) (length : Nat) : Prop :=
  ∀ l ∈ h.lines, l.kind ≠ .added → ∀ n, l.sourceLine = some n → 1 ≤ n ∧ n ≤ length

theorem Hunk.exists_inside {h : Hunk} (numbered : h.Numbered) (counted : h.Counted)
    (begins : 1 ≤ h.sourceStart ∨ h.sourceLength = 0) : ∃ length, h.Inside length := by
  by_cases none : h.sourceLength = 0
  · have no_source : h.lines.countP (·.inSource) = 0 := by
      have said := counted.2
      omega
    refine ⟨0, fun l member kind => absurd ?_ (List.countP_eq_zero.1 no_source l member)⟩
    simpa [HunkLine.inSource] using kind
  · refine ⟨(h.sourceStart + h.lines.length).toNat, fun l member kind n number => ?_⟩
    have bounds := NumberedFrom.bounds numbered member kind number
    have first := begins.resolve_right none
    simp only [EditScan.start, if_neg none] at bounds
    omega

theorem Hunk.edits_blockwise {h : Hunk} {length : Nat} (numbered : h.Numbered)
    (inside : h.Inside length) : h.edits.All (Edit.Blockwise length) := by
  have start : (EditScan.start h).Inv length ((EditScan.start h).previousLine + 1) :=
    ⟨rfl, trivial, HunkEdits.all_empty⟩
  obtain ⟨last, scanned⟩ := start.foldl numbered inside
  exact scanned.flush.edits

theorem FilePatch.edits_induction {P : HunkEdits → Prop} {p : FilePatch} (empty : P .empty)
    (append : ∀ a b, P a → P b → P (a ++ b)) (each : ∀ h ∈ p.hunks, P h.edits) : P p.edits := by
  have more : ∀ (hunks : List Hunk) (edits : HunkEdits), (∀ h ∈ hunks, h ∈ p.hunks) → P edits →
      P (hunks.foldl (fun edits h => edits ++ h.edits) edits) := by
    intro hunks
    induction hunks with
    | nil => exact fun _ _ done => done
    | cons h hunks ih =>
      intro edits members done
      have first := members h List.mem_cons_self
      exact ih _ (fun g member => members g (List.mem_cons_of_mem h member))
        (append _ _ done (each h first))
  exact more p.hunks .empty (fun _ => id) empty

theorem FilePatch.edits_blockwise {p : FilePatch} {length : Nat}
    (numbered : ∀ h ∈ p.hunks, h.Numbered) (inside : ∀ h ∈ p.hunks, h.Inside length) :
    p.edits.All (Edit.Blockwise length) :=
  edits_induction HunkEdits.all_empty (fun _ _ left right => left.append right) fun h member =>
    Hunk.edits_blockwise (numbered h member) (inside h member)

theorem FilePatch.edits_exists_blockwise {p : FilePatch} (numbered : ∀ h ∈ p.hunks, h.Numbered)
    (counted : ∀ h ∈ p.hunks, h.Counted)
    (begins : ∀ h ∈ p.hunks, 1 ≤ h.sourceStart ∨ h.sourceLength = 0) :
    p.edits.All fun e => ∃ length, e.Blockwise length := by
  refine edits_induction HunkEdits.all_empty (fun _ _ left right => left.append right)
    fun h member => ?_
  obtain ⟨length, inside⟩ := Hunk.exists_inside (numbered h member) (counted h member)
    (begins h member)
  exact (Hunk.edits_blockwise (numbered h member) inside).mono fun e blockwise =>
    ⟨length, blockwise⟩

theorem EditScan.byKind_flush {s : EditScan} (h : s.edits.ByKind) : s.flush.edits.ByKind := by
  unfold EditScan.flush
  split
  · exact h.push _
  · exact h

theorem EditScan.byKind_step {s : EditScan} (h : s.edits.ByKind) (l : HunkLine) :
    (s.step l).edits.ByKind := by
  have flushed := byKind_flush h
  unfold EditScan.step
  split
  · exact flushed
  · exact flushed
  · unfold EditScan.remove
    split
    · exact h
    · exact flushed
  · split
    · exact flushed
    · exact h
  · unfold EditScan.add
    split <;> exact h

theorem Hunk.edits_byKind (h : Hunk) : h.edits.ByKind := by
  have more : ∀ (lines : List HunkLine) (s : EditScan), s.edits.ByKind →
      (lines.foldl EditScan.step s).edits.ByKind := by
    intro lines
    induction lines with
    | nil => exact fun _ => id
    | cons l lines ih => exact fun s known => ih _ (EditScan.byKind_step known l)
  exact EditScan.byKind_flush (more h.lines (.start h) HunkEdits.byKind_empty)

theorem FilePatch.edits_byKind (p : FilePatch) : p.edits.ByKind :=
  edits_induction HunkEdits.byKind_empty (fun _ _ left right => left.append right) fun h _ =>
    h.edits_byKind

end FixCorpus
