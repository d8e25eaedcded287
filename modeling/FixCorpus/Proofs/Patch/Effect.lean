import FixCorpus.Proofs.Except
import FixCorpus.Proofs.Patch.Edits

/-! The edits of a hunk taken together. Applied from the last to the first they
give what the hunk shows on its target side, at the place of its source lines.
Here is what the edits found so far do to the lines read so far;
`Hunk.applyAll_edits` is the statement for the whole hunk. -/

namespace FixCorpus

/-- Edits applied one after the other, each to the lines that the one before leaves. -/
def Edit.applyAll (edits : List Edit) (lines : List String) : Except ApplyError (List String) :=
  edits.foldlM (fun lines e => e.apply lines) lines

def HunkLine.inTarget (l : HunkLine) : Bool :=
  l.kind ≠ .removed

/-- The texts that a run of lines shows on the target side. -/
def targetTexts (lines : List HunkLine) : List String :=
  (lines.filter (·.inTarget)).map (·.text)

def Hunk.linesBefore (h : Hunk) : Int :=
  if h.sourceLength = 0 then h.sourceStart else h.sourceStart - 1

namespace HunkEdits

def toList (edits : HunkEdits) : List Edit :=
  edits.replacements ++ edits.insertions ++ edits.deletions

theorem concat_perm_toList_push {edits : HunkEdits} {done : List Edit}
    (perm : done.Perm edits.toList) (e : Edit) : (done ++ [e]).Perm (edits.push e).toList := by
  refine (perm.append_right [e]).trans ?_
  cases e with
  | insert =>
    simp only [toList, push, List.append_assoc]
    exact ((List.perm_append_comm).append_left _).append_left _
  | delete => simp only [toList, push, List.append_assoc, List.Perm.refl]
  | replace =>
    simp only [toList, push, List.append_assoc]
    rw [← List.append_assoc edits.insertions]
    exact (List.perm_append_comm).append_left _

end HunkEdits

/-- Behind the lines of `before` the edits, the last one first, make `target` of `source`. -/
def Rewrites (before source target : List String) (edits : List Edit) : Prop :=
  ∀ after, Edit.applyAll edits.reverse (before ++ (source ++ after)) =
    .ok (before ++ (target ++ after))

section

variable {before source target : List String} {edits : List Edit}

theorem Rewrites.append_same (h : Rewrites before source target edits) (same : List String) :
    Rewrites before (source ++ same) (target ++ same) edits := by
  intro after
  rw [List.append_assoc, List.append_assoc]
  exact h (same ++ after)

theorem Rewrites.concat (h : Rewrites before source target edits) {e : Edit}
    {block new : List String}
    (splices : e.Splices (before.length + source.length : Nat) block.length new)
    (free : ∀ t ∈ new, '\n' ∉ t.toList) :
    Rewrites before (source ++ block) (target ++ new) (edits ++ [e]) := by
  intro after
  have spliced := splice_block (before ++ source) block after new
  rw [List.length_append] at spliced
  have applied : e.apply (before ++ source ++ (block ++ after)) =
      .ok (before ++ source ++ (new ++ after)) := by
    rw [splices.apply_eq free _ (by simp only [List.length_append]; omega), spliced]
  simp only [List.append_assoc] at applied
  rw [List.reverse_append, List.reverse_singleton, List.singleton_append, Edit.applyAll,
    List.foldlM_cons, List.append_assoc, applied, List.append_assoc]
  exact h (new ++ after)

end

/-- The edits, put in the order of the source, make `target` of `source`, and each of them stands
at a place of its own, before `bound`. -/
def HunkEdits.Make (before source target : List String) (bound : Int) (edits : HunkEdits) : Prop :=
  ∃ done : List Edit, done.Perm edits.toList ∧ Rewrites before source target done ∧
    done.Pairwise (fun a b => a.sourceSpan.1 < b.sourceSpan.1) ∧
    ∀ e ∈ done, e.sourceSpan.1 < bound

namespace HunkEdits

variable {before source target : List String} {bound : Int} {edits : HunkEdits}

theorem make_empty : empty.Make before [] [] bound :=
  ⟨[], .refl _, fun _ => rfl, .nil, by simp⟩

theorem Make.append_same (h : edits.Make before source target bound) (same : List String) :
    edits.Make before (source ++ same) (target ++ same) bound := by
  obtain ⟨done, perm, rewrites, increasing, bounded⟩ := h
  exact ⟨done, perm, rewrites.append_same same, increasing, bounded⟩

theorem Make.mono (h : edits.Make before source target bound) {further : Int}
    (le : bound ≤ further) : edits.Make before source target further := by
  obtain ⟨done, perm, rewrites, increasing, bounded⟩ := h
  exact ⟨done, perm, rewrites, increasing, fun e member => by
    have bound_e := bounded e member
    omega⟩

theorem Make.push {e : Edit} (h : edits.Make before source target e.sourceSpan.1)
    {block new : List String}
    (splices : e.Splices (before.length + source.length : Nat) block.length new)
    (free : ∀ t ∈ new, '\n' ∉ t.toList) :
    (edits.push e).Make before (source ++ block) (target ++ new) (e.sourceSpan.1 + 1) := by
  obtain ⟨done, perm, rewrites, increasing, bounded⟩ := h
  refine ⟨done ++ [e], concat_perm_toList_push perm e, rewrites.concat splices free, ?_, ?_⟩
  · refine List.pairwise_append.2 ⟨increasing, List.pairwise_singleton _ e, ?_⟩
    simpa using bounded
  · intro x member
    rcases List.mem_append.1 member with member | member
    · have bound_x := bounded x member
      omega
    · rw [List.mem_singleton.1 member]
      omega

end HunkEdits

/-- The edit that is open replaces the `count` lines behind the line `start` with `coming`. -/
def OpenEdit.Holds (start : Int) (count : Nat) (coming : List String) : OpenEdit → Prop
  | .none => count = 0 ∧ coming = []
  | .insertion i => count = 0 ∧ i.previousLine = start ∧ i.targetLines = coming ∧ coming ≠ []
  | .replacement first others targets =>
    first = start + 1 ∧ 0 < count ∧ first :: others = consecutive first count ∧ targets = coming

theorem OpenEdit.Holds.splices {start : Int} {count : Nat} {coming : List String}
    {open_ : OpenEdit} (h : open_.Holds start count coming) {e : Edit}
    (complete : open_.edit? = some e) : e.Splices start count coming := by
  cases open_ with
  | none => cases complete
  | insertion i =>
    cases complete
    obtain ⟨rfl, rfl, rfl, nonempty⟩ := h
    exact .insert i.targetStart nonempty
  | replacement first others targets =>
    obtain ⟨rfl, positive, lines, rfl⟩ := h
    obtain ⟨more, rfl⟩ := Nat.exists_eq_succ_of_ne_zero (Nat.ne_of_gt positive)
    have splices := splices_of_consecutive lines complete
    rwa [Int.add_sub_cancel] at splices

theorem OpenEdit.Holds.eq_nil {start : Int} {count : Nat} {coming : List String}
    {open_ : OpenEdit} (h : open_.Holds start count coming) (complete : open_.edit? = Option.none) :
    count = 0 ∧ coming = [] := by
  cases open_ with
  | none => exact h
  | insertion => cases complete
  | replacement _ _ targets => cases targets <;> cases complete

namespace EditScan

/-- Of the source lines read so far those in `kept` are dealt with and those in `block` belong to
the open edit. -/
structure Traced (before source target : List String) (s : EditScan) : Prop where
  reached : s.previousLine = before.length + source.length
  split : ∃ kept block made coming : List String,
    source = kept ++ block ∧ target = made ++ coming ∧ (∀ t ∈ coming, '\n' ∉ t.toList) ∧
    s.current.Holds (before.length + kept.length : Nat) block.length coming ∧
    s.edits.Make before kept made
      (before.length + kept.length + if block.length = 0 then 0 else 1)

variable {before source target : List String} {s : EditScan}

theorem Traced.flush (h : s.Traced before source target) :
    s.flush.edits.Make before source target (before.length + source.length + 1) := by
  obtain ⟨kept, block, made, coming, rfl, rfl, free, holds, make⟩ := h.split
  unfold EditScan.flush
  split
  · rename_i e complete
    have splices := holds.splices complete
    have place := splices.sourceSpan_eq
    have first : e.sourceSpan.1 =
        before.length + kept.length + if block.length = 0 then 0 else 1 := by
      rw [place]
      split <;> simp
    rw [← first] at make
    refine (make.push splices free).mono ?_
    rw [first, List.length_append]
    split <;> omega
  · rename_i complete
    obtain ⟨empty, rfl⟩ := holds.eq_nil complete
    obtain rfl := List.eq_nil_of_length_eq_zero empty
    rw [List.append_nil, List.append_nil]
    refine make.mono ?_
    rw [List.length_nil, if_pos rfl]
    omega

theorem Traced.context (h : s.Traced before source target) {l : HunkLine}
    (kind : l.kind = .context)
    (number : l.sourceLine = some (before.length + source.length + 1 : Int)) :
    (s.step l).Traced before (source ++ [l.text]) (target ++ [l.text]) := by
  have make := h.flush.append_same [l.text]
  unfold EditScan.step
  rw [kind, number]
  refine ⟨?_, source ++ [l.text], [], target ++ [l.text], [], by simp, by simp, by simp, ?_, ?_⟩
  · simp only [List.length_append, List.length_singleton]
    omega
  · simp [OpenEdit.Holds]
  · refine make.mono ?_
    rw [List.length_nil, if_pos rfl, List.length_append, List.length_singleton]
    omega

theorem Traced.removed (h : s.Traced before source target) {l : HunkLine} (kind : l.kind = .removed)
    (number : l.sourceLine = some (before.length + source.length + 1 : Int)) (text : String) :
    (s.step l).Traced before (source ++ [text]) target := by
  have flushed := h.flush
  have next : (before.length + source.length + 1 : Int) =
      before.length + (source ++ [text]).length := by
    simp only [List.length_append, List.length_singleton]
    omega
  unfold EditScan.step
  rw [kind, number]
  dsimp only
  unfold EditScan.remove
  split
  · rename_i first others targets current
    obtain ⟨kept, block, made, coming, rfl, rfl, free, holds, make⟩ := h.split
    rw [current] at holds
    obtain ⟨first_eq, positive, lines, rfl⟩ := holds
    refine ⟨next, kept, block ++ [text], made, targets, by simp, rfl, free, ?_, ?_⟩
    · have place : (before.length + (kept ++ block).length + 1 : Int) = first + block.length := by
        rw [first_eq, List.length_append]
        omega
      refine ⟨first_eq, by simp, ?_, rfl⟩
      rw [place, List.length_append, List.length_singleton, consecutive_succ, ← lines,
        List.cons_append]
    · rw [if_neg (by omega)] at make
      simpa using make
  · refine ⟨next, source, [text], target, [], by simp, by simp, by simp, ?_, ?_⟩
    · exact ⟨by simp, by simp, rfl, rfl⟩
    · simpa using flushed

theorem Traced.added (h : s.Traced before source target) {l : HunkLine} (kind : l.kind = .added)
    (free : '\n' ∉ l.text.toList) : (s.step l).Traced before source (target ++ [l.text]) := by
  have reached := h.reached
  obtain ⟨kept, block, made, coming, rfl, rfl, old_free, holds, make⟩ := h.split
  have new_free : ∀ t ∈ coming ++ [l.text], '\n' ∉ t.toList :=
    List.forall_mem_append.2 ⟨old_free, List.forall_mem_singleton.2 free⟩
  have result : ∀ current : OpenEdit,
      current.Holds (before.length + kept.length : Nat) block.length (coming ++ [l.text]) →
      (EditScan.mk s.previousLine current s.edits).Traced before (kept ++ block)
        (made ++ coming ++ [l.text]) := fun current new_holds =>
    ⟨reached, kept, block, made, coming ++ [l.text], rfl, by simp, new_free, new_holds, make⟩
  unfold EditScan.step
  rw [kind]
  dsimp only
  unfold EditScan.add
  split
  · rename_i current
    rw [current] at holds
    obtain ⟨empty, rfl⟩ := holds
    rw [List.length_append, empty] at reached
    exact result _ ⟨empty, by simpa using reached, rfl, by simp⟩
  · rename_i i current
    rw [current] at holds
    obtain ⟨empty, place, rfl, -⟩ := holds
    exact result _ ⟨empty, place, rfl, by simp⟩
  · rename_i first others targets current
    rw [current] at holds
    obtain ⟨first_eq, positive, lines, rfl⟩ := holds
    exact result _ ⟨first_eq, positive, lines, rfl⟩

end EditScan

theorem lineAt?_append (before : List String) (text : String) (after : List String) :
    lineAt? (before ++ text :: after) (before.length + 1) = some text := by
  rw [lineAt?, if_pos (by omega), Int.add_sub_cancel, Int.toNat_natCast,
    List.getElem?_append_right (Nat.le_refl _), Nat.sub_self, List.getElem?_cons_zero]

def Agree (lines : List String) (run : List HunkLine) : Prop :=
  ∀ l ∈ run, l.kind = .context → l.sourceLine.bind (lineAt? lines) = some l.text

instance (lines : List String) (run : List HunkLine) : Decidable (Agree lines run) :=
  inferInstanceAs (Decidable (∀ l ∈ run, l.kind = .context →
    l.sourceLine.bind (lineAt? lines) = some l.text))

theorem EditScan.Traced.foldl {before source target after : List String} {s : EditScan}
    (h : s.Traced before source target) {next : Int} {run : List HunkLine}
    (numbered : NumberedFrom next run) (reached : next = before.length + source.length + 1)
    {rest : List String} (counted : run.countP (·.inSource) = rest.length)
    (agree : Agree (before ++ (source ++ (rest ++ after))) run) :
    (run.foldl EditScan.step s).Traced before (source ++ rest) (target ++ targetTexts run) := by
  induction numbered generalizing s source target rest with
  | nil =>
    obtain rfl := List.eq_nil_of_length_eq_zero counted.symm
    simpa [targetTexts] using h
  | @source next l run kind number _ _ ih =>
    have in_source : l.inSource = true := by simpa [HunkLine.inSource] using kind
    cases rest with
    | nil => simp [in_source] at counted
    | cons text rest =>
      have others : run.countP (·.inSource) = rest.length := by simpa [in_source] using counted
      have next_eq : next + 1 = before.length + (source ++ [text]).length + 1 := by
        simp only [List.length_append, List.length_singleton]
        omega
      have agree_run : Agree (before ++ (source ++ [text] ++ (rest ++ after))) run := by
        rw [List.append_assoc source]
        exact fun l member => agree l (List.mem_cons_of_mem _ member)
      rw [reached] at number
      rw [List.foldl_cons, ← List.singleton_append, ← List.append_assoc source]
      cases case : l.kind with
      | added => exact absurd case kind
      | context =>
        -- A context line is the line of the file that has its number.
        have here := agree l List.mem_cons_self case
        rw [number, Option.bind_some, ← Int.natCast_add, ← List.length_append,
          ← List.append_assoc, List.cons_append, lineAt?_append, Option.some.injEq] at here
        subst here
        have traced := ih (h.context case number) next_eq others agree_run
        simpa [targetTexts, HunkLine.inTarget, case] using traced
      | removed =>
        have traced := ih (h.removed case number text) next_eq others agree_run
        simpa [targetTexts, HunkLine.inTarget, case] using traced
  | @added next l run kind free _ ih =>
    have others : run.countP (·.inSource) = rest.length := by
      simpa [HunkLine.inSource, kind] using counted
    have agree_run : Agree (before ++ (source ++ (rest ++ after))) run := fun l member =>
      agree l (List.mem_cons_of_mem _ member)
    have traced := ih (h.added kind free) reached others agree_run
    simpa [targetTexts, HunkLine.inTarget, kind] using traced

theorem eq_of_perm_of_descending {α : Type} {key : α → Int} {a b : List α} (perm : a.Perm b)
    (weakly : a.Pairwise fun x y => key y ≤ key x)
    (strictly : b.Pairwise fun x y => key y < key x) : a = b := by
  have same_of_key : ∀ x ∈ b, ∀ y ∈ b, key x = key y → x = y := by
    refine List.Pairwise.forall_of_forall_of_flip (fun x _ _ => rfl) ?_ ?_
    · exact strictly.imp fun less same => absurd same (by omega)
    · exact strictly.imp fun less same => absurd same (by omega)
  refine perm.eq_of_pairwise (fun x y in_a in_b le ge => ?_) weakly
    (strictly.imp fun less => Int.le_of_lt less)
  exact same_of_key x (perm.subset in_a) y in_b (Int.le_antisymm ge le)

namespace Hunk

def newLines (h : Hunk) : List String :=
  targetTexts h.lines

variable {h : Hunk}

theorem make_edits (numbered : h.Numbered) (counted : h.Counted)
    {before block after : List String} (length_before : (before.length : Int) = h.linesBefore)
    (length_block : (block.length : Int) = h.sourceLength)
    (agree : Agree (before ++ (block ++ after)) h.lines) :
    h.edits.Make before block h.newLines (before.length + block.length + 1) := by
  have start : (EditScan.start h).Traced before [] [] :=
    ⟨length_before.symm, [], [], [], [], rfl, rfl, by simp, ⟨rfl, rfl⟩, HunkEdits.make_empty⟩
  have next : (EditScan.start h).previousLine + 1 = before.length + ([] : List String).length + 1 := by
    simp [EditScan.start, linesBefore, length_before]
  have full : h.lines.countP (·.inSource) = block.length := by
    have said := counted.2
    omega
  exact (start.foldl numbered next full agree).flush

/-- The edits stand at places of their own. Applied from the last of these to the first they turn
the source lines of the hunk into those that it shows on the target side. -/
theorem applyAll_edits {text : String} {patches : List FilePatch}
    (read : Patch.read text = .ok patches) {p : FilePatch} (patch : p ∈ patches)
    (member : h ∈ p.hunks) (begins : 1 ≤ h.sourceStart ∨ h.sourceLength = 0) {lines : List String}
    (inside : h.linesBefore + h.sourceLength ≤ lines.length) (agree : Agree lines h.lines) :
    (∃ order : List Edit, order.Perm h.edits.toList ∧
      order.Pairwise fun a b => b.sourceSpan.1 < a.sourceSpan.1) ∧
    ∀ order : List Edit, order.Perm h.edits.toList →
      (order.Pairwise fun a b => b.sourceSpan.1 ≤ a.sourceSpan.1) →
      Edit.applyAll order lines =
        .ok (splice lines h.linesBefore.toNat h.sourceLength.toNat h.newLines) := by
  have counted := Patch.counted_read read patch member
  have length_nonneg : 0 ≤ h.sourceLength := counted.2 ▸ Int.natCast_nonneg _
  have before_nonneg : 0 ≤ h.linesBefore := by
    have start_nonneg := counted.1
    unfold linesBefore
    split <;> omega
  have parts : h.linesBefore.toNat + h.sourceLength.toNat ≤ lines.length := by omega
  obtain ⟨before, block, after, rfl, length_before, length_block⟩ := exists_block parts
  obtain ⟨done, perm, rewrites, increasing, -⟩ := make_edits
    (Patch.numbered_read read patch member) counted (by omega) (by omega) agree
  have descending : done.reverse.Pairwise fun a b => b.sourceSpan.1 < a.sourceSpan.1 :=
    List.pairwise_reverse.2 increasing
  refine ⟨⟨done.reverse, (List.reverse_perm done).trans perm, descending⟩, ?_⟩
  intro order order_perm sorted
  have same : order = done.reverse := eq_of_perm_of_descending
    (order_perm.trans (perm.symm.trans (List.reverse_perm done).symm)) sorted descending
  rw [same, rewrites after, ← length_before, ← length_block, splice_block]

/-- A line comes in at the top, before one that goes out; two lines change places with one; the
lines at the end go out and come in between lines that stay. -/
theorem applyAll_edits_of_mixed_hunk :
    let text := "--- a/Cart.cs\n+++ b/Cart.cs\n@@ -2,6 +2,7 @@\n+n\n-b\n c\n-d\n+x\n-e\n+y\n f\n+z\n g\n"
    let h : Hunk := ⟨2, 6, 2, 7, "", [
      ⟨.added, "n", none, some 2⟩, ⟨.removed, "b", some 2, none⟩,
      ⟨.context, "c", some 3, some 3⟩, ⟨.removed, "d", some 4, none⟩,
      ⟨.added, "x", none, some 4⟩, ⟨.removed, "e", some 5, none⟩,
      ⟨.added, "y", none, some 5⟩, ⟨.context, "f", some 6, some 6⟩,
      ⟨.added, "z", none, some 7⟩, ⟨.context, "g", some 7, some 8⟩]⟩
    let order : List Edit := [.insert ⟨6, 7, ["z"]⟩, .replace ⟨[4, 5], ["x", "y"]⟩,
      .delete ⟨2, 2⟩, .insert ⟨1, 2, ["n"]⟩]
    let lines := ["a", "b", "c", "d", "e", "f", "g", "h"]
    Patch.read text = .ok [⟨"a/Cart.cs", "b/Cart.cs", [h]⟩] ∧ order.Perm h.edits.toList ∧
      Edit.applyAll order lines = .ok ["a", "n", "c", "x", "y", "f", "z", "g", "h"] := by
  intro text h order lines
  have read : Patch.read text = .ok [⟨"a/Cart.cs", "b/Cart.cs", [h]⟩] := by
    decide +kernel
  have perm : order.Perm h.edits.toList := by
    decide +kernel
  have inside : h.linesBefore + h.sourceLength ≤ lines.length := by
    decide
  have agree : Agree lines h.lines := by
    decide
  have effect := applyAll_edits read List.mem_cons_self List.mem_cons_self (by decide) inside agree
  exact ⟨read, perm, effect.2 order perm (by decide)⟩

end Hunk

end FixCorpus
