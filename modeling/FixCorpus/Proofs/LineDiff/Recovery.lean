import FixCorpus.Proofs.Edit.Removal
import FixCorpus.Proofs.LineDiff.Longest
import FixCorpus.Proofs.LineDiff.Sides
import Mathlib.Data.List.Basic

/-! An edit read off the difference that it makes: `ofLines_recovers_edit`. The
difference is greedy, but if no line of the source is repeated and none comes in
again, any common block parts the lines that both sides have at the same place, so
that none of them is missed in what is left before it and behind it. -/

namespace FixCorpus

namespace DiffLine

def isEqual : DiffLine → Bool
  | .equal _ _ _ => true
  | _ => false

end DiffLine

theorem filterMap_filter_of_eq {α β : Type} {f : α → Option β} {p : α → Bool} {q : β → Bool}
    {items : List α} (same : ∀ a ∈ items, ∀ b, f a = some b → p a = q b) :
    (items.filter p).filterMap f = (items.filterMap f).filter q := by
  rw [List.filterMap_filter, List.filter_filterMap]
  refine List.filterMap_congr fun a member => ?_
  cases image : f a with
  | none => simp
  | some b =>
    rw [same a member b image]
    rfl

namespace LineDiff

open DiffLine

/-- The source repeats no line, and the lines that both sides have are in the same order. -/
structure Aligned (source target : List String) : Prop where
  distinct : source.Nodup
  common : source.filter (· ∈ target) = target.filter (· ∈ source)

structure Matched (source target part other : List String) : Prop where
  subset : part ⊆ source
  other_subset : other ⊆ target
  common : part.filter (· ∈ target) = other.filter (· ∈ source)

section

variable {source target part other : List String} {line : String}

theorem Matched.mem_iff (h : Matched source target part other) (member : line ∈ part) :
    line ∈ target ↔ line ∈ other := by
  refine ⟨fun in_target => ?_, fun in_other => h.other_subset in_other⟩
  have common : line ∈ part.filter (· ∈ target) := List.mem_filter.2 ⟨member, by simpa⟩
  rw [h.common] at common
  exact List.mem_of_mem_filter common

theorem Matched.symm (h : Matched source target part other) :
    Matched target source other part :=
  ⟨h.other_subset, h.subset, h.common.symm⟩

theorem Matched.aligned (h : Matched source target part other) (distinct : part.Nodup) :
    Aligned part other := by
  refine ⟨distinct, ?_⟩
  have narrow : part.filter (· ∈ other) = part.filter (· ∈ target) :=
    List.filter_congr fun line member => by simp [h.mem_iff member]
  have narrow_other : other.filter (· ∈ part) = other.filter (· ∈ source) :=
    List.filter_congr fun line member => by simp [h.symm.mem_iff member]
  rw [narrow, h.common, narrow_other]

theorem Aligned.matched {front block behind otherFront otherBehind : List String}
    (nonempty : block ≠ [])
    (h : Aligned (front ++ block ++ behind) (otherFront ++ block ++ otherBehind)) :
    Matched (front ++ block ++ behind) (otherFront ++ block ++ otherBehind) front otherFront ∧
      Matched (front ++ block ++ behind) (otherFront ++ block ++ otherBehind) behind
        otherBehind := by
  have in_target : block.filter (· ∈ otherFront ++ block ++ otherBehind) = block :=
    List.filter_eq_self.2 fun line member => by simp [member]
  have in_source : block.filter (· ∈ front ++ block ++ behind) = block :=
    List.filter_eq_self.2 fun line member => by simp [member]
  have common := h.common
  have unrepeated := h.distinct.filter (· ∈ otherFront ++ block ++ otherBehind)
  rw [List.filter_append, List.filter_append, in_target] at common unrepeated
  rw [List.filter_append, List.filter_append, in_source] at common
  -- The first line of the block is there once, so the common lines of both sides part at it.
  obtain ⟨line, rest, rfl⟩ := List.exists_cons_of_ne_nil nonempty
  simp only [List.append_assoc, List.cons_append] at common unrepeated ⊢
  obtain ⟨fresh, -⟩ := List.nodup_cons.1 (List.nodup_middle.1 unrepeated)
  obtain ⟨same_front, -, same_behind⟩ := (List.append_cons_inj_of_notMem
    (fun inside => fresh (List.mem_append_left _ inside))
    (fun inside => fresh (List.mem_append_right _ inside))).1 common
  exact ⟨⟨List.subset_append_left _ _, List.subset_append_left _ _, same_front⟩,
    ⟨fun _ inside => by simp [inside], fun _ inside => by simp [inside],
      List.append_cancel_left same_behind⟩⟩

theorem Aligned.matched_block {b : Block} (h : Aligned source target)
    (agrees : b.Agrees source target) (some_line : 0 < b.length) :
    Matched source target (source.take b.source) (target.take b.target) ∧
      Matched source target (source.drop (b.source + b.length))
        (target.drop (b.target + b.length)) := by
  have cut_source := append_block source b.source b.length
  have cut_target := append_block target b.target b.length
  rw [← agrees.same] at cut_target
  have nonempty : (source.drop b.source).take b.length ≠ [] := by
    rw [← List.length_pos_iff, List.length_take, List.length_drop]
    have inside := agrees.source_le
    omega
  generalize (source.drop b.source).take b.length = block at cut_source cut_target nonempty
  generalize source.take b.source = front at cut_source ⊢
  generalize source.drop (b.source + b.length) = behind at cut_source ⊢
  generalize target.take b.target = other_front at cut_target ⊢
  generalize target.drop (b.target + b.length) = other_behind at cut_target ⊢
  subst cut_source cut_target
  exact h.matched nonempty

/-- Only lines that the target does not have go out, and only lines that the source does not have
come in. -/
structure Separates (source target : List String) (diff : List DiffLine) : Prop where
  removed : ∀ i text, .removed i text ∈ diff → text ∉ target
  added : ∀ j text, .added j text ∈ diff → text ∉ source

theorem Sides.mem_source {i j : Nat} {diff : List DiffLine} (sides : Sides i j source target diff)
    {l : DiffLine} (member : l ∈ diff) {at_source : String × Nat}
    (has : l.sourceLine? = some at_source) : at_source.1 ∈ source :=
  List.fst_mem_of_mem_zipIdx (sides.source ▸ List.mem_filterMap.2 ⟨l, member, has⟩)

theorem Sides.mem_target {i j : Nat} {diff : List DiffLine} (sides : Sides i j source target diff)
    {l : DiffLine} (member : l ∈ diff) {at_target : String × Nat}
    (has : l.targetLine? = some at_target) : at_target.1 ∈ target :=
  List.fst_mem_of_mem_zipIdx (sides.target ▸ List.mem_filterMap.2 ⟨l, member, has⟩)

theorem Separates.of_part {i j : Nat} {diff : List DiffLine} (separates : Separates part other diff)
    (sides : Sides i j part other diff) (matched : Matched source target part other) :
    Separates source target diff where
  removed k text member in_target :=
    separates.removed k text member
      ((matched.mem_iff (sides.mem_source member rfl)).1 in_target)
  added k text member in_source :=
    separates.added k text member
      ((matched.symm.mem_iff (sides.mem_target member rfl)).1 in_source)

theorem Separates.append {front behind : List DiffLine} (left : Separates source target front)
    (right : Separates source target behind) : Separates source target (front ++ behind) where
  removed i text member := (List.mem_append.1 member).elim (left.removed i text)
    (right.removed i text)
  added j text member := (List.mem_append.1 member).elim (left.added j text) (right.added j text)

theorem separates_equalFrom (i j : Nat) (lines : List String) :
    Separates source target (equalFrom i j lines) := by
  constructor <;> simp [equalFrom]

theorem separates_ofSegments {i j : Nat} (aligned : Aligned source target) :
    Separates source target (ofSegments i j source target) := by
  fun_induction ofSegments i j source target with
  | case1 i j source target m common front_separates behind_separates =>
    obtain ⟨front, behind⟩ :=
      aligned.matched_block (Block.agrees_longest source target) common
    have front_aligned := front.aligned (aligned.distinct.sublist (List.take_sublist _ _))
    have behind_aligned := behind.aligned (aligned.distinct.sublist (List.drop_sublist _ _))
    exact (((front_separates front_aligned).of_part (sides_ofSegments _ _ _ _) front).append
      (separates_equalFrom _ _ _)).append
      ((behind_separates behind_aligned).of_part (sides_ofSegments _ _ _ _) behind)
  | case2 i j source target m none_common =>
    have sides := sides_gap i j source target
    have nothing_shared : ∀ line ∈ source, line ∉ target := fun line in_source in_target =>
      none_common (Block.longest_pos_of_mem in_source in_target)
    exact {
      removed := fun k text member => nothing_shared text (sides.mem_source member rfl)
      added := fun k text member in_source =>
        nothing_shared text in_source (sides.mem_target member rfl) }

section

variable {i j : Nat} {diff : List DiffLine} (sides : Sides i j source target diff)
  (separates : Separates source target diff)
include sides separates

theorem kind_of_sourceLine {l : DiffLine} (member : l ∈ diff) {line : String × Nat}
    (has : l.sourceLine? = some line) :
    l.isRemoved = decide (line.1 ∉ target) ∧ l.isEqual = decide (line.1 ∈ target) := by
  cases l with
  | equal k m text =>
    cases has
    have in_target : text ∈ target := sides.mem_target member rfl
    simp [isRemoved, isEqual, DiffLine.text, in_target]
  | removed k text =>
    cases has
    have not_in_target := separates.removed k text member
    simp [isRemoved, isEqual, DiffLine.text, not_in_target]
  | added k text => cases has

theorem kind_of_targetLine {l : DiffLine} (member : l ∈ diff) {line : String × Nat}
    (has : l.targetLine? = some line) : l.isAdded = decide (line.1 ∉ source) := by
  cases l with
  | equal k m text =>
    cases has
    have in_source : text ∈ source := sides.mem_source member rfl
    simp [isAdded, DiffLine.text, in_source]
  | removed k text => cases has
  | added k text =>
    cases has
    have not_in_source := separates.added k text member
    simp [isAdded, DiffLine.text, not_in_source]

theorem sourceLines_of_kind :
    (diff.filter (·.isRemoved)).filterMap sourceLine? =
        (source.zipIdx i).filter (·.1 ∉ target) ∧
      (diff.filter (·.isEqual)).filterMap sourceLine? =
        (source.zipIdx i).filter (·.1 ∈ target) := by
  rw [← sides.source]
  exact ⟨filterMap_filter_of_eq fun l member line has =>
      (kind_of_sourceLine sides separates member has).1,
    filterMap_filter_of_eq fun l member line has =>
      (kind_of_sourceLine sides separates member has).2⟩

theorem targetLines_isAdded : (diff.filter (·.isAdded)).filterMap targetLine? =
    (target.zipIdx j).filter (·.1 ∉ source) := by
  rw [← sides.target]
  exact filterMap_filter_of_eq fun l member line has =>
    kind_of_targetLine sides separates member has

end

theorem text_isAdded {i j : Nat} {diff : List DiffLine} (sides : Sides i j source target diff)
    (separates : Separates source target diff) :
    (diff.filter (·.isAdded)).map (·.text) = target.filter (· ∉ source) := by
  have texts : (diff.filter (·.isAdded)).map (·.text) =
      ((diff.filter (·.isAdded)).filterMap targetLine?).map (·.1) := by
    rw [List.map_filterMap, ← List.filterMap_eq_map, List.filterMap_filter, List.filterMap_filter]
    congr 1
    funext l
    cases l <;> rfl
  rw [texts, targetLines_isAdded sides separates, map_fst_filter_zipIdx (p := (· ∉ source))]

end

section

variable {e : Edit} {lines edited : List String} {place : Nat}
  (fresh : ∀ t ∈ e.targetLines, stripNewlines t ∉ lines)
  (placed : edited = (e.kept lines).take place ++ e.targetLines.map stripNewlines ++
    (e.kept lines).drop place)
include fresh placed

theorem filter_of_place : edited.filter (· ∈ lines) = e.kept lines ∧
    edited.filter (· ∉ lines) = e.targetLines.map stripNewlines := by
  have old : ∀ line ∈ e.kept lines, line ∈ lines := fun line member => by
    obtain ⟨i, at_i, -⟩ := mem_keepLines.1 member
    exact List.mem_of_getElem? at_i
  have old_front : ∀ line ∈ (e.kept lines).take place, line ∈ lines := fun line member =>
    old line (List.mem_of_mem_take member)
  have old_behind : ∀ line ∈ (e.kept lines).drop place, line ∈ lines := fun line member =>
    old line (List.mem_of_mem_drop member)
  have new : ∀ line ∈ e.targetLines.map stripNewlines, line ∉ lines :=
    List.forall_mem_map.2 fresh
  rw [placed]
  simp only [List.filter_append]
  constructor
  · rw [List.filter_eq_self.2 (by simpa using old_front),
      List.filter_eq_nil_iff.2 (by simpa using new),
      List.filter_eq_self.2 (by simpa using old_behind), List.append_nil, List.take_append_drop]
  · rw [List.filter_eq_nil_iff.2 (by simpa using old_front),
      List.filter_eq_self.2 (by simpa using new),
      List.filter_eq_nil_iff.2 (by simpa using old_behind), List.nil_append, List.append_nil]

variable (distinct : lines.Nodup)
include distinct

theorem mem_of_place {line : String} {i : Nat} (at_i : lines[i]? = some line) :
    line ∈ edited ↔ e.removes i = false := by
  have same_lines : line ∈ edited ↔ line ∈ e.kept lines := by
    rw [← (filter_of_place fresh placed).1, List.mem_filter]
    simp [List.mem_of_getElem? at_i]
  rw [same_lines, Edit.kept, mem_keepLines_of_nodup distinct at_i, Bool.not_eq_true']

theorem filter_zipIdx_of_place :
    lines.zipIdx.filter (·.1 ∈ edited) = lines.zipIdx.filter (!e.removes ·.2) ∧
      lines.zipIdx.filter (·.1 ∉ edited) = lines.zipIdx.filter (e.removes ·.2) := by
  have stays : ∀ l ∈ lines.zipIdx, (l.1 ∈ edited ↔ e.removes l.2 = false) := fun l member =>
    mem_of_place fresh placed distinct (List.mk_mem_zipIdx_iff_getElem?.1 member)
  exact ⟨List.filter_congr fun l member => by simp [stays l member],
    List.filter_congr fun l member => by simp [stays l member]⟩

theorem aligned_of_place : Aligned lines edited := by
  refine ⟨distinct, ?_⟩
  rw [(filter_of_place fresh placed).1, ← map_fst_filter_zipIdx (p := (· ∈ edited)) lines 0,
    (filter_zipIdx_of_place fresh placed distinct).1]
  rfl

end

theorem ofLines_recovers_edit {e : Edit} {lines edited : List String} (distinct : lines.Nodup)
    (names : e.sourceLines ≠ []) (applied : e.apply lines = .ok edited)
    (fresh : ∀ t ∈ e.targetLines, stripNewlines t ∉ lines) :
    ((ofLines lines edited).filter (·.isRemoved)).filterMap sourceLine? =
        lines.zipIdx.filter (e.removes ·.2) ∧
      ((ofLines lines edited).filter (·.isAdded)).map (·.text) =
        e.targetLines.map stripNewlines ∧
      ((ofLines lines edited).filter (·.isEqual)).filterMap sourceLine? =
        lines.zipIdx.filter (!e.removes ·.2) := by
  obtain ⟨place, placed⟩ := Edit.exists_place_of_apply names applied
  have sides := sides_ofSegments 0 0 lines edited
  have separates : Separates lines edited (ofSegments 0 0 lines edited) :=
    separates_ofSegments (aligned_of_place fresh placed distinct)
  obtain ⟨removed, equal⟩ := sourceLines_of_kind sides separates
  have added := text_isAdded sides separates
  rw [(filter_zipIdx_of_place fresh placed distinct).2] at removed
  rw [(filter_zipIdx_of_place fresh placed distinct).1] at equal
  rw [(filter_of_place fresh placed).2] at added
  exact ⟨removed, added, equal⟩

/-- The lines are named out of order and are no neighbours, and the same line comes in twice. -/
theorem ofLines_recovers_scattered_replacement :
    let e : Edit := .replace ⟨[4, 2], ["x\n", "x"]⟩
    let diff := ofLines ["a", "b", "c", "d", "e"] ["a", "c", "e", "x", "x"]
    e.apply ["a", "b", "c", "d", "e"] = .ok ["a", "c", "e", "x", "x"] ∧
      (diff.filter (·.isRemoved)).filterMap sourceLine? = [("b", 1), ("d", 3)] ∧
      (diff.filter (·.isAdded)).map (·.text) = ["x", "x"] ∧
      (diff.filter (·.isEqual)).filterMap sourceLine? = [("a", 0), ("c", 2), ("e", 4)] := by
  intro e diff
  have applied : e.apply ["a", "b", "c", "d", "e"] = .ok ["a", "c", "e", "x", "x"] := by
    decide +kernel
  exact ⟨applied, ofLines_recovers_edit (by decide) (by decide) applied (by decide +kernel)⟩

end LineDiff

end FixCorpus
