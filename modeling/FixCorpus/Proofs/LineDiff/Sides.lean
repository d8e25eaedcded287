import FixCorpus.Proofs.LineDiff.Block

/-! The two sides of a difference of lines. Main statement: without the lines that
come in it is the source, without those that go out it is the target, each line
with its position. -/

namespace FixCorpus

theorem map_fst_filter_zipIdx {α : Type} {p : α → Bool} (items : List α) (k : Nat) :
    ((items.zipIdx k).filter fun a => p a.1).map (·.1) = items.filter p := by
  have choice := List.filter_map (p := p) (f := Prod.fst) (l := items.zipIdx k)
  rw [List.zipIdx_map_fst] at choice
  exact choice.symm

namespace DiffLine

def isRemoved : DiffLine → Bool
  | .removed _ _ => true
  | _ => false

def isAdded : DiffLine → Bool
  | .added _ _ => true
  | _ => false

def sourceLine? (l : DiffLine) : Option (String × Nat) :=
  l.sourceIndex?.map (l.text, ·)

def targetLine? (l : DiffLine) : Option (String × Nat) :=
  l.targetIndex?.map (l.text, ·)

theorem map_filter_not_isAdded (diff : List DiffLine) :
    (diff.filter (!·.isAdded)).map (fun l => (l.text, l.sourceIndex?)) =
      (diff.filterMap sourceLine?).map fun l => (l.1, some l.2) := by
  rw [← List.filterMap_eq_map, List.filterMap_filter, List.map_filterMap]
  congr 1
  funext l
  cases l <;> rfl

theorem map_filter_not_isRemoved (diff : List DiffLine) :
    (diff.filter (!·.isRemoved)).map (fun l => (l.text, l.targetIndex?)) =
      (diff.filterMap targetLine?).map fun l => (l.1, some l.2) := by
  rw [← List.filterMap_eq_map, List.filterMap_filter, List.map_filterMap]
  congr 1
  funext l
  cases l <;> rfl

theorem length_sourceLines_add (diff : List DiffLine) :
    (diff.filterMap sourceLine?).length + diff.countP (·.isAdded) = diff.length := by
  have others := congrArg List.length (map_filter_not_isAdded diff)
  rw [List.length_map, List.length_map, ← List.countP_eq_length_filter] at others
  have parted := List.length_eq_countP_add_countP (·.isAdded) (l := diff)
  simp only [Bool.not_eq_true, Bool.decide_eq_false] at parted
  omega

theorem length_targetLines_add (diff : List DiffLine) :
    (diff.filterMap targetLine?).length + diff.countP (·.isRemoved) = diff.length := by
  have others := congrArg List.length (map_filter_not_isRemoved diff)
  rw [List.length_map, List.length_map, ← List.countP_eq_length_filter] at others
  have parted := List.length_eq_countP_add_countP (·.isRemoved) (l := diff)
  simp only [Bool.not_eq_true, Bool.decide_eq_false] at parted
  omega

end DiffLine

namespace LineDiff

open DiffLine

theorem append_block (lines : List String) (start length : Nat) :
    lines.take start ++ (lines.drop start).take length ++ lines.drop (start + length) = lines := by
  rw [List.append_assoc, ← List.drop_drop, List.take_append_drop, List.take_append_drop]

theorem zipIdx_block (lines : List String) (k : Nat) {start length : Nat}
    (inside : start + length ≤ lines.length) :
    lines.zipIdx k = (lines.take start).zipIdx k ++
      ((lines.drop start).take length).zipIdx (k + start) ++
      (lines.drop (start + length)).zipIdx (k + start + length) := by
  have length_front : (lines.take start).length = start := by
    rw [List.length_take]
    omega
  have length_block : ((lines.drop start).take length).length = length := by
    rw [List.length_take, List.length_drop]
    omega
  have parted := congrArg (List.zipIdx · k) (append_block lines start length)
  simp only [List.zipIdx_append, List.length_append, length_front, length_block] at parted
  rw [← parted, Nat.add_assoc]

/-- The lines of a piece of a difference are those of a source from position `i` on and of a
target from position `j` on. -/
structure Sides (i j : Nat) (source target : List String) (diff : List DiffLine) : Prop where
  source : diff.filterMap sourceLine? = source.zipIdx i
  target : diff.filterMap targetLine? = target.zipIdx j

theorem sides_gap (i j : Nat) (source target : List String) :
    Sides i j source target (removedFrom i source ++ addedFrom j target) := by
  constructor <;>
    simp [removedFrom, addedFrom, List.filterMap_append, List.filterMap_map, Function.comp_def,
      sourceLine?, targetLine?, sourceIndex?, targetIndex?, DiffLine.text]

theorem sides_equalFrom (i j : Nat) (lines : List String) :
    Sides i j lines lines (equalFrom i j lines) := by
  constructor <;>
    simp [equalFrom, List.filterMap_map, Function.comp_def, sourceLine?, targetLine?,
      sourceIndex?, targetIndex?, DiffLine.text, ← List.zipIdx_eq_map_add]

theorem Sides.append_block {i j : Nat} {source target : List String} {b : Block}
    (agrees : b.Agrees source target) {before behind : List DiffLine}
    (left : Sides i j (source.take b.source) (target.take b.target) before)
    (right : Sides (i + b.source + b.length) (j + b.target + b.length)
      (source.drop (b.source + b.length)) (target.drop (b.target + b.length)) behind) :
    Sides i j source target (before ++
      equalFrom (i + b.source) (j + b.target) ((source.drop b.source).take b.length) ++
      behind) := by
  have middle := sides_equalFrom (i + b.source) (j + b.target)
    ((source.drop b.source).take b.length)
  constructor
  · rw [zipIdx_block source i agrees.source_le, List.filterMap_append, List.filterMap_append,
      left.source, middle.source, right.source]
  · rw [zipIdx_block target j agrees.target_le, List.filterMap_append, List.filterMap_append,
      left.target, middle.target, agrees.same, right.target]

theorem sides_ofSegments (i j : Nat) (source target : List String) :
    Sides i j source target (ofSegments i j source target) := by
  fun_induction ofSegments i j source target with
  | case1 i j source target m common before_sides behind_sides =>
    exact .append_block (Block.agrees_longest source target) before_sides behind_sides
  | case2 i j source target => exact sides_gap i j source target

theorem filterMap_sourceIndex (before after : List String) :
    (ofLines before after).filterMap sourceIndex? = List.range before.length := by
  have index : sourceIndex? = fun l => l.sourceLine?.map (·.2) :=
    funext fun l => by cases l <;> rfl
  rw [index, ← List.map_filterMap, ofLines, (sides_ofSegments 0 0 before after).source,
    List.zipIdx_map_snd, List.range_eq_range']

theorem ofLines_has_both_sides (before after : List String) :
    ((ofLines before after).filter (!·.isAdded)).map (fun l => (l.text, l.sourceIndex?)) =
        before.zipIdx.map (fun l => (l.1, some l.2)) ∧
      ((ofLines before after).filter (!·.isRemoved)).map (fun l => (l.text, l.targetIndex?)) =
        after.zipIdx.map (fun l => (l.1, some l.2)) ∧
      (∀ i j text, .equal i j text ∈ ofLines before after →
        before[i]? = some text ∧ after[j]? = some text) ∧
      (∀ l ∈ ofLines before after, (l.isRemoved = true → l.targetIndex? = none) ∧
        (l.isAdded = true → l.sourceIndex? = none)) ∧
      ((ofLines before after).countP (·.isAdded) : Int) - (ofLines before after).countP (·.isRemoved) =
        (after.length : Int) - before.length := by
  have sides := sides_ofSegments 0 0 before after
  have not_added := length_sourceLines_add (ofLines before after)
  have not_removed := length_targetLines_add (ofLines before after)
  rw [← ofLines] at sides
  rw [sides.source, List.length_zipIdx] at not_added
  rw [sides.target, List.length_zipIdx] at not_removed
  rw [map_filter_not_isAdded, map_filter_not_isRemoved, sides.source, sides.target]
  refine ⟨rfl, rfl, fun i j text member => ⟨?_, ?_⟩, fun l _ => ?_, by omega⟩
  · have in_source : (text, i) ∈ before.zipIdx :=
      sides.source ▸ List.mem_filterMap.2 ⟨_, member, rfl⟩
    exact List.mem_zipIdx_iff_getElem?.1 in_source
  · have in_target : (text, j) ∈ after.zipIdx :=
      sides.target ▸ List.mem_filterMap.2 ⟨_, member, rfl⟩
    exact List.mem_zipIdx_iff_getElem?.1 in_target
  · cases l <;> simp [isRemoved, isAdded, targetIndex?, sourceIndex?]

end LineDiff

end FixCorpus
