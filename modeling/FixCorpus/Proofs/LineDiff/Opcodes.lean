import FixCorpus.Proofs.LineDiff.Block

/-! The difference of lines as a list of operations. Segments wait on a stack; the
longest common block of the uppermost one is put down, and what lies before and
behind it goes on the stack. The blocks are then sorted and put together where
they touch, and each of them is an operation, as is each gap between two of them.
Main statement: the lines of these operations are those of the difference. -/

namespace FixCorpus.LineDiff

structure Segment where
  source : Nat
  target : Nat
  sourceLines : List String
  targetLines : List String

namespace Segment

def longest (s : Segment) : Block :=
  let m := Block.longest s.sourceLines s.targetLines
  ⟨s.source + m.source, s.target + m.target, m.length⟩

def before (s : Segment) : Segment :=
  let m := Block.longest s.sourceLines s.targetLines
  ⟨s.source, s.target, s.sourceLines.take m.source, s.targetLines.take m.target⟩

def behind (s : Segment) : Segment :=
  let m := Block.longest s.sourceLines s.targetLines
  ⟨s.source + m.source + m.length, s.target + m.target + m.length,
    s.sourceLines.drop (m.source + m.length), s.targetLines.drop (m.target + m.length)⟩

/-- What goes on the stack, the uppermost segment first. A segment without lines on a side has no
block. -/
def unfinished (s : Segment) : List Segment :=
  [s.behind, s.before].filter fun part => !part.sourceLines.isEmpty && !part.targetLines.isEmpty

theorem length_before_add (s : Segment) : s.before.sourceLines.length + s.longest.length +
    s.behind.sourceLines.length = s.sourceLines.length := by
  have inside := (Block.agrees_longest s.sourceLines s.targetLines).source_le
  simp only [before, longest, behind, List.length_take, List.length_drop]
  omega

end Segment

/-- How many steps it takes at most to work a stack off: each block takes lines away and leaves two
segments. -/
def work : List Segment → Nat
  | [] => 0
  | s :: stack => 2 * s.sourceLines.length + 1 + work stack

theorem work_append (front stack : List Segment) :
    work (front ++ stack) = work front + work stack := by
  induction front with
  | nil => exact (Nat.zero_add _).symm
  | cons s front ih =>
    rw [List.cons_append, work, work, ih]
    exact (Nat.add_assoc _ _ _).symm

theorem work_filter_le (p : Segment → Bool) (stack : List Segment) :
    work (stack.filter p) ≤ work stack := by
  induction stack with
  | nil => exact Nat.le_refl _
  | cons s stack ih =>
    rw [List.filter_cons]
    split <;> simp only [work] <;> omega

theorem work_unfinished_lt {s : Segment} (common : 0 < s.longest.length) :
    work s.unfinished < work [s] := by
  have parts := s.length_before_add
  have all : work s.unfinished ≤ work [s.behind, s.before] := work_filter_le _ _
  simp only [work] at all ⊢
  omega

def blocks : (stack : List Segment) → List Block
  | [] => []
  | s :: stack =>
    if _common : 0 < s.longest.length then s.longest :: blocks (s.unfinished ++ stack)
    else blocks stack
termination_by stack => work stack
decreasing_by
  · have less := work_unfinished_lt _common
    simp only [work_append, work] at less ⊢
    omega
  · simp only [work]
    omega

/-- Blocks are sorted by where they begin in the source, then in the target, and then by length. -/
def inOrder (a b : Block) : Bool :=
  a.source < b.source || a.source == b.source &&
    (a.target < b.target || a.target == b.target && a.length ≤ b.length)

/-- The block `last` and those behind it, where neighbours that touch on both sides are one. -/
def joinOnto (last : Block) : List Block → List Block
  | [] => [last]
  | b :: rest =>
    if last.source + last.length = b.source ∧ last.target + last.length = b.target then
      joinOnto { last with length := last.length + b.length } rest
    else last :: joinOnto b rest

def join : List Block → List Block
  | [] => []
  | b :: rest => joinOnto b rest

inductive OpcodeKind where
  | replace
  | delete
  | insert
  | equal
deriving DecidableEq, Repr

structure Opcode where
  kind : OpcodeKind
  source : Nat
  sourceStop : Nat
  target : Nat
  targetStop : Nat
deriving DecidableEq, Repr

def gapKind? (source target : Nat) (m : Block) : Option OpcodeKind :=
  if source < m.source then
    if target < m.target then some .replace else some .delete
  else if target < m.target then some .insert else none

/-- The operations from two positions on, up to the end of the last block. -/
def opcodes (source target : Nat) : List Block → List Opcode
  | [] => []
  | m :: rest =>
    ((gapKind? source target m).map (⟨·, source, m.source, target, m.target⟩)).toList ++
      (if 0 < m.length then
        [⟨.equal, m.source, m.source + m.length, m.target, m.target + m.length⟩] else []) ++
      opcodes (m.source + m.length) (m.target + m.length) rest

def slice (lines : List String) (first stop : Nat) : List String :=
  (lines.take stop).drop first

def Opcode.lines (before after : List String) (c : Opcode) : List DiffLine :=
  let removed := removedFrom c.source (slice before c.source c.sourceStop)
  let added := addedFrom c.target (slice after c.target c.targetStop)
  match c.kind with
  | .replace => removed ++ added
  | .delete => removed
  | .insert => added
  | .equal => equalFrom c.source c.target (slice before c.source c.sourceStop)

/-- The blocks of two lists of lines, and one without lines where the lists end. -/
def matchingBlocks (before after : List String) : List Block :=
  join ((blocks [⟨0, 0, before, after⟩]).mergeSort inOrder) ++ [⟨before.length, after.length, 0⟩]

/-- The blocks of a segment from front to back. -/
def Segment.blocks (s : Segment) : List Block :=
  if _common : 0 < s.longest.length then s.before.blocks ++ s.longest :: s.behind.blocks else []
termination_by s.sourceLines.length
decreasing_by
  all_goals
    have parts := s.length_before_add
    omega

theorem Segment.blocks_of_empty {s : Segment}
    (empty : (!s.sourceLines.isEmpty && !s.targetLines.isEmpty) = false) : s.blocks = [] := by
  have agrees := Block.agrees_longest s.sourceLines s.targetLines
  have no_block : ¬ 0 < s.longest.length := fun common => by
    have source_le := agrees.source_le
    have target_le := agrees.target_le
    simp only [Bool.and_eq_false_iff, Bool.not_eq_false', List.isEmpty_iff_length_eq_zero] at empty
    simp only [Segment.longest] at common
    omega
  rw [Segment.blocks, dif_neg no_block]

theorem Segment.flatMap_blocks_filter (parts : List Segment) :
    (parts.filter fun part => !part.sourceLines.isEmpty && !part.targetLines.isEmpty).flatMap
      Segment.blocks = parts.flatMap Segment.blocks := by
  -- Segments that the stack leaves out have no block.
  induction parts with
  | nil => rfl
  | cons part parts ih =>
    cases empty : !part.sourceLines.isEmpty && !part.targetLines.isEmpty with
    | false => rw [List.filter_cons_of_neg (by simp [empty]), List.flatMap_cons, ih,
        blocks_of_empty empty, List.nil_append]
    | true => rw [List.filter_cons_of_pos (by simpa using empty), List.flatMap_cons,
        List.flatMap_cons, ih]

theorem Segment.perm_blocks_unfinished (s : Segment) :
    (s.unfinished.flatMap Segment.blocks).Perm (s.before.blocks ++ s.behind.blocks) := by
  rw [unfinished, flatMap_blocks_filter, List.flatMap_cons, List.flatMap_singleton]
  exact List.perm_append_comm

theorem perm_blocks (stack : List Segment) :
    (blocks stack).Perm (stack.flatMap Segment.blocks) := by
  fun_induction blocks stack with
  | case1 => exact .refl _
  | case2 s stack common ih =>
    rw [List.flatMap_append] at ih
    rw [List.flatMap_cons, Segment.blocks, dif_pos common]
    have parts := (ih.trans (s.perm_blocks_unfinished.append_right _)).cons s.longest
    rw [← List.cons_append] at parts
    exact parts.trans (List.perm_middle.symm.append_right _)
  | case3 s stack none_common ih =>
    rw [List.flatMap_cons, Segment.blocks, dif_neg none_common, List.nil_append]
    exact ih

structure Segment.Holds (s : Segment) (b : Block) : Prop where
  nonempty : 0 < b.length
  source_le : s.source ≤ b.source
  source_stop : b.source + b.length ≤ s.source + s.sourceLines.length
  target_stop : b.target + b.length ≤ s.target + s.targetLines.length

theorem Segment.holds_longest {s : Segment} (common : 0 < s.longest.length) :
    s.Holds s.longest := by
  have agrees := Block.agrees_longest s.sourceLines s.targetLines
  have source_le := agrees.source_le
  have target_le := agrees.target_le
  refine ⟨common, ?_, ?_, ?_⟩ <;> simp only [longest] <;> omega

theorem Segment.Holds.of_before {s : Segment} {b : Block} (h : s.before.Holds b) :
    s.Holds b ∧ b.source + b.length ≤ s.longest.source := by
  obtain ⟨nonempty, source_le, source_stop, target_stop⟩ := h
  simp only [before, List.length_take] at source_le source_stop target_stop
  exact ⟨⟨nonempty, source_le, by omega, by omega⟩, by simp only [longest]; omega⟩

theorem Segment.Holds.of_behind {s : Segment} {b : Block} (h : s.behind.Holds b) :
    s.Holds b ∧ s.longest.source + s.longest.length ≤ b.source := by
  have agrees := Block.agrees_longest s.sourceLines s.targetLines
  have inside := agrees.source_le
  have target_inside := agrees.target_le
  obtain ⟨nonempty, source_le, source_stop, target_stop⟩ := h
  simp only [behind, List.length_drop] at source_le source_stop target_stop
  exact ⟨⟨nonempty, by omega, by omega, by omega⟩, by simp only [longest]; omega⟩

theorem Segment.holds_of_mem_blocks {s : Segment} : ∀ b ∈ s.blocks, s.Holds b := by
  fun_induction Segment.blocks s with
  | case1 s common before_ih behind_ih =>
    simp only [List.forall_mem_append, List.forall_mem_cons]
    exact ⟨fun b member => (before_ih b member).of_before.1, holds_longest common,
      fun b member => (behind_ih b member).of_behind.1⟩
  | case2 => exact nofun

theorem Segment.pairwise_blocks (s : Segment) :
    s.blocks.Pairwise fun a b => a.source < b.source := by
  fun_induction Segment.blocks s with
  | case1 s common before_ih behind_ih =>
    have front : ∀ a ∈ s.before.blocks, a.source < s.longest.source := fun a member => by
      have found := holds_of_mem_blocks a member
      have stop := found.of_before.2
      have nonempty := found.nonempty
      omega
    have back : ∀ b ∈ s.behind.blocks, s.longest.source < b.source := fun b member => by
      have start := (holds_of_mem_blocks b member).of_behind.2
      omega
    refine List.pairwise_append.2 ⟨before_ih, List.pairwise_cons.2 ⟨back, behind_ih⟩, ?_⟩
    intro a a_member
    exact List.forall_mem_cons.2 ⟨front a a_member, fun b b_member =>
      Nat.lt_trans (front a a_member) (back b b_member)⟩
  | case2 => exact .nil

theorem inOrder_iff {a b : Block} : inOrder a b = true ↔ a.source < b.source ∨
    a.source = b.source ∧ (a.target < b.target ∨ a.target = b.target ∧ a.length ≤ b.length) := by
  simp [inOrder]

theorem mergeSort_blocks (s : Segment) : (blocks [s]).mergeSort inOrder = s.blocks := by
  have trans : ∀ a b c, inOrder a b = true → inOrder b c = true → inOrder a c = true := by
    simp only [inOrder_iff]
    omega
  have total : ∀ a b, (inOrder a b || inOrder b a) = true := by
    simp only [Bool.or_eq_true, inOrder_iff]
    omega
  have sorted : s.blocks.Pairwise fun a b => inOrder a b = true :=
    s.pairwise_blocks.imp fun less => inOrder_iff.2 (Or.inl less)
  have same := (List.mergeSort_perm (blocks [s]) inOrder).trans (perm_blocks [s])
  rw [List.flatMap_singleton] at same
  -- There is one sorted list of the blocks, and from front to back they are sorted.
  refine same.eq_of_pairwise (fun a b _ _ left right => ?_)
    (List.pairwise_mergeSort trans total _) sorted
  rw [inOrder_iff] at left right
  obtain ⟨i, j, n⟩ := a
  obtain ⟨k, l, m⟩ := b
  simp only [Block.mk.injEq] at left right ⊢
  omega

section

variable {before after : List String}

theorem slice_eq_nil {lines : List String} {first stop : Nat} (empty : stop ≤ first) :
    slice lines first stop = [] :=
  List.drop_eq_nil_of_le (Nat.le_trans (List.length_take_le _ _) empty)

theorem slice_append (lines : List String) {first middle stop : Nat} (left : first ≤ middle)
    (right : middle ≤ stop) : slice lines first middle ++ slice lines middle stop =
      slice lines first stop := by
  have front : lines.take middle = (lines.take stop).take middle := by
    rw [List.take_take, Nat.min_eq_left right]
  have back : (lines.take stop).drop middle =
      ((lines.take stop).drop first).drop (middle - first) := by
    rw [List.drop_drop, Nat.add_sub_cancel' left]
  rw [slice, slice, slice, front, List.drop_take, back, List.take_append_drop]

theorem length_slice {lines : List String} (first : Nat) {stop : Nat}
    (inside : stop ≤ lines.length) : (slice lines first stop).length = stop - first := by
  rw [slice, List.length_drop, List.length_take, Nat.min_eq_left inside]

theorem take_slice (lines : List String) (first n : Nat) {stop : Nat}
    (inside : first + n ≤ stop) :
    (slice lines first stop).take n = slice lines first (first + n) := by
  rw [slice, slice, List.take_drop, List.take_take, Nat.min_eq_left inside]

theorem drop_slice (lines : List String) (first stop n : Nat) :
    (slice lines first stop).drop n = slice lines (first + n) stop := by
  rw [slice, slice, List.drop_drop]

theorem equalFrom_append (i j : Nat) (front behind : List String) :
    equalFrom i j front ++ equalFrom (i + front.length) (j + front.length) behind =
      equalFrom i j (front ++ behind) := by
  simp only [equalFrom, List.zipIdx_append, List.map_append, Nat.zero_add]
  rw [List.zipIdx_eq_map_add (l := behind) (i := front.length), List.map_map]
  simp only [Function.comp_def, Nat.add_comm, Nat.add_left_comm]

theorem flatMap_opcodes_cons (i j : Nat) (m : Block) (rest : List Block) :
    (opcodes i j (m :: rest)).flatMap (Opcode.lines before after) =
      removedFrom i (slice before i m.source) ++ addedFrom j (slice after j m.target) ++
        equalFrom m.source m.target (slice before m.source (m.source + m.length)) ++
        (opcodes (m.source + m.length) (m.target + m.length) rest).flatMap
          (Opcode.lines before after) := by
  have gap : ((gapKind? i j m).map (⟨·, i, m.source, j, m.target⟩)).toList.flatMap
      (Opcode.lines before after) =
        removedFrom i (slice before i m.source) ++ addedFrom j (slice after j m.target) := by
    -- A kind that has no lines on a side leaves out what would be empty.
    unfold gapKind?
    split <;> split
    · simp [Opcode.lines]
    · rename_i source_gap no_target_gap
      simp [Opcode.lines, slice_eq_nil (Nat.le_of_not_lt no_target_gap), addedFrom]
    · rename_i no_source_gap target_gap
      simp [Opcode.lines, slice_eq_nil (Nat.le_of_not_lt no_source_gap), removedFrom]
    · rename_i no_source_gap no_target_gap
      simp [slice_eq_nil (Nat.le_of_not_lt no_source_gap),
        slice_eq_nil (Nat.le_of_not_lt no_target_gap), removedFrom, addedFrom]
  have block : (if 0 < m.length then
      [(⟨.equal, m.source, m.source + m.length, m.target, m.target + m.length⟩ : Opcode)]
        else []).flatMap (Opcode.lines before after) =
      equalFrom m.source m.target (slice before m.source (m.source + m.length)) := by
    split
    · simp [Opcode.lines]
    · rename_i no_lines
      have empty : m.source + m.length ≤ m.source := by omega
      simp [slice_eq_nil empty, equalFrom]
  rw [opcodes, List.flatMap_append, List.flatMap_append, gap, block]

theorem flatMap_opcodes_joinOnto (i j : Nat) (last : Block) (rest tail : List Block)
    (inside : ∀ b ∈ last :: rest, b.source + b.length ≤ before.length) :
    (opcodes i j (joinOnto last rest ++ tail)).flatMap (Opcode.lines before after) =
      (opcodes i j (last :: rest ++ tail)).flatMap (Opcode.lines before after) := by
  induction rest generalizing i j last with
  | nil => rfl
  | cons b rest ih =>
    simp only [List.forall_mem_cons] at inside
    obtain ⟨last_inside, b_inside, rest_inside⟩ := inside
    rw [joinOnto]
    split
    · rename_i touch
      -- Without a gap between them the lines of both blocks follow each other.
      obtain ⟨k, l, n⟩ := b
      obtain ⟨rfl, rfl⟩ := touch
      have both := equalFrom_append last.source last.target
        (slice before last.source (last.source + last.length))
        (slice before (last.source + last.length) (last.source + last.length + n))
      rw [length_slice _ last_inside, Nat.add_sub_cancel_left,
        slice_append before (Nat.le_add_right _ _) (Nat.le_add_right _ _)] at both
      rw [ih i j _ (List.forall_mem_cons.2 ⟨by dsimp only at b_inside ⊢; omega, rest_inside⟩)]
      simp only [List.cons_append, flatMap_opcodes_cons, slice_eq_nil (Nat.le_refl _),
        ← Nat.add_assoc, ← both, List.append_assoc]
      rfl
    · rw [List.cons_append, List.cons_append, flatMap_opcodes_cons, flatMap_opcodes_cons,
        ih _ _ b (List.forall_mem_cons.2 ⟨b_inside, rest_inside⟩)]

structure Segment.Reaches (before after : List String) (stop targetStop : Nat) (s : Segment) :
    Prop where
  source_le : s.source ≤ stop
  stop_le : stop ≤ before.length
  sourceLines : s.sourceLines = slice before s.source stop
  target_le : s.target ≤ targetStop
  targetStop_le : targetStop ≤ after.length
  targetLines : s.targetLines = slice after s.target targetStop

section

variable {s : Segment} {stop targetStop : Nat} (h : s.Reaches before after stop targetStop)
include h

theorem Segment.Reaches.longest_le : s.longest.source + s.longest.length ≤ stop ∧
    s.longest.target + s.longest.length ≤ targetStop := by
  have agrees := Block.agrees_longest s.sourceLines s.targetLines
  have source_stop := agrees.source_le
  have target_stop := agrees.target_le
  have source_length := length_slice s.source h.stop_le
  have target_length := length_slice s.target h.targetStop_le
  rw [← h.sourceLines] at source_length
  rw [← h.targetLines] at target_length
  have source_le := h.source_le
  have target_le := h.target_le
  constructor <;> simp only [longest] <;> omega

theorem Segment.Reaches.before_reaches :
    s.before.Reaches before after s.longest.source s.longest.target := by
  obtain ⟨source_stop, target_stop⟩ := h.longest_le
  refine ⟨Nat.le_add_right _ _, ?_, ?_, Nat.le_add_right _ _, ?_, ?_⟩
  · exact Nat.le_trans (Nat.le_trans (Nat.le_add_right _ _) source_stop) h.stop_le
  · have part := take_slice before s.source
      (Block.longest s.sourceLines s.targetLines).source
      (Nat.le_trans (Nat.le_add_right _ _) source_stop)
    rwa [← h.sourceLines] at part
  · exact Nat.le_trans (Nat.le_trans (Nat.le_add_right _ _) target_stop) h.targetStop_le
  · have part := take_slice after s.target
      (Block.longest s.sourceLines s.targetLines).target
      (Nat.le_trans (Nat.le_add_right _ _) target_stop)
    rwa [← h.targetLines] at part

theorem Segment.Reaches.behind_reaches : s.behind.Reaches before after stop targetStop := by
  obtain ⟨source_stop, target_stop⟩ := h.longest_le
  refine ⟨source_stop, h.stop_le, ?_, target_stop, h.targetStop_le, ?_⟩
  · have part := drop_slice before s.source stop ((Block.longest s.sourceLines
      s.targetLines).source + (Block.longest s.sourceLines s.targetLines).length)
    rwa [← h.sourceLines, ← Nat.add_assoc] at part
  · have part := drop_slice after s.target targetStop ((Block.longest s.sourceLines
      s.targetLines).target + (Block.longest s.sourceLines s.targetLines).length)
    rwa [← h.targetLines, ← Nat.add_assoc] at part

theorem Segment.Reaches.lines_longest :
    (s.sourceLines.drop (Block.longest s.sourceLines s.targetLines).source).take
        (Block.longest s.sourceLines s.targetLines).length =
      slice before s.longest.source (s.longest.source + s.longest.length) := by
  have part := drop_slice before s.source stop (Block.longest s.sourceLines s.targetLines).source
  rw [← h.sourceLines] at part
  rw [part]
  exact take_slice before _ _ h.longest_le.1

end

theorem flatMap_opcodes_blocks {s : Segment} {next : Block}
    (reaches : s.Reaches before after next.source next.target) (rest : List Block) :
    (opcodes s.source s.target (s.blocks ++ next :: rest)).flatMap (Opcode.lines before after) =
      ofSegments s.source s.target s.sourceLines s.targetLines ++
        (equalFrom next.source next.target
            (slice before next.source (next.source + next.length)) ++
          (opcodes (next.source + next.length) (next.target + next.length) rest).flatMap
            (Opcode.lines before after)) := by
  fun_induction Segment.blocks s generalizing next rest with
  | case1 s common before_ih behind_ih =>
    have nonempty : 0 < (Block.longest s.sourceLines s.targetLines).length := common
    have front := before_ih reaches.before_reaches (s.behind.blocks ++ next :: rest)
    have back := behind_ih reaches.behind_reaches rest
    rw [List.append_assoc, List.cons_append, ofSegments, dif_pos nonempty, reaches.lines_longest]
    -- The segment before the longest block reaches up to that block.
    refine front.trans ?_
    rw [List.append_assoc, List.append_assoc]
    exact congrArg _ (congrArg _ back)
  | case2 s none_common =>
    have no_block : ¬ 0 < (Block.longest s.sourceLines s.targetLines).length := none_common
    rw [List.nil_append, flatMap_opcodes_cons, ofSegments, dif_neg no_block, reaches.sourceLines,
      reaches.targetLines, List.append_assoc]

/-- The difference is made of the lines of the operations. -/
theorem ofLines_eq_flatMap_opcodes (before after : List String) :
    ofLines before after =
      (opcodes 0 0 (matchingBlocks before after)).flatMap (Opcode.lines before after) := by
  let all : Segment := ⟨0, 0, before, after⟩
  let last : Block := ⟨before.length, after.length, 0⟩
  have reaches : all.Reaches before after last.source last.target :=
    ⟨Nat.zero_le _, Nat.le_refl _, by simp [all, last, slice], Nat.zero_le _, Nat.le_refl _,
      by simp [all, last, slice]⟩
  have joined : (opcodes 0 0 (join all.blocks ++ [last])).flatMap (Opcode.lines before after) =
      (opcodes 0 0 (all.blocks ++ [last])).flatMap (Opcode.lines before after) := by
    have inside : ∀ b ∈ all.blocks, b.source + b.length ≤ before.length := fun b member => by
      simpa [all] using (Segment.holds_of_mem_blocks b member).source_stop
    cases blocks_eq : all.blocks with
    | nil => rfl
    | cons b rest => exact flatMap_opcodes_joinOnto 0 0 b rest _ (blocks_eq ▸ inside)
  rw [matchingBlocks, mergeSort_blocks, joined]
  have parts := flatMap_opcodes_blocks reaches []
  simp only [opcodes, List.flatMap_nil, List.append_nil, last, Nat.add_zero,
    slice_eq_nil (Nat.le_refl _), equalFrom, List.zipIdx_nil, List.map_nil] at parts
  exact parts.symm

end

end FixCorpus.LineDiff
