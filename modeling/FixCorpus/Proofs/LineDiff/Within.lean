import FixCorpus.Proofs.LineDiff.First

/-! Common blocks inside ranges of lines, which is where a difference of lines looks
for them. Main statement: the block that is found is the longest one in the two
ranges and of these the first one, and making it longer at either end as long as
the next lines agree changes nothing. -/

namespace FixCorpus.LineDiff

/-- Lines that stand together in a list: those from `first` on that are before `stop`. -/
structure Span (lines : List String) where
  first : Nat
  stop : Nat
  first_le : first ≤ stop
  stop_le : stop ≤ lines.length

def Span.lines {lines : List String} (s : Span lines) : List String :=
  (lines.take s.stop).drop s.first

variable {source target : List String}

/-- The longest block that two ranges have in common, in the lines of the whole lists. -/
def longestWithin (a : Span source) (b : Span target) : Block :=
  let m := Block.longest a.lines b.lines
  ⟨a.first + m.source, b.first + m.target, m.length⟩

/-- The block with all the lines directly before it that agree, as far as the ranges go. -/
def growFront (a : Span source) (b : Span target) : Block → Block
  | ⟨i + 1, j + 1, n⟩ =>
    if a.first ≤ i ∧ b.first ≤ j ∧ source[i]? = target[j]? then growFront a b ⟨i, j, n + 1⟩
    else ⟨i + 1, j + 1, n⟩
  | c => c
termination_by c => c.source

/-- The block with all the lines directly behind it that agree, as far as the ranges go. -/
def growBehind (a : Span source) (b : Span target) (c : Block) : Block :=
  if c.source + c.length < a.stop ∧ c.target + c.length < b.stop ∧
      source[c.source + c.length]? = target[c.target + c.length]? then
    growBehind a b { c with length := c.length + 1 }
  else c
termination_by a.stop - (c.source + c.length)

structure CommonWithin (a : Span source) (b : Span target) (c : Block) : Prop where
  first_le_source : a.first ≤ c.source
  source_le : c.source + c.length ≤ a.stop
  first_le_target : b.first ≤ c.target
  target_le : c.target + c.length ≤ b.stop
  same : (source.drop c.source).take c.length = (target.drop c.target).take c.length

variable {a : Span source} {b : Span target} {c m : Block}

@[simp] theorem Span.length_lines (s : Span source) : s.lines.length = s.stop - s.first := by
  rw [Span.lines, List.length_drop, List.length_take, Nat.min_eq_left s.stop_le]

theorem Span.take_drop_lines (s : Span source) {i n : Nat} (inside : s.first + i + n ≤ s.stop) :
    (s.lines.drop i).take n = (source.drop (s.first + i)).take n := by
  rw [Span.lines, List.drop_drop, List.drop_take, List.take_take, Nat.min_eq_left (by omega)]

theorem Span.take_lines (s : Span source) {i : Nat} (inside : s.first + i ≤ s.stop) :
    s.lines.take i = (source.take (s.first + i)).drop s.first := by
  rw [Span.lines, List.take_drop, List.take_take, Nat.min_eq_left inside]

theorem Span.drop_lines (s : Span source) (i : Nat) :
    s.lines.drop i = (source.take s.stop).drop (s.first + i) := by
  rw [Span.lines, List.drop_drop]

theorem agrees_lines_iff {i j n : Nat} : Block.Agrees a.lines b.lines ⟨i, j, n⟩ ↔
    CommonWithin a b ⟨a.first + i, b.first + j, n⟩ := by
  have source_first := a.first_le
  have target_first := b.first_le
  constructor
  · rintro ⟨source_le, target_le, same⟩
    rw [Span.length_lines] at source_le target_le
    dsimp only at source_le target_le same
    rw [a.take_drop_lines (by omega), b.take_drop_lines (by omega)] at same
    exact ⟨Nat.le_add_right _ _, by dsimp only; omega, Nat.le_add_right _ _, by dsimp only; omega,
      same⟩
  · rintro ⟨-, source_le, -, target_le, same⟩
    dsimp only at source_le target_le same
    rw [← a.take_drop_lines source_le, ← b.take_drop_lines target_le] at same
    refine ⟨?_, ?_, same⟩ <;> rw [Span.length_lines] <;> dsimp only <;> omega

theorem common_longestWithin (a : Span source) (b : Span target) :
    CommonWithin a b (longestWithin a b) :=
  agrees_lines_iff.1 (Block.agrees_longest a.lines b.lines)

theorem longestWithin_first (common : CommonWithin a b c) :
    c.length ≤ (longestWithin a b).length ∧ (c.length = (longestWithin a b).length →
      (longestWithin a b).source < c.source ∨ (longestWithin a b).source = c.source ∧
        (longestWithin a b).target ≤ c.target) := by
  obtain ⟨k, l, n⟩ := c
  obtain ⟨i, rfl⟩ : ∃ i, k = a.first + i := Nat.exists_eq_add_of_le common.first_le_source
  obtain ⟨j, rfl⟩ : ∃ j, l = b.first + j := Nat.exists_eq_add_of_le common.first_le_target
  simpa [longestWithin] using Block.longest_first (agrees_lines_iff.2 common)

theorem longestWithin_eq_of_length (none_common : (longestWithin a b).length = 0) :
    longestWithin a b = ⟨a.first, b.first, 0⟩ := by
  have nothing : Block.longest a.lines b.lines = ⟨0, 0, 0⟩ :=
    Block.longest_eq_of_length none_common
  rw [longestWithin, nothing]
  rfl

theorem longestWithin_length_eq_zero_iff :
    (longestWithin a b).length = 0 ↔ ∀ line ∈ a.lines, line ∉ b.lines := by
  constructor
  · intro none_common line in_source in_target
    exact absurd none_common (Nat.ne_of_gt (Block.longest_pos_of_mem in_source in_target))
  · intro apart
    refine Nat.eq_zero_of_not_pos fun some_common => ?_
    obtain ⟨line, in_source, in_target⟩ :=
      (Block.agrees_longest a.lines b.lines).exists_mem some_common
    exact apart line in_source in_target

theorem CommonWithin.extend (common : CommonWithin a b c)
    (source_lt : c.source + c.length < a.stop) (target_lt : c.target + c.length < b.stop)
    (same : source[c.source + c.length]? = target[c.target + c.length]?) :
    CommonWithin a b { c with length := c.length + 1 } := by
  refine ⟨common.first_le_source, source_lt, common.first_le_target, target_lt, ?_⟩
  rw [List.take_add_one, List.take_add_one, common.same, List.getElem?_drop, List.getElem?_drop,
    same]

theorem CommonWithin.extendFront {i j n : Nat} (common : CommonWithin a b ⟨i + 1, j + 1, n⟩)
    (source_le : a.first ≤ i) (target_le : b.first ≤ j) (same : source[i]? = target[j]?) :
    CommonWithin a b ⟨i, j, n + 1⟩ := by
  have source_stop := common.source_le
  have target_stop := common.target_le
  dsimp only at source_stop target_stop
  refine ⟨source_le, by dsimp only; omega, target_le, by dsimp only; omega, ?_⟩
  have in_source : i < source.length := by
    have := a.stop_le
    omega
  have in_target : j < target.length := by
    have := b.stop_le
    omega
  rw [List.getElem?_eq_getElem in_source, List.getElem?_eq_getElem in_target,
    Option.some.injEq] at same
  rw [List.drop_eq_getElem_cons in_source, List.drop_eq_getElem_cons in_target, List.take_succ_cons,
    List.take_succ_cons, same, common.same]

theorem growFront_eq_self (common : CommonWithin a b m)
    (longest : ∀ c, CommonWithin a b c → c.length ≤ m.length) : growFront a b m = m := by
  obtain ⟨_ | i, j, n⟩ := m
  · rw [growFront]
    exact nofun
  obtain _ | j := j
  · rw [growFront]
    exact nofun
  rw [growFront, if_neg]
  rintro ⟨source_le, target_le, same⟩
  exact absurd (longest _ (common.extendFront source_le target_le same)) (Nat.not_succ_le_self n)

theorem growBehind_eq_self (common : CommonWithin a b m)
    (longest : ∀ c, CommonWithin a b c → c.length ≤ m.length) : growBehind a b m = m := by
  rw [growBehind, if_neg]
  rintro ⟨source_lt, target_lt, same⟩
  exact absurd (longest _ (common.extend source_lt target_lt same)) (Nat.not_succ_le_self _)

/-- The difference of two ranges is made of their first longest block and of the differences of
what lies before it and of what lies behind it. -/
theorem ofSegments_lines (a : Span source) (b : Span target) :
    ofSegments a.first b.first a.lines b.lines =
      let m := longestWithin a b
      if 0 < m.length then
        ofSegments a.first b.first ((source.take m.source).drop a.first)
            ((target.take m.target).drop b.first) ++
          equalFrom m.source m.target ((source.drop m.source).take m.length) ++
          ofSegments (m.source + m.length) (m.target + m.length)
            ((source.take a.stop).drop (m.source + m.length))
            ((target.take b.stop).drop (m.target + m.length))
      else removedFrom a.first a.lines ++ addedFrom b.first b.lines := by
  have common := common_longestWithin a b
  have source_le := Nat.le_trans (Nat.le_add_right _ _) common.source_le
  have target_le := Nat.le_trans (Nat.le_add_right _ _) common.target_le
  have block : (a.lines.drop (Block.longest a.lines b.lines).source).take
      (Block.longest a.lines b.lines).length = (source.drop (longestWithin a b).source).take
      (longestWithin a b).length := a.take_drop_lines common.source_le
  by_cases nonempty : 0 < (Block.longest a.lines b.lines).length
  · rw [ofSegments, dif_pos nonempty, a.take_lines source_le, b.take_lines target_le,
      block, a.drop_lines, b.drop_lines]
    simp only [longestWithin, if_pos nonempty, Nat.add_assoc]
  · rw [ofSegments, dif_neg nonempty]
    exact (if_neg nonempty).symm

theorem longestWithin_is_first_longest (a : Span source) (b : Span target) :
    let m := longestWithin a b
    CommonWithin a b m ∧
      (∀ c, CommonWithin a b c → c.length ≤ m.length ∧ (c.length = m.length →
        m.source < c.source ∨ m.source = c.source ∧ m.target ≤ c.target)) ∧
      (m.length = 0 ↔ ∀ line ∈ a.lines, line ∉ b.lines) ∧
      (m.length = 0 → m = ⟨a.first, b.first, 0⟩) ∧
      growFront a b m = m ∧ growBehind a b m = m := by
  intro m
  have common : CommonWithin a b m := common_longestWithin a b
  have longest : ∀ c, CommonWithin a b c → c.length ≤ m.length := fun c other =>
    (longestWithin_first other).1
  exact ⟨common, fun c other => longestWithin_first other, longestWithin_length_eq_zero_iff,
    longestWithin_eq_of_length, growFront_eq_self common longest,
    growBehind_eq_self common longest⟩

end FixCorpus.LineDiff
