import FixCorpus.Proofs.LineDiff.Block

/-! The search for the longest block looks at each run of the table, and the block it keeps
outdoes all of them: it is longer, or just as long and found earlier. So the search finds
a block whenever the two sides have a line in common. -/

namespace FixCorpus.Block

variable {source target : List String} {b c : Block}

def EndsBy (b : Block) (i j : Nat) : Prop :=
  b.source + b.length < i ∨ b.source + b.length = i ∧ b.target + b.length ≤ j

/-- The block is to be taken rather than a run of `n` lines before line `i` of the source and line
`j` of the target: it is longer, or just as long and found earlier. -/
def Outdoes (b : Block) (i j n : Nat) : Prop :=
  n < b.length ∨ n = b.length ∧ b.EndsBy i j

theorem EndsBy.mono {i j k l : Nat} (h : b.EndsBy i j) (later : i < k ∨ i = k ∧ j ≤ l) :
    b.EndsBy k l := by
  unfold EndsBy at h ⊢
  omega

theorem Outdoes.le_length {i j n : Nat} (h : b.Outdoes i j n) : n ≤ b.length := by
  rcases h with less | ⟨same, -⟩ <;> omega

theorem Outdoes.of_lt {i j n : Nat} (h : b.Outdoes i j n) (longer : b.length < c.length) :
    c.Outdoes i j n :=
  Or.inl (Nat.lt_of_le_of_lt h.le_length longer)

theorem Outdoes.bestInRow {k l m : Nat} (h : b.Outdoes k l m) (i j : Nat) (runs : List Nat) :
    (bestInRow i j runs b).Outdoes k l m := by
  induction runs generalizing j b with
  | nil => exact h
  | cons n runs ih =>
    refine ih ?_ (j + 1)
    split
    · rename_i longer
      exact h.of_lt longer
    · exact h

theorem Outdoes.scan {k l m : Nat} (h : b.Outdoes k l m) (target : List String) (i : Nat)
    (rest : List String) (runs : List Nat) : (scan target i rest runs b).Outdoes k l m := by
  induction rest generalizing i runs b with
  | nil => exact h
  | cons line rest ih => exact ih (h.bestInRow i 0 _) (i + 1) _

theorem outdoes_bestInRow {i j k n : Nat} {runs : List Nat} {best : Block}
    (inside : ∀ k n, runs[k]? = some n → n ≤ i + 1 ∧ n ≤ j + k + 1)
    (ends : best.EndsBy (i + 1) j) (at_k : runs[k]? = some n) :
    (bestInRow i j runs best).Outdoes (i + 1) (j + k + 1) n := by
  -- A row is looked at from the left to the right, and only a longer run replaces the best block.
  induction runs generalizing j k best with
  | nil => cases at_k
  | cons m runs ih =>
    obtain ⟨source_le, target_le⟩ := inside 0 m rfl
    have chosen : (if best.length < m then ⟨i + 1 - m, j + 1 - m, m⟩ else best : Block).EndsBy
        (i + 1) (j + 1) := by
      split
      · unfold EndsBy
        dsimp only
        omega
      · exact ends.mono (Or.inr ⟨rfl, Nat.le_succ j⟩)
    cases k with
    | zero =>
      obtain rfl : m = n := Option.some.inj at_k
      refine Outdoes.bestInRow ?_ i (j + 1) runs
      unfold Outdoes
      split at chosen <;> rename_i longer
      · rw [if_pos longer]
        exact Or.inr ⟨rfl, chosen⟩
      · rw [if_neg longer]
        rcases Nat.lt_or_eq_of_le (Nat.le_of_not_lt longer) with less | same
        · exact Or.inl less
        · exact Or.inr ⟨same, chosen⟩
    | succ k =>
      have later := ih (fun k n found => by
        have := inside (k + 1) n found
        omega) chosen at_k
      rwa [Nat.add_right_comm j 1 k] at later

theorem length_nextRuns (line : String) (target : List String) (diagonal : Nat) (runs : List Nat) :
    (nextRuns line target diagonal runs).length = target.length := by
  induction target generalizing diagonal runs with
  | nil => rfl
  | cons l target ih => simp [nextRuns, ih]

theorem outdoes_scan {i k j : Nat} {rest : List String} {runs : List Nat} {best : Block}
    (rest_eq : source.drop i = rest) (row : IsRow source target i runs)
    (ends : best.source + best.length ≤ i) (from_i : i ≤ k) (in_source : k < source.length)
    (in_target : j < target.length) :
    (scan target i rest runs best).Outdoes (k + 1) (j + 1)
      (runBefore source target (k + 1) (j + 1)) := by
  induction rest generalizing i runs best with
  | nil =>
    have at_end := List.drop_eq_nil_iff.1 rest_eq
    omega
  | cons line rest ih =>
    obtain ⟨at_i, behind⟩ := line_and_rest_of_drop rest_eq
    have next := row.next at_i
    have inside : ∀ k n, (nextRuns line target 0 runs)[k]? = some n → n ≤ i + 1 ∧ n ≤ k + 1 :=
      fun k n found => next.eq_of_getElem? found ▸ runBefore_le source target (i + 1) (k + 1)
    rcases Nat.eq_or_lt_of_le from_i with rfl | later
    · have in_row : j < (nextRuns line target 0 runs).length := by
        rwa [length_nextRuns]
      have found := List.getElem?_eq_getElem in_row
      have before_row : best.EndsBy (i + 1) 0 := Or.inl (Nat.lt_succ_of_le ends)
      have outdone := outdoes_bestInRow (by simpa using inside) before_row found
      rw [Nat.zero_add, next.eq_of_getElem? found] at outdone
      exact outdone.scan target (i + 1) rest _
    · refine ih behind next ?_ later
      refine bestInRow_le (fun n member => ?_) (Nat.le_succ_of_le ends)
      obtain ⟨k, found⟩ := List.mem_iff_getElem?.1 member
      exact (inside k n found).1

theorem longest_outdoes (source target : List String) {i j : Nat} (in_source : i < source.length)
    (in_target : j < target.length) :
    (longest source target).Outdoes (i + 1) (j + 1)
      (runBefore source target (i + 1) (j + 1)) :=
  outdoes_scan List.drop_zero isRow_nil (Nat.le_refl 0) (Nat.zero_le i) in_source in_target

theorem runBefore_le_longest (source target : List String) (i j : Nat) :
    runBefore source target i j ≤ (longest source target).length := by
  cases i with
  | zero => simp [runBefore]
  | succ i =>
    cases j with
    | zero => simp [runBefore]
    | succ j =>
      by_cases agrees : i < source.length ∧ source[i]? = target[j]?
      · obtain ⟨in_target, -⟩ := List.getElem?_eq_some_iff.1
          (agrees.2.symm.trans (List.getElem?_eq_getElem agrees.1))
        exact (longest_outdoes source target agrees.1 in_target).le_length
      · rw [runBefore, if_neg agrees]
        exact Nat.zero_le _

theorem longest_pos_of_mem {line : String} (in_source : line ∈ source) (in_target : line ∈ target) :
    0 < (longest source target).length := by
  obtain ⟨i, source_line⟩ := List.mem_iff_getElem?.1 in_source
  obtain ⟨j, target_line⟩ := List.mem_iff_getElem?.1 in_target
  obtain ⟨inside, -⟩ := List.getElem?_eq_some_iff.1 source_line
  refine Nat.lt_of_lt_of_le ?_ (runBefore_le_longest source target (i + 1) (j + 1))
  rw [runBefore, if_pos ⟨inside, source_line.trans target_line.symm⟩]
  exact Nat.succ_pos _

theorem Agrees.exists_mem {b : Block} (h : Agrees source target b) (nonempty : 0 < b.length) :
    ∃ line ∈ source, line ∈ target := by
  have inside : 0 < ((source.drop b.source).take b.length).length := by
    have := h.source_le
    rw [List.length_take, List.length_drop]
    omega
  obtain ⟨line, in_source⟩ := List.exists_mem_of_length_pos inside
  have in_target := in_source
  rw [h.same] at in_target
  exact ⟨line, List.mem_of_mem_drop (List.mem_of_mem_take in_source),
    List.mem_of_mem_drop (List.mem_of_mem_take in_target)⟩

end FixCorpus.Block
