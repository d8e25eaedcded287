import FixCorpus.LineDiff

/-! Common blocks of two lists of lines. The table that the search for the longest
block goes through holds, for each pair of lines, how many lines up to there
agree; every block that is found is made up of such a run, so that its lines are
the same on both sides. -/

namespace FixCorpus.Block

structure Agrees (source target : List String) (b : Block) : Prop where
  source_le : b.source + b.length ≤ source.length
  target_le : b.target + b.length ≤ target.length
  same : (source.drop b.source).take b.length = (target.drop b.target).take b.length

variable {source target : List String}

theorem agrees_empty {i j : Nat} (source_le : i ≤ source.length) (target_le : j ≤ target.length) :
    Agrees source target ⟨i, j, 0⟩ :=
  ⟨source_le, target_le, by simp⟩

theorem Agrees.extend {i j n : Nat} (h : Agrees source target ⟨i, j, n⟩) {line : String}
    (in_source : source[i + n]? = some line) (in_target : target[j + n]? = some line) :
    Agrees source target ⟨i, j, n + 1⟩ := by
  obtain ⟨source_lt, -⟩ := List.getElem?_eq_some_iff.1 in_source
  obtain ⟨target_lt, -⟩ := List.getElem?_eq_some_iff.1 in_target
  refine ⟨source_lt, target_lt, ?_⟩
  have same := h.same
  dsimp only at same ⊢
  rw [List.take_add_one, List.take_add_one, same, List.getElem?_drop, List.getElem?_drop,
    in_source, in_target]

/-- How many lines directly before line `i` of the source and line `j` of the target agree. -/
def runBefore (source target : List String) : (i j : Nat) → Nat
  | i + 1, j + 1 =>
    if i < source.length ∧ source[i]? = target[j]? then runBefore source target i j + 1 else 0
  | _, _ => 0

theorem runBefore_le (source target : List String) (i j : Nat) :
    runBefore source target i j ≤ i ∧ runBefore source target i j ≤ j := by
  induction i generalizing j with
  | zero => simp [runBefore]
  | succ i ih =>
    cases j with
    | zero => simp [runBefore]
    | succ j =>
      have before := ih j
      rw [runBefore]
      split <;> omega

theorem agrees_runBefore {i j : Nat} (source_le : i ≤ source.length)
    (target_le : j ≤ target.length) :
    Agrees source target
      ⟨i - runBefore source target i j, j - runBefore source target i j,
        runBefore source target i j⟩ := by
  induction i generalizing j with
  | zero => exact agrees_empty (Nat.zero_le _) (by simpa [runBefore] using target_le)
  | succ i ih =>
    cases j with
    | zero => exact agrees_empty (by simpa [runBefore] using source_le) (Nat.zero_le _)
    | succ j =>
      rw [runBefore]
      split
      · rename_i same
        have before := ih (Nat.le_of_succ_le source_le) (Nat.le_of_succ_le target_le)
        have inside := runBefore_le source target i j
        obtain ⟨line, source_line⟩ : ∃ line, source[i]? = some line :=
          ⟨_, List.getElem?_eq_getElem same.1⟩
        have target_line := same.2.symm.trans source_line
        rw [Nat.add_sub_add_right, Nat.add_sub_add_right]
        rw [← Nat.sub_add_cancel inside.1] at source_line
        rw [← Nat.sub_add_cancel inside.2] at target_line
        exact before.extend source_line target_line
      · exact agrees_empty source_le target_le

theorem getElem?_nextRuns (line : String) (target : List String) (diagonal : Nat)
    (runs : List Nat) (j : Nat) :
    (nextRuns line target diagonal runs)[j]? =
      target[j]?.map fun l => if l = line then (diagonal :: runs).getD j 0 + 1 else 0 := by
  induction target generalizing diagonal runs j with
  | nil => simp [nextRuns]
  | cons l target ih =>
    cases j with
    | zero => simp [nextRuns]
    | succ j =>
      rw [nextRuns, List.getElem?_cons_succ, List.getElem?_cons_succ, ih]
      cases runs with
      | nil => cases j <;> simp
      | cons n runs => rfl

/-- The numbers are the runs before line `i` of the source, one for each line of the target. -/
def IsRow (source target : List String) (i : Nat) (runs : List Nat) : Prop :=
  ∀ j, (0 :: runs).getD j 0 = runBefore source target i j

theorem isRow_nil : IsRow source target 0 [] := by
  intro j
  cases j <;> simp [runBefore]

theorem IsRow.next {i : Nat} {runs : List Nat} (h : IsRow source target i runs) {line : String}
    (at_i : source[i]? = some line) :
    IsRow source target (i + 1) (nextRuns line target 0 runs) := by
  obtain ⟨inside, -⟩ := List.getElem?_eq_some_iff.1 at_i
  intro j
  cases j with
  | zero => simp [runBefore]
  | succ j =>
    rw [List.getD_cons_succ, List.getD_eq_getElem?_getD, getElem?_nextRuns, runBefore, h j, at_i]
    cases target[j]? with
    | none => simp
    | some l => simp [inside, eq_comm]

theorem IsRow.eq_of_getElem? {i k n : Nat} {runs : List Nat} (h : IsRow source target i runs)
    (at_k : runs[k]? = some n) : n = runBefore source target i (k + 1) := by
  rw [← h, List.getD_cons_succ, List.getD_eq_getElem?_getD, at_k, Option.getD_some]

theorem agrees_bestInRow {i j : Nat} {runs : List Nat} {best : Block}
    (old : best.Agrees source target)
    (new : ∀ k n, runs[k]? = some n → Agrees source target ⟨i + 1 - n, j + k + 1 - n, n⟩) :
    (bestInRow i j runs best).Agrees source target := by
  induction runs generalizing j best with
  | nil => exact old
  | cons n runs ih =>
    refine ih ?_ fun k m at_k => ?_
    · split
      · exact new 0 n rfl
      · exact old
    · have later := new (k + 1) m at_k
      rwa [← Nat.add_assoc, Nat.add_right_comm j k 1] at later

theorem line_and_rest_of_drop {lines rest : List String} {i : Nat} {line : String}
    (parted : lines.drop i = line :: rest) :
    lines[i]? = some line ∧ lines.drop (i + 1) = rest := by
  constructor
  · rw [← List.head?_drop, parted]
    rfl
  · rw [← List.drop_drop, parted]
    rfl

theorem agrees_scan {i : Nat} {rest : List String} {runs : List Nat} {best : Block}
    (rest_eq : source.drop i = rest) (row : IsRow source target i runs)
    (best_agrees : best.Agrees source target) :
    (scan target i rest runs best).Agrees source target := by
  induction rest generalizing i runs best with
  | nil => exact best_agrees
  | cons line rest ih =>
    obtain ⟨at_i, behind⟩ := line_and_rest_of_drop rest_eq
    obtain ⟨inside, -⟩ := List.getElem?_eq_some_iff.1 at_i
    have next := row.next at_i
    refine ih behind next (agrees_bestInRow best_agrees fun k n at_k => ?_)
    have in_target : k < target.length := by
      rw [getElem?_nextRuns] at at_k
      cases found : target[k]? with
      | none => simp [found] at at_k
      | some l => exact (List.getElem?_eq_some_iff.1 found).1
    rw [next.eq_of_getElem? at_k, Nat.zero_add]
    exact agrees_runBefore inside in_target

theorem agrees_longest (source target : List String) :
    (longest source target).Agrees source target :=
  agrees_scan List.drop_zero isRow_nil (agrees_empty (Nat.zero_le _) (Nat.zero_le _))

end FixCorpus.Block
