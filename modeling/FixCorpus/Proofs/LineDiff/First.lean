import FixCorpus.Proofs.LineDiff.Longest

/-! The search for the longest block keeps the first one that it comes to. Of the
blocks that are as long as the one it finds, that one begins first in the source,
and first in the target among those that begin at the same line of the source. -/

namespace FixCorpus.Block

variable {source target : List String} {c : Block}

theorem Agrees.length_le_runBefore {i j n : Nat} (h : Agrees source target ⟨i, j, n⟩) :
    n ≤ runBefore source target (i + n) (j + n) := by
  induction n with
  | zero => exact Nat.zero_le _
  | succ n ih =>
    obtain ⟨source_le, target_le, same⟩ := h
    dsimp only at source_le target_le same
    have lines : (source.drop i).take n = (target.drop j).take n := by
      have shorter := congrArg (List.take n) same
      rwa [List.take_take, List.take_take, Nat.min_eq_left (Nat.le_succ n)] at shorter
    have last : source[i + n]? = target[j + n]? := by
      have at_n := congrArg (·[n]?) same
      simpa [List.getElem?_take, List.getElem?_drop] using at_n
    have before := ih ⟨by dsimp only; omega, by dsimp only; omega, lines⟩
    rw [← Nat.add_assoc, ← Nat.add_assoc, runBefore, if_pos ⟨by omega, last⟩]
    omega

theorem longest_eq_of_length (none_common : (longest source target).length = 0) :
    longest source target = ⟨0, 0, 0⟩ := by
  have begun : (⟨0, 0, 0⟩ : Block).Outdoes 0 0 0 := Or.inr ⟨rfl, Or.inr ⟨rfl, Nat.le_refl 0⟩⟩
  have kept : (longest source target).Outdoes 0 0 0 := begun.scan target 0 source []
  cases found : longest source target with
  | mk i j n =>
    rw [found] at none_common kept
    unfold Outdoes EndsBy at kept
    dsimp only at none_common kept
    simp only [mk.injEq]
    omega

theorem longest_first (common : c.Agrees source target) :
    c.length ≤ (longest source target).length ∧ (c.length = (longest source target).length →
      (longest source target).source < c.source ∨
        (longest source target).source = c.source ∧
          (longest source target).target ≤ c.target) := by
  obtain ⟨i, j, n⟩ := c
  have run := common.length_le_runBefore
  refine ⟨Nat.le_trans run (runBefore_le_longest source target _ _), fun same => ?_⟩
  dsimp only at same ⊢
  cases n with
  | zero =>
    rw [longest_eq_of_length same.symm]
    dsimp only
    omega
  | succ n =>
    have outdone := longest_outdoes source target
      (Nat.lt_of_lt_of_le (Nat.lt_succ_self (i + n)) common.source_le)
      (Nat.lt_of_lt_of_le (Nat.lt_succ_self (j + n)) common.target_le)
    rw [← Nat.add_assoc, ← Nat.add_assoc] at run
    unfold Outdoes EndsBy at outdone
    omega

/-- Each side has the block twice, and a single common line stands in front of it. -/
example : longest ["c", "a", "b", "d", "a", "b"] ["c", "e", "a", "b", "a", "b"] = ⟨1, 2, 2⟩ := by
  decide +kernel

end FixCorpus.Block
