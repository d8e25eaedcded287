import FixCorpus.Window

/-! What a window shows: a contiguous piece of the list that has all required
items in it. -/

namespace FixCorpus.Window

theorem grow_bounds {final missing first last : Nat} (ordered : first ≤ last)
    (inside : last ≤ final) :
    (grow final missing first last).1 ≤ first ∧ last ≤ (grow final missing first last).2 ∧
      (grow final missing first last).2 ≤ final := by
  fun_induction grow final missing first last with
  | case1 => omega
  | case2 => omega
  | case3 missing first last _ room ih =>
    have := ih (by omega) (by omega)
    omega
  | case4 missing first last _ _ ih =>
    have := ih (by omega) (by omega)
    omega

theorem select_eq_ok {α : Type} {all : List α} {first last budget : Nat} {w : Window α}
    (selected : select all first last budget = .ok w) :
    ∃ before after, all = before ++ w.items ++ after ∧ before.length = w.start ∧
      w.start ≤ first ∧ last < w.stop := by
  unfold select at selected
  split at selected
  · cases selected
  · rename_i in_range
    dsimp only at selected
    split at selected
    · cases selected
    · cases selected
      have bounds := @grow_bounds (all.length - 1) (budget - (last - first + 1)) first last
        (by omega) (by omega)
      generalize grow (all.length - 1) (budget - (last - first + 1)) first last = range at *
      obtain ⟨start, final⟩ := range
      dsimp only at bounds ⊢
      refine ⟨all.take start, all.drop (final + 1), ?_, ?_, bounds.1, ?_⟩
      · have front : all.take start = (all.take (final + 1)).take start := by
          rw [List.take_take, Nat.min_eq_left (by omega)]
        rw [front, List.take_append_drop, List.take_append_drop]
      · rw [List.length_take]
        omega
      · simp only [stop, List.length_drop, List.length_take]
        omega

theorem select_eq_error {α : Type} {all : List α} {first last budget : Nat} {cause : WindowError}
    (ordered : first ≤ last) (inside : last < all.length)
    (failed : select all first last budget = .error cause) :
    budget < last - first + 1 ∧ cause = .contextOverflow (last - first + 1) budget := by
  unfold select at failed
  rw [if_neg (by omega)] at failed
  dsimp only at failed
  split at failed
  · rename_i exceeds
    exact ⟨exceeds, (Except.error.inj failed).symm⟩
  · cases failed

end FixCorpus.Window
