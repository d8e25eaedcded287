import FixCorpus.Proofs.Window

/-! How far a window grows on each side. Main statement: `select_follows_cadence`. Half of the
missing items come from each side, the odd one from behind, and what one side does
not have comes from the other one. -/

namespace FixCorpus.Window

/-- A run of the growth as the cadence prescribes it: a turn behind the range finds a position
there, and so does a turn before it. -/
inductive GrowsTo (final : Nat) : (missing first last : Nat) → (range : Nat × Nat) → Prop where
  | enough {first last : Nat} : GrowsTo final 0 first last (first, last)
  | whole {missing : Nat} : GrowsTo final (missing + 1) 0 final (0, final)
  | behind {missing first last : Nat} {range : Nat × Nat}
      (turn : first = 0 ∨ (missing + 1) % 2 = 1) (room : last < final)
      (rest : GrowsTo final missing first (last + 1) range) :
      GrowsTo final (missing + 1) first last range
  | before {missing first last : Nat} {range : Nat × Nat}
      (turn : last = final ∨ (missing + 1) % 2 = 0)
      (rest : GrowsTo final missing first last range) :
      GrowsTo final (missing + 1) (first + 1) last range

section

variable {final missing first last : Nat}

theorem growsTo_grow (inside : last ≤ final) :
    GrowsTo final missing first last (grow final missing first last) := by
  fun_induction grow final missing first last with
  | case1 first last => exact .enough
  | case2 missing first last both =>
    obtain ⟨rfl, rfl⟩ := both
    exact .whole
  | case3 missing first last _ turn ih => exact .behind turn.2 (by omega) (ih (by omega))
  | case4 missing first last some_room turn ih =>
    obtain ⟨before, rfl⟩ : ∃ before, first = before + 1 := Nat.exists_eq_succ_of_ne_zero (by omega)
    exact .before (by omega) (ih inside)

theorem growsTo_iff {range : Nat × Nat} (inside : last ≤ final) :
    GrowsTo final missing first last range ↔ range = grow final missing first last := by
  refine ⟨fun run => ?_, fun same => same ▸ growsTo_grow inside⟩
  induction run with
  | enough => rfl
  | whole => rw [grow, if_pos ⟨rfl, rfl⟩]
  | behind turn room rest ih => rw [grow, if_neg (by omega), if_pos ⟨by omega, turn⟩, ih (by omega)]
  | before turn rest ih =>
    rw [grow, if_neg (by omega), if_neg (by omega), Nat.add_sub_cancel, ih inside]

/-- What one side gives of the missing items: its part and what the other side lacks, as far as it
has them. -/
def share (own other part missing : Nat) : Nat :=
  min own (max part (missing - other))

section

variable {own other part part' missing : Nat}

theorem share_le : share own other part missing ≤ own :=
  Nat.min_le_left _ _

@[simp] theorem share_none : share 0 other part missing = 0 :=
  Nat.zero_min _

theorem share_succ (bounded : part ≤ missing)
    (turn : part' = part + 1 ∨ other = 0 ∧ part' ≤ missing + 1) :
    share (own + 1) other part' (missing + 1) = share own other part missing + 1 := by
  have larger : max part' (missing + 1 - other) = max part (missing - other) + 1 := by
    omega
  rw [share, larger]
  exact Nat.succ_min_succ _ _

theorem share_succ_other (turn : part' = part ∨ own = 0) :
    share own (other + 1) part' (missing + 1) = share own other part missing := by
  rcases turn with rfl | rfl
  · rw [share, Nat.add_sub_add_right]
    rfl
  · rw [share_none, share_none]

theorem share_add_share (parts : part + part' = missing) :
    share own other part missing + share other own part' missing = min missing (own + other) := by
  unfold share
  omega

end

theorem grow_eq {final missing first last : Nat} (inside : last ≤ final) :
    grow final missing first last =
      (first - share first (final - last) (missing / 2) missing,
        last + share (final - last) first (missing - missing / 2) missing) := by
  -- Each side stands in for what the other one lacks.
  fun_induction grow final missing first last with
  | case1 first last => simp [share]
  | case2 missing first last both =>
    obtain ⟨rfl, rfl⟩ := both
    simp
  | case3 missing first last _ turn ih =>
    obtain ⟨room, behind⟩ : ∃ room, final - last = room + 1 :=
      Nat.exists_eq_succ_of_ne_zero (by omega)
    have behind_next : final - (last + 1) = room := by omega
    have lead := @share_succ_other first room (missing / 2) ((missing + 1) / 2) missing (by omega)
    have trail := @share_succ room first (missing - missing / 2)
      (missing + 1 - (missing + 1) / 2) missing (by omega) (by omega)
    rw [ih (by omega), behind_next, behind, lead, trail, Nat.add_right_comm, Nat.add_assoc]
  | case4 missing first last some_room turn ih =>
    obtain ⟨room, rfl⟩ : ∃ room, first = room + 1 := Nat.exists_eq_succ_of_ne_zero (by omega)
    have lead := @share_succ room (final - last) (missing / 2) ((missing + 1) / 2) missing
      (by omega) (by omega)
    have trail := @share_succ_other (final - last) room (missing - missing / 2)
      (missing + 1 - (missing + 1) / 2) missing (by omega)
    rw [Nat.add_sub_cancel] at ih ⊢
    rw [ih inside, lead, trail, Nat.add_sub_add_right]

end

section

variable {α : Type} {all : List α} {first last budget : Nat}

theorem exists_select_iff : (∃ w, select all first last budget = .ok w) ↔
    first ≤ last ∧ last < all.length ∧ last - first + 1 ≤ budget := by
  constructor
  · rintro ⟨w, selected⟩
    unfold select at selected
    split at selected
    · cases selected
    · dsimp only at selected
      split at selected
      · cases selected
      · omega
  · rintro ⟨ordered, inside, affordable⟩
    cases selected : select all first last budget with
    | ok w => exact ⟨w, rfl⟩
    | error cause =>
      have exceeds := (select_eq_error ordered inside selected).1
      omega

theorem select_eq_of_le (ordered : first ≤ last) (inside : last < all.length)
    (affordable : last - first + 1 ≤ budget) :
    select all first last budget =
      .ok ⟨(grow (all.length - 1) (budget - (last - first + 1)) first last).1,
        (all.take ((grow (all.length - 1) (budget - (last - first + 1)) first last).2 + 1)).drop
          (grow (all.length - 1) (budget - (last - first + 1)) first last).1⟩ := by
  rw [select, if_neg (by omega)]
  exact if_neg (by omega)

end

/-- What the cadence makes of a required range: the window runs from `start` to `final`, both
included, and holds nothing else. -/
structure FollowsCadence {α : Type} (all : List α) (first last budget : Nat) (w : Window α)
    (start final : Nat) : Prop where
  start_eq : start = first - share first (all.length - 1 - last)
    ((budget - (last - first + 1)) / 2) (budget - (last - first + 1))
  final_eq : final = last + share (all.length - 1 - last) first
    (budget - (last - first + 1) - (budget - (last - first + 1)) / 2) (budget - (last - first + 1))
  window_eq : w = ⟨start, (all.take (final + 1)).drop start⟩
  shows : start ≤ first ∧ last ≤ final ∧ final < all.length
  length_eq : w.items.length = min budget all.length
  steps : GrowsTo (all.length - 1) (budget - (last - first + 1)) first last (start, final)

theorem select_follows_cadence {α : Type} (all : List α) (first last budget : Nat) :
    ((∃ w, select all first last budget = .ok w) ↔
      first ≤ last ∧ last < all.length ∧ last - first + 1 ≤ budget) ∧
    ∀ w, select all first last budget = .ok w →
      ∃ start final, FollowsCadence all first last budget w start final := by
  refine ⟨exists_select_iff, fun w selected => ?_⟩
  obtain ⟨ordered, inside, affordable⟩ := exists_select_iff.1 ⟨w, selected⟩
  have inside_final : last ≤ all.length - 1 := by omega
  have steps := (@growsTo_iff (all.length - 1) (budget - (last - first + 1)) first last _
    inside_final).2 rfl
  rw [select_eq_of_le ordered inside affordable] at selected
  rw [grow_eq inside_final] at selected steps
  obtain rfl := Except.ok.inj selected
  have before := @share_le first (all.length - 1 - last) ((budget - (last - first + 1)) / 2)
    (budget - (last - first + 1))
  have behind := @share_le (all.length - 1 - last) first
    (budget - (last - first + 1) - (budget - (last - first + 1)) / 2) (budget - (last - first + 1))
  have together := @share_add_share first (all.length - 1 - last)
    ((budget - (last - first + 1)) / 2)
    (budget - (last - first + 1) - (budget - (last - first + 1)) / 2) (budget - (last - first + 1))
    (by omega)
  refine ⟨_, _, rfl, rfl, rfl, by omega, ?_, steps⟩
  rw [List.length_drop, List.length_take]
  omega

/-- There is one item before the required ones, so that most of the others come from behind. -/
theorem select_follows_cadence_near_front :
    select (List.range 10) 1 2 9 = .ok ⟨0, List.range 9⟩ ∧
      ∃ start final, FollowsCadence (List.range 10) 1 2 9 ⟨0, List.range 9⟩ start final :=
  ⟨rfl, (select_follows_cadence (List.range 10) 1 2 9).2 _ rfl⟩

end FixCorpus.Window
