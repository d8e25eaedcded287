import FixCorpus.Unification
import Mathlib.Data.List.Nodup

/-! Occurrences grouped by the edit that they were matched with. The batches of a
matching are these groups: adding an occurrence to the batches one at a time
keeps the edits in the order of their first match and the occurrences of an edit
in the order in which they came. -/

namespace FixCorpus.Unification

theorem eraseDups_concat {α : Type} [DecidableEq α] (items : List α) (a : α) :
    (items ++ [a]).eraseDups = if a ∈ items then items.eraseDups else items.eraseDups ++ [a] := by
  rw [List.eraseDups_append]
  split <;> rename_i known <;> simp [List.removeAll, known, List.eraseDups_cons]

theorem nodup_eraseDups {α : Type} [DecidableEq α] (items : List α) : items.eraseDups.Nodup := by
  -- From the front each element would drop others behind it; the last one drops none.
  generalize reversed : items.reverse = backwards
  induction backwards generalizing items with
  | nil => simp [List.reverse_eq_nil_iff.1 reversed]
  | cons a backwards ih =>
    rw [List.reverse_eq_cons_iff] at reversed
    rw [reversed, eraseDups_concat]
    have others := ih backwards.reverse (List.reverse_reverse _)
    split
    · exact others
    · rename_i new
      rw [← List.concat_eq_append, List.nodup_concat, List.mem_eraseDups]
      exact ⟨new, others⟩

def group (matched : List (Occurrence × Option EditKey)) (key : EditKey) : List Occurrence :=
  (matched.filter (·.2 = some key)).map (·.1)

/-- The occurrences of each edit, with the edits in the order of their first match. -/
def groups (matched : List (Occurrence × Option EditKey)) : List (EditKey × List Occurrence) :=
  (matched.filterMap (·.2)).eraseDups.map fun key => (key, group matched key)

variable {matched : List (Occurrence × Option EditKey)} {key : EditKey} {o : Occurrence}

theorem mem_group : o ∈ group matched key ↔ (o, some key) ∈ matched := by
  simp [group]

theorem group_sublist (matched : List (Occurrence × Option EditKey)) (key : EditKey) :
    (group matched key).Sublist (matched.map (·.1)) :=
  List.filter_sublist.map _

theorem mem_groups {batch : EditKey × List Occurrence} :
    batch ∈ groups matched ↔
      (∃ o, (o, some batch.1) ∈ matched) ∧ batch.2 = group matched batch.1 := by
  simp only [groups, List.mem_map, List.mem_eraseDups, List.mem_filterMap]
  constructor
  · rintro ⟨key, ⟨⟨o, found⟩, member, rfl⟩, rfl⟩
    exact ⟨⟨o, member⟩, rfl⟩
  · rintro ⟨⟨o, member⟩, all⟩
    exact ⟨batch.1, ⟨_, member, rfl⟩, by rw [← all]⟩

theorem mem_flatMap_groups :
    o ∈ (groups matched).flatMap (·.2) ↔ ∃ key, (o, some key) ∈ matched := by
  simp only [List.mem_flatMap, mem_groups]
  constructor
  · rintro ⟨batch, ⟨-, all⟩, member⟩
    exact ⟨batch.1, mem_group.1 (all ▸ member)⟩
  · rintro ⟨key, member⟩
    exact ⟨(key, group matched key), ⟨⟨o, member⟩, rfl⟩, mem_group.2 member⟩

theorem nodup_keys (matched : List (Occurrence × Option EditKey)) :
    ((groups matched).map (·.1)).Nodup := by
  simpa [groups, Function.comp_def] using nodup_eraseDups (matched.filterMap (·.2))

theorem eq_of_mem_of_mem {a b : Option EditKey} (once : (matched.map (·.1)).Nodup)
    (left : (o, a) ∈ matched) (right : (o, b) ∈ matched) : a = b :=
  (Prod.mk.inj (List.inj_on_of_nodup_map once left right rfl)).2

theorem nodup_groups (once : (matched.map (·.1)).Nodup) :
    ((groups matched).flatMap (·.2)).Nodup := by
  refine List.pairwise_flatMap.2 ⟨fun batch member => ?_, ?_⟩
  · rw [(mem_groups.1 member).2]
    exact once.sublist (group_sublist matched batch.1)
  · refine List.pairwise_map.2 ((nodup_eraseDups _).imp fun {a b} apart x left y right same => ?_)
    rw [mem_group] at left right
    exact apart (Option.some.inj (eq_of_mem_of_mem once left (same ▸ right)))

theorem addTo_map (key : EditKey) (o : Occurrence) {keys : List EditKey} (nodup : keys.Nodup)
    {before : EditKey → List Occurrence} (after : EditKey → List Occurrence)
    (new : key ∉ keys → before key = []) (same : ∀ k, k ≠ key → after k = before k)
    (joined : after key = before key ++ [o]) :
    addTo key o (keys.map fun k => (k, before k)) =
      (if key ∈ keys then keys else keys ++ [key]).map fun k => (k, after k) := by
  induction keys with
  | nil => simp [addTo, joined, new]
  | cons k keys ih =>
    rw [List.nodup_cons] at nodup
    rw [List.map_cons, addTo]
    by_cases first : k = key
    · subst first
      have others : keys.map (fun k => (k, before k)) = keys.map fun k => (k, after k) :=
        List.map_congr_left fun a member => by
          rw [same a fun equal => nodup.1 (equal ▸ member)]
      simp [joined, others]
    · have rest := ih nodup.2 fun absent => new (by simp [absent, Ne.symm first])
      rw [if_neg first, rest]
      by_cases later : key ∈ keys <;> simp [later, Ne.symm first, same k first]

theorem groups_concat_none (matched : List (Occurrence × Option EditKey)) (o : Occurrence) :
    groups (matched ++ [(o, none)]) = groups matched := by
  simp [groups, group]

theorem groups_concat_some (matched : List (Occurrence × Option EditKey)) (o : Occurrence)
    (key : EditKey) : groups (matched ++ [(o, some key)]) = addTo key o (groups matched) := by
  have before : key ∉ (matched.filterMap (·.2)).eraseDups → group matched key = [] := by
    intro absent
    refine List.eq_nil_iff_forall_not_mem.2 fun x member => absent ?_
    exact List.mem_eraseDups.2 (List.mem_filterMap.2 ⟨_, mem_group.1 member, rfl⟩)
  have added := addTo_map key o (nodup_eraseDups _) (group (matched ++ [(o, some key)])) before
    (fun k other => by simp [group, Ne.symm other]) (by simp [group])
  have known : key ∈ (matched.filterMap (·.2)).eraseDups ↔ key ∈ matched.filterMap (·.2) :=
    List.mem_eraseDups
  rw [groups, groups, added]
  by_cases old : key ∈ matched.filterMap (·.2)
  · simp [eraseDups_concat, if_pos old, if_pos (known.2 old)]
  · simp [eraseDups_concat, if_neg old, if_neg fun known_key => old (known.1 known_key)]

end FixCorpus.Unification
