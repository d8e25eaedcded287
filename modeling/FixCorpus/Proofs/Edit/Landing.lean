import FixCorpus.Proofs.Edit.Removal

/-! Where the target lines of an edit land. The place is worked out twice, by the
application from the lines that stay and ahead of it from the numbers alone.
Both agree, since the lines before the first one that goes out all stay. -/

namespace FixCorpus

section

variable (before block after : List String)

theorem within_block :
    within (before.length + 1) (before.length + block.length) (before ++ (block ++ after)) =
      block := by
  have in_block : ∀ i : Nat, (decide ((before.length : Int) + 1 ≤ (i : Int) + 1) &&
      decide ((i : Int) + 1 ≤ before.length + block.length)) = true ↔
        before.length ≤ i ∧ i < before.length + block.length := fun i => by
    simp only [Bool.and_eq_true, decide_eq_true_eq]
    omega
  rw [within, keepLines_eq_take_drop _ in_block, List.drop_left, List.take_left]

theorem outside_block :
    outside (before.length + 1) (before.length + block.length) (before ++ (block ++ after)) =
      before ++ after := by
  have in_block : ∀ i : Nat, (!(decide ((before.length : Int) + 1 ≤ (i : Int) + 1) &&
      decide ((i : Int) + 1 ≤ before.length + block.length))) = false ↔
        before.length ≤ i ∧ i < before.length + block.length := fun i => by
    simp only [Bool.not_eq_false', Bool.and_eq_true, decide_eq_true_eq]
    omega
  have inside : before.length + block.length ≤ (before ++ (block ++ after)).length := by
    simp only [List.length_append]
    omega
  rw [outside, keepLines_eq_splice _ inside in_block, splice_block, List.nil_append]

end

theorem le_length_unnamed {ns : List Int} {lines : List String} {first : Int}
    (least : ∀ n ∈ ns, first ≤ n) (inside : first ≤ lines.length) :
    (first - 1).toNat ≤ (unnamed ns lines).length := by
  refine le_length_keepLines (fun i before => ?_) (by omega)
  rw [Bool.not_eq_true', ← Bool.not_eq_true, List.contains_iff_mem]
  intro named
  have later := least _ named
  omega

namespace Edit

/-- The edit has target lines, and the source lines that they replace are named in order. -/
def BringsIn : Edit → Prop
  | .insert i => i.targetLines ≠ []
  | .delete _ => False
  | .replace r => r.sourceLines ≠ [] ∧ r.sourceLines.Pairwise (· < ·) ∧ r.targetLines ≠ []

/-- The source lines of the edit are lines of a file of so many lines. An insertion may also name
the top. -/
def NamesLines (length : Nat) (e : Edit) : Prop :=
  match e with
  | .insert i => 0 ≤ i.previousLine ∧ i.previousLine ≤ length
  | _ => ∀ n ∈ e.sourceLines, 1 ≤ n ∧ n ≤ length

variable {e : Edit} {lines edited : List String}

theorem namesLines_of_apply (applied : e.apply lines = .ok edited) : e.NamesLines lines.length := by
  cases e with
  | insert i =>
    rw [apply] at applied
    split at applied
    · assumption
    · cases applied
  | delete d =>
    rw [apply] at applied
    obtain ⟨_, first, applied⟩ := except_bind_eq_ok.1 applied
    obtain ⟨_, last, -⟩ := except_bind_eq_ok.1 applied
    have first_position := linePosition_eq_ok_iff.1 first
    have last_position := linePosition_eq_ok_iff.1 last
    exact List.forall_mem_cons.2 ⟨by omega, List.forall_mem_singleton.2 (by omega)⟩
  | replace r =>
    rw [apply] at applied
    obtain ⟨_, positions, -⟩ := except_bind_eq_ok.1 applied
    exact inside_of_mapM_linePosition positions

theorem BringsIn.apply_eq (brings : e.BringsIn) (names : e.NamesLines lines.length) :
    ∃ (before after : List String) (first last : Int),
      e.kept lines = before ++ after ∧
      e.apply lines = .ok (before ++ (e.targetLines.map stripNewlines ++ after)) ∧
      e.requiredTargetLines? = some (first, last) ∧ first = before.length ∧
      last + 1 = before.length + e.targetLines.length := by
  cases e with
  | insert i =>
    have place : (lines.take i.previousLine.toNat).length = i.previousLine.toNat :=
      List.length_take_of_le (by have := names.2; omega)
    have nonneg := names.1
    refine ⟨lines.take i.previousLine.toNat, lines.drop i.previousLine.toNat, _, _, ?_, ?_, rfl,
      by omega, ?_⟩
    · rw [kept_insert, List.take_append_drop]
    · have valid : 0 ≤ i.previousLine ∧ i.previousLine ≤ lines.length := names
      rw [apply, if_pos valid, ← List.append_assoc]
      rfl
    · simp only [targetLines]
      omega
  | delete => exact brings.elim
  | replace r =>
    obtain ⟨ns, target⟩ := r
    obtain ⟨nonempty, sorted, -⟩ := brings
    have inside : ∀ n ∈ ns, 1 ≤ n ∧ n ≤ lines.length := names
    have applied := apply_replace_of_inside inside nonempty target
    cases ns with
    | nil => exact absurd rfl nonempty
    | cons first others =>
      have first_inside := inside first List.mem_cons_self
      -- No line before the first one goes out, so what is kept is cut at its position.
      have least : ∀ n ∈ first :: others, first ≤ n :=
        List.forall_mem_cons.2 ⟨Int.le_refl first, fun n later =>
          Int.le_of_lt (List.rel_of_pairwise_cons sorted later)⟩
      have place := List.length_take_of_le (le_length_unnamed least first_inside.2)
      refine ⟨(unnamed (first :: others) lines).take (first - 1).toNat,
        (unnamed (first :: others) lines).drop (first - 1).toNat, _, _, ?_, ?_, rfl, by omega, ?_⟩
      · rw [List.take_append_drop]
        rfl
      · rw [applied, List.append_assoc]
        rfl
      · simp only [targetLines]
        omega

/-- An edit with target lines can be applied exactly if its source lines are there, and then its
target lines stand where they are required, between the lines that stay. -/
theorem target_lands_where_required (brings : e.BringsIn) (lines : List String) :
    ((∃ edited, e.apply lines = .ok edited) ↔ e.NamesLines lines.length) ∧
    ∀ edited, e.apply lines = .ok edited → ∃ first last : Int,
      e.requiredTargetLines? = some (first, last) ∧ 0 ≤ first ∧ last < edited.length ∧
      within (first + 1) (last + 1) edited = e.targetLines.map stripNewlines ∧
      outside (first + 1) (last + 1) edited = e.kept lines := by
  refine ⟨⟨fun ⟨_, applied⟩ => namesLines_of_apply applied, fun names => ?_⟩,
    fun edited applied => ?_⟩
  · obtain ⟨_, _, _, _, -, applied, -⟩ := brings.apply_eq names
    exact ⟨_, applied⟩
  · obtain ⟨before, after, first, last, stays, made, required, rfl, last_eq⟩ :=
      brings.apply_eq (namesLines_of_apply applied)
    cases made.symm.trans applied
    have in_target : (e.targetLines.map stripNewlines).length = e.targetLines.length :=
      List.length_map _
    refine ⟨_, last, required, Int.natCast_nonneg _, ?_, ?_, ?_⟩
    · simp only [List.length_append]
      omega
    · rw [last_eq, ← in_target]
      exact within_block before _ after
    · rw [last_eq, ← in_target, stays]
      exact outside_block before _ after

/-- Three lines come in for the first one and the last two of five. -/
theorem target_lands_where_required_of_scattered_lines :
    let e : Edit := .replace ⟨[1, 4, 5], ["x", "\n", "y\n\n"]⟩
    let lines := ["a", "b", "c", "d", "e"]
    e.BringsIn ∧ e.NamesLines lines.length ∧
      e.apply lines = .ok ["x", "", "y", "b", "c"] ∧
      e.requiredTargetLines? = some (0, 2) ∧
      within 1 3 ["x", "", "y", "b", "c"] = ["x", "", "y"] ∧
      outside 1 3 ["x", "", "y", "b", "c"] = e.kept lines := by
  intro e lines
  have brings : e.BringsIn := ⟨by decide, by decide, by decide⟩
  have applied : e.apply lines = .ok ["x", "", "y", "b", "c"] := by decide +kernel
  obtain ⟨first, last, required, -, -, landed, others⟩ :=
    (target_lands_where_required brings lines).2 _ applied
  cases required
  exact ⟨brings, (target_lands_where_required brings lines).1.1 ⟨_, applied⟩, applied, rfl, landed,
    others⟩

end Edit

end FixCorpus
