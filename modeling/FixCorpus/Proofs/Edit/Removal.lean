import Mathlib.Data.List.Nodup
import FixCorpus.Proofs.Edit
import FixCorpus.Proofs.Except

/-! The lines that an edit takes out. An edit that can be applied leaves all
others as they are, and its target lines stand together at one place among them. -/

namespace FixCorpus

theorem mem_keepLines {keep : Nat → Bool} {lines : List String} {line : String} :
    line ∈ keepLines keep lines ↔ ∃ i, lines[i]? = some line ∧ keep i = true := by
  simp only [keepLines, List.mem_map, List.mem_filter, Prod.exists,
    List.mk_mem_zipIdx_iff_getElem?]
  constructor
  · rintro ⟨_, i, kept, rfl⟩
    exact ⟨i, kept⟩
  · rintro ⟨i, kept⟩
    exact ⟨line, i, kept, rfl⟩

theorem mem_keepLines_of_nodup {keep : Nat → Bool} {lines : List String} (distinct : lines.Nodup)
    {line : String} {i : Nat} (at_i : lines[i]? = some line) :
    line ∈ keepLines keep lines ↔ keep i = true := by
  rw [mem_keepLines]
  constructor
  · rintro ⟨j, found, kept⟩
    obtain ⟨inside, -⟩ := List.getElem?_eq_some_iff.1 at_i
    rwa [(List.getElem?_inj inside distinct).1 (at_i.trans found.symm)]
  · exact fun kept => ⟨i, at_i, kept⟩

theorem keepLines_inj {keep other : Nat → Bool} {lines : List String} (distinct : lines.Nodup) :
    keepLines keep lines = keepLines other lines ↔ ∀ i < lines.length, keep i = other i := by
  constructor
  · intro same i inside
    have at_i := List.getElem?_eq_getElem inside
    rw [Bool.eq_iff_iff, ← mem_keepLines_of_nodup distinct at_i,
      ← mem_keepLines_of_nodup distinct at_i, same]
  · intro same
    refine congrArg (List.map Prod.fst) (List.filter_congr fun l member => ?_)
    obtain ⟨inside, -⟩ := List.getElem?_eq_some_iff.1 (List.mk_mem_zipIdx_iff_getElem?.1 member)
    exact same l.2 inside

def unnamed (ns : List Int) (lines : List String) : List String :=
  keepLines (fun i => !ns.contains ((i : Int) + 1)) lines

def outside (first last : Int) (lines : List String) : List String :=
  keepLines (fun i => !(first ≤ (i : Int) + 1 && (i : Int) + 1 ≤ last)) lines

def within (first last : Int) (lines : List String) : List String :=
  keepLines (fun i => first ≤ (i : Int) + 1 && (i : Int) + 1 ≤ last) lines

/-- The numbers are those from the first one of them to the last one. -/
def NamesRange (ns : List Int) : Prop :=
  ∀ n, n ∈ ns ↔ ns.headD 0 ≤ n ∧ n ≤ ns.getLastD 0

section

variable {lines : List String} {ns : List Int}

theorem outside_eq_unnamed (range : NamesRange ns) :
    outside (ns.headD 0) (ns.getLastD 0) lines = unnamed ns lines := by
  refine congrArg (fun keep => keepLines keep lines) (funext fun i => ?_)
  have named := range ((i : Int) + 1)
  rw [Bool.not_inj_iff, Bool.eq_iff_iff]
  simpa using named.symm

variable (inside : ∀ n ∈ ns, 1 ≤ n ∧ n ≤ lines.length)
include inside

theorem outside_eq_unnamed_iff (names : ns ≠ []) (distinct : lines.Nodup) :
    outside (ns.headD 0) (ns.getLastD 0) lines = unnamed ns lines ↔ NamesRange ns := by
  refine ⟨fun same n => ?_, outside_eq_unnamed⟩
  have at_line := (keepLines_inj distinct).1 same
  have first_inside : 1 ≤ ns.headD 0 := (inside _ (by cases ns <;> simp_all)).1
  have last_inside : ns.getLastD 0 ≤ lines.length := by
    rw [List.getLastD_eq_getLast?, List.getLast?_eq_some_getLast names]
    exact (inside _ (List.getLast_mem names)).2
  by_cases in_file : 1 ≤ n ∧ n ≤ lines.length
  · have line := at_line (n - 1).toNat (by omega)
    have number : (((n - 1).toNat : Nat) : Int) + 1 = n := by omega
    rw [Bool.not_inj_iff, Bool.eq_iff_iff, number] at line
    simpa using line.symm
  · constructor
    · exact fun named => absurd (inside n named) in_file
    · omega

theorem mapM_linePosition_of_inside :
    ns.mapM (linePosition lines.length) = .ok (ns.map fun n => (n - 1).toNat) := by
  induction ns with
  | nil => rfl
  | cons n ns ih =>
    rw [List.forall_mem_cons] at inside
    have first : linePosition lines.length n = .ok (n - 1).toNat :=
      linePosition_eq_ok_iff.2 (by omega)
    rw [List.mapM_cons, first, ih inside.2]
    rfl

theorem Edit.apply_replace_of_inside (names : ns ≠ []) (target : List String) :
    (Edit.replace ⟨ns, target⟩).apply lines =
      .ok ((unnamed ns lines).take (ns.headD 0 - 1).toNat ++ target.map stripNewlines ++
        (unnamed ns lines).drop (ns.headD 0 - 1).toNat) := by
  have same_lines : (fun i => !(ns.map fun n => (n - 1).toNat).contains i) =
      fun i : Nat => !ns.contains ((i : Int) + 1) := by
    refine funext fun i => ?_
    rw [Bool.not_inj_iff, Bool.eq_iff_iff, List.contains_iff_mem, List.contains_iff_mem,
      List.mem_map]
    constructor
    · rintro ⟨n, named, rfl⟩
      have number : (((n - 1).toNat : Nat) : Int) + 1 = n := by
        have := inside n named
        omega
      rwa [number]
    · exact fun named => ⟨_, named, by omega⟩
  rw [apply, mapM_linePosition_of_inside inside]
  cases ns with
  | nil => exact absurd rfl names
  | cons n ns =>
    simp only [unnamed, ← same_lines]
    rfl

theorem Edit.apply_delete_of_inside {first last : Int} (first_named : first ∈ ns)
    (last_named : last ∈ ns) :
    (Edit.delete ⟨first, last⟩).apply lines = .ok (outside first last lines) := by
  have first_inside := inside first first_named
  have last_inside := inside last last_named
  have first_position : linePosition lines.length first = .ok (first - 1).toNat :=
    linePosition_eq_ok_iff.2 (by omega)
  have last_position : linePosition lines.length last = .ok (last - 1).toNat :=
    linePosition_eq_ok_iff.2 (by omega)
  have same_lines : (fun i => !(decide ((first - 1).toNat ≤ i) && decide (i ≤ (last - 1).toNat))) =
      fun i : Nat => !(first ≤ (i : Int) + 1 && (i : Int) + 1 ≤ last) := by
    refine funext fun i => ?_
    rw [Bool.not_inj_iff, Bool.eq_iff_iff]
    simp only [Bool.and_eq_true, decide_eq_true_eq]
    omega
  rw [apply, first_position, last_position, outside, ← same_lines]
  rfl

end

theorem inside_of_mapM_linePosition {ns : List Int} {length : Nat} {positions : List Nat}
    (found : ns.mapM (linePosition length) = .ok positions) :
    ∀ n ∈ ns, 1 ≤ n ∧ n ≤ length := by
  induction ns generalizing positions with
  | nil => exact List.forall_mem_nil _
  | cons n ns ih =>
    rw [List.mapM_cons] at found
    obtain ⟨_, first, found⟩ := except_bind_eq_ok.1 found
    obtain ⟨_, others, -⟩ := except_bind_eq_ok.1 found
    have position := linePosition_eq_ok_iff.1 first
    exact List.forall_mem_cons.2 ⟨by omega, ih others⟩

namespace Edit

/-- The edit takes out the line at a position that counts from 0. -/
def removes : Edit → Nat → Bool
  | .insert _, _ => false
  | .delete d, i => d.firstLine ≤ (i : Int) + 1 && (i : Int) + 1 ≤ d.lastLine
  | .replace r, i => r.sourceLines.contains ((i : Int) + 1)

def kept (e : Edit) (lines : List String) : List String :=
  keepLines (fun i => !e.removes i) lines

theorem kept_insert (i : Insertion) (lines : List String) : (insert i).kept lines = lines :=
  filter_zipIdx_of_kept fun _ _ _ => rfl

theorem exists_place_of_apply {e : Edit} {lines edited : List String} (names : e.sourceLines ≠ [])
    (applied : e.apply lines = .ok edited) :
    ∃ place, edited = (e.kept lines).take place ++ e.targetLines.map stripNewlines ++
      (e.kept lines).drop place := by
  cases e with
  | insert i =>
    rw [apply] at applied
    split at applied
    · cases applied
      exact ⟨i.previousLine.toNat, by rw [kept_insert]; rfl⟩
    · cases applied
  | delete d =>
    -- Positions are found before a line is left out, so that both lines are there.
    have opened := applied
    rw [apply] at opened
    obtain ⟨_, first, opened⟩ := except_bind_eq_ok.1 opened
    obtain ⟨_, last, -⟩ := except_bind_eq_ok.1 opened
    have first_position := linePosition_eq_ok_iff.1 first
    have last_position := linePosition_eq_ok_iff.1 last
    have inside : ∀ n ∈ [d.firstLine, d.lastLine], 1 ≤ n ∧ n ≤ lines.length :=
      List.forall_mem_cons.2 ⟨by omega, List.forall_mem_singleton.2 (by omega)⟩
    rw [apply_delete_of_inside inside (by simp) (by simp)] at applied
    cases applied
    exact ⟨0, rfl⟩
  | replace r =>
    have opened := applied
    rw [apply] at opened
    obtain ⟨_, positions, -⟩ := except_bind_eq_ok.1 opened
    rw [apply_replace_of_inside (inside_of_mapM_linePosition positions) names] at applied
    cases applied
    exact ⟨_, rfl⟩

end Edit

end FixCorpus
