import FixCorpus.Proofs.Dataset.Names
import FixCorpus.Proofs.Dataset.Reading
import Mathlib.Algebra.GroupWithZero.Nat
import Mathlib.Data.List.TakeWhile

/-! A run of the unification. Each patched file is a task: what it adds to the counts,
and the files that have to be written for that. The tasks of a diff are carried out up
to the first file that cannot be written, whatever else lies in the output directory. -/

namespace FixCorpus.Dataset

open FileTree

namespace UnifyCounts

theorem foldl_add (a : UnifyCounts) (counts : List UnifyCounts) :
    counts.foldl add a = a.add (sum counts) := by
  have zero_add : ∀ c, zero.add c = c := fun c => by simp [add, zero]
  have add_assoc : ∀ a b c : UnifyCounts, (a.add b).add c = a.add (b.add c) := fun a b c => by
    simp [add, Nat.add_assoc]
  induction counts generalizing a with
  | nil => simp [sum, add, zero]
  | cons c counts ih =>
    have first : sum (c :: counts) = c.add (sum counts) := by
      rw [sum, List.foldl_cons, zero_add, ih]
    rw [List.foldl_cons, ih, first, add_assoc]

theorem sum_eq (counts : List UnifyCounts) :
    sum counts = ⟨(counts.map (·.diffFiles)).sum, (counts.map (·.patchedFiles)).sum,
      (counts.map (·.datapoints)).sum, (counts.map (·.duplicates)).sum,
      (counts.map (·.skipped)).sum⟩ := by
  induction counts with
  | nil => rfl
  | cons c counts ih =>
    rw [sum, List.foldl_cons, foldl_add, ih]
    simp [add, zero]

end UnifyCounts

/-- Counts, and the files that have to be written for them. -/
abbrev Task : Type :=
  UnifyCounts × List (String × ByteArray)

section

variable {β : Type} {output : String} {t u : FileTree} {l : Location}

theorem run_forM_writeText (name text : β → String) {xs : List β}
    (place : u.locate? output = some l) (there : u.isDirectory l = true)
    (plain : ∀ x ∈ xs, Path.PlainName (name x))
    (free : ∀ x ∈ xs, u.isDirectory (l ++ [name x]) = false) :
    ∃ r, (xs.forM fun x => (writeText (Path.join output (name x)) (text x) : Action _)).run.run u =
        (r, u.putAll l ((xs.map fun x => (name x, (text x).toUTF8)).takeWhile
          fun f => accepts output f.1)) ∧
      if (xs.map fun x => (name x, (text x).toUTF8)).all fun f => accepts output f.1 then
        r = .ok ()
      else ∃ e, r = .error e := by
  induction xs generalizing u with
  | nil => exact ⟨_, rfl, rfl⟩
  | cons x xs ih =>
    rw [List.forall_mem_cons] at plain free
    have wrote := run_writeText (Path.join output (name x)) (text x) u
    rw [write?_join place there plain.1 free.1] at wrote
    rw [List.forM]
    by_cases fits : accepts output (name x) = true
    · rw [if_pos fits] at wrote
      have same := isDirectory_set_file free.1 (text x).toUTF8
      obtain ⟨r, ran, done⟩ := ih ((locate?_congr same output).trans place) ((same l).trans there)
        plain.2 fun y member => (same _).trans (free.2 y member)
      refine ⟨r, ?_, by simpa [fits] using done⟩
      rw [run_bind_ok wrote, ran]
      simp only [List.map_cons, List.takeWhile_cons, fits]
      rfl
    · rw [if_neg fits] at wrote
      refine ⟨.error (.io (Path.join output (name x))), ?_, by simp [fits]⟩
      rw [run_bind_error wrote]
      simp only [List.map_cons, List.takeWhile_cons, fits]
      rfl

/-- An action that carries out a task in the directory at a location. -/
def CarriesOut (x : Action UnifyCounts) (takes : String → Bool) (l : Location) (task : Task)
    (u : FileTree) : Prop :=
  ∃ r, x.run.run u = (r, u.putAll l (task.2.takeWhile fun f => takes f.1)) ∧
    if task.2.all fun f => takes f.1 then r = .ok task.1 else ∃ e, r = .error e

/-- The counts of some tasks, if all their files can be written, and the files that are written. -/
def carryOut (takes : String → Bool) :
    List Task → Option (List UnifyCounts) × List (String × ByteArray)
  | [] => (some [], [])
  | task :: tasks =>
    if task.2.all fun f => takes f.1 then
      ((carryOut takes tasks).1.map (task.1 :: ·), task.2 ++ (carryOut takes tasks).2)
    else (none, task.2.takeWhile fun f => takes f.1)

theorem run_mapM_tasks {step : β → Action UnifyCounts} {task : β → Task}
    {takes : String → Bool} {xs : List β}
    (carries : ∀ x ∈ xs, ∀ u, AgreesOutside t u l → CarriesOut (step x) takes l (task x) u)
    (free : ∀ x ∈ xs, ∀ f ∈ (task x).2, t.isDirectory (l ++ [f.1]) = false)
    (agrees : AgreesOutside t u l) :
    ∃ r, (xs.mapM step).run.run u = (r, u.putAll l (carryOut takes (xs.map task)).2) ∧
      match (carryOut takes (xs.map task)).1 with
      | some counts => r = .ok counts
      | none => ∃ e, r = .error e := by
  induction xs generalizing u with
  | nil => exact ⟨_, rfl, rfl⟩
  | cons x xs ih =>
    rw [List.forall_mem_cons] at carries free
    obtain ⟨r, ran, done⟩ := carries.1 u agrees
    rw [List.mapM_cons, List.map_cons, carryOut]
    -- The first task that cannot be finished ends the run, and those behind it are not begun.
    by_cases fits : ((task x).2.all fun f => takes f.1) = true
    · rw [if_pos fits] at done ⊢
      have whole : ((task x).2.takeWhile fun f => takes f.1) = (task x).2 :=
        List.takeWhile_eq_self_iff.2 (List.all_eq_true.1 fits)
      rw [whole, done] at ran
      obtain ⟨s, ran_rest, done_rest⟩ := ih carries.2 free.2 (agrees.putAll _ free.1)
      rw [run_bind_ok ran, putAll_append]
      cases rest : (carryOut takes (xs.map task)).1 with
      | some counts =>
        rw [rest] at done_rest
        rw [done_rest] at ran_rest
        exact ⟨_, run_bind_ok ran_rest, rfl⟩
      | none =>
        rw [rest] at done_rest
        obtain ⟨e, rfl⟩ := done_rest
        exact ⟨_, run_bind_error ran_rest, e, rfl⟩
    · rw [if_neg fits] at done ⊢
      obtain ⟨e, rfl⟩ := done
      exact ⟨_, run_bind_error ran, e, rfl⟩

theorem carryOut_of_all {takes : String → Bool} {tasks : List Task}
    (all : ∀ task ∈ tasks, ∀ f ∈ task.2, takes f.1 = true) :
    carryOut takes tasks = (some (tasks.map (·.1)), tasks.flatMap (·.2)) := by
  induction tasks with
  | nil => rfl
  | cons task tasks ih =>
    rw [List.forall_mem_cons] at all
    rw [carryOut, if_pos (List.all_eq_true.2 all.1), ih all.2]
    rfl

theorem mem_carryOut {takes : String → Bool} {tasks : List Task} {f : String × ByteArray}
    (member : f ∈ (carryOut takes tasks).2) : ∃ task ∈ tasks, f ∈ task.2 := by
  induction tasks with
  | nil => cases member
  | cons task tasks ih =>
    rw [carryOut] at member
    split_ifs at member
    · rcases List.mem_append.1 member with here | later
      · exact ⟨task, List.mem_cons_self, here⟩
      · obtain ⟨other, listed, inside⟩ := ih later
        exact ⟨other, List.mem_cons_of_mem _ listed, inside⟩
    · exact ⟨task, List.mem_cons_self, (List.takeWhile_sublist _).subset member⟩

end

def unifiedFiles (stem path : String) (datapoints : List UnifiedDatapoint) :
    List (String × ByteArray) :=
  datapoints.zipIdx.map fun d => (datapointFileName stem path d.2, d.1.toJson.render.toUTF8)

theorem run_writeUnified {output stem path : String} {datapoints : List UnifiedDatapoint}
    {u : FileTree} {l : Location} (place : u.locate? output = some l)
    (there : u.isDirectory l = true)
    (free : ∀ f ∈ unifiedFiles stem path datapoints, u.isDirectory (l ++ [f.1]) = false) :
    ∃ r, (writeUnified output stem path datapoints : Action _).run.run u =
        (r, u.putAll l ((unifiedFiles stem path datapoints).takeWhile
          fun f => accepts output f.1)) ∧
      if (unifiedFiles stem path datapoints).all fun f => accepts output f.1 then r = .ok ()
      else ∃ e, r = .error e := by
  have each : (writeUnified output stem path datapoints : Action _) =
      datapoints.zipIdx.forM fun d =>
        writeText (Path.join output (datapointFileName stem path d.2)) d.1.toJson.render := rfl
  obtain ⟨r, ran, done⟩ := run_forM_writeText
    (fun d : UnifiedDatapoint × Nat => datapointFileName stem path d.2)
    (fun d => d.1.toJson.render) place there
    (fun d (_ : d ∈ datapoints.zipIdx) => plainName_datapointFileName stem path d.2)
    (fun d member => free (datapointFileName stem path d.2, d.1.toJson.render.toUTF8)
      (List.mem_map.2 ⟨d, member, rfl⟩))
  refine ⟨r, ?_, done⟩
  rw [each]
  exact ran

def checkout? (t : FileTree) (path : String) : Option String :=
  ((t.read? path).bind String.fromUTF8?).map Text.normalizeLineEndings

theorem run_readCheckout? (path : String) (t : FileTree) :
    (readCheckout? path : StateM FileTree _).run t = (checkout? t path, t) := by
  rw [readCheckout?, run_bind, run_read, checkout?]
  cases (t.read? path).bind String.fromUTF8? <;> rfl

def patchedPath (checkouts : String) (origin : Origin) (patch : FilePatch) : String :=
  Path.join (Path.join checkouts origin.repo) patch.path

def sourceTask (run : UnifyRun) (origin : Origin) (patch : FilePatch) : Option String → Task
  | none => (⟨0, 1, 0, 0, 1⟩, [])
  | some source =>
    let datapoints := unifyFilePatch origin patch run.diagnostics source
    (⟨0, 1, datapoints.length, 0, 0⟩, unifiedFiles origin.stem patch.path datapoints)

def patchTask (run : UnifyRun) (origin : Origin) (t : FileTree) (patch : FilePatch) : Task :=
  if datapointStem origin.stem patch.path ∈ run.existing then (⟨0, 1, 0, 1, 0⟩, [])
  else sourceTask run origin patch (checkout? t (patchedPath run.checkouts origin patch))

section

variable {run : UnifyRun} {origin : Origin} {patch : FilePatch} {t u : FileTree} {l : Location}

theorem patchTask_cases (run : UnifyRun) (origin : Origin) (t : FileTree) (patch : FilePatch) :
    (datapointStem origin.stem patch.path ∈ run.existing ∧
      patchTask run origin t patch = (⟨0, 1, 0, 1, 0⟩, [])) ∨
    datapointStem origin.stem patch.path ∉ run.existing ∧
      ((checkout? t (patchedPath run.checkouts origin patch) = none ∧
        patchTask run origin t patch = (⟨0, 1, 0, 0, 1⟩, [])) ∨
      ∃ source, checkout? t (patchedPath run.checkouts origin patch) = some source ∧
        patchTask run origin t patch =
          (⟨0, 1, (unifyFilePatch origin patch run.diagnostics source).length, 0, 0⟩,
            unifiedFiles origin.stem patch.path
              (unifyFilePatch origin patch run.diagnostics source))) := by
  unfold patchTask
  split_ifs with known
  · exact .inl ⟨known, rfl⟩
  · cases checkout? t (patchedPath run.checkouts origin patch) with
    | none => exact .inr ⟨known, .inl ⟨rfl, rfl⟩⟩
    | some source => exact .inr ⟨known, .inr ⟨source, rfl, rfl⟩⟩

theorem patchTask_of_source {source : String}
    (new : datapointStem origin.stem patch.path ∉ run.existing)
    (found : checkout? t (patchedPath run.checkouts origin patch) = some source) :
    patchTask run origin t patch =
      (⟨0, 1, (unifyFilePatch origin patch run.diagnostics source).length, 0, 0⟩,
        unifiedFiles origin.stem patch.path
          (unifyFilePatch origin patch run.diagnostics source)) := by
  rw [patchTask, if_neg new, found]
  rfl

theorem counts_patchTask (run : UnifyRun) (origin : Origin) (t : FileTree) (patch : FilePatch) :
    (patchTask run origin t patch).1.diffFiles = 0 ∧
      (patchTask run origin t patch).1.patchedFiles = 1 ∧
      (patchTask run origin t patch).1.datapoints = (patchTask run origin t patch).2.length := by
  rcases patchTask_cases run origin t patch with
    ⟨-, task⟩ | ⟨-, ⟨-, task⟩ | ⟨source, -, task⟩⟩
  · rw [task]
    exact ⟨rfl, rfl, rfl⟩
  · rw [task]
    exact ⟨rfl, rfl, rfl⟩
  · rw [task]
    exact ⟨rfl, rfl, by simp [unifiedFiles]⟩

theorem mem_patchTask {f : String × ByteArray} (member : f ∈ (patchTask run origin t patch).2) :
    datapointStem origin.stem patch.path ∉ run.existing ∧
      ∃ n, f.1 = datapointFileName origin.stem patch.path n := by
  rcases patchTask_cases run origin t patch with
    ⟨-, task⟩ | ⟨new, ⟨-, task⟩ | ⟨source, -, task⟩⟩
  · rw [task] at member
    cases member
  · rw [task] at member
    cases member
  · rw [task] at member
    obtain ⟨d, -, rfl⟩ := List.mem_map.1 member
    exact ⟨new, _, rfl⟩

theorem get?_of_mem_patchTask
    (known : ∀ name, t.get? (l ++ [name]) ≠ none → nameStem name ∈ run.existing)
    {f : String × ByteArray} (member : f ∈ (patchTask run origin t patch).2) :
    t.get? (l ++ [f.1]) = none := by
  obtain ⟨new, n, named⟩ := mem_patchTask member
  by_contra taken
  have old := known _ taken
  rw [named, nameStem_datapointFileName] at old
  exact new old

theorem carriesOut_unifyPatchedFile (place : t.locate? run.output = some l)
    (there : t.isDirectory l = true)
    (known : ∀ name, t.get? (l ++ [name]) ≠ none → nameStem name ∈ run.existing)
    (agrees : AgreesOutside t u l)
    (apart : ∀ name, t.locate? (patchedPath run.checkouts origin patch) ≠ some (l ++ [name])) :
    CarriesOut (unifyPatchedFile run origin patch) (accepts run.output) l
      (patchTask run origin t patch) u := by
  have read : (liftM (readCheckout? (patchedPath run.checkouts origin patch) :
      StateM FileTree _) : Action _).run.run u =
        (.ok (checkout? t (patchedPath run.checkouts origin patch)), u) := by
    rw [run_lift, run_readCheckout?, checkout?, checkout?, agrees.read?_eq apart]
  rcases patchTask_cases run origin t patch with
    ⟨old, task⟩ | ⟨new, ⟨missing, task⟩ | ⟨source, found, task⟩⟩
  · rw [task]
    refine ⟨.ok ⟨0, 1, 0, 1, 0⟩, ?_, rfl⟩
    rw [unifyPatchedFile, if_pos old]
    rfl
  · rw [missing] at read
    rw [task]
    refine ⟨.ok ⟨0, 1, 0, 0, 1⟩, ?_, rfl⟩
    rw [unifyPatchedFile, if_neg new]
    exact run_bind_ok read
  · rw [found] at read
    have free : ∀ f ∈ (patchTask run origin t patch).2, u.isDirectory (l ++ [f.1]) = false := by
      intro f member
      rw [agrees.isDirectory_eq, isDirectory_of_get?_eq_none (get?_of_mem_patchTask known member)]
    rw [task] at free ⊢
    obtain ⟨r, ran, done⟩ := run_writeUnified ((agrees.locate?_eq _).trans place)
      ((agrees.isDirectory_eq l).trans there) free
    rw [CarriesOut, unifyPatchedFile, if_neg new]
    split_ifs at done ⊢ with fits
    · rw [done] at ran
      exact ⟨_, (run_bind_ok read).trans (run_bind_ok ran), rfl⟩
    · obtain ⟨e, rfl⟩ := done
      exact ⟨_, (run_bind_ok read).trans (run_bind_error ran), e, rfl⟩

end

/-- The origin of a diff and the files that it patches, if it can be used. -/
def diffPatches? (t : FileTree) (path : String) : Option (Origin × List FilePatch) := do
  let origin ← Origin.ofStem? ((Path.stem? path).getD "")
  let text ← (t.value (readText path)).toOption
  let patches ← (Patch.read text).toOption
  return (origin, patchedFiles patches)

def withAddress (repos : List RepoRecord) (o : Origin) : Origin :=
  { o with repoUrl := repoUrl? repos o.repo }

def diffSources (t : FileTree) (checkouts path : String) : List String :=
  ((diffPatches? t path).map fun d => d.2.map (patchedPath checkouts d.1)).getD []

def diffTasks? (run : UnifyRun) (t : FileTree) (path : String) : Option (List Task) :=
  (diffPatches? t path).map fun d =>
    d.2.map (patchTask run (withAddress run.repos d.1) t)

def diffTask (takes : String → Bool) : Option (List Task) → Task
  | none => (.skippedDiff, [])
  | some tasks =>
    (((carryOut takes tasks).1.map fun counts =>
      .sum ({ UnifyCounts.zero with diffFiles := 1 } :: counts)).getD .skippedDiff,
      (carryOut takes tasks).2)

section

variable {run : UnifyRun} {t u : FileTree} {l : Location} {path : String}

theorem run_unifyDiffOrSkip_eq (run : UnifyRun) (path : String) (u : FileTree) :
    (unifyDiffOrSkip run path : StateM FileTree _).run u =
      match (unifyDiff run path : Action _).run.run u with
      | (.ok counts, v) => (counts, v)
      | (.error _, v) => (.skippedDiff, v) := by
  rw [unifyDiffOrSkip, run_bind]
  generalize (unifyDiff run path : Action _).run.run u = done
  match done with
  | (.ok counts, v) => rfl
  | (.error cause, v) => rfl

theorem run_unifyDiffOrSkip_of_none (unusable : diffPatches? u path = none) :
    (unifyDiffOrSkip run path : StateM FileTree _).run u = (.skippedDiff, u) := by
  have read := readsOnly_readText path u
  rw [run_unifyDiffOrSkip_eq, unifyDiff]
  unfold diffPatches? at unusable
  cases origin : Origin.ofStem? ((Path.stem? path).getD "") with
  | none => rfl
  | some origin =>
    cases held : u.value (readText path) with
    | error e =>
      dsimp only
      rw [run_bind_error (held ▸ read)]
    | ok text =>
      dsimp only
      rw [run_bind_ok (held ▸ read)]
      cases parsed : Patch.read text with
      | error cause => rfl
      | ok patches => simp [origin, held, parsed, Except.toOption] at unusable

theorem run_unifyDiff_of_some {origin : Origin} {patches : List FilePatch}
    (usable : diffPatches? u path = some (origin, patches)) :
    (unifyDiff run path : Action _).run.run u =
      (patches.mapM (unifyPatchedFile run (withAddress run.repos origin)) >>= fun counts =>
        (pure (UnifyCounts.sum ({ UnifyCounts.zero with diffFiles := 1 } :: counts)) :
          Action _)).run.run u := by
  have read := readsOnly_readText path u
  unfold diffPatches? at usable
  simp only [Option.bind_eq_bind, Option.bind_eq_some_iff] at usable
  obtain ⟨found, origin_eq, text, held, all, parsed, same⟩ := usable
  obtain ⟨rfl, rfl⟩ := Prod.mk.inj (Option.some.inj same)
  have held : u.value (readText path) = .ok text := by
    cases value : u.value (readText path) <;> simp_all [Except.toOption]
  have parsed : Patch.read text = .ok all := by
    cases value : Patch.read text <;> simp_all [Except.toOption]
  rw [unifyDiff, origin_eq]
  dsimp only
  rw [run_bind_ok (held ▸ read), parsed]
  rfl

theorem diffPatches?_congr (same : u.read? path = t.read? path) :
    diffPatches? u path = diffPatches? t path := by
  rw [diffPatches?, diffPatches?, value_readText_congr same]

theorem run_unifyDiffOrSkip (place : t.locate? run.output = some l)
    (there : t.isDirectory l = true)
    (known : ∀ name, t.get? (l ++ [name]) ≠ none → nameStem name ∈ run.existing)
    (agrees : AgreesOutside t u l)
    (apart : ∀ p ∈ path :: diffSources t run.checkouts path, ∀ name,
      t.locate? p ≠ some (l ++ [name])) :
    (unifyDiffOrSkip run path : StateM FileTree _).run u =
      ((diffTask (accepts run.output) (diffTasks? run t path)).1,
        u.putAll l (diffTask (accepts run.output) (diffTasks? run t path)).2) := by
  rw [List.forall_mem_cons] at apart
  have same := diffPatches?_congr (agrees.read?_eq apart.1)
  cases usable : diffPatches? t path with
  | none =>
    rw [diffTasks?, usable]
    exact run_unifyDiffOrSkip_of_none (same.trans usable)
  | some d =>
    obtain ⟨origin, patches⟩ := d
    have whole : (unifyDiff run path : Action _).run.run u = _ :=
      run_unifyDiff_of_some (same.trans usable)
    have sources := apart.2
    rw [diffSources, usable] at sources
    have carries : ∀ patch ∈ patches, ∀ v, AgreesOutside t v l →
        CarriesOut (unifyPatchedFile run (withAddress run.repos origin) patch)
          (accepts run.output) l (patchTask run (withAddress run.repos origin) t patch) v :=
      fun patch member v agrees => carriesOut_unifyPatchedFile place there known agrees
        (sources _ (List.mem_map.2 ⟨patch, member, rfl⟩))
    obtain ⟨r, ran, done⟩ := run_mapM_tasks carries
      (fun patch _ f member => isDirectory_of_get?_eq_none (get?_of_mem_patchTask known member))
      agrees
    rw [diffTasks?, usable, run_unifyDiffOrSkip_eq, whole]
    simp only [Option.map_some, diffTask]
    cases carried : (carryOut (accepts run.output)
      (patches.map (patchTask run (withAddress run.repos origin) t))).1 with
    | some counts =>
      rw [carried] at done
      rw [run_bind_ok (done ▸ ran)]
      rfl
    | none =>
      rw [carried] at done
      obtain ⟨e, rfl⟩ := done
      rw [run_bind_error ran]
      rfl

theorem mem_diffTask {takes : String → Bool} {f : String × ByteArray}
    (member : f ∈ (diffTask takes (diffTasks? run t path)).2) :
    ∃ origin patches, diffPatches? t path = some (origin, patches) ∧ ∃ patch ∈ patches,
      f ∈ (patchTask run (withAddress run.repos origin) t patch).2 := by
  unfold diffTasks? at member
  cases usable : diffPatches? t path with
  | none => rw [usable] at member; cases member
  | some d =>
    obtain ⟨origin, patches⟩ := d
    rw [usable] at member
    obtain ⟨task, listed, inside⟩ := mem_carryOut member
    obtain ⟨patch, patched, rfl⟩ := List.mem_map.1 listed
    exact ⟨origin, patches, rfl, patch, patched, inside⟩

theorem get?_of_mem_diffTask
    (known : ∀ name, t.get? (l ++ [name]) ≠ none → nameStem name ∈ run.existing)
    {takes : String → Bool} {f : String × ByteArray}
    (member : f ∈ (diffTask takes (diffTasks? run t path)).2) : t.get? (l ++ [f.1]) = none := by
  obtain ⟨origin, patches, -, patch, -, inside⟩ := mem_diffTask member
  exact get?_of_mem_patchTask known inside

end

end FixCorpus.Dataset
