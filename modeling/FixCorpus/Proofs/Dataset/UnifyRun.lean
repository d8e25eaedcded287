import FixCorpus.Proofs.Dataset.Unified

/-! A whole run of the unification, read off the tree in which its output directory has
been made: its counts are those of the diffs, and its files are put into that directory. -/

namespace FixCorpus.Dataset

open FileTree

section

variable {t u : FileTree}

theorem readsOnly_readRepos (path : Option String) : ReadsOnly (readRepos path) := by
  cases path with
  | none => exact readsOnly_pure _
  | some path => exact readsOnly_readRecord _ path

theorem value_readRepos_congr {path : Option String}
    (same : ∀ p ∈ path, u.read? p = t.read? p) :
    u.value (readRepos path) = t.value (readRepos path) := by
  cases path with
  | none => rfl
  | some path => exact value_readRecord_congr (same path rfl)

end

def diffFiles (t : FileTree) (directory : String) : List String :=
  ((discover directory "diff" : StateM FileTree _).run t).1

def unifyRun? (t : FileTree) (paths : UnifyPaths) : Option UnifyRun := do
  let diagnostics ← (t.value
    (readRecord (Json.toList? DiagnosticRecord.ofJson?) paths.diagnostics)).toOption
  let repos ← (t.value (readRepos paths.repos)).toOption
  return ⟨diagnostics, repos, paths.checkouts, paths.output, (t.names paths.output).map nameStem⟩

/-- The files that a run reads. -/
def unifyReads (t : FileTree) (paths : UnifyPaths) : List String :=
  paths.diagnostics :: paths.repos.toList ++ diffFiles t paths.diffs ++
    (diffFiles t paths.diffs).flatMap (diffSources t paths.checkouts)

section

variable {paths : UnifyPaths} {t u v : FileTree} {l : Location}

theorem run_diffFiles (directory : String) (t : FileTree) :
    (liftM (discover directory "diff" : StateM FileTree _) : Action _).run.run t =
      (.ok (diffFiles t directory), t) := rfl

theorem run_unify_of_ok {diagnostics : List DiagnosticRecord} {repos : List RepoRecord}
    (read : t.value (readRecord (Json.toList? DiagnosticRecord.ofJson?) paths.diagnostics) =
      .ok diagnostics)
    (read_repos : t.value (readRepos paths.repos) = .ok repos)
    (some_diff : diffFiles t paths.diffs ≠ [])
    (made : (Storage.makeDirectory paths.output : StateM FileTree Bool).run t = (true, v)) :
    (unify paths : Action _).run.run t =
      (.ok (UnifyCounts.sum (((diffFiles t paths.diffs).mapM (unifyDiffOrSkip
          ⟨diagnostics, repos, paths.checkouts, paths.output,
            (v.names paths.output).map nameStem⟩ : String → StateM FileTree _)).run v).1),
        (((diffFiles t paths.diffs).mapM (unifyDiffOrSkip
          ⟨diagnostics, repos, paths.checkouts, paths.output,
            (v.names paths.output).map nameStem⟩ : String → StateM FileTree _)).run v).2) := by
  have first := readsOnly_readRecord (Json.toList? DiagnosticRecord.ofJson?) paths.diagnostics t
  have second := readsOnly_readRepos paths.repos t
  have there := run_makeDirectory paths.output t
  rw [made] at there
  rw [unify, run_bind_ok (read ▸ first), run_bind_ok (read_repos ▸ second),
    run_bind_ok (run_diffFiles _ t), run_bind_ok (run_orNoInputs some_diff _ _ t),
    run_bind_ok there, run_bind_ok (run_lift _ v), run_names, run_bind_ok (run_mapM_lift _ _ _)]
  rfl

theorem ok_of_run_unify {c : UnifyCounts}
    (ran : (unify paths : Action _).run.run t = (.ok c, u)) :
    ∃ diagnostics repos,
      t.value (readRecord (Json.toList? DiagnosticRecord.ofJson?) paths.diagnostics) =
        .ok diagnostics ∧
      t.value (readRepos paths.repos) = .ok repos ∧ diffFiles t paths.diffs ≠ [] ∧
      (Storage.makeDirectory paths.output : StateM FileTree Bool).run t =
        (true, t.withDirectory paths.output) := by
  rw [unify, (readsOnly_readRecord _ _).run_bind_eq_ok] at ran
  obtain ⟨diagnostics, read, ran⟩ := ran
  obtain ⟨repos, read_repos, ran⟩ := (readsOnly_readRepos paths.repos).run_bind_eq_ok.1 ran
  rw [run_bind_ok (run_diffFiles _ t), (readsOnly_lift _).run_bind_eq_ok, value_lift] at ran
  obtain ⟨_, chosen, ran⟩ := ran
  obtain ⟨_, _, made, -⟩ := run_bind_eq_ok.1 ran
  refine ⟨diagnostics, repos, read, read_repos, fun no_diff => ?_, ?_⟩
  · rw [no_diff] at chosen
    cases chosen
  · rw [run_makeDirectory] at made
    rw [withDirectory]
    generalize (Storage.makeDirectory paths.output : StateM FileTree Bool).run t = result at made ⊢
    obtain ⟨done, v⟩ := result
    cases done with
    | false => cases made
    | true => rfl

theorem value_readRepos_of_gains (h : Gains t u) {path : Option String} {repos : List RepoRecord}
    (held : t.value (readRepos path) = .ok repos) : u.value (readRepos path) = .ok repos := by
  cases path with
  | none => exact held
  | some path => exact value_readRecord_of_gains h held

theorem diffFiles_of_gains (h : Gains t u) {directory : String}
    (some_diff : diffFiles t directory ≠ []) : diffFiles u directory = diffFiles t directory := by
  cases found : t.locate? directory with
  | none =>
    have none_there : t.files directory = [] := by rw [files, found]
    simp [diffFiles, run_discover, none_there] at some_diff
  | some l => rw [diffFiles, diffFiles, run_discover, run_discover, h.files_eq found]

theorem unifyRun?_eq_some {run : UnifyRun} : unifyRun? t paths = some run ↔
    ∃ diagnostics repos,
      t.value (readRecord (Json.toList? DiagnosticRecord.ofJson?) paths.diagnostics) =
        .ok diagnostics ∧
      t.value (readRepos paths.repos) = .ok repos ∧
      run = ⟨diagnostics, repos, paths.checkouts, paths.output,
        (t.names paths.output).map nameStem⟩ := by
  unfold unifyRun?
  cases t.value (readRecord (Json.toList? DiagnosticRecord.ofJson?) paths.diagnostics) with
  | error e => simp [Except.toOption]
  | ok diagnostics =>
    cases t.value (readRepos paths.repos) with
    | error e => simp [Except.toOption]
    | ok repos => simp [Except.toOption, eq_comm]

theorem run_unify_of_isDirectory {run : UnifyRun} (place : t.locate? paths.output = some l)
    (there : t.isDirectory l = true) (shared : unifyRun? t paths = some run)
    (some_diff : diffFiles t paths.diffs ≠ []) :
    (unify paths : Action _).run.run t =
      (.ok (UnifyCounts.sum (((diffFiles t paths.diffs).mapM
          (unifyDiffOrSkip run : String → StateM FileTree _)).run t).1),
        (((diffFiles t paths.diffs).mapM
          (unifyDiffOrSkip run : String → StateM FileTree _)).run t).2) := by
  obtain ⟨diagnostics, repos, read, read_repos, rfl⟩ := unifyRun?_eq_some.1 shared
  exact run_unify_of_ok read read_repos some_diff (makeDirectory_of_isDirectory place there)

theorem unify_withDirectory {c : UnifyCounts}
    (place : (t.withDirectory paths.output).locate? paths.output = some l)
    (there : (t.withDirectory paths.output).isDirectory l = true)
    (ran : (unify paths : Action _).run.run t = (.ok c, u)) :
    (unify paths : Action _).run.run (t.withDirectory paths.output) = (.ok c, u) ∧
      (∃ run, unifyRun? (t.withDirectory paths.output) paths = some run) ∧
      diffFiles (t.withDirectory paths.output) paths.diffs ≠ [] := by
  obtain ⟨diagnostics, repos, read, read_repos, some_diff, made⟩ := ok_of_run_unify ran
  have gained := gains_withDirectory t paths.output
  have same_diffs := diffFiles_of_gains gained some_diff
  have shared : unifyRun? (t.withDirectory paths.output) paths = some _ :=
    unifyRun?_eq_some.2 ⟨diagnostics, repos, value_readRecord_of_gains gained read,
      value_readRepos_of_gains gained read_repos, rfl⟩
  refine ⟨?_, ⟨_, shared⟩, same_diffs ▸ some_diff⟩
  rw [← ran, run_unify_of_ok read read_repos some_diff made,
    run_unify_of_isDirectory place there shared (same_diffs ▸ some_diff), same_diffs]

def unifyTask (run : UnifyRun) (t : FileTree) (path : String) : Task :=
  diffTask (accepts run.output) (diffTasks? run t path)

section

variable {run : UnifyRun} (apart : WritesApart t paths.output (unifyReads t paths) l)
  (shared : unifyRun? t paths = some run)

include apart shared in
theorem stem_mem_existing (name : String) (taken : t.get? (l ++ [name]) ≠ none) :
    nameStem name ∈ run.existing := by
  obtain ⟨diagnostics, repos, -, -, rfl⟩ := unifyRun?_eq_some.1 shared
  exact List.mem_map_of_mem ((mem_names_iff apart.place).2 taken)

include apart shared in
theorem run_unifyDiffs :
    ((diffFiles t paths.diffs).mapM (unifyDiffOrSkip run : String → StateM FileTree _)).run t =
      ((diffFiles t paths.diffs).map fun path => (unifyTask run t path).1,
        t.putAll l ((diffFiles t paths.diffs).flatMap fun path => (unifyTask run t path).2)) := by
  have known := stem_mem_existing apart shared
  obtain ⟨diagnostics, repos, -, -, rfl⟩ := unifyRun?_eq_some.1 shared
  refine run_mapM_of_agrees (fun path member u agrees => ?_) (fun path _ f member => ?_) (.refl t l)
  · refine run_unifyDiffOrSkip apart.place apart.there known agrees fun p read => ?_
    refine apart.apart p ?_
    rcases List.mem_cons.1 read with rfl | source
    · exact List.mem_append_left _ (List.mem_append_right _ member)
    · exact List.mem_append_right _ (List.mem_flatMap.2 ⟨path, member, source⟩)
  · exact isDirectory_of_get?_eq_none (get?_of_mem_diffTask known member)

end

section

variable {run : UnifyRun}

def unifyFiles (run : UnifyRun) (t : FileTree) (paths : UnifyPaths) :
    List (String × ByteArray) :=
  (diffFiles t paths.diffs).flatMap fun path => (unifyTask run t path).2

theorem named_of_mem_unifyFiles {f : String × ByteArray} (member : f ∈ unifyFiles run t paths) :
    ∃ stem path n, f.1 = datapointFileName stem path n := by
  obtain ⟨path, -, inside⟩ := List.mem_flatMap.1 member
  obtain ⟨origin, patches, -, patch, -, planned⟩ := mem_diffTask inside
  obtain ⟨-, n, named⟩ := mem_patchTask planned
  exact ⟨_, _, n, named⟩

variable (apart : WritesApart t paths.output (unifyReads t paths) l)
  (shared : unifyRun? t paths = some run)
include apart shared

theorem get?_of_mem_unifyFiles {f : String × ByteArray} (member : f ∈ unifyFiles run t paths) :
    t.get? (l ++ [f.1]) = none := by
  obtain ⟨path, -, inside⟩ := List.mem_flatMap.1 member
  exact get?_of_mem_diffTask (stem_mem_existing apart shared) inside

theorem isDirectory_of_mem_unifyFiles {f : String × ByteArray}
    (member : f ∈ unifyFiles run t paths) : t.isDirectory (l ++ [f.1]) = false :=
  isDirectory_of_get?_eq_none (get?_of_mem_unifyFiles apart shared member)

theorem agreesOutside_putAll :
    AgreesOutside t (t.putAll l (unifyFiles run t paths)) l :=
  (AgreesOutside.refl t l).putAll _ fun _ => isDirectory_of_mem_unifyFiles apart shared

end

theorem run_unify_of_one_diff {run : UnifyRun} {path : String}
    (apart : WritesApart t paths.output (unifyReads t paths) l)
    (shared : unifyRun? t paths = some run) (one : diffFiles t paths.diffs = [path]) :
    (unify paths : Action _).run.run t =
      (.ok (UnifyCounts.sum [(unifyTask run t path).1]), t.putAll l (unifyFiles run t paths)) := by
  rw [run_unify_of_isDirectory apart.place apart.there shared (by simp [one]),
    run_unifyDiffs apart shared, unifyFiles, one]
  rfl

theorem eq_putAll_of_run_unify {run : UnifyRun} {c : UnifyCounts}
    (apart : WritesApart (t.withDirectory paths.output) paths.output
      (unifyReads (t.withDirectory paths.output) paths) l)
    (shared : unifyRun? (t.withDirectory paths.output) paths = some run)
    (ran : (unify paths : Action _).run.run t = (.ok c, u)) :
    u = (t.withDirectory paths.output).putAll l
        (unifyFiles run (t.withDirectory paths.output) paths) ∧
      c = UnifyCounts.sum ((diffFiles (t.withDirectory paths.output) paths.diffs).map fun path =>
        (unifyTask run (t.withDirectory paths.output) path).1) := by
  obtain ⟨ran, -, some_diff⟩ := unify_withDirectory apart.place apart.there ran
  rw [run_unify_of_isDirectory apart.place apart.there shared some_diff,
    run_unifyDiffs apart shared] at ran
  obtain ⟨counted, rfl⟩ := Prod.mk.inj ran
  exact ⟨rfl, (Except.ok.inj counted).symm⟩

def unifyTasks (run : UnifyRun) (t : FileTree) (path : String) : List Task :=
  (diffTasks? run t path).getD []

/-- The directory can hold all files that a diff calls for. -/
def AllAccepted (run : UnifyRun) (t : FileTree) (path : String) : Prop :=
  ∀ task ∈ unifyTasks run t path, ∀ f ∈ task.2, accepts run.output f.1 = true

theorem unifyTask_of_accepted {run : UnifyRun} {path : String} (all : AllAccepted run t path) :
    (unifyTask run t path).1.diffFiles = 1 ∧
      (unifyTask run t path).1.patchedFiles = (unifyTasks run t path).length ∧
      (unifyTask run t path).1.datapoints = (unifyTask run t path).2.length ∧
      (unifyTask run t path).2 = (unifyTasks run t path).flatMap (·.2) := by
  unfold AllAccepted at all
  unfold unifyTask unifyTasks at *
  unfold diffTasks? at *
  cases usable : diffPatches? t path with
  | none => exact ⟨rfl, rfl, rfl, rfl⟩
  | some d =>
    rw [usable] at all
    have counted : ∀ task ∈ d.2.map (patchTask run (withAddress run.repos d.1) t),
        task.1.diffFiles = 0 ∧ task.1.patchedFiles = 1 ∧ task.1.datapoints = task.2.length := by
      intro task member
      obtain ⟨patch, -, rfl⟩ := List.mem_map.1 member
      exact counts_patchTask run _ t patch
    simp only [Option.map_some, Option.getD_some] at all ⊢
    generalize d.2.map (patchTask run (withAddress run.repos d.1) t) = tasks at all counted ⊢
    have maps : tasks.map (·.1.diffFiles) = tasks.map (fun _ => 0) ∧
        tasks.map (·.1.patchedFiles) = tasks.map (fun _ => 1) ∧
        tasks.map (·.1.datapoints) = tasks.map (·.2.length) :=
      ⟨List.map_congr_left fun task member => (counted task member).1,
        List.map_congr_left fun task member => (counted task member).2.1,
        List.map_congr_left fun task member => (counted task member).2.2⟩
    have carried := carryOut_of_all all
    simp only [diffTask, carried, Option.map_some, Option.getD_some, UnifyCounts.sum_eq,
      List.map_cons, List.map_map, Function.comp_def, maps, List.sum_cons, List.length_flatMap]
    simp [UnifyCounts.zero, List.map_const']

end

end FixCorpus.Dataset
