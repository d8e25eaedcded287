import FixCorpus.Proofs.Dataset.AnyOrder
import FixCorpus.Proofs.Dataset.Overwriting

/-! Running a step of the work again: `rerun_changes_nothing`. What the first run has
written is known by its names to the second one, and what the first run could not use
cannot be used by the second one either. -/

namespace FixCorpus.Dataset

open FileTree

/-- The same with the names that the output directory holds in a tree. -/
def UnifyRun.rescan (run : UnifyRun) (t : FileTree) : UnifyRun :=
  { run with existing := (t.names run.output).map nameStem }

@[simp] theorem rescan_checkouts (run : UnifyRun) (t : FileTree) :
    (run.rescan t).checkouts = run.checkouts := rfl

theorem extension?_of_fileName? {path stem source : String} {n : Nat}
    (named : Path.fileName? path = some (datapointFileName stem source n)) :
    Path.extension? path = some "json" := by
  have recorded := namesRecord_datapointFileName "" stem source n
  rw [namesRecord, Bool.and_eq_true] at recorded
  have ends : Path.extension? (Path.join "" (datapointFileName stem source n)) = some "json" := by
    simpa using recorded.1
  rwa [Path.extension?, (plainName_datapointFileName stem source n).fileName?_join,
    ← named] at ends

section

variable {paths : UnifyPaths} {run : UnifyRun} {t u : FileTree} {l : Location}

variable (apart : WritesApart t paths.output (unifyReads t paths) l)
  (shared : unifyRun? t paths = some run)
include apart shared

theorem diffFiles_putAll :
    diffFiles (t.putAll l (unifyFiles run t paths)) paths.diffs = diffFiles t paths.diffs := by
  have free : ∀ f ∈ unifyFiles run t paths, t.isDirectory (l ++ [f.1]) = false :=
    fun _ => isDirectory_of_mem_unifyFiles apart shared
  cases found : t.locate? paths.diffs with
  | none =>
    have lost := ((agreesOutside_putAll apart shared).locate?_eq paths.diffs).trans found
    rw [diffFiles, diffFiles, run_discover, run_discover, files, files, found, lost]
  | some r =>
    rw [diffFiles, diffFiles, run_discover, run_discover]
    refine congrArg (fun files => List.mergeSort files Path.le) (filter_files_putAll found free ?_)
    intro f member k placed
    obtain ⟨stem, path, n, named⟩ := named_of_mem_unifyFiles member
    have ends : Path.fileName? (extend paths.diffs k) = none ∨
        Path.fileName? (extend paths.diffs k) = some (datapointFileName stem path n) := by
      rw [← named]
      rcases List.eq_nil_or_concat k with rfl | ⟨front, name, rfl⟩
      · rw [List.append_nil] at placed
        exact fileName?_of_locate? (placed ▸ found)
      · rw [List.concat_eq_append, ← List.append_assoc] at placed
        obtain ⟨-, same⟩ := List.append_inj' placed rfl
        obtain rfl : name = f.1 := List.singleton_inj.1 same
        rw [List.concat_eq_append, extend_append_singleton]
        exact .inr ((named ▸ plainName_datapointFileName stem path n).fileName?_join _)
    rcases ends with none_there | same
    · simp [Path.extension?, none_there]
    · rw [extension?_of_fileName? same]
      decide

theorem read?_putAll {path : String} (read : path ∈ unifyReads t paths) :
    (t.putAll l (unifyFiles run t paths)).read? path = t.read? path :=
  (agreesOutside_putAll apart shared).read?_eq (apart.apart path read)

theorem diffPatches?_putAll {path : String} (listed : path ∈ diffFiles t paths.diffs) :
    diffPatches? (t.putAll l (unifyFiles run t paths)) path = diffPatches? t path :=
  diffPatches?_congr (read?_putAll apart shared
    (List.mem_append_left _ (List.mem_append_right _ listed)))

theorem writesApart_putAll :
    WritesApart (t.putAll l (unifyFiles run t paths)) paths.output
      (unifyReads (t.putAll l (unifyFiles run t paths)) paths) l := by
  have agrees := agreesOutside_putAll apart shared
  have same_sources : ∀ path ∈ diffFiles t paths.diffs,
      diffSources (t.putAll l (unifyFiles run t paths)) paths.checkouts path =
        diffSources t paths.checkouts path := fun path listed => by
    rw [diffSources, diffSources, diffPatches?_putAll apart shared listed]
  have same : unifyReads (t.putAll l (unifyFiles run t paths)) paths = unifyReads t paths := by
    rw [unifyReads, unifyReads, diffFiles_putAll apart shared, List.flatMap_congr same_sources]
  refine ⟨(agrees.locate?_eq _).trans apart.place, (agrees.isDirectory_eq l).trans apart.there, ?_⟩
  intro path read name
  rw [same] at read
  rw [agrees.locate?_eq]
  exact apart.apart path read name

theorem unifyRun?_putAll :
    unifyRun? (t.putAll l (unifyFiles run t paths)) paths =
      some (run.rescan (t.putAll l (unifyFiles run t paths))) := by
  have same : ∀ path ∈ unifyReads t paths,
      (t.putAll l (unifyFiles run t paths)).read? path = t.read? path :=
    fun _ => read?_putAll apart shared
  obtain ⟨diagnostics, repos, read, read_repos, rfl⟩ := unifyRun?_eq_some.1 shared
  refine unifyRun?_eq_some.2 ⟨diagnostics, repos, ?_, ?_, rfl⟩
  · rw [value_readRecord_congr (same _ (by simp [unifyReads])), read]
  · rw [value_readRepos_congr fun p given => same p ?_, read_repos]
    simp [unifyReads, Option.mem_toList.2 given]

theorem mem_existing_rescan {stem : String} :
    stem ∈ (run.rescan (t.putAll l (unifyFiles run t paths))).existing ↔
      stem ∈ run.existing ∨ ∃ f ∈ unifyFiles run t paths, nameStem f.1 = stem := by
  have free : ∀ f ∈ unifyFiles run t paths, t.isDirectory (l ++ [f.1]) = false :=
    fun _ => isDirectory_of_mem_unifyFiles apart shared
  obtain ⟨diagnostics, repos, -, -, rfl⟩ := unifyRun?_eq_some.1 shared
  have names := fun name => @mem_names_putAll t paths.output name l apart.place _ free
  constructor
  · intro known
    obtain ⟨name, listed, rfl⟩ := List.mem_map.1 known
    rcases (names name).1 listed with old | ⟨f, member, rfl⟩
    · exact .inl (List.mem_map_of_mem old)
    · exact .inr ⟨f, member, rfl⟩
  · rintro (old | ⟨f, member, rfl⟩)
    · obtain ⟨name, listed, rfl⟩ := List.mem_map.1 old
      exact List.mem_map_of_mem ((names name).2 (.inl listed))
    · exact List.mem_map_of_mem ((names f.1).2 (.inr ⟨f, member, rfl⟩))

theorem patchTask_putAll (all : ∀ path ∈ diffFiles t paths.diffs, AllAccepted run t path)
    {path : String} {origin : Origin} {patches : List FilePatch} {patch : FilePatch}
    (listed : path ∈ diffFiles t paths.diffs)
    (usable : diffPatches? t path = some (origin, patches)) (patched : patch ∈ patches) :
    (patchTask (run.rescan (t.putAll l (unifyFiles run t paths)))
      (withAddress run.repos origin) (t.putAll l (unifyFiles run t paths)) patch).2 = [] := by
  have checkouts_eq : run.checkouts = paths.checkouts := by
    obtain ⟨diagnostics, repos, -, -, rfl⟩ := unifyRun?_eq_some.1 shared
    rfl
  rcases patchTask_cases (run.rescan (t.putAll l (unifyFiles run t paths)))
    (withAddress run.repos origin) (t.putAll l (unifyFiles run t paths)) patch with
    ⟨-, task⟩ | ⟨new, ⟨-, task⟩ | ⟨source, found, task⟩⟩
  · rw [task]
  · rw [task]
  · rw [task]
    by_contra some_file
    refine new ?_
    -- the first run found the same source, and so it has written these datapoints
    have source_read : patchedPath run.checkouts (withAddress run.repos origin) patch ∈
        unifyReads t paths := by
      refine List.mem_append_right _ (List.mem_flatMap.2 ⟨path, listed, ?_⟩)
      rw [diffSources, usable, ← checkouts_eq]
      exact List.mem_map_of_mem patched
    have same_source : checkout? (t.putAll l (unifyFiles run t paths))
        (patchedPath run.checkouts (withAddress run.repos origin) patch) =
          checkout? t (patchedPath run.checkouts (withAddress run.repos origin) patch) := by
      rw [checkout?, checkout?, read?_putAll apart shared source_read]
    rw [rescan_checkouts, same_source] at found
    have first := patchTask_of_source
      (fun old => new ((mem_existing_rescan apart shared).2 (.inl old))) found
    obtain ⟨f, member⟩ := List.exists_mem_of_ne_nil _ some_file
    have planned : f ∈ unifyFiles run t paths := by
      refine List.mem_flatMap.2 ⟨path, listed, ?_⟩
      rw [(unifyTask_of_accepted (all path listed)).2.2.2, unifyTasks, diffTasks?, usable]
      exact List.mem_flatMap.2 ⟨_, List.mem_map_of_mem patched, first ▸ member⟩
    obtain ⟨-, n, named⟩ := mem_patchTask (first ▸ member :
      f ∈ (patchTask run (withAddress run.repos origin) t patch).2)
    refine (mem_existing_rescan apart shared).2 (.inr ⟨f, planned, ?_⟩)
    rw [named, nameStem_datapointFileName]

theorem unifyTask_putAll (all : ∀ path ∈ diffFiles t paths.diffs, AllAccepted run t path)
    {path : String} (listed : path ∈ diffFiles t paths.diffs) :
    (unifyTask (run.rescan (t.putAll l (unifyFiles run t paths)))
      (t.putAll l (unifyFiles run t paths)) path).2 = [] ∧
    (unifyTask (run.rescan (t.putAll l (unifyFiles run t paths)))
      (t.putAll l (unifyFiles run t paths)) path).1.datapoints = 0 ∧
    (unifyTask (run.rescan (t.putAll l (unifyFiles run t paths)))
      (t.putAll l (unifyFiles run t paths)) path).1.diffFiles =
        (unifyTask run t path).1.diffFiles ∧
    (unifyTask (run.rescan (t.putAll l (unifyFiles run t paths)))
      (t.putAll l (unifyFiles run t paths)) path).1.patchedFiles =
        (unifyTask run t path).1.patchedFiles := by
  have same_diff := diffPatches?_putAll apart shared listed
  have nothing := fun origin patches patch =>
    @patchTask_putAll paths run t l apart shared all path origin patches patch listed
  generalize t.putAll l (unifyFiles run t paths) = u at same_diff nothing ⊢
  have idle : ∀ task ∈ unifyTasks (run.rescan u) u path, task.2 = [] := by
    intro task member
    rw [unifyTasks, diffTasks?, same_diff] at member
    cases usable : diffPatches? t path with
    | none => rw [usable] at member; cases member
    | some d =>
      rw [usable] at member
      obtain ⟨patch, patched, rfl⟩ := List.mem_map.1 member
      exact nothing d.1 d.2 patch usable patched
  have as_many : (unifyTasks (run.rescan u) u path).length =
      (unifyTasks run t path).length := by
    rw [unifyTasks, unifyTasks, diffTasks?, diffTasks?, same_diff]
    cases diffPatches? t path <;> simp
  -- Without files there is none that the directory could refuse.
  have nothing_refused : AllAccepted (run.rescan u) u path := by
    intro task member f inside
    rw [idle task member] at inside
    cases inside
  obtain ⟨diff_eq, patched_eq, datapoints_eq, files_eq⟩ := unifyTask_of_accepted nothing_refused
  obtain ⟨first_diff, first_patched, -, -⟩ := unifyTask_of_accepted (all path listed)
  have no_file : (unifyTask (run.rescan u) u path).2 = [] :=
    files_eq.trans (List.flatMap_eq_nil_iff.2 idle)
  exact ⟨no_file, by rw [datapoints_eq, no_file]; rfl, diff_eq.trans first_diff.symm,
    (patched_eq.trans as_many).trans first_patched.symm⟩

end

theorem unify_again {paths : UnifyPaths} {run : UnifyRun} {t u : FileTree} {l : Location}
    {c : UnifyCounts}
    (apart : WritesApart (t.withDirectory paths.output) paths.output
      (unifyReads (t.withDirectory paths.output) paths) l)
    (shared : unifyRun? (t.withDirectory paths.output) paths = some run)
    (all : ∀ path ∈ diffFiles (t.withDirectory paths.output) paths.diffs,
      AllAccepted run (t.withDirectory paths.output) path)
    (ran : (unify paths : Action _).run.run t = (.ok c, u)) :
    ∃ d, (unify paths : Action _).run.run u = (.ok d, u) ∧ d.datapoints = 0 ∧
      d.diffFiles = c.diffFiles ∧ d.patchedFiles = c.patchedFiles := by
  obtain ⟨-, -, some_diff⟩ := unify_withDirectory apart.place apart.there ran
  obtain ⟨rfl, rfl⟩ := eq_putAll_of_run_unify apart shared ran
  generalize t.withDirectory paths.output = v at *
  have again := fun path => @unifyTask_putAll paths run v l apart shared all path
  have apart_again := writesApart_putAll apart shared
  have shared_again := unifyRun?_putAll apart shared
  have same_diffs := diffFiles_putAll apart shared
  generalize v.putAll l (unifyFiles run v paths) = u at *
  have no_file : unifyFiles (run.rescan u) u paths = [] := by
    rw [unifyFiles, same_diffs]
    exact List.flatMap_eq_nil_iff.2 fun path listed => (again path listed).1
  have ran_again := run_unify_of_isDirectory apart_again.place apart_again.there shared_again
    (same_diffs ▸ some_diff)
  rw [run_unifyDiffs apart_again shared_again, ← unifyFiles, no_file, same_diffs] at ran_again
  refine ⟨_, ran_again, ?_, ?_, ?_⟩
  · simp only [UnifyCounts.sum_eq, List.map_map, Function.comp_def]
    rw [List.map_congr_left fun path listed => (again path listed).2.1]
    simp
  · simp only [UnifyCounts.sum_eq, List.map_map, Function.comp_def]
    rw [List.map_congr_left fun path listed => (again path listed).2.2.1]
  · simp only [UnifyCounts.sum_eq, List.map_map, Function.comp_def]
    rw [List.map_congr_left fun path listed => (again path listed).2.2.2]

/-- What becomes in a second run of an input with an outcome in the first one. -/
def TokenizeOutcome.again : TokenizeOutcome → TokenizeOutcome
  | .written => .duplicate
  | outcome => outcome

theorem countP_again (outcomes : List TokenizeOutcome) :
    (outcomes.map (·.again)).countP (·.isDuplicate) =
      outcomes.countP (·.isWritten) + outcomes.countP (·.isDuplicate) := by
  induction outcomes with
  | nil => rfl
  | cons o outcomes ih =>
    rw [List.map_cons, List.countP_cons, List.countP_cons, List.countP_cons, ih]
    cases o with
    | written => simp [TokenizeOutcome.again, TokenizeOutcome.isWritten,
        TokenizeOutcome.isDuplicate]; omega
    | duplicate => simp [TokenizeOutcome.again, TokenizeOutcome.isWritten,
        TokenizeOutcome.isDuplicate]; omega
    | failed cause => rfl

theorem ofOutcomes_map_again (outcomes : List TokenizeOutcome) :
    TokenizeCounts.ofOutcomes (outcomes.map (·.again)) =
      { TokenizeCounts.ofOutcomes outcomes with
        written := 0
        duplicates := (TokenizeCounts.ofOutcomes outcomes).written +
          (TokenizeCounts.ofOutcomes outcomes).duplicates } := by
  have failures : ∀ p : TokenizeOutcome → Bool, (∀ o, p o.again = p o) →
      (outcomes.map (·.again)).countP p = outcomes.countP p := fun p same => by
    rw [List.countP_map]
    exact List.countP_congr fun o _ => by rw [Function.comp_apply, same]
  have none_written : (outcomes.map (·.again)).countP (·.isWritten) = 0 := by
    rw [List.countP_map, List.countP_eq_zero]
    intro o _
    cases o <;> simp [TokenizeOutcome.again, TokenizeOutcome.isWritten]
  simp only [TokenizeCounts.ofOutcomes, List.length_map, none_written, countP_again]
  rw [failures _ fun o => by cases o <;> rfl, failures _ fun o => by cases o <;> rfl,
    failures _ fun o => by cases o <;> rfl, failures _ fun o => by cases o <;> rfl]

/-- No file of the directory at the location lies where a list of another one looks. -/
def OutsideOf (t : FileTree) (directory : String) (l : Location) : Prop :=
  ∀ k, t.locate? directory = some k → ∀ name, ¬ k <+: l ++ [name]

section

variable {paths : TokenizePaths} {settings : Settings} {t u : FileTree} {l : Location}

theorem records_withDirectory {directory : String} (some_input : t.records directory ≠ [])
    (path : String) : (t.withDirectory path).records directory = t.records directory := by
  cases found : t.locate? directory with
  | none => exact absurd (records_of_locate?_none found) some_input
  | some k => exact (gains_withDirectory t path).records_eq found

theorem tokenize_withDirectory {c : TokenizeCounts}
    (place : (t.withDirectory paths.output).locate? paths.output = some l)
    (there : (t.withDirectory paths.output).isDirectory l = true)
    (ran : (tokenize paths settings : Action _).run.run t = (.ok c, u)) :
    (tokenize paths settings : Action _).run.run (t.withDirectory paths.output) = (.ok c, u) ∧
      (t.withDirectory paths.output).records paths.input ≠ [] := by
  rw [run_tokenize] at ran
  have some_input : t.records paths.input ≠ [] := by
    intro none_there
    rw [none_there] at ran
    cases ran
  rw [if_neg (by simpa using some_input)] at ran
  have same := records_withDirectory some_input paths.output
  refine ⟨?_, same ▸ some_input⟩
  rw [run_tokenize_of_isDirectory settings (same ▸ some_input) place there, same]
  rw [withDirectory]
  cases made : (Storage.makeDirectory paths.output : StateM FileTree Bool).run t with
  | mk done v =>
    rw [made] at ran
    cases done with
    | false => cases ran
    | true => exact ran

def tokenizeFiles (t : FileTree) (paths : TokenizePaths) (settings : Settings) :
    List (String × ByteArray) :=
  (t.records paths.input).filterMap
    (newFile? paths.checkouts paths.output settings (t.names paths.output) t)

variable (apart : WritesApart t paths.output (tokenizeReads t paths) l)
include apart

theorem isDirectory_of_mem_tokenizeFiles {f : String × ByteArray}
    (member : f ∈ tokenizeFiles t paths settings) : t.isDirectory (l ++ [f.1]) = false := by
  obtain ⟨path, -, made⟩ := List.mem_filterMap.1 member
  exact isDirectory_of_get?_eq_none
    (get?_of_newFile? (fun name => (mem_names_iff apart.place).2) made)

variable (settings) in
theorem agreesOutside_putAll_tokenizeFiles :
    AgreesOutside t (t.putAll l (tokenizeFiles t paths settings)) l :=
  (AgreesOutside.refl t l).putAll _ fun _ => isDirectory_of_mem_tokenizeFiles apart

variable (settings) in
theorem records_putAll_tokenizeFiles (outside : OutsideOf t paths.input l) :
    (t.putAll l (tokenizeFiles t paths settings)).records paths.input = t.records paths.input :=
  records_putAll (fun _ => isDirectory_of_mem_tokenizeFiles apart)
    fun k found f _ => outside k found f.1

theorem outputFileName_mem_names_putAll (differ : OutputsDiffer t paths settings)
    {path text : String} {d : UnifiedDatapoint} (listed : path ∈ t.records paths.input)
    (held : t.value (readUnified path) = .ok (text, d))
    (new : outputFileName text settings ∉ t.names paths.output) :
    outputFileName text settings ∈
        (t.putAll l (tokenizeFiles t paths settings)).names paths.output ↔
      (newFile? paths.checkouts paths.output settings (t.names paths.output) t
        path).isSome = true := by
  -- The name may be that of another input, but then both have the same text and the same outcome.
  rw [mem_names_putAll apart.place fun _ => isDirectory_of_mem_tokenizeFiles apart,
    or_iff_right new]
  constructor
  · rintro ⟨f, member, named⟩
    obtain ⟨other, also, made⟩ := List.mem_filterMap.1 member
    rw [newFile?_of_same_name differ listed also held made named]
    rfl
  · intro some_file
    obtain ⟨f, made⟩ := Option.isSome_iff_exists.1 some_file
    refine ⟨f, List.mem_filterMap.2 ⟨path, listed, made⟩, ?_⟩
    obtain ⟨text', d', dp, held', -, -, -, rfl⟩ := newFile?_eq_some.1 made
    rw [held] at held'
    cases held'
    rfl

theorem inputOutcome_putAll (differ : OutputsDiffer t paths settings) {path : String}
    (listed : path ∈ t.records paths.input) :
    inputOutcome paths settings
        ((t.putAll l (tokenizeFiles t paths settings)).names paths.output)
        (t.putAll l (tokenizeFiles t paths settings)) path =
      (inputOutcome paths settings (t.names paths.output) t path).again := by
  have agrees := agreesOutside_putAll_tokenizeFiles settings apart
  rw [inputOutcome, inputOutcome, value_readUnified_of_agrees apart agrees listed,
    value_tokenizedDatapoint_of_agrees settings apart agrees listed]
  cases held : t.value (readUnified path) with
  | error e => rfl
  | ok r =>
    obtain ⟨text, d⟩ := r
    dsimp only
    by_cases old : outputFileName text settings ∈ t.names paths.output
    · have free : ∀ f ∈ tokenizeFiles t paths settings, t.isDirectory (l ++ [f.1]) = false :=
        fun _ => isDirectory_of_mem_tokenizeFiles apart
      rw [if_pos ((mem_names_putAll apart.place free).2 (.inl old)), if_pos old]
      rfl
    · rw [if_neg old]
      have new_iff := outputFileName_mem_names_putAll apart differ listed held old
      rw [newFile?, held] at new_iff
      simp only [if_neg old] at new_iff
      cases tokenized : t.value (tokenizedDatapoint path paths.checkouts settings) with
      | error e =>
        rw [tokenized] at new_iff
        rw [if_neg (by simp [new_iff])]
        rfl
      | ok dp =>
        rw [tokenized] at new_iff
        dsimp only at new_iff ⊢
        split_ifs at new_iff ⊢ <;> simp_all [TokenizeOutcome.again]

theorem newFile?_putAll (differ : OutputsDiffer t paths settings) {path : String}
    (listed : path ∈ t.records paths.input) :
    newFile? paths.checkouts paths.output settings
      ((t.putAll l (tokenizeFiles t paths settings)).names paths.output)
      (t.putAll l (tokenizeFiles t paths settings)) path = none := by
  rw [← Option.not_isSome_iff_eq_none, isSome_newFile?, inputOutcome_putAll apart differ listed]
  cases inputOutcome paths settings (t.names paths.output) t path <;> simp [TokenizeOutcome.again]

variable (settings) in
theorem writesApart_putAll_tokenizeFiles (outside : OutsideOf t paths.input l) :
    WritesApart (t.putAll l (tokenizeFiles t paths settings)) paths.output
      (tokenizeReads (t.putAll l (tokenizeFiles t paths settings)) paths) l := by
  have agrees := agreesOutside_putAll_tokenizeFiles settings apart
  have same_records := records_putAll_tokenizeFiles settings apart outside
  have same_datapoints : inputDatapoints (t.putAll l (tokenizeFiles t paths settings)) paths =
      inputDatapoints t paths := by
    rw [inputDatapoints, inputDatapoints, same_records]
    refine List.filterMap_congr fun path listed => ?_
    rw [value_readUnified_of_agrees apart agrees listed]
  refine ⟨(agrees.locate?_eq _).trans apart.place, (agrees.isDirectory_eq l).trans apart.there, ?_⟩
  intro path read name
  rw [tokenizeReads, same_records, same_datapoints, ← tokenizeReads] at read
  rw [agrees.locate?_eq]
  exact apart.apart path read name

end

theorem tokenize_again {paths : TokenizePaths} {settings : Settings} {t u : FileTree}
    {l : Location} {c : TokenizeCounts}
    (apart : WritesApart (t.withDirectory paths.output) paths.output
      (tokenizeReads (t.withDirectory paths.output) paths) l)
    (outside : OutsideOf (t.withDirectory paths.output) paths.input l)
    (differ : OutputsDiffer (t.withDirectory paths.output) paths settings)
    (ran : (tokenize paths settings : Action _).run.run t = (.ok c, u)) :
    (tokenize paths settings : Action _).run.run u =
      (.ok { c with written := 0, duplicates := c.written + c.duplicates }, u) := by
  obtain ⟨ran, some_input⟩ := tokenize_withDirectory apart.place apart.there ran
  generalize t.withDirectory paths.output = v at *
  have known : ∀ {t : FileTree}, t.locate? paths.output = some l →
      ∀ name, t.get? (l ++ [name]) ≠ none → name ∈ t.names paths.output :=
    fun place _ => (mem_names_iff place).2
  rw [run_tokenize_of_isDirectory settings some_input apart.place apart.there,
    run_processInputs apart (known apart.place) fun _ listed => listed] at ran
  obtain ⟨counted, rfl⟩ := Prod.mk.inj ran
  obtain rfl := Except.ok.inj counted
  change (tokenize paths settings : Action _).run.run
    (v.putAll l (tokenizeFiles v paths settings)) =
      (_, v.putAll l (tokenizeFiles v paths settings))
  have apart_again := writesApart_putAll_tokenizeFiles settings apart outside
  have same_records := records_putAll_tokenizeFiles settings apart outside
  have outcome_again := fun path => @inputOutcome_putAll paths settings v l apart differ path
  have no_file := fun path => @newFile?_putAll paths settings v l apart differ path
  -- These four facts are all that the second run needs of the tree that the first one leaves.
  generalize v.putAll l (tokenizeFiles v paths settings) = u at *
  rw [run_tokenize_of_isDirectory settings (same_records ▸ some_input) apart_again.place
    apart_again.there,
    run_processInputs apart_again (known apart_again.place) fun _ listed => listed,
    same_records, List.map_congr_left outcome_again, List.filterMap_eq_nil_iff.2 no_file]
  have counts := ofOutcomes_map_again
    ((v.records paths.input).map (inputOutcome paths settings (v.names paths.output) v))
  rw [List.map_map] at counts
  exact Prod.ext (congrArg Except.ok counts) rfl

/-- A run that was brought to its end leaves nothing to do for another one of its kind: that one
changes no file and reports what the first one has written as known. -/
theorem rerun_changes_nothing (t u : FileTree) (l : Location) :
    (∀ (paths : UnifyPaths) (run : UnifyRun) (c : UnifyCounts),
      WritesApart (t.withDirectory paths.output) paths.output
        (unifyReads (t.withDirectory paths.output) paths) l →
      unifyRun? (t.withDirectory paths.output) paths = some run →
      (∀ path ∈ diffFiles (t.withDirectory paths.output) paths.diffs,
        AllAccepted run (t.withDirectory paths.output) path) →
      (unify paths : Action _).run.run t = (.ok c, u) →
      ∃ d, (unify paths : Action _).run.run u = (.ok d, u) ∧ d.datapoints = 0 ∧
        d.diffFiles = c.diffFiles ∧ d.patchedFiles = c.patchedFiles) ∧
    ∀ (paths : TokenizePaths) (settings : Settings) (c : TokenizeCounts),
      WritesApart (t.withDirectory paths.output) paths.output
        (tokenizeReads (t.withDirectory paths.output) paths) l →
      OutsideOf (t.withDirectory paths.output) paths.input l →
      OutputsDiffer (t.withDirectory paths.output) paths settings →
      (tokenize paths settings : Action _).run.run t = (.ok c, u) →
      (tokenize paths settings : Action _).run.run u =
        (.ok { c with written := 0, duplicates := c.written + c.duplicates }, u) :=
  ⟨fun _ _ _ => unify_again, fun _ _ _ => tokenize_again⟩

theorem rerun_changes_nothing_for_two_files :
    (∃ c d u, (unify (repairPaths "o") : Action _).run.run (repairTree twoFiles) = (.ok c, u) ∧
      (unify (repairPaths "o") : Action _).run.run u = (.ok d, u) ∧ d.datapoints = 0 ∧
      d.patchedFiles = c.patchedFiles) ∧
    ∃ c u, (tokenize (samplePaths "out") .default : Action _).run.run sampleTree = (.ok c, u) ∧
      (tokenize (samplePaths "out") .default : Action _).run.run u =
        (.ok { c with written := 0, duplicates := c.written + c.duplicates }, u) := by
  constructor
  · have place : (repairTree twoFiles).locate? "o" = some ["o"] := by rfl
    have same :
        (repairTree twoFiles).withDirectory (repairPaths "o").output = repairTree twoFiles :=
      withDirectory_of_isDirectory place rfl
    have few : ∀ f ∈ twoFiles, f.2 ≤ 1000 := by decide
    have apart := writesApart_twoFiles place
    have all : ∀ path ∈ diffFiles (repairTree twoFiles) (repairPaths "o").diffs,
        AllAccepted (repairRun twoFiles "o") (repairTree twoFiles) path :=
      allAccepted_repairTree parsed_twoFiles (by decide) (by decide) (by decide)
        (List.forall_mem_cons.2 ⟨of_decide_eq_true rfl,
          List.forall_mem_singleton.2 (of_decide_eq_true rfl)⟩)
    obtain ⟨c, u, ran⟩ := run_repairTree few place
    have again := (rerun_changes_nothing (repairTree twoFiles) u ["o"]).1 (repairPaths "o")
      (repairRun twoFiles "o") c
    rw [same] at again
    obtain ⟨d, ran_again, none_new, -, same_patched⟩ :=
      again apart (unifyRun?_repairTree few place) all ran
    exact ⟨c, d, u, ran, ran_again, none_new, same_patched⟩
  · have place : sampleTree.locate? "out" = some ["out"] := by rfl
    have same : sampleTree.withDirectory (samplePaths "out").output = sampleTree :=
      withDirectory_of_isDirectory place rfl
    have some_input : sampleTree.records (samplePaths "out").input ≠ [] := by
      rw [samplePaths, records_sampleTree]
      simp
    have outside : OutsideOf sampleTree (samplePaths "out").input ["out"] := by
      intro k found name inside
      have input : sampleTree.locate? "in" = some ["in"] := by rfl
      obtain rfl : ["in"] = k := Option.some.inj (input.symm.trans found)
      simp at inside
    obtain ⟨c, u, ran⟩ : ∃ c u,
        (tokenize (samplePaths "out") .default : Action _).run.run sampleTree = (.ok c, u) :=
      ⟨_, _, run_tokenize_of_isDirectory .default some_input place rfl⟩
    have again := (rerun_changes_nothing sampleTree u ["out"]).2 (samplePaths "out") .default c
    rw [same] at again
    exact ⟨c, u, ran, again (writesApart_sampleTree place) outside
      (outputsDiffer_sampleTree "out" .default) ran⟩

section

/-- A diff that repairs eleven lines of one file and one of another one. -/
def elevenLines : List (String × Nat) :=
  [("f", 11), ("g", 1)]

theorem parsed_elevenLines :
    Patch.read (String.join (elevenLines.map fun f => repairText f.1 f.2)) =
      .ok (elevenLines.map fun f => repair f.1 f.2) := by
  refine (read_repairText _).trans ?_
  simp only [toList_repairText]
  decide +kernel

theorem writesApart_elevenLines {output : String}
    (place : (repairTree elevenLines).locate? output = some ["o"]) :
    WritesApart (repairTree elevenLines) output
      (unifyReads (repairTree elevenLines) (repairPaths output)) ["o"] :=
  writesApart_repairTree parsed_elevenLines place
    (List.forall_mem_cons.2 ⟨⟨_, rfl⟩, List.forall_mem_singleton.2 ⟨_, rfl⟩⟩)

theorem datapoints_elevenLines :
    (unifyFilePatch repairOrigin (repair "f" 11) (elevenLines.flatMap fun f => faults f.1 f.2)
        (faultyText 11)).length = 11 ∧
      (unifyFilePatch repairOrigin (repair "g" 1) (elevenLines.flatMap fun f => faults f.1 f.2)
        (faultyText 1)).length = 1 :=
  ⟨rfl, rfl⟩

section

variable {output : String}
  (place : (repairTree elevenLines).locate? output = some ["o"])
  (narrow : ∀ stem path n,
    accepts output (datapointFileName stem path n) = decide ((toString n).length < 2))

include narrow in
theorem unifyTask_elevenLines :
    ∃ written, unifyTask (repairRun elevenLines output) (repairTree elevenLines)
        "d/r__s__c__a__d.diff" = (.skippedDiff, written) ∧
      (∀ f ∈ written, nameStem f.1 = datapointStem "r__s__c__a__d" "f") ∧ written ≠ [] := by
  have source : checkout? (repairTree elevenLines) (patchedPath "" repairOrigin (repair "f" 11)) =
      some (faultyText 11) := by rfl
  have path_eq : (repair "f" 11).path = "f" := by rfl
  have task : patchTask (repairRun elevenLines output) repairOrigin (repairTree elevenLines)
      (repair "f" 11) = _ := patchTask_of_source List.not_mem_nil source
  have length_eq : (unifyFilePatch repairOrigin (repair "f" 11)
      (repairRun elevenLines output).diagnostics (faultyText 11)).length = 11 :=
    datapoints_elevenLines.1
  generalize unifyFilePatch repairOrigin (repair "f" 11)
    (repairRun elevenLines output).diagnostics (faultyText 11) = datapoints at task length_eq
  have names := map_fst_unifiedFiles repairOrigin.stem (repair "f" 11).path datapoints
  rw [length_eq, path_eq] at names
  rw [path_eq] at task
  generalize unifiedFiles repairOrigin.stem "f" datapoints = files at task names
  have not_all : ¬ (files.all fun f => accepts output f.1) = true := by
    obtain ⟨f, member, named⟩ : ∃ f ∈ files, f.1 = datapointFileName repairOrigin.stem "f" 10 := by
      have listed := List.mem_map_of_mem (f := datapointFileName repairOrigin.stem "f")
        (List.mem_range.2 (by decide : 10 < 11))
      rw [← names] at listed
      exact List.mem_map.1 listed
    rw [List.all_eq_true]
    intro all
    have taken := all f member
    rw [named, narrow] at taken
    exact absurd taken (by decide)
  refine ⟨files.takeWhile fun f => accepts output f.1, ?_, fun f member => ?_, ?_⟩
  · rw [unifyTask, diffTasks?, diffPatches?_repairTree parsed_elevenLines]
    change diffTask (accepts output) (some (patchTask (repairRun elevenLines output) repairOrigin
      (repairTree elevenLines) (repair "f" 11) :: _)) = _
    rw [task, diffTask, carryOut, if_neg not_all]
    rfl
  · have listed := List.mem_map_of_mem (f := (·.1)) ((List.takeWhile_sublist _).subset member)
    rw [names] at listed
    obtain ⟨n, -, named⟩ := List.mem_map.1 listed
    rw [← named]
    exact nameStem_datapointFileName _ _ n
  · cases files with
    | nil => simp at names
    | cons f files =>
      have first : f.1 = datapointFileName repairOrigin.stem "f" 0 := by
        simpa [List.range_succ_eq_map] using congrArg List.head? names
      have fits : accepts output f.1 = true := by
        rw [first, narrow]
        decide
      rw [List.takeWhile_cons, if_pos fits]
      exact List.cons_ne_nil _ _

include narrow in
theorem unifyTask_elevenLines_again {run : UnifyRun} {u : FileTree}
    (diagnostics : run.diagnostics = elevenLines.flatMap fun f => faults f.1 f.2)
    (repos : run.repos = []) (checkouts : run.checkouts = "") (output_eq : run.output = output)
    (usable : diffPatches? u "d/r__s__c__a__d.diff" =
      some (repairOrigin, elevenLines.map fun f => repair f.1 f.2))
    (source : checkout? u (patchedPath "" repairOrigin (repair "g" 1)) = some (faultyText 1))
    (known : datapointStem "r__s__c__a__d" "f" ∈ run.existing)
    (new : datapointStem "r__s__c__a__d" "g" ∉ run.existing) :
    (unifyTask run u "d/r__s__c__a__d.diff").1 = ⟨1, 2, 1, 1, 0⟩ := by
  have path_f : (repair "f" 11).path = "f" := by rfl
  have path_g : (repair "g" 1).path = "g" := by rfl
  have origin : withAddress run.repos repairOrigin = repairOrigin := by
    rw [repos]
    rfl
  have left_out : patchTask run repairOrigin u (repair "f" 11) = (⟨0, 1, 0, 1, 0⟩, []) := by
    rw [patchTask, path_f]
    exact if_pos known
  have done : patchTask run repairOrigin u (repair "g" 1) = _ :=
    patchTask_of_source (path_g ▸ new) (checkouts ▸ source)
  rw [diagnostics] at done
  have length_eq := datapoints_elevenLines.2
  generalize unifyFilePatch repairOrigin (repair "g" 1)
    (elevenLines.flatMap fun f => faults f.1 f.2) (faultyText 1) = datapoints at done length_eq
  have fits : ∀ f ∈ unifiedFiles repairOrigin.stem (repair "g" 1).path datapoints,
      accepts output f.1 = true := by
    intro f member
    have listed := List.mem_map_of_mem (f := (·.1)) member
    rw [map_fst_unifiedFiles, length_eq] at listed
    obtain ⟨n, small, named⟩ := List.mem_map.1 listed
    obtain rfl : n = 0 := by simpa using small
    rw [← named, narrow]
    decide
  rw [unifyTask, diffTasks?, usable, output_eq]
  change (diffTask (accepts output) (some [patchTask run (withAddress run.repos repairOrigin) u
    (repair "f" 11), patchTask run (withAddress run.repos repairOrigin) u (repair "g" 1)])).1 = _
  rw [origin, left_out, done, diffTask, carryOut_of_all (by simpa using fits), length_eq]
  rfl

include place narrow in
theorem run_elevenLines : ∃ u v,
    (unify (repairPaths output) : Action _).run.run (repairTree elevenLines) =
        (.ok ⟨1, 0, 0, 0, 1⟩, u) ∧
      (unify (repairPaths output) : Action _).run.run u = (.ok ⟨1, 2, 1, 1, 0⟩, v) := by
  have apart := writesApart_elevenLines place
  have shared := unifyRun?_repairTree (by decide) place
  have one : diffFiles (repairTree elevenLines) (repairPaths output).diffs = _ :=
    diffFiles_repairTree
  have usable := diffPatches?_repairTree parsed_elevenLines
  obtain ⟨written, task, named, nonempty⟩ := unifyTask_elevenLines narrow
  have written_eq : unifyFiles (repairRun elevenLines output) (repairTree elevenLines)
      (repairPaths output) = written := by
    rw [unifyFiles, one, List.flatMap_singleton, task]
  have first := run_unify_of_one_diff apart shared one
  have second := run_unify_of_one_diff (writesApart_putAll apart shared)
    (unifyRun?_putAll apart shared) ((diffFiles_putAll apart shared).trans one)
  have usable_again := (diffPatches?_putAll apart shared (by simp [one])).trans usable
  have existing := fun stem => @mem_existing_rescan _ _ _ _ apart shared stem
  have read : patchedPath "" repairOrigin (repair "g" 1) ∈
      unifyReads (repairTree elevenLines) (repairPaths output) := by
    refine List.mem_append_right _ ?_
    rw [one, List.flatMap_singleton, diffSources, usable]
    exact List.mem_map_of_mem (List.mem_cons_of_mem _ List.mem_cons_self)
  have source : checkout? (repairTree elevenLines) (patchedPath "" repairOrigin (repair "g" 1)) =
      some (faultyText 1) := by rfl
  rw [checkout?, ← read?_putAll apart shared read, ← checkout?] at source
  rw [task, written_eq] at first
  rw [written_eq] at second usable_again existing source
  have known : datapointStem "r__s__c__a__d" "f" ∈ ((repairRun elevenLines output).rescan
      ((repairTree elevenLines).putAll ["o"] written)).existing := by
    obtain ⟨f, member⟩ := List.exists_mem_of_ne_nil _ nonempty
    exact (existing _).2 (.inr ⟨f, member, named f member⟩)
  have new : datapointStem "r__s__c__a__d" "g" ∉ ((repairRun elevenLines output).rescan
      ((repairTree elevenLines).putAll ["o"] written)).existing := by
    have other : datapointStem "r__s__c__a__d" "f" ≠ datapointStem "r__s__c__a__d" "g" := by
      decide +kernel
    rw [existing]
    rintro (old | ⟨f, member, same⟩)
    · cases old
    · exact other ((named f member).symm.trans same)
  rw [unifyTask_elevenLines_again narrow rfl rfl rfl rfl usable_again source known new] at second
  exact ⟨_, _, first, second⟩

end

/-- A path of the output directory that leaves space for names with one digit only. -/
def narrowOutput : String :=
  detour 2035 "o"

theorem accepts_narrowOutput (stem path : String) (n : Nat) :
    accepts narrowOutput (datapointFileName stem path n) = decide ((toString n).length < 2) := by
  have size : narrowOutput.utf8ByteSize = 4071 := utf8ByteSize_detour 2035
  have valid : isPath narrowOutput = true := by
    rw [narrowOutput, isPath_detour 2035 (by decide)]
    decide
  have unended : narrowOutput.toList.getLast? ≠ some '/' := by
    rw [narrowOutput, getLast?_detour 2035 (by decide)]
    decide
  rw [accepts_datapointFileName valid unended, size, ← Bool.decide_and]
  exact decide_eq_decide.2 (by omega)

theorem second_run_writes :
    WritesApart (repairTree elevenLines) narrowOutput
        (unifyReads (repairTree elevenLines) (repairPaths narrowOutput)) ["o"] ∧
      ∃ u v, (unify (repairPaths narrowOutput) : Action _).run.run (repairTree elevenLines) =
          (.ok ⟨1, 0, 0, 0, 1⟩, u) ∧
        (unify (repairPaths narrowOutput) : Action _).run.run u = (.ok ⟨1, 2, 1, 1, 0⟩, v) := by
  have place : (repairTree elevenLines).locate? narrowOutput = some ["o"] :=
    (locate?_detour 2035 (by decide) (by decide) _).trans (by rfl)
  exact ⟨writesApart_elevenLines place,
    run_elevenLines place accepts_narrowOutput⟩

end

end FixCorpus.Dataset
