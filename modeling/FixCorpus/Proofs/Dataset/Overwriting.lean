import FixCorpus.Proofs.Dataset.UnifyRun
import FixCorpus.Proofs.Patch.Reading

/-! Which datapoints of a run of the unification stay. Those that a run calls for are
named by the hash of a text and a number; two of one text and one number are written
to one file, and the first of them is lost. Where all files can be written, nothing
else parts the number of datapoints from the number of files. -/

namespace FixCorpus.Dataset

open FileTree

abbrev SemanticName : Type :=
  String × Nat

def SemanticName.fileName (s : SemanticName) : String :=
  ContentHash.ofParts [ContentHash.bytes s.1] ++ "-" ++ toString s.2 ++ ".json"

/-- The names of the datapoints that a diff calls for. The numbers begin again for each patched
file. -/
def semanticNames (run : UnifyRun) (t : FileTree) (path : String) : List SemanticName :=
  ((diffPatches? t path).map fun d => d.2.flatMap fun patch =>
    (List.range (patchTask run (withAddress run.repos d.1) t patch).2.length).map fun n =>
      (d.1.stem ++ "__" ++ flattenPath patch.path, n)).getD []

def plannedNames (run : UnifyRun) (t : FileTree) (paths : UnifyPaths) : List SemanticName :=
  (diffFiles t paths.diffs).flatMap (semanticNames run t)

section

variable {run : UnifyRun} {t u : FileTree} {paths : UnifyPaths} {l : Location}

theorem map_fst_unifiedFiles (stem path : String) (datapoints : List UnifiedDatapoint) :
    (unifiedFiles stem path datapoints).map (·.1) =
      (List.range datapoints.length).map (datapointFileName stem path) := by
  have numbers := List.zipIdx_map_snd 0 datapoints
  rw [← List.range_eq_range'] at numbers
  rw [unifiedFiles, List.map_map, ← numbers, List.map_map]
  rfl

theorem map_fst_patchTask (origin : Origin) (patch : FilePatch) :
    (patchTask run origin t patch).2.map (·.1) =
      (List.range (patchTask run origin t patch).2.length).map
        (datapointFileName origin.stem patch.path) := by
  rcases patchTask_cases run origin t patch with
    ⟨-, task⟩ | ⟨-, ⟨-, task⟩ | ⟨source, -, task⟩⟩
  · rw [task]
    rfl
  · rw [task]
    rfl
  · rw [task, map_fst_unifiedFiles, unifiedFiles, List.length_map, List.length_zipIdx]

theorem map_fst_unifyTask {path : String} (all : AllAccepted run t path) :
    (unifyTask run t path).2.map (·.1) = (semanticNames run t path).map (·.fileName) := by
  rw [(unifyTask_of_accepted all).2.2.2, unifyTasks, diffTasks?, semanticNames]
  cases usable : diffPatches? t path with
  | none => rfl
  | some d =>
    simp only [Option.map_some, Option.getD_some, List.flatMap_map, List.map_flatMap, List.map_map]
    exact List.flatMap_congr fun patch _ => map_fst_patchTask _ patch

theorem map_fst_unifyFiles
    (all : ∀ path ∈ diffFiles t paths.diffs, AllAccepted run t path) :
    (unifyFiles run t paths).map (·.1) = (plannedNames run t paths).map (·.fileName) := by
  rw [unifyFiles, plannedNames, List.map_flatMap, List.map_flatMap]
  exact List.flatMap_congr fun path listed => map_fst_unifyTask (all path listed)

/-- Different texts of the names have different hashes. -/
def HashesDiffer (names : List SemanticName) : Prop :=
  ∀ s ∈ names, ∀ s' ∈ names,
    ContentHash.ofParts [ContentHash.bytes s.1] = ContentHash.ofParts [ContentHash.bytes s'.1] →
      s.1 = s'.1

theorem nodup_map_fileName {names : List SemanticName} (differ : HashesDiffer names) :
    (names.map (·.fileName)).Nodup ↔ names.Nodup := by
  refine ⟨List.Nodup.of_map _, fun distinct => distinct.map_on fun s member s' also same => ?_⟩
  obtain ⟨hashes, numbers⟩ := numbered_inj.1 same
  exact Prod.ext (differ s member s' also hashes) numbers

section

variable {c : UnifyCounts}
  (apart : WritesApart (t.withDirectory paths.output) paths.output
    (unifyReads (t.withDirectory paths.output) paths) l)
  (empty : (t.withDirectory paths.output).records paths.output = [])
  (shared : unifyRun? (t.withDirectory paths.output) paths = some run)
  (all : ∀ path ∈ diffFiles (t.withDirectory paths.output) paths.diffs,
    AllAccepted run (t.withDirectory paths.output) path)
  (ran : (unify paths : Action _).run.run t = (.ok c, u))
include apart shared all ran

theorem datapoints_of_run_unify :
    c.datapoints = (plannedNames run (t.withDirectory paths.output) paths).length := by
  obtain ⟨-, rfl⟩ := eq_putAll_of_run_unify apart shared ran
  generalize t.withDirectory paths.output = v at *
  have names := congrArg List.length (map_fst_unifyFiles all)
  have each := List.map_congr_left fun path listed =>
    (unifyTask_of_accepted (all path listed)).2.2.1
  rw [List.length_map, List.length_map, unifyFiles, List.length_flatMap, ← each] at names
  simp only [UnifyCounts.sum_eq, List.map_map, Function.comp_def, names]

include empty in
theorem length_records_of_run_unify :
    (u.records paths.output).length =
      ((plannedNames run (t.withDirectory paths.output) paths).map (·.fileName)).dedup.length := by
  obtain ⟨rfl, -⟩ := eq_putAll_of_run_unify apart shared ran
  generalize t.withDirectory paths.output = v at *
  rw [← map_fst_unifyFiles all]
  refine length_records_putAll apart.place empty (fun f member => ?_) fun f member => ?_
  · exact isDirectory_of_mem_unifyFiles apart shared member
  · obtain ⟨stem, path, n, named⟩ := named_of_mem_unifyFiles member
    rw [named]
    exact namesRecord_datapointFileName paths.output stem path n

end

theorem datapoints_kept_iff {c : UnifyCounts}
    (apart : WritesApart (t.withDirectory paths.output) paths.output
      (unifyReads (t.withDirectory paths.output) paths) l)
    (empty : (t.withDirectory paths.output).records paths.output = [])
    (shared : unifyRun? (t.withDirectory paths.output) paths = some run)
    (all : ∀ path ∈ diffFiles (t.withDirectory paths.output) paths.diffs,
      AllAccepted run (t.withDirectory paths.output) path)
    (differ : HashesDiffer (plannedNames run (t.withDirectory paths.output) paths))
    (ran : (unify paths : Action _).run.run t = (.ok c, u)) :
    ((u.records paths.output).length = c.datapoints ↔
        (plannedNames run (t.withDirectory paths.output) paths).Nodup) ∧
      ((plannedNames run (t.withDirectory paths.output) paths).Nodup →
        ∀ f ∈ unifyFiles run (t.withDirectory paths.output) paths,
          u.get? (l ++ [f.1]) = some (.file f.2)) := by
  constructor
  · rw [length_records_of_run_unify apart empty shared all ran,
      datapoints_of_run_unify apart shared all ran, ← nodup_map_fileName differ,
      ← List.length_map SemanticName.fileName]
    exact ⟨fun same => List.dedup_eq_self.1 ((List.dedup_sublist _).eq_of_length same),
      fun distinct => by rw [distinct.dedup]⟩
  · intro distinct f member
    obtain ⟨rfl, -⟩ := eq_putAll_of_run_unify apart shared ran
    rw [← nodup_map_fileName differ, ← map_fst_unifyFiles all] at distinct
    refine get?_putAll_of_mem member fun g also same => ?_
    exact congrArg Prod.snd (List.inj_on_of_nodup_map distinct also member same)

end

section

/-- Pairs of lines of which the first one is faulty. -/
def faultyText : Nat → String
  | 0 => ""
  | n + 1 => "a\nb\n" ++ faultyText n

def faults (path : String) (n : Nat) : List DiagnosticRecord :=
  (List.range n).map fun k : Nat => ⟨"r", "d", path, "m", 2 * k + 1, 1, ""⟩

def repair (path : String) (n : Nat) : FilePatch where
  sourceFile := "a/" ++ path
  targetFile := "b/" ++ path
  hunks := [⟨1, 2 * n, 1, n, "", (List.range n).flatMap fun k : Nat =>
    [⟨.removed, "a", some (2 * k + 1), none⟩, ⟨.context, "b", some (2 * k + 2), some (k + 1)⟩]⟩]

def repairText (path : String) (n : Nat) : String :=
  "--- a/" ++ path ++ "\n+++ b/" ++ path ++ "\n@@ -1," ++ toString (2 * n) ++ " +1," ++
    toString n ++ " @@\n" ++ String.join (List.replicate n "-a\n b\n")

theorem toList_repairText (path : String) (n : Nat) : (repairText path n).toList =
    "--- a/".toList ++ path.toList ++ "\n+++ b/".toList ++ path.toList ++ "\n@@ -1,".toList ++
      (toString (2 * n)).toList ++ " +1,".toList ++ (toString n).toList ++ " @@\n".toList ++
        (List.replicate n "-a\n b\n".toList).flatten := by
  unfold repairText
  simp only [String.toList_append, String.toList_join, List.flatMap_replicate]

theorem read_repairText (files : List (String × Nat)) :
    Patch.read (String.join (files.map fun f => repairText f.1 f.2)) =
      Patch.readOnto ((Text.terminatedLines ((files.flatMap fun f =>
        (repairText f.1 f.2).toList).splitOn '\n')).map Text.dropReturn) [] := by
  -- To be evaluated the diff is taken apart into characters first; as one string it is not.
  rw [Patch.read_eq_readOnto, String.toList_join, List.flatMap_map]

def repairOrigin : Origin :=
  ⟨"r__s__c__a__d", "r", "s", "c", "a", "d", none⟩

/-- One diff for some files, each with its number of faulty lines. -/
def repairTree (files : List (String × Nat)) : FileTree :=
  ⟨[(["d"], .directory),
    (["d", "r__s__c__a__d.diff"],
      .file (String.join (files.map fun f => repairText f.1 f.2)).toUTF8),
    (["g"], .file (Json.arr ((files.flatMap fun f => faults f.1 f.2).map
      DiagnosticRecord.toJson)).render.toUTF8),
    (["o"], .directory), (["r"], .directory), (["r", "a"], .directory)] ++
    files.map fun f => ("r" :: Path.pieces f.1, .file (faultyText f.2).toUTF8)⟩

def repairPaths (output : String) : UnifyPaths :=
  ⟨"d", "g", none, "", output⟩

def repairRun (files : List (String × Nat)) (output : String) : UnifyRun :=
  ⟨files.flatMap fun f => faults f.1 f.2, [], "", output, []⟩

variable {files : List (String × Nat)} {output : String}

theorem read?_repairTree : (repairTree files).read? "d/r__s__c__a__d.diff" =
    some (String.join (files.map fun f => repairText f.1 f.2)).toUTF8 := by
  rfl

theorem storable_faults {path : String} {n : Nat} (few : n ≤ 1000) :
    ∀ d ∈ faults path n, d.Storable := by
  intro d member
  obtain ⟨k, small, rfl⟩ := List.mem_map.1 member
  have := List.mem_range.1 small
  constructor
  · constructor <;> simp only [Text.leastInt, Text.greatestInt] <;> omega
  · exact show Text.FitsInt 1 from ⟨by decide, by decide⟩

theorem diffFiles_repairTree :
    diffFiles (repairTree files) (repairPaths output).diffs = ["d/r__s__c__a__d.diff"] := by
  change diffFiles (repairTree files) "d" = _
  have place : (repairTree files).locate? "d" = some ["d"] := by rfl
  have no_source : (files.map fun f => (("r" :: Path.pieces f.1 : Location),
      Entry.file (faultyText f.2).toUTF8)).filterMap (fileBelow? ["d"]) = [] := by
    rw [List.filterMap_map, List.filterMap_eq_nil_iff]
    intro f _
    rfl
  have listed : (repairTree files).files "d" = ["d/r__s__c__a__d.diff"] := by
    rw [files_eq place, below, repairTree, List.filterMap_append, no_source]
    rfl
  rw [diffFiles, run_discover, listed]
  have alone : ["d/r__s__c__a__d.diff"].filter (fun f => Path.extension? f = some "diff") =
      ["d/r__s__c__a__d.diff"] := by rfl
  rw [alone, List.mergeSort_singleton]

theorem unifyRun?_repairTree (few : ∀ f ∈ files, f.2 ≤ 1000)
    (place : (repairTree files).locate? output = some ["o"]) :
    unifyRun? (repairTree files) (repairPaths output) = some (repairRun files output) := by
  have no_name : (repairTree files).names output = [] := by
    have no_source : (files.map fun f => (("r" :: Path.pieces f.1 : Location),
        Entry.file (faultyText f.2).toUTF8)).filterMap (fun e => nameIn? ["o"] e.1) = [] := by
      rw [List.filterMap_map, List.filterMap_eq_nil_iff]
      intro f _
      rfl
    rw [names, place]
    simp only [repairTree, List.filterMap_append, no_source]
    rfl
  refine unifyRun?_eq_some.2 ⟨files.flatMap fun f => faults f.1 f.2, [], ?_, rfl, ?_⟩
  · have held : (repairTree files).read? "g" = some (Json.arr ((files.flatMap fun f =>
        faults f.1 f.2).map DiagnosticRecord.toJson)).render.toUTF8 := by rfl
    refine value_readRecord_of_stored held ?_
    refine DiagnosticRecord.parse?_render fun d member => ?_
    obtain ⟨f, listed, inside⟩ := List.mem_flatMap.1 member
    exact storable_faults (few f listed) d inside
  · simp only [repairRun, repairPaths, no_name, List.map_nil]

theorem patchedFiles_repair :
    patchedFiles (files.map fun f => repair f.1 f.2) = files.map fun f => repair f.1 f.2 := by
  refine List.filter_eq_self.2 fun p member => ?_
  obtain ⟨f, -, rfl⟩ := List.mem_map.1 member
  have named : "a/" ++ f.1 ≠ noFile ∧ "b/" ++ f.1 ≠ noFile :=
    ⟨fun same => by simpa [noFile] using congrArg (fun s => s.toList.head?) same,
      fun same => by simpa [noFile] using congrArg (fun s => s.toList.head?) same⟩
  simp [repair, FilePatch.isAddedFile, FilePatch.isRemovedFile, named]

theorem records_repairTree : (repairTree files).records "o" = [] := by
  have place : (repairTree files).locate? "o" = some ["o"] := by rfl
  have no_source : (files.map fun f => (("r" :: Path.pieces f.1 : Location),
      Entry.file (faultyText f.2).toUTF8)).filterMap (fileBelow? ["o"]) = [] := by
    rw [List.filterMap_map, List.filterMap_eq_nil_iff]
    intro f _
    rfl
  have none_there : (repairTree files).files "o" = [] := by
    rw [files_eq place, below, repairTree, List.filterMap_append, no_source]
    rfl
  simp [records_eq, none_there]

theorem run_repairTree (few : ∀ f ∈ files, f.2 ≤ 1000)
    (place : (repairTree files).locate? output = some ["o"]) :
    ∃ c u, (unify (repairPaths output) : Action _).run.run (repairTree files) = (.ok c, u) := by
  exact ⟨_, _, run_unify_of_isDirectory place rfl (unifyRun?_repairTree few place)
    (by simp [diffFiles_repairTree])⟩

variable (parsed : Patch.read (String.join (files.map fun f => repairText f.1 f.2)) =
  .ok (files.map fun f => repair f.1 f.2))
include parsed

theorem diffPatches?_repairTree : diffPatches? (repairTree files) "d/r__s__c__a__d.diff" =
    some (repairOrigin, files.map fun f => repair f.1 f.2) := by
  have origin : Origin.ofStem? ((Path.stem? "d/r__s__c__a__d.diff").getD "") =
      some repairOrigin := by rfl
  simp only [diffPatches?, origin, value_readText_of_stored read?_repairTree, parsed,
    Except.toOption, Option.bind_eq_bind, Option.bind_some, patchedFiles_repair]
  rfl

theorem plannedNames_repairTree :
    plannedNames (repairRun files output) (repairTree files) (repairPaths output) =
      files.flatMap fun f =>
        (List.range (patchTask (repairRun files output) repairOrigin (repairTree files)
          (repair f.1 f.2)).2.length).map fun n =>
            (repairOrigin.stem ++ "__" ++ flattenPath (repair f.1 f.2).path, n) := by
  rw [plannedNames, diffFiles_repairTree, List.flatMap_singleton, semanticNames,
    diffPatches?_repairTree parsed]
  simp only [Option.map_some, Option.getD_some, List.flatMap_map]
  rfl

theorem writesApart_repairTree (place : (repairTree files).locate? output = some ["o"])
    (apart : ∀ f ∈ files, ∃ k, (repairTree files).locate?
      (patchedPath "" repairOrigin (repair f.1 f.2)) = some ("r" :: k)) :
    WritesApart (repairTree files) output (unifyReads (repairTree files) (repairPaths output))
      ["o"] := by
  have reads : unifyReads (repairTree files) (repairPaths output) =
      "g" :: "d/r__s__c__a__d.diff" ::
        files.map fun f => patchedPath "" repairOrigin (repair f.1 f.2) := by
    rw [unifyReads, diffFiles_repairTree, List.flatMap_singleton, diffSources,
      diffPatches?_repairTree parsed]
    simp only [Option.map_some, Option.getD_some, List.map_map]
    rfl
  refine ⟨place, rfl, ?_⟩
  rw [reads, List.forall_mem_cons, List.forall_mem_cons, List.forall_mem_map]
  refine ⟨fun name => ?_, fun name => ?_, fun f listed name => ?_⟩
  · rw [show (repairTree files).locate? "g" = some ["g"] from rfl]
    simp
  · rw [show (repairTree files).locate? "d/r__s__c__a__d.diff" =
      some ["d", "r__s__c__a__d.diff"] from rfl]
    simp
  · obtain ⟨k, found⟩ := apart f listed
    simp [found]

theorem allAccepted_repairTree (valid : isPath output = true)
    (unended : output.toList.getLast? ≠ some '/') (short : output.utf8ByteSize < 4072)
    (few : ∀ f ∈ files, (patchTask (repairRun files output) repairOrigin (repairTree files)
      (repair f.1 f.2)).2.length ≤ 10) :
    ∀ path ∈ diffFiles (repairTree files) (repairPaths output).diffs,
      AllAccepted (repairRun files output) (repairTree files) path := by
  have one_digit : ∀ n < 10, (toString n).length = 1 := by decide
  rw [diffFiles_repairTree, List.forall_mem_singleton, AllAccepted, unifyTasks, diffTasks?,
    diffPatches?_repairTree parsed]
  simp only [Option.map_some, Option.getD_some, List.map_map, List.forall_mem_map]
  intro f listed g member
  have named := List.mem_map_of_mem (f := (·.1)) member
  rw [Function.comp_apply, map_fst_patchTask] at named
  obtain ⟨n, below, named⟩ := List.mem_map.1 named
  have small := one_digit n (Nat.lt_of_lt_of_le (List.mem_range.1 below) (few f listed))
  have fits := accepts_datapointFileName valid unended repairOrigin.stem (repair f.1 f.2).path n
  rw [small, decide_eq_true (by decide : 1 ≤ 233), decide_eq_true (by omega)] at fits
  rw [← named]
  exact fits

theorem plannedNames_of_one_each
    (one_each : ∀ f ∈ files, (patchTask (repairRun files output) repairOrigin (repairTree files)
      (repair f.1 f.2)).2.length = 1) :
    plannedNames (repairRun files output) (repairTree files) (repairPaths output) =
      files.map fun f => (repairOrigin.stem ++ "__" ++ flattenPath (repair f.1 f.2).path, 0) := by
  rw [plannedNames_repairTree parsed, List.map_eq_flatMap]
  exact List.flatMap_congr fun f listed => by rw [one_each f listed]; rfl

end

section

def twoFiles : List (String × Nat) :=
  [("f", 1), ("g", 1)]

theorem parsed_twoFiles : Patch.read (String.join (twoFiles.map fun f => repairText f.1 f.2)) =
    .ok (twoFiles.map fun f => repair f.1 f.2) := by
  refine (read_repairText _).trans ?_
  simp only [toList_repairText]
  decide +kernel

theorem writesApart_twoFiles {output : String}
    (place : (repairTree twoFiles).locate? output = some ["o"]) :
    WritesApart (repairTree twoFiles) output
      (unifyReads (repairTree twoFiles) (repairPaths output)) ["o"] :=
  writesApart_repairTree parsed_twoFiles place
    (List.forall_mem_cons.2 ⟨⟨_, rfl⟩, List.forall_mem_singleton.2 ⟨_, rfl⟩⟩)

theorem datapoints_kept_of_two_files : ∃ c u,
    (unify (repairPaths "o") : Action _).run.run (repairTree twoFiles) = (.ok c, u) ∧
      (u.records "o").length = c.datapoints := by
  have place : (repairTree twoFiles).locate? "o" = some ["o"] := by rfl
  have same : (repairTree twoFiles).withDirectory (repairPaths "o").output = repairTree twoFiles :=
    withDirectory_of_isDirectory place rfl
  have few : ∀ f ∈ twoFiles, f.2 ≤ 1000 := by decide
  have one_each : ∀ f ∈ twoFiles, (patchTask (repairRun twoFiles "o") repairOrigin
      (repairTree twoFiles) (repair f.1 f.2)).2.length = 1 :=
    List.forall_mem_cons.2 ⟨rfl, List.forall_mem_singleton.2 rfl⟩
  have names : plannedNames (repairRun twoFiles "o") (repairTree twoFiles) (repairPaths "o") =
      [("r__s__c__a__d__f", 0), ("r__s__c__a__d__g", 0)] := by
    rw [plannedNames_of_one_each parsed_twoFiles one_each]
    rfl
  have differ : HashesDiffer [("r__s__c__a__d__f", 0), ("r__s__c__a__d__g", 0)] := by
    have hashes : ContentHash.ofParts [ContentHash.bytes "r__s__c__a__d__f"] ≠
        ContentHash.ofParts [ContentHash.bytes "r__s__c__a__d__g"] := by decide +kernel
    simp [HashesDiffer, hashes, hashes.symm]
  obtain ⟨c, u, ran⟩ := run_repairTree few place
  have kept := @datapoints_kept_iff (repairRun twoFiles "o") (repairTree twoFiles) u
    (repairPaths "o") ["o"] c
  rw [same, names] at kept
  have apart := writesApart_twoFiles place
  have all : ∀ path ∈ diffFiles (repairTree twoFiles) (repairPaths "o").diffs,
      AllAccepted (repairRun twoFiles "o") (repairTree twoFiles) path :=
    allAccepted_repairTree parsed_twoFiles (by decide) (by decide) (by decide) fun f listed => by
      rw [one_each f listed]
      decide
  exact ⟨c, u, ran, (kept apart records_repairTree (unifyRun?_repairTree few place) all differ
    ran).1.2 (by decide)⟩

/-- A diff that repairs two files whose paths become one name. -/
def oneName : List (String × Nat) :=
  [("a/f", 1), ("a--f", 1)]

theorem parsed_oneName : Patch.read (String.join (oneName.map fun f => repairText f.1 f.2)) =
    .ok (oneName.map fun f => repair f.1 f.2) := by
  refine (read_repairText _).trans ?_
  simp only [toList_repairText]
  decide +kernel

/-- The datapoint of the second file is written over that of the first one. -/
theorem datapoint_of_one_name_lost :
    (repairTree oneName).records "o" = [] ∧
      HashesDiffer (plannedNames (repairRun oneName "o") (repairTree oneName) (repairPaths "o")) ∧
      ∃ c u, (unify (repairPaths "o") : Action _).run.run (repairTree oneName) = (.ok c, u) ∧
        c.datapoints = 2 ∧ (u.records "o").length = 1 := by
  have place : (repairTree oneName).locate? "o" = some ["o"] := by rfl
  have same : (repairTree oneName).withDirectory (repairPaths "o").output = repairTree oneName :=
    withDirectory_of_isDirectory place rfl
  have few : ∀ f ∈ oneName, f.2 ≤ 1000 := by decide
  have one_each : ∀ f ∈ oneName, (patchTask (repairRun oneName "o") repairOrigin
      (repairTree oneName) (repair f.1 f.2)).2.length = 1 :=
    List.forall_mem_cons.2 ⟨rfl, List.forall_mem_singleton.2 rfl⟩
  have names : plannedNames (repairRun oneName "o") (repairTree oneName) (repairPaths "o") =
      [("r__s__c__a__d__a--f", 0), ("r__s__c__a__d__a--f", 0)] := by
    rw [plannedNames_of_one_each parsed_oneName one_each]
    rfl
  have apart := writesApart_repairTree parsed_oneName place
    (List.forall_mem_cons.2 ⟨⟨_, rfl⟩, List.forall_mem_singleton.2 ⟨_, rfl⟩⟩)
  have all : ∀ path ∈ diffFiles (repairTree oneName) (repairPaths "o").diffs,
      AllAccepted (repairRun oneName "o") (repairTree oneName) path :=
    allAccepted_repairTree parsed_oneName (by decide) (by decide) (by decide) fun f listed => by
      rw [one_each f listed]
      decide
  have shared := unifyRun?_repairTree few place
  obtain ⟨c, u, ran⟩ := run_repairTree few place
  have counted := @datapoints_of_run_unify (repairRun oneName "o") (repairTree oneName) u
    (repairPaths "o") ["o"] c
  have kept := @length_records_of_run_unify (repairRun oneName "o") (repairTree oneName) u
    (repairPaths "o") ["o"] c
  rw [same, names] at counted kept
  refine ⟨records_repairTree, by simp [names, HashesDiffer], c, u, ran,
    counted apart shared all ran, ?_⟩
  have one_file := kept apart records_repairTree shared all ran
  rwa [List.map_cons, List.map_singleton, List.dedup_cons_of_mem (by simp),
    (List.nodup_singleton _).dedup] at one_file

end

end FixCorpus.Dataset
