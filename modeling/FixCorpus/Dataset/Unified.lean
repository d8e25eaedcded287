import FixCorpus.Datapoint.Record
import FixCorpus.Dataset.Basic
import FixCorpus.Patch.Reader
import FixCorpus.Unification

/-! The dataset of unified datapoints, made from a directory of diffs. A diff
that cannot be used is left out and counted, and so is a patched file whose
datapoints have been there before the run. -/

namespace FixCorpus.Dataset

/-- Where a run reads diffs, diagnostics, addresses of repositories and sources, and where it
writes datapoints. -/
structure UnifyPaths where
  diffs : String
  diagnostics : String
  repos : Option String
  checkouts : String
  output : String
deriving DecidableEq, Repr

structure UnifyCounts where
  diffFiles : Nat
  patchedFiles : Nat
  datapoints : Nat
  duplicates : Nat
  skipped : Nat
deriving DecidableEq, Repr

namespace UnifyCounts

def zero : UnifyCounts :=
  ⟨0, 0, 0, 0, 0⟩

def add (a b : UnifyCounts) : UnifyCounts :=
  ⟨a.diffFiles + b.diffFiles, a.patchedFiles + b.patchedFiles, a.datapoints + b.datapoints,
    a.duplicates + b.duplicates, a.skipped + b.skipped⟩

def skippedDiff : UnifyCounts :=
  { zero with diffFiles := 1, skipped := 1 }

def sum (counts : List UnifyCounts) : UnifyCounts :=
  counts.foldl add zero

end UnifyCounts

structure UnifyRun where
  diagnostics : List DiagnosticRecord
  repos : List RepoRecord
  checkouts : String
  output : String
  /-- The stems of the names in the output directory before the run. -/
  existing : List String

def nameStem (name : String) : String :=
  String.ofList (name.toList.takeWhile (· ≠ '-'))

/-- The address of a repository; the last record of a name counts. -/
def repoUrl? (repos : List RepoRecord) (name : String) : Option String :=
  (repos.reverse.find? (·.name = name)).map (·.url)

section

variable {m : Type → Type} [Monad m] [Storage m]

def writeUnified (output stem path : String) (datapoints : List UnifiedDatapoint) :
    ExceptT Failure m Unit :=
  datapoints.zipIdx.forM fun (d, n) =>
    writeText (Path.join output (datapointFileName stem path n)) d.toJson.render

/-- The text of a source file with newlines as line endings, if it can be read. -/
def readCheckout? (path : String) : m (Option String) := do
  match (← Storage.read path).bind String.fromUTF8? with
  | some text => return some (Text.normalizeLineEndings text)
  | none => return none

def unifyPatchedFile (run : UnifyRun) (origin : Origin) (patch : FilePatch) :
    ExceptT Failure m UnifyCounts := do
  let found := { UnifyCounts.zero with patchedFiles := 1 }
  if datapointStem origin.stem patch.path ∈ run.existing then
    return { found with duplicates := 1 }
  let path := Path.join (Path.join run.checkouts origin.repo) patch.path
  match ← (readCheckout? path : m _) with
  | none => return { found with skipped := 1 }
  | some source =>
    let datapoints := unifyFilePatch origin patch run.diagnostics source
    writeUnified run.output origin.stem patch.path datapoints
    return { found with datapoints := datapoints.length }

/-- The files that a diff changes and neither makes nor does away with. -/
def patchedFiles (patches : List FilePatch) : List FilePatch :=
  patches.filter fun p => !p.isAddedFile && !p.isRemovedFile

def unifyDiff (run : UnifyRun) (path : String) : ExceptT Failure m UnifyCounts := do
  match Origin.ofStem? ((Path.stem? path).getD "") with
  | none => return UnifyCounts.skippedDiff
  | some origin =>
    let origin := { origin with repoUrl := repoUrl? run.repos origin.repo }
    let text ← readText path
    match Patch.read text with
    | .error cause => throw (.patch cause)
    | .ok patches =>
      let counts ← (patchedFiles patches).mapM (unifyPatchedFile run origin)
      return UnifyCounts.sum ({ UnifyCounts.zero with diffFiles := 1 } :: counts)

/-- A diff that fails counts as left out, whatever was done for it before. -/
def unifyDiffOrSkip (run : UnifyRun) (path : String) : m UnifyCounts := do
  match ← (unifyDiff run path).run with
  | .ok counts => return counts
  | .error _ => return UnifyCounts.skippedDiff

def readRepos : Option String → ExceptT Failure m (List RepoRecord)
  | some path => readRecord (Json.toList? RepoRecord.ofJson?) path
  | none => return []

def unify (paths : UnifyPaths) : ExceptT Failure m UnifyCounts := do
  let diagnostics ← readRecord (Json.toList? DiagnosticRecord.ofJson?) paths.diagnostics
  let repos ← readRepos paths.repos
  let diffs ← orNoInputs paths.diffs "diff" (← (discover paths.diffs "diff" : m _))
  makeDirectory paths.output
  let names ← (Storage.names paths.output : m _)
  let run : UnifyRun :=
    ⟨diagnostics, repos, paths.checkouts, paths.output, names.map nameStem⟩
  let counts ← diffs.mapM fun path => ExceptT.lift (unifyDiffOrSkip run path)
  return UnifyCounts.sum counts

end

end FixCorpus.Dataset
