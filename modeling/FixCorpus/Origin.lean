import FixCorpus.Digest.ContentHash
import FixCorpus.Text.Strip

/-! Where a diff comes from. The name of its file has five parts: repository,
solution, commit, analyser and diagnostic. -/

namespace FixCorpus

def splitAtLowLines : List Char → List (List Char)
  | [] => [[]]
  | '_' :: '_' :: text => [] :: splitAtLowLines text
  | c :: text =>
    match splitAtLowLines text with
    | piece :: pieces => (c :: piece) :: pieces
    | [] => [[c]]

structure Origin where
  stem : String
  repo : String
  solutionFile : String
  commit : String
  analyzerNuGet : String
  diagnosticId : String
  repoUrl : Option String
deriving DecidableEq, Repr

namespace Origin

def ofStem? (stem : String) : Option Origin :=
  match (splitAtLowLines stem.toList).map String.ofList with
  | [repo, solution, commit, analyzer, diagnostic] =>
    some ⟨stem, repo, solution, commit, analyzer, diagnostic, none⟩
  | _ => none

/-- The address of a file at the commit of the diff. It is known for one host only. -/
def fileUrl? (o : Origin) (path : String) : Option String := do
  let url ← o.repoUrl
  if "https://github.com/".toList.isPrefixOf url.toList then
    let base := (Text.stripEnd? ".git".toList url.toList).getD url.toList
    return String.ofList base ++ "/blob/" ++ o.commit ++ "/" ++ path
  else none

end Origin

/-- The path with two hyphens in place of each separator. -/
def flattenPath (path : String) : String :=
  String.ofList (path.toList.flatMap fun c => if c = '/' ∨ c = '\\' then ['-', '-'] else [c])

/-- The stem of the names of the datapoints of a file that a diff changes. Its length does not
depend on that of the path. -/
def datapointStem (diffStem path : String) : String :=
  ContentHash.ofParts [ContentHash.bytes (diffStem ++ "__" ++ flattenPath path)]

def datapointFileName (diffStem path : String) (n : Nat) : String :=
  datapointStem diffStem path ++ "-" ++ toString n ++ ".json"

end FixCorpus
