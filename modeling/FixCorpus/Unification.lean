import FixCorpus.Datapoint.Basic
import FixCorpus.Json.Record
import FixCorpus.Origin
import FixCorpus.Patch.Edits
import FixCorpus.Text.Lines

/-! Matching diagnostics with the edits that made them go away. A diagnostic goes
to the first replacement that takes its line out, else to the first deletion
that does, else to an insertion directly above it, else to one directly below.
An insertion that has been matched as standing below a diagnostic is not matched
as standing above another one. Several diagnostics may share an edit. Line
numbers have no bound here; `UnifiesExactly` says when 64 bits hold all of them. -/

namespace FixCorpus

structure DiagnosticRecord where
  repo : String
  diagnosticId : String
  filePath : String
  message : String
  line : Int
  character : Int
  severity : String
deriving DecidableEq, Repr

namespace DiagnosticRecord

open Json

def occurrence (d : DiagnosticRecord) : Occurrence :=
  ⟨d.message, d.line, d.character⟩

def toJson (d : DiagnosticRecord) : Json :=
  .obj [("Repo", .str d.repo), ("Id", .str d.diagnosticId), ("FilePath", .str d.filePath),
    ("Message", .str d.message), ("Line", .int d.line), ("Character", .int d.character),
    ("Severity", .str d.severity)]

def ofJson? (v : Json) : Option DiagnosticRecord := do
  match ← slots? [["Repo"], ["Id"], ["FilePath"], ["Message"], ["Line"], ["Character"],
      ["Severity"]] v with
  | [repo, diagnostic, path, message, line, character, severity] =>
    return {
      repo := ← repo.required toText?
      diagnosticId := ← diagnostic.required toText?
      filePath := ← path.required toText?
      message := ← message.required toText?
      line := ← line.required toInt?
      character := ← character.required toInt?
      severity := ← severity.orElse "" toText? }
  | _ => none

end DiagnosticRecord

structure RepoRecord where
  name : String
  url : String
deriving DecidableEq, Repr

def RepoRecord.ofJson? (v : Json) : Option RepoRecord := do
  match ← Json.slots? [["RepoName"], ["RepoURL"]] v with
  | [name, url] => return ⟨← name.required Json.toText?, ← url.required Json.toText?⟩
  | _ => none

namespace Unification

/-- An edit of a file, by its kind and its place among those of its kind. -/
inductive EditKey where
  | replacement (i : Nat)
  | deletion (i : Nat)
  | insertion (i : Nat)
deriving DecidableEq, Repr

def EditKey.get? (edits : HunkEdits) : EditKey → Option Edit
  | .replacement i => edits.replacements[i]?
  | .deletion i => edits.deletions[i]?
  | .insertion i => edits.insertions[i]?

def removesLine (line : Int) : Edit → Bool
  | .replace r => r.sourceLines.contains line
  | .delete d => d.firstLine ≤ line && line ≤ d.lastLine
  | .insert _ => false

def insertsBehind (line : Int) : Edit → Bool
  | .insert i => i.previousLine = line
  | _ => false

/-- What has been matched so far: the edits in the order of their first match, each with its
occurrences, and the insertions that stand below an occurrence of theirs. -/
structure Matching where
  batches : List (EditKey × List Occurrence)
  below : List Nat
deriving Repr

def findRemoval (edits : HunkEdits) (line : Int) : Option EditKey :=
  match edits.replacements.findIdx? (removesLine line) with
  | some i => some (.replacement i)
  | none => (edits.deletions.findIdx? (removesLine line)).map .deletion

def findAbove (edits : HunkEdits) (below : List Nat) (line : Int) : Option Nat :=
  (edits.insertions.zipIdx.find? fun (edit, i) =>
    insertsBehind (line - 1) edit && !below.contains i).map (·.2)

def findBelow (edits : HunkEdits) (line : Int) : Option Nat :=
  edits.insertions.findIdx? (insertsBehind line)

def addTo (key : EditKey) (o : Occurrence) :
    List (EditKey × List Occurrence) → List (EditKey × List Occurrence)
  | [] => [(key, [o])]
  | (k, group) :: batches =>
    if k = key then (k, group ++ [o]) :: batches else (k, group) :: addTo key o batches

def Matching.step (edits : HunkEdits) (m : Matching) (o : Occurrence) : Matching :=
  match findRemoval edits o.line with
  | some key => { m with batches := addTo key o m.batches }
  | none =>
    match findAbove edits m.below o.line with
    | some i => { m with batches := addTo (.insertion i) o m.batches }
    | none =>
      match findBelow edits o.line with
      | some i => ⟨addTo (.insertion i) o m.batches, i :: m.below⟩
      | none => m

def matchOccurrences (edits : HunkEdits) (occurrences : List Occurrence) : Matching :=
  occurrences.foldl (Matching.step edits) ⟨[], []⟩

/-- Paths are the same if they differ in the kind of separator only. -/
def samePath (a b : String) : Bool :=
  a.toList.map (fun c => if c = '\\' then '/' else c) =
    b.toList.map (fun c => if c = '\\' then '/' else c)

/-- The diagnostics of the rule and of the file that a patch is about. -/
def relevant (o : Origin) (p : FilePatch) (diagnostics : List DiagnosticRecord) :
    List DiagnosticRecord :=
  diagnostics.filter fun d =>
    d.repo = o.repo && d.diagnosticId = o.diagnosticId && samePath d.filePath p.path

/-- How many lines of the file are shown on each side of the lines that have to be. -/
def contextRadius : Int := 3

def linesBetween (all : List String) (first last : Int) : List String :=
  (all.drop (first - 1).toNat).take (last - first + 1).toNat

/-- The datapoint of an edit and the occurrences matched with it, of which `first` is one. -/
def datapoint (o : Origin) (p : FilePatch) (severity : String) (fileLines : List String)
    (edit : Edit) (first : Occurrence) (others : List Occurrence) : UnifiedDatapoint :=
  let firstLine := others.foldl (fun n d => min n d.line) first.line
  let lastLine := others.foldl (fun n d => max n d.line) first.line
  let start := max (min firstLine edit.sourceSpan.1) 1
  let stop := match edit.sourceSpan.2 with
    | some last => max last lastLine
    | none => lastLine
  let contextStart := max (start - contextRadius) 1
  let contextStop := min (stop + contextRadius) fileLines.length
  { repo := o.repo
    repoUrl := o.repoUrl
    solutionFile := o.solutionFile
    filePath := p.path
    numberFileLines := fileLines.length
    commit := o.commit
    fileUrl := o.fileUrl? p.path
    diagnosticId := o.diagnosticId
    analyzerNuGet := o.analyzerNuGet
    severity := severity
    requiredLinesStart := start
    requiredLinesEnd := stop
    occurrences := first :: others
    edit := edit
    fileContextStart := contextStart
    fileContext := linesBetween fileLines contextStart contextStop }

end Unification

open Unification in
/-- The datapoints of a patched file: one for each edit that a diagnostic has been matched with. -/
def unifyFilePatch (o : Origin) (p : FilePatch) (diagnostics : List DiagnosticRecord)
    (source : String) : List UnifiedDatapoint :=
  let records := relevant o p diagnostics
  let severity := (records.head?.map (·.severity)).getD ""
  let occurrences := (records.map (·.occurrence)).eraseDups
  (matchOccurrences p.edits occurrences).batches.filterMap fun (key, group) =>
    match key.get? p.edits, group with
    | some edit, first :: others =>
      some (datapoint o p severity (Text.readLines source) edit first others)
    | _, _ => none

end FixCorpus
