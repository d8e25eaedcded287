import FixCorpus.CommandLine.Command
import FixCorpus.Proportion
import FixCorpus.Text.Quoted

/-! What a command tells about its run: a record that goes into the output
directory, and a summary for the person who called it. The members of the record
are in the order of their names. -/

namespace FixCorpus.CommandLine

open Dataset

structure Report where
  output : String
  config : List (String × Json)
  counts : List (String × Json)
  stats : List (String × Json)
  lines : List (String × String)

namespace Report

def metadata (r : Report) : Json :=
  .obj ([("config", .obj r.config), ("counts", .obj r.counts)] ++
    if r.stats.isEmpty then [] else [("stats", .obj r.stats)])

def metadataPath (r : Report) : String :=
  Path.join r.output metadataName

def summary (r : Report) : String :=
  let lines := r.lines ++ [("Metadata", Text.quoted r.metadataPath)]
  "\n[summary]\n" ++ String.join (lines.map fun (label, value) =>
    "  " ++ label ++ ": " ++ value ++ "\n")

def count (n : Nat) : Json :=
  .int n

def ofUnify (paths : UnifyPaths) (counts : UnifyCounts) : Report where
  output := paths.output
  config := [
    ("diagnostics", .str paths.diagnostics),
    ("diffs_dir", .str paths.diffs),
    ("output_dir", .str paths.output),
    ("repos", (paths.repos.map Json.str).getD .null),
    ("repos_root", .str paths.checkouts)]
  counts := [
    ("datapoints", count counts.datapoints),
    ("diff_files", count counts.diffFiles),
    ("duplicates", count counts.duplicates),
    ("patched_files", count counts.patchedFiles),
    ("skipped", count counts.skipped)]
  stats := []
  lines := [
    ("Diff files", toString counts.diffFiles),
    ("Patched files", toString counts.patchedFiles),
    ("Datapoints written", toString counts.datapoints),
    ("Already unified", toString counts.duplicates),
    ("Skipped", toString counts.skipped)]

def ofTokenize (paths : TokenizePaths) (settings : Settings) (counts : TokenizeCounts) :
    Report where
  output := paths.output
  config := [
    ("context_token_budget", count settings.budget),
    ("input_dir", .str paths.input),
    ("output_dir", .str paths.output),
    ("repos_root", .str paths.checkouts),
    ("tokenization_mode", .str settings.mode.name)]
  counts := [
    ("context_overflow", count counts.contextOverflow),
    ("duplicates", count counts.duplicates),
    ("lexer_faults", count counts.lexerFaults),
    ("malformed", count counts.malformed),
    ("other_failures", count counts.otherFailures),
    ("total", count counts.total),
    ("written", count counts.written)]
  stats := []
  lines := [
    ("Datapoints", toString counts.total),
    ("Written", toString counts.written),
    ("Duplicates", toString counts.duplicates),
    ("Malformed sources", toString counts.malformed),
    ("Context overflow", toString counts.contextOverflow),
    ("Lexer faults", toString counts.lexerFaults),
    ("Other failures", toString counts.otherFailures)]

def ofFlatten (paths : FlattenPaths) (counts : FlattenCounts) : Report where
  output := paths.output
  config := [("input_dir", .str paths.input), ("output_dir", .str paths.output)]
  counts := [
    ("bad_newlines", count counts.badNewlines),
    ("total", count counts.total),
    ("unreadable", count counts.unreadable),
    ("written", count counts.written)]
  stats := []
  lines := [
    ("Datapoints", toString counts.total),
    ("Pairs written", toString counts.written),
    ("Stray newlines", toString counts.badNewlines),
    ("Unreadable", toString counts.unreadable),
    ("Output", Text.quoted paths.output ++ "/\x7bsrc,tgt\x7d.txt")]

def accuracy (counts : EvaluationCounts) : Proportion :=
  .ofCounts counts.correct counts.total

def ofEvaluate (paths : EvaluatePaths) (counts : EvaluationCounts) : Report where
  output := paths.output
  config := [
    ("expected", .str paths.expected),
    ("output_dir", .str paths.output),
    ("predictions", .str paths.predictions),
    ("src", .str paths.source)]
  counts := [
    ("correct", count counts.correct),
    ("total", count counts.total),
    ("undecodable", count counts.undecodable)]
  stats := [("accuracy", .real (accuracy counts).shortest)]
  lines := [
    ("Predictions", toString counts.total),
    ("Correct", toString counts.correct),
    ("Undecodable", toString counts.undecodable),
    ("Accuracy", (accuracy counts).fixed 4)]

end Report

end FixCorpus.CommandLine
