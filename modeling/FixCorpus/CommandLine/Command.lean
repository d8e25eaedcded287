import FixCorpus.Dataset.Evaluation
import FixCorpus.Dataset.Flattened
import FixCorpus.Dataset.Tokenized
import FixCorpus.Dataset.Unified

/-! The commands and their options, as tables from which arguments are read and
help is written. -/

namespace FixCorpus.CommandLine

open Dataset

inductive Command where
  | unify (paths : UnifyPaths)
  | tokenize (paths : TokenizePaths) (settings : Settings)
  | flatten (paths : FlattenPaths)
  | evaluate (paths : EvaluatePaths)
deriving DecidableEq, Repr

def modeNames : List (String × Mode) :=
  [("standard", .standard), ("camelcase", .camelcase), ("zero-index-vars", .zeroIndexVars)]

/-- A count is written in digits, perhaps with a plus sign in front. -/
def count? (text : String) : Option Nat := do
  let digits := (Text.stripFront? ['+'] text.toList).getD text.toList
  let n ← Text.natural? digits
  if n ≤ Text.greatestNat then some n else none

inductive ValueKind where
  | path
  | count
  | mode
deriving DecidableEq, Repr

def ValueKind.accepts : ValueKind → String → Bool
  | .path, value => value ≠ ""
  | .count, value => (count? value).isSome
  | .mode, value => (modeNames.lookup value).isSome

inductive Presence where
  | required
  | optional
  | default (value : String)
deriving DecidableEq, Repr

structure OptionSpec where
  name : String
  kind : ValueKind
  presence : Presence
  about : String
deriving DecidableEq, Repr

abbrev Values := List (String × String)

structure CommandSpec where
  name : String
  about : String
  options : List OptionSpec
  command? : Values → Option Command

def requiredPath (name about : String) : OptionSpec :=
  ⟨name, .path, .required, about⟩

def unifySpec : CommandSpec where
  name := "unify"
  about := "Match fix diffs with the diagnostics they resolved"
  options := [
    requiredPath "diffs-dir"
      "Directory of \x60REPO__SOLUTION__COMMIT__ANALYZER__DIAGNOSTIC.diff\x60 files",
    requiredPath "diagnostics" "JSON array of diagnostic records",
    ⟨"repos", .path, .optional,
      "JSON array of \x60\x7bRepoName, RepoURL\x7d\x60 rows for repository and file URLs"⟩,
    requiredPath "repos-root" "Directory holding one checkout per repository",
    requiredPath "output-dir" "Output directory for unified datapoints"]
  command? values := do
    return .unify {
      diffs := ← values.lookup "diffs-dir"
      diagnostics := ← values.lookup "diagnostics"
      repos := values.lookup "repos"
      checkouts := ← values.lookup "repos-root"
      output := ← values.lookup "output-dir" }

def settings (values : Values) : Settings where
  budget := ((values.lookup "context-token-budget").bind count?).getD Settings.default.budget
  mode :=
    ((values.lookup "tokenization-mode").bind fun name => modeNames.lookup name).getD
      Settings.default.mode

def tokenizeSpec : CommandSpec where
  name := "tokenize"
  about := "Tokenize and window unified datapoints"
  options := [
    requiredPath "input-dir" "Directory of unified datapoint JSON files",
    requiredPath "repos-root" "Directory holding one checkout per repository",
    requiredPath "output-dir" "Output directory for tokenized datapoints",
    ⟨"context-token-budget", .count, .default (toString Settings.default.budget),
      "Maximum tokens of file context per datapoint"⟩,
    ⟨"tokenization-mode", .mode, .default Settings.default.mode.name,
      "Lexer variant and identifier handling"⟩]
  command? values := do
    return .tokenize {
      input := ← values.lookup "input-dir"
      checkouts := ← values.lookup "repos-root"
      output := ← values.lookup "output-dir" } (settings values)

def flattenSpec : CommandSpec where
  name := "flatten"
  about := "Flatten tokenized datapoints into src.txt / tgt.txt"
  options := [
    requiredPath "input-dir" "Directory of tokenized datapoint JSON files",
    requiredPath "output-dir" "Output directory for the flattened pair files"]
  command? values := do
    return .flatten {
      input := ← values.lookup "input-dir"
      output := ← values.lookup "output-dir" }

def evaluateSpec : CommandSpec where
  name := "evaluate"
  about := "Score model predictions and render annotated diffs"
  options := [
    requiredPath "src" "Flattened model inputs, one per line",
    requiredPath "expected" "Expected targets, line-aligned with \x60--src\x60",
    requiredPath "predictions" "Model predictions, line-aligned with \x60--src\x60",
    requiredPath "output-dir" "Output directory for annotated diffs"]
  command? values := do
    return .evaluate {
      source := ← values.lookup "src"
      expected := ← values.lookup "expected"
      predictions := ← values.lookup "predictions"
      output := ← values.lookup "output-dir" }

def commandSpecs : List CommandSpec :=
  [unifySpec, tokenizeSpec, flattenSpec, evaluateSpec]

def findSpec? (name : String) : Option CommandSpec :=
  commandSpecs.find? (·.name = name)

end FixCorpus.CommandLine
