import FixCorpus.CommandLine.Arguments
import FixCorpus.CommandLine.Help
import FixCorpus.CommandLine.Report

/-! The program as a function of its arguments: what it does to files, what it
prints and how it ends. -/

namespace FixCorpus.CommandLine

open Dataset

structure Output where
  exitCode : UInt32
  text : String
  errors : String
deriving DecidableEq, Repr

namespace Output

def success (text : String) : Output :=
  ⟨0, text, ""⟩

def failed (cause : Failure) : Output :=
  ⟨1, "", "error: " ++ cause.message ++ "\n"⟩

def misuse : Output :=
  ⟨2, "", "error: unusable arguments\n\nFor more information, try '--help'.\n"⟩

end Output

section

variable {m : Type → Type} [Monad m] [Storage m]

def perform : Command → ExceptT Failure m Report
  | .unify paths => return .ofUnify paths (← unify paths)
  | .tokenize paths settings => return .ofTokenize paths settings (← tokenize paths settings)
  | .flatten paths => return .ofFlatten paths (← flatten paths)
  | .evaluate paths => return .ofEvaluate paths (← evaluate paths)

/-- Performs a command and describes the run in its output directory. -/
def performAndDescribe (command : Command) : ExceptT Failure m Report := do
  let report ← perform command
  writeText report.metadataPath report.metadata.render
  return report

def run (arguments : List String) : m Output := do
  match readArguments? arguments with
  | none => return .misuse
  | some .version => return .success versionText
  | some (.help none) => return .success programHelp
  | some (.help (some spec)) => return .success spec.help
  | some (.run command) =>
    match ← (performAndDescribe command).run with
    | .ok report => return .success report.summary
    | .error cause => return .failed cause

end

end FixCorpus.CommandLine
