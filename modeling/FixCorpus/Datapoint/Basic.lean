import FixCorpus.Edit

/-! Datapoints: a fix of a file together with the diagnostics that it made go
away. First the lines of a datapoint are those of the source file; once its file
context has been cut to a window of tokens, they are counted from the first line
of the window. Line numbers have no bound here; `TokenizedDatapoint.RebasedFits`
says that 64 bits hold those in the window. -/

namespace FixCorpus

/-- A place at which an analyser reported a diagnostic, counted from 1. -/
structure Occurrence where
  message : String
  line : Int
  character : Int
deriving DecidableEq, Repr

/-- A fix and its diagnostics in the lines of the source file. -/
structure UnifiedDatapoint where
  repo : String
  repoUrl : Option String
  solutionFile : String
  filePath : String
  numberFileLines : Nat
  commit : String
  fileUrl : Option String
  diagnosticId : String
  analyzerNuGet : String
  severity : String
  requiredLinesStart : Int
  requiredLinesEnd : Int
  occurrences : List Occurrence
  edit : Edit
  fileContextStart : Int
  fileContext : List String
deriving DecidableEq, Repr

structure TokenizedOccurrence where
  message : String
  line : Int
  character : Int
  tokenizedMessage : List String
deriving DecidableEq, Repr

def Occurrence.withTokens (o : Occurrence) (tokens : List String) : TokenizedOccurrence :=
  ⟨o.message, o.line, o.character, tokens⟩

inductive LineBase where
  | file
  | window
deriving DecidableEq, Repr

structure TokenizedDatapoint (base : LineBase) where
  repo : String
  fileUrl : Option String
  diagnosticId : String
  analyzerNuGet : String
  severity : String
  numberFileLines : Nat
  requiredLinesStart : Int
  requiredLinesEnd : Int
  occurrences : List TokenizedOccurrence
  edit : Edit
  tokenizedTargetLines : List String
  fileContextStart : Int
  fileContext : List String
  tokenizedFileContext : List String
  /-- The source line on which the window starts; 0 as long as there is none. -/
  tokenizedFileContextStart : Int
deriving DecidableEq, Repr

def UnifiedDatapoint.withTokens (d : UnifiedDatapoint) (context target : List String)
    (occurrences : List TokenizedOccurrence) : TokenizedDatapoint .file :=
  { repo := d.repo
    fileUrl := d.fileUrl
    diagnosticId := d.diagnosticId
    analyzerNuGet := d.analyzerNuGet
    severity := d.severity
    numberFileLines := d.numberFileLines
    requiredLinesStart := d.requiredLinesStart
    requiredLinesEnd := d.requiredLinesEnd
    occurrences := occurrences
    edit := d.edit
    tokenizedTargetLines := target
    fileContextStart := d.fileContextStart
    fileContext := d.fileContext
    tokenizedFileContext := context
    tokenizedFileContextStart := 0 }

/-- The datapoint with its lines counted from the line on which the window starts. -/
def TokenizedDatapoint.rebase (d : TokenizedDatapoint .file) (start : Int) :
    TokenizedDatapoint .window :=
  { repo := d.repo
    fileUrl := d.fileUrl
    diagnosticId := d.diagnosticId
    analyzerNuGet := d.analyzerNuGet
    severity := d.severity
    numberFileLines := d.numberFileLines
    requiredLinesStart := d.requiredLinesStart
    requiredLinesEnd := d.requiredLinesEnd
    occurrences := d.occurrences.map fun o => { o with line := o.line - start }
    edit := d.edit.shift start
    tokenizedTargetLines := d.tokenizedTargetLines
    fileContextStart := d.fileContextStart
    fileContext := d.fileContext
    tokenizedFileContext := d.tokenizedFileContext
    tokenizedFileContextStart := start }

end FixCorpus
