import FixCorpus.Json.Parser
import FixCorpus.Json.Printer
import FixCorpus.Patch.Basic
import FixCorpus.Path
import FixCorpus.Storage
import FixCorpus.Tokenization

/-! Directories of files as datasets: finding the files of a dataset, reading
and writing them, and what can go wrong with that. -/

namespace FixCorpus.Dataset

inductive Failure where
  | io (path : String)
  | json (path : String)
  | malformedSource (path reason : String)
  | noInputs (directory extension : String)
  | patch (cause : PatchError)
  | tokenize (cause : TokenizeError)
deriving DecidableEq, Repr

def Failure.message : Failure → String
  | .io path => "cannot read or write " ++ path
  | .json path => "no valid record in " ++ path
  | .malformedSource path reason => "malformed source file " ++ path ++ ": " ++ reason
  | .noInputs directory extension =>
    "no " ++ extension ++ " files found under " ++ directory
  | .patch cause => cause.message
  | .tokenize cause => cause.message

def isAscii (text : String) : Bool :=
  text.toList.all fun c => c.toNat < 128

section

variable {m : Type → Type} [Monad m] [Storage m] {α : Type}

def readBytes (path : String) : ExceptT Failure m ByteArray := do
  match ← (Storage.read path : m _) with
  | some content => return content
  | none => throw (.io path)

def readText (path : String) : ExceptT Failure m String := do
  match String.fromUTF8? (← readBytes path) with
  | some text => return text
  | none => throw (.io path)

def parseRecord (read : Json → Option α) (path text : String) : Except Failure α :=
  match (Json.parse? text).bind read with
  | some a => .ok a
  | none => .error (.json path)

def readRecord (read : Json → Option α) (path : String) : ExceptT Failure m α := do
  let text ← readText path
  parseRecord read path text

def writeText (path text : String) : ExceptT Failure m Unit := do
  if ← (Storage.write path text.toUTF8 : m _) then return () else throw (.io path)

def makeDirectory (path : String) : ExceptT Failure m Unit := do
  if ← (Storage.makeDirectory path : m _) then return () else throw (.io path)

/-- The files with an extension in a directory and in those in it, in order. -/
def discover (directory extension : String) : m (List String) := do
  let files ← Storage.files directory
  return (files.filter fun f => Path.extension? f = some extension).mergeSort Path.le

/-- The file with which each step of the work describes itself next to its output. -/
def metadataName : String := "metadata.json"

def discoverRecords (directory : String) : m (List String) := do
  let files ← discover directory "json"
  return files.filter fun f => Path.fileName? f ≠ some metadataName

def orNoInputs (directory extension : String) (files : List String) :
    Except Failure (List String) :=
  if files.isEmpty then .error (.noInputs directory extension) else .ok files

end

end FixCorpus.Dataset
