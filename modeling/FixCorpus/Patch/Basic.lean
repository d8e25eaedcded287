import FixCorpus.Text.Strip

/-! Unified diffs: the changes of several files, each a list of hunks of lines
that stay, come in or go out. -/

namespace FixCorpus

inductive LineKind where
  | context
  | added
  | removed
deriving DecidableEq, Repr

/-- A line of a hunk and its number on each side of the diff on which it stands. -/
structure HunkLine where
  kind : LineKind
  text : String
  sourceLine : Option Int
  targetLine : Option Int
deriving DecidableEq, Repr

structure Hunk where
  sourceStart : Int
  sourceLength : Int
  targetStart : Int
  targetLength : Int
  section_ : String
  lines : List HunkLine
deriving DecidableEq, Repr

structure FilePatch where
  sourceFile : String
  targetFile : String
  hunks : List Hunk
deriving DecidableEq, Repr

inductive PatchError where
  | badHunkHeader (header : String)
  | truncatedHunk (sourceStart : Int)
  | hunkWithoutFile
deriving DecidableEq, Repr

def PatchError.message : PatchError → String
  | .badHunkHeader header => "malformed hunk header \x60" ++ header ++ "\x60"
  | .truncatedHunk sourceStart =>
    "hunk starting at source line " ++ toString sourceStart ++ " ends early"
  | .hunkWithoutFile => "hunk outside of a file patch"

def noFile : String := "/dev/null"

namespace FilePatch

/-- The path of the file inside its repository: the name on the source side, or on the target
side if there is no source, without the letter of its side. -/
def path (p : FilePatch) : String :=
  let file := (if p.sourceFile = noFile then p.targetFile else p.sourceFile).toList
  match Text.stripFront? "a/".toList file with
  | some path => String.ofList path
  | none => String.ofList ((Text.stripFront? "b/".toList file).getD file)

def isAddedFile (p : FilePatch) : Bool :=
  p.sourceFile = noFile ||
    match p.hunks with
    | [h] => h.sourceStart = 0 && h.sourceLength = 0
    | _ => false

def isRemovedFile (p : FilePatch) : Bool :=
  p.targetFile = noFile ||
    match p.hunks with
    | [h] => h.targetStart = 0 && h.targetLength = 0
    | _ => false

end FilePatch

end FixCorpus
