import FixCorpus.Path

/-! Where files are. Programs that work with files are written for any monad that
can read and write them: a tree of files that is a value, or a disk. -/

namespace FixCorpus

inductive Obstacle where
  | missing
  /-- Something is there already or in the way, or no path is spelled so. -/
  | blocked
deriving DecidableEq, Repr

class Storage (m : Type → Type) where
  /-- The content of a file; nothing if there is no such file. -/
  read : (path : String) → m (Option ByteArray)
  /-- Makes a file or gives it a new content, and says whether that was possible. The directory
  of the file has to be there. -/
  write : (path : String) → (content : ByteArray) → m Bool
  make : (path : String) → m (Except Obstacle Unit)
  isDirectory : (path : String) → m Bool
  names : (path : String) → m (List String)
  /-- The paths of all files in a directory and in those in it, in any order; the path of a file
  is its own. -/
  files : (path : String) → m (List String)

namespace Storage

variable {m : Type → Type} [Monad m] [Storage m]

/-- Makes the first of some directories, of which each lies in the next one, and says whether it is
there now. One that is missing is tried again when those it lies in have been made. -/
def makeWithin : (paths : List String) → m Bool
  | [] => return true
  | path :: above => do
    match ← make path with
    | .ok _ => return true
    | .error .blocked => isDirectory path
    | .error .missing =>
      if ← makeWithin above then
        match ← make path with
        | .ok _ => return true
        | .error _ => isDirectory path
      else return false

/-- Makes a directory and those it is in, and says whether the directory is there now. The empty
path names none, and so none has to be made. -/
def makeDirectory (path : String) : m Bool :=
  makeWithin (Path.ancestors path)

end Storage

end FixCorpus
