import FixCorpus.CommandLine.Run

/-! The program on the files of a disk. -/

namespace FixCorpus

def orElse {α : Type} (action : IO α) (default : α) : IO α :=
  try action catch _ => return default

/-- All files in a directory and in those in it. Links are not followed. -/
partial def filesUnder (path : String) : IO (List String) := do
  let entries ← (System.mkFilePath [path]).readDir
  let found ← entries.toList.mapM fun entry => do
    let inside := Path.join path entry.fileName
    match (← (System.mkFilePath [inside]).symlinkMetadata).type with
    | .dir => orElse (filesUnder inside) []
    | .file => return [inside]
    | _ => return []
  return found.flatten

def filesAt (path : String) : IO (List String) := do
  match (← (System.mkFilePath [path]).metadata).type with
  | .dir => filesUnder path
  | .file => return [path]
  | _ => return []

def makeOne (path : String) : IO (Except Obstacle Unit) := do
  try
    IO.FS.createDir path
    return .ok ()
  catch
    | .noFileOrDirectory .. => return .error .missing
    | _ => return .error .blocked

instance : Storage IO where
  read path := orElse (some <$> IO.FS.readBinFile path) none
  write path content := orElse (do IO.FS.writeBinFile path content; return true) false
  make := makeOne
  isDirectory path := (System.mkFilePath [path]).isDir
  names path := orElse (do
    let entries ← (System.mkFilePath [path]).readDir
    return entries.toList.map (·.fileName)) []
  files path := orElse (filesAt path) []

end FixCorpus

def main (arguments : List String) : IO UInt32 := do
  let output ← FixCorpus.CommandLine.run arguments
  IO.print output.text
  IO.eprint output.errors
  return output.exitCode
