/-! Paths as texts, with a slash between the names of directories. A path is kept
as it is given: joining adds at most one slash and takes nothing away. -/

namespace FixCorpus.Path

/-- The path of a path inside a directory. One that begins with a slash is not inside any. -/
def join (directory path : String) : String :=
  if path.toList.head? = some '/' then path
  else if directory = "" ∨ directory.toList.getLast? = some '/' then directory ++ path
  else directory ++ "/" ++ path

def pieces (path : String) : List String :=
  (path.toList.splitOn '/').map String.ofList

def components (path : String) : List String :=
  (pieces path).filter fun c => c ≠ "" && c ≠ "."

/-- The path, and then the directories that its components name on the way to it, the innermost one
first. Where the path begins is not among them. -/
def ancestors (path : String) : List String :=
  let root := if path.toList.head? = some '/' then "/" else ""
  let names := components path
  let above := (List.range (names.length - 1)).reverse.map fun n =>
    root ++ "/".intercalate (names.take (n + 1))
  if path = "" then [] else path :: above

/-- The last component, unless it leads back. -/
def fileName? (path : String) : Option String :=
  match (components path).getLast? with
  | some ".." => none
  | name => name

/-- A name before and behind its last full stop. A full stop at its front divides nothing. -/
def splitName (name : String) : String × Option String :=
  let reversed := name.toList.reverse
  match reversed.dropWhile (· ≠ '.') with
  | [] => (name, none)
  | [_] => (name, none)
  | _ :: stem =>
    (String.ofList stem.reverse, some (String.ofList (reversed.takeWhile (· ≠ '.')).reverse))

def stem? (path : String) : Option String :=
  (fileName? path).map fun name => (splitName name).1

def extension? (path : String) : Option String :=
  (fileName? path).bind fun name => (splitName name).2

/-- The order of texts by the code points of their characters. -/
def textLt (a b : String) : Bool :=
  List.lex a.toList b.toList fun c d => c.toNat < d.toNat

/-- The order by components: a directory stands where its name stands among its neighbours. -/
def le (a b : String) : Bool :=
  !List.lex (components b) (components a) textLt

end FixCorpus.Path
