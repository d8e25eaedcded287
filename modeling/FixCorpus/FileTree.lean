import FixCorpus.Storage

/-! Trees of files as values. A file or directory has a location: the names that
lead to it from the root of the tree, where all paths begin. A path leads to a
location only if each directory on its way is there; none leads out of the tree. -/

namespace FixCorpus

abbrev Location := List String

inductive Entry where
  | directory
  | file (content : ByteArray)

/-- The entries below the root, which is always there. -/
structure FileTree where
  entries : List (Location × Entry)

namespace FileTree

def empty : FileTree :=
  ⟨[]⟩

def get? (t : FileTree) (l : Location) : Option Entry :=
  if l = [] then some .directory else t.entries.lookup l

def isDirectory (t : FileTree) (l : Location) : Bool :=
  match t.get? l with
  | some .directory => true
  | _ => false

def set (t : FileTree) (l : Location) (e : Entry) : FileTree :=
  ⟨(l, e) :: t.entries.filter (·.1 ≠ l)⟩

def erase (t : FileTree) (l : Location) : FileTree :=
  ⟨t.entries.filter (·.1 ≠ l)⟩

theorem lookup_filter (keep : Location → Bool) (k : Location)
    (entries : List (Location × Entry)) :
    (entries.filter fun e => keep e.1).lookup k = if keep k then entries.lookup k else none := by
  induction entries with
  | nil => simp
  | cons e entries ih =>
    obtain ⟨j, e⟩ := e
    by_cases h : k = j
    · subst h
      cases found : keep k <;> simp [found, ih]
    · have : (k == j) = false := by simp [h]
      cases found : keep j <;> simp [found, List.lookup_cons, this, ih]

theorem get?_set (t : FileTree) {l : Location} (e : Entry) (h : l ≠ []) :
    (t.set l e).get? l = some e := by
  simp [get?, set, h]

theorem get?_set_of_ne (t : FileTree) {k l : Location} (e : Entry) (h : k ≠ l) :
    (t.set l e).get? k = t.get? k := by
  have other : (k == l) = false := by simp [h]
  unfold get? set
  rw [List.lookup_cons, other, lookup_filter (fun j => decide (j ≠ l))]
  simp [h]

def isName (name : String) : Bool :=
  name.utf8ByteSize ≤ 255

/-- A path that begins where the tree does. No path is empty, too long or holds a null character. -/
def isPath (path : String) : Bool :=
  path ≠ "" && path.toList.head? ≠ some '/' && !path.toList.contains '\x00' &&
    path.utf8ByteSize < 4096

def follow (t : FileTree) (l : Location) : (pieces : List String) → Except Obstacle Location
  | [] => .ok l
  | piece :: pieces =>
    match t.get? l with
    | none => .error .missing
    | some (.file _) => .error .blocked
    | some .directory =>
      if piece = "" ∨ piece = "." then follow t l pieces
      else if piece = ".." then if l = [] then .error .blocked else follow t l.dropLast pieces
      else if isName piece then follow t (l ++ [piece]) pieces
      else .error .blocked

/-- The location to which a path leads. There need not be anything. -/
def locate? (t : FileTree) (path : String) : Option Location :=
  if isPath path then (t.follow [] (Path.pieces path)).toOption else none

def read? (t : FileTree) (path : String) : Option ByteArray :=
  match (t.locate? path).bind t.get? with
  | some (.file content) => some content
  | _ => none

def write? (t : FileTree) (path : String) (content : ByteArray) : Option FileTree :=
  match t.locate? path with
  | none => none
  | some l => if t.isDirectory l then none else some (t.set l (.file content))

/-- Makes a directory with a name in the one to which some pieces of a path lead. The names that
lead nowhere or back are those of directories that are there. -/
def makeIn (t : FileTree) (pieces : List String) (name : String) : Except Obstacle FileTree := do
  let l ← t.follow [] (pieces ++ [""])
  if name = "." ∨ name = ".." ∨ !isName name then throw .blocked
  match t.get? (l ++ [name]) with
  | none => return t.set (l ++ [name]) .directory
  | some _ => throw .blocked

def make (t : FileTree) (path : String) : Except Obstacle FileTree :=
  match isPath path, (Path.pieces path).reverse.dropWhile (· = "") with
  | true, name :: above => t.makeIn above.reverse name
  | _, _ => .error .blocked

def nameIn? : (directory location : Location) → Option String
  | [], [name] => some name
  | a :: directory, b :: location => if a = b then nameIn? directory location else none
  | _, _ => none

def names (t : FileTree) (path : String) : List String :=
  match t.locate? path with
  | some l => t.entries.filterMap fun e => nameIn? l e.1
  | none => []

def extend (path : String) (names : List String) : String :=
  names.foldl Path.join path

def files (t : FileTree) (path : String) : List String :=
  match t.locate? path with
  | none => []
  | some l => t.entries.filterMap fun e =>
    match e.2 with
    | .file _ => if l.isPrefixOf e.1 then some (extend path (e.1.drop l.length)) else none
    | .directory => none

def remove (t : FileTree) (path : String) : FileTree :=
  match t.locate? path with
  | some l => t.erase l
  | none => t

def changed (t : FileTree) : Option FileTree → Bool × FileTree
  | some u => (true, u)
  | none => (false, t)

def outcome (t : FileTree) : Except Obstacle FileTree → Except Obstacle Unit × FileTree
  | .ok u => (.ok (), u)
  | .error o => (.error o, t)

instance : Storage (StateM FileTree) where
  read path := fun t => (t.read? path, t)
  write path content := fun t => t.changed (t.write? path content)
  make path := fun t => t.outcome (t.make path)
  isDirectory path := fun t => ((t.locate? path).any t.isDirectory, t)
  names path := fun t => (t.names path, t)
  files path := fun t => (t.files path, t)

theorem run_read (path : String) (t : FileTree) :
    (Storage.read path : StateM FileTree _).run t = (t.read? path, t) := rfl

theorem run_write (path : String) (content : ByteArray) (t : FileTree) :
    (Storage.write path content : StateM FileTree _).run t =
      t.changed (t.write? path content) := rfl

theorem run_make (path : String) (t : FileTree) :
    (Storage.make path : StateM FileTree _).run t = t.outcome (t.make path) := rfl

theorem run_names (path : String) (t : FileTree) :
    (Storage.names path : StateM FileTree _).run t = (t.names path, t) := rfl

end FileTree

end FixCorpus
