import FixCorpus.Edit
import FixCorpus.Patch.Basic

/-! The edits that make up a hunk. Lines that come in directly behind lines that
go out replace them, wherever in the run they stand; other lines that come in
are inserted, and lines that go out without others in their place are deleted.
A line that stays ends what is open. -/

namespace FixCorpus

/-- Edits by kind, each kind in the order of the hunks. -/
structure HunkEdits where
  replacements : List Edit
  insertions : List Edit
  deletions : List Edit
deriving DecidableEq, Repr

namespace HunkEdits

def empty : HunkEdits :=
  ⟨[], [], []⟩

def size (e : HunkEdits) : Nat :=
  e.replacements.length + e.insertions.length + e.deletions.length

def append (a b : HunkEdits) : HunkEdits :=
  ⟨a.replacements ++ b.replacements, a.insertions ++ b.insertions, a.deletions ++ b.deletions⟩

instance : Append HunkEdits := ⟨append⟩

def push (e : HunkEdits) : Edit → HunkEdits
  | .insert i => { e with insertions := e.insertions ++ [.insert i] }
  | .delete d => { e with deletions := e.deletions ++ [.delete d] }
  | .replace r => { e with replacements := e.replacements ++ [.replace r] }

end HunkEdits

/-- The edit that the lines read last belong to. -/
inductive OpenEdit where
  | none
  | insertion (i : Insertion)
  | replacement (first : Int) (others : List Int) (targets : List String)

def OpenEdit.edit? : OpenEdit → Option Edit
  | .none => Option.none
  | .insertion i => some (.insert i)
  | .replacement first others [] => some (.delete ⟨first, (first :: others).getLast (by simp)⟩)
  | .replacement first others targets => some (.replace ⟨first :: others, targets⟩)

structure EditScan where
  /-- The source line that stands directly before the place reached. -/
  previousLine : Int
  current : OpenEdit
  edits : HunkEdits

namespace EditScan

/-- Before the first line of a hunk. A hunk without source lines names the line it goes behind,
any other one the line it begins with. -/
def start (h : Hunk) : EditScan :=
  ⟨if h.sourceLength = 0 then h.sourceStart else h.sourceStart - 1, .none, .empty⟩

def flush (s : EditScan) : EditScan :=
  match s.current.edit? with
  | some edit => ⟨s.previousLine, .none, s.edits.push edit⟩
  | none => ⟨s.previousLine, .none, s.edits⟩

def remove (s : EditScan) (line : Int) : EditScan :=
  match s.current with
  | .replacement first others targets => ⟨line, .replacement first (others ++ [line]) targets, s.edits⟩
  | _ => { s.flush with previousLine := line, current := .replacement line [] [] }

def add (s : EditScan) (target : Int) (text : String) : EditScan :=
  match s.current with
  | .none => { s with current := .insertion ⟨s.previousLine, target, [text]⟩ }
  | .insertion i => { s with current := .insertion { i with targetLines := i.targetLines ++ [text] } }
  | .replacement first others targets =>
    { s with current := .replacement first others (targets ++ [text]) }

def step (s : EditScan) (l : HunkLine) : EditScan :=
  match l.kind, l.sourceLine with
  | .context, some line => { s.flush with previousLine := line }
  | .context, none => s.flush
  | .removed, some line => s.remove line
  | .removed, none =>
    match s.current with
    | .insertion _ => s.flush
    | _ => s
  | .added, _ => s.add (l.targetLine.getD 0) l.text

end EditScan

def Hunk.edits (h : Hunk) : HunkEdits :=
  ((h.lines.foldl EditScan.step (.start h)).flush).edits

def FilePatch.edits (p : FilePatch) : HunkEdits :=
  p.hunks.foldl (fun edits h => edits ++ h.edits) .empty

end FixCorpus
