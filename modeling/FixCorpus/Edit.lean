/-! Edits of a list of lines. Lines are counted from 1, in the source as it is
before the edit; an insertion behind line 0 is one at the top. -/

namespace FixCorpus

/-- Lines that go in behind the line `previousLine`. -/
structure Insertion where
  previousLine : Int
  targetStart : Int
  targetLines : List String
deriving DecidableEq, Repr

/-- The lines from `firstLine` to `lastLine`, both included, go out. -/
structure Deletion where
  firstLine : Int
  lastLine : Int
deriving DecidableEq, Repr

/-- The source lines, which need not be neighbours, go out, and the target lines go in. -/
structure Replacement where
  sourceLines : List Int
  targetLines : List String
deriving DecidableEq, Repr

inductive Edit where
  | insert (i : Insertion)
  | delete (d : Deletion)
  | replace (r : Replacement)
deriving DecidableEq, Repr

/-- An edit names a line that a list of so many lines does not have. -/
structure ApplyError where
  line : Int
  length : Nat
deriving DecidableEq, Repr

def ApplyError.message (e : ApplyError) : String :=
  "line " ++ toString e.line ++ " is outside a file of " ++ toString e.length ++ " lines"

def stripNewlines (line : String) : String :=
  String.ofList (line.toList.reverse.dropWhile (· == '\n')).reverse

/-- The lines whose position, counted from 0, has a property. -/
def keepLines (keep : Nat → Bool) (lines : List String) : List String :=
  (lines.zipIdx.filter fun l => keep l.2).map (·.1)

def linePosition (length : Nat) (line : Int) : Except ApplyError Nat :=
  if 1 ≤ line ∧ line ≤ length then .ok (line - 1).toNat else .error ⟨line, length⟩

namespace Edit

def actionName : Edit → String
  | .insert _ => "ADD"
  | .delete _ => "REMOVE"
  | .replace _ => "REPLACE"

def targetLines : Edit → List String
  | .insert i => i.targetLines
  | .delete _ => []
  | .replace r => r.targetLines

def sourceSpan : Edit → Int × Option Int
  | .insert i => (i.previousLine, none)
  | .delete d => (d.firstLine, some d.lastLine)
  | .replace r => (r.sourceLines.headD 0, r.sourceLines.getLast?)

/-- The edit with `offset` taken from each source line. -/
def shift (offset : Int) : Edit → Edit
  | .insert i => .insert { i with previousLine := i.previousLine - offset }
  | .delete d => .delete ⟨d.firstLine - offset, d.lastLine - offset⟩
  | .replace r => .replace { r with sourceLines := r.sourceLines.map (· - offset) }

/-- The first and the last position, counted from 0, of the target lines in the edited file. An
edit that only removes has none. -/
def requiredTargetLines? : Edit → Option (Int × Int)
  | .insert i => some (i.previousLine, i.previousLine + i.targetLines.length - 1)
  | .delete _ => none
  | .replace r =>
    r.sourceLines.head?.map fun first => (first - 1, first - 1 + r.targetLines.length - 1)

/-- The lines after the edit. The target lines of a replacement stand where its first source line
was, or at the end if the lines before that are fewer. -/
def apply (e : Edit) (lines : List String) : Except ApplyError (List String) :=
  match e with
  | .insert i =>
    if 0 ≤ i.previousLine ∧ i.previousLine ≤ lines.length then
      let n := i.previousLine.toNat
      .ok (lines.take n ++ i.targetLines.map stripNewlines ++ lines.drop n)
    else .error ⟨i.previousLine, lines.length⟩
  | .delete d => do
    let first ← linePosition lines.length d.firstLine
    let last ← linePosition lines.length d.lastLine
    return keepLines (fun i => !(first ≤ i && i ≤ last)) lines
  | .replace r => do
    let removed ← r.sourceLines.mapM (linePosition lines.length)
    match removed with
    | [] => return lines
    | first :: _ =>
      let kept := keepLines (fun i => !removed.contains i) lines
      return kept.take first ++ r.targetLines.map stripNewlines ++ kept.drop first

@[simp] theorem actionName_shift (e : Edit) (n : Int) : (e.shift n).actionName = e.actionName := by
  cases e <;> rfl

end Edit

theorem linePosition_eq_ok_iff {length : Nat} {line : Int} {n : Nat} :
    linePosition length line = .ok n ↔ line = n + 1 ∧ n < length := by
  unfold linePosition
  split
  · simp only [Except.ok.injEq]
    omega
  · simp only [reduceCtorEq, false_iff]
    omega

end FixCorpus
