/-! Line by line differences. The longest block of lines that both sides have in
common, the first one if several are equally long, splits them into what lies
before it and what lies behind it, and these are compared in the same way. -/

namespace FixCorpus

/-- The lines of the source from `source` on and those of the target from `target` on agree for
the given length. -/
structure Block where
  source : Nat
  target : Nat
  length : Nat
deriving DecidableEq, Repr

namespace Block

/-- How many lines agree up to the given line of the source and each line of the target, from the
same numbers for the line before; `diagonal` is the one for the target line before. -/
def nextRuns (line : String) : (target : List String) → (diagonal : Nat) → (runs : List Nat) →
    List Nat
  | [], _, _ => []
  | l :: target, diagonal, runs =>
    (if l = line then diagonal + 1 else 0) :: nextRuns line target (runs.headD 0) runs.tail

/-- The longer one of the best block so far and those that end at line `i` of the source and at
line `j` of the target or behind it. -/
def bestInRow (i j : Nat) : (runs : List Nat) → Block → Block
  | [], best => best
  | n :: runs, best =>
    bestInRow i (j + 1) runs (if best.length < n then ⟨i + 1 - n, j + 1 - n, n⟩ else best)

def scan (target : List String) (i : Nat) : (source : List String) → (runs : List Nat) → Block →
    Block
  | [], _, best => best
  | line :: source, runs, best =>
    let runs := nextRuns line target 0 runs
    scan target (i + 1) source runs (bestInRow i 0 runs best)

/-- The longest common block; of several the one that begins first in the source, and of these
the one that begins first in the target. Its length is 0 if no line is in both. -/
def longest (source target : List String) : Block :=
  scan target 0 source [] ⟨0, 0, 0⟩

theorem nextRuns_le {line : String} {target : List String} {bound diagonal : Nat} {runs : List Nat}
    (diagonal_le : diagonal ≤ bound) (runs_le : ∀ n ∈ runs, n ≤ bound) :
    ∀ n ∈ nextRuns line target diagonal runs, n ≤ bound + 1 := by
  induction target generalizing diagonal runs with
  | nil => simp [nextRuns]
  | cons l target ih =>
    intro n member
    simp only [nextRuns, List.mem_cons] at member
    rcases member with rfl | member
    · split <;> omega
    · refine ih ?_ (fun m h => runs_le m (List.mem_of_mem_tail h)) n member
      cases runs with
      | nil => simp
      | cons m runs => exact runs_le m (by simp)

theorem bestInRow_le {i j : Nat} {runs : List Nat} {best : Block} (runs_le : ∀ n ∈ runs, n ≤ i + 1)
    (best_le : best.source + best.length ≤ i + 1) :
    (bestInRow i j runs best).source + (bestInRow i j runs best).length ≤ i + 1 := by
  induction runs generalizing j best with
  | nil => exact best_le
  | cons n runs ih =>
    refine ih (fun m h => runs_le m (by simp [h])) ?_
    have := runs_le n (by simp)
    split
    · dsimp only
      omega
    · exact best_le

theorem scan_le {target source : List String} {i : Nat} {runs : List Nat} {best : Block}
    (runs_le : ∀ n ∈ runs, n ≤ i) (best_le : best.source + best.length ≤ i) :
    (scan target i source runs best).source + (scan target i source runs best).length ≤
      i + source.length := by
  induction source generalizing i runs best with
  | nil => simpa [scan] using best_le
  | cons line source ih =>
    have next : ∀ n ∈ nextRuns line target 0 runs, n ≤ i + 1 :=
      nextRuns_le (Nat.zero_le i) runs_le
    have := ih next (bestInRow_le (j := 0) next (Nat.le_succ_of_le best_le))
    simp only [scan, List.length_cons]
    omega

theorem longest_le (source target : List String) :
    (longest source target).source + (longest source target).length ≤ source.length := by
  have := @scan_le target source 0 [] ⟨0, 0, 0⟩ (by simp) (by simp)
  simpa [longest] using this

end Block

/-- A line of a difference with its positions, counted from 0, in the source and the target. -/
inductive DiffLine where
  | equal (source target : Nat) (text : String)
  | removed (source : Nat) (text : String)
  | added (target : Nat) (text : String)
deriving DecidableEq, Repr

namespace DiffLine

def sourceIndex? : DiffLine → Option Nat
  | .equal i _ _ | .removed i _ => some i
  | .added _ _ => none

def targetIndex? : DiffLine → Option Nat
  | .equal _ j _ | .added j _ => some j
  | .removed _ _ => none

def text : DiffLine → String
  | .equal _ _ text | .removed _ text | .added _ text => text

def render : DiffLine → String
  | .equal _ _ text => "  " ++ text
  | .removed _ text => "- " ++ text
  | .added _ text => "+ " ++ text

end DiffLine

namespace LineDiff

def removedFrom (i : Nat) (lines : List String) : List DiffLine :=
  (lines.zipIdx i).map fun (text, i) => .removed i text

def addedFrom (j : Nat) (lines : List String) : List DiffLine :=
  (lines.zipIdx j).map fun (text, j) => .added j text

def equalFrom (i j : Nat) (lines : List String) : List DiffLine :=
  lines.zipIdx.map fun (text, n) => .equal (i + n) (j + n) text

/-- The difference of a source that begins at line `i` and a target that begins at line `j`. -/
def ofSegments (i j : Nat) (source target : List String) : List DiffLine :=
  let m := Block.longest source target
  if _common : 0 < m.length then
    ofSegments i j (source.take m.source) (target.take m.target) ++
      equalFrom (i + m.source) (j + m.target) ((source.drop m.source).take m.length) ++
      ofSegments (i + m.source + m.length) (j + m.target + m.length)
        (source.drop (m.source + m.length)) (target.drop (m.target + m.length))
  else removedFrom i source ++ addedFrom j target
termination_by source.length
decreasing_by
  all_goals
    have := Block.longest_le source target
    simp only [m] at _common
    simp only [List.length_take, List.length_drop]
    omega

/-- The difference of two lists of lines. Between common blocks the lines that go out stand before
those that come in. -/
def ofLines (before after : List String) : List DiffLine :=
  ofSegments 0 0 before after

end LineDiff

end FixCorpus
