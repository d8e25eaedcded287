import FixCorpus.Datapoint.Record
import FixCorpus.Dataset.Basic
import FixCorpus.Flattened.Writer

/-! The flattened dataset: two texts, of which the lines of one number are the
source and the target of one datapoint. -/

namespace FixCorpus.Dataset

structure FlattenPaths where
  input : String
  output : String
deriving DecidableEq, Repr

structure FlattenCounts where
  total : Nat
  written : Nat
  badNewlines : Nat
  unreadable : Nat
deriving DecidableEq, Repr

def sourceName : String := "src.txt"

def targetName : String := "tgt.txt"

structure Pair where
  source : String
  target : String
deriving DecidableEq, Repr

def Pair.ofDatapoint (d : TokenizedDatapoint .window) : Pair :=
  ⟨Flattened.source d, Flattened.target d⟩

def Pair.isFlat (p : Pair) : Bool :=
  Text.countNewlines p.source ≤ 1 && Text.countNewlines p.target ≤ 1

def flatPairs (read : List (Option Pair)) : List Pair :=
  (read.filterMap id).filter (·.isFlat)

def FlattenCounts.ofPairs (read : List (Option Pair)) : FlattenCounts where
  total := read.length
  written := (flatPairs read).length
  badNewlines := ((read.filterMap id).filter (!·.isFlat)).length
  unreadable := read.countP (·.isNone)

section

variable {m : Type → Type} [Monad m] [Storage m]

def readPair? (path : String) : m (Option Pair) := do
  match ← (readRecord TokenizedDatapoint.ofJson? path : ExceptT Failure m _).run with
  | .ok d => return some (Pair.ofDatapoint d)
  | .error _ => return none

/-- All pairs are read before either of the two texts is begun. -/
def flatten (paths : FlattenPaths) : ExceptT Failure m FlattenCounts := do
  let inputs ← orNoInputs paths.input "json" (← (discoverRecords paths.input : m _))
  makeDirectory paths.output
  let read ← inputs.mapM fun path => ExceptT.lift (readPair? path)
  let pairs := flatPairs read
  let source := Path.join paths.output sourceName
  let target := Path.join paths.output targetName
  writeText source ""
  writeText target ""
  writeText source (String.join (pairs.map (·.source)))
  writeText target (String.join (pairs.map (·.target)))
  return FlattenCounts.ofPairs read

end

end FixCorpus.Dataset
