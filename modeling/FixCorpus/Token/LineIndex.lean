import FixCorpus.Token.Basic

/-! From lines to tokens. Line `k`, counted from 0, begins behind the `k`-th
newline token, so a list of tokens has one more line than it has newlines. -/

namespace FixCorpus

/-- Where each line of a list of tokens begins, and how many tokens there are. -/
structure LineIndex where
  starts : List Nat
  tokenCount : Nat
deriving Repr

namespace LineIndex

/-- The positions directly behind a newline token, where the first token has position `i`. -/
def startsFrom (i : Nat) : List Token → List Nat
  | [] => []
  | t :: rest => if t.isNewline then (i + 1) :: startsFrom (i + 1) rest else startsFrom (i + 1) rest

def ofTokens (tokens : List Token) : LineIndex :=
  ⟨0 :: startsFrom 0 tokens, tokens.length⟩

/-- The number of lines; behind a final newline stands one more, which is empty. -/
def lineCount (index : LineIndex) : Nat :=
  index.starts.length

/-- The first and the last token of the lines from `first` to `last`. There are none when the
lines are not in order or not there, or hold no token. -/
def tokenRange? (index : LineIndex) (first last : Nat) : Option (Nat × Nat) :=
  if first ≤ last ∧ last < index.starts.length then
    let start := index.starts.getD first 0
    let stop := index.starts.getD (last + 1) index.tokenCount
    if start < stop then some (start, stop - 1) else none
  else none

theorem length_startsFrom (i : Nat) (tokens : List Token) :
    (startsFrom i tokens).length = newlineCount tokens := by
  induction tokens generalizing i with
  | nil => rfl
  | cons t rest ih =>
    by_cases h : t.isNewline <;> simp_all [startsFrom, newlineCount]

@[simp] theorem length_starts (tokens : List Token) :
    (ofTokens tokens).starts.length = newlineCount tokens + 1 := by
  simp [ofTokens, length_startsFrom]

@[simp] theorem lineCount_ofTokens (tokens : List Token) :
    (ofTokens tokens).lineCount = newlineCount tokens + 1 :=
  length_starts tokens

end LineIndex

end FixCorpus
