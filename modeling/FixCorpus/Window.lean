import FixCorpus.Token.Basic

/-! Windows of bounded size around a range that has to be shown. While room is
left on both sides a window grows behind its end and before its start in turn;
once one side is used up the other one gets all that is left. -/

namespace FixCorpus

/-- A contiguous piece of a list and the position of its first item. -/
structure Window (α : Type) where
  start : Nat
  items : List α
deriving Repr

inductive WindowError where
  | contextOverflow (required budget : Nat)
  | invalidRequiredRange (first last length : Nat)
deriving DecidableEq, Repr

def WindowError.message : WindowError → String
  | .contextOverflow required budget =>
    "required span of " ++ toString required ++ " tokens exceeds the budget of " ++ toString budget
  | .invalidRequiredRange first last length =>
    "required token range " ++ toString first ++ "..=" ++ toString last ++
      " is not inside a stream of " ++ toString length ++ " tokens"

namespace Window

def stop {α : Type} (w : Window α) : Nat :=
  w.start + w.items.length

/-- The first and the last position after growth by `missing` items, where `final` is the last
position there is. -/
def grow (final : Nat) : (missing first last : Nat) → Nat × Nat
  | 0, first, last => (first, last)
  | missing + 1, first, last =>
    if first = 0 ∧ last = final then (first, last)
    else if last ≠ final ∧ (first = 0 ∨ (missing + 1) % 2 = 1) then
      grow final missing first (last + 1)
    else grow final missing (first - 1) last

/-- The window of at most `budget` items that shows the required ones. -/
def select {α : Type} (all : List α) (first last budget : Nat) : Except WindowError (Window α) :=
  if last < first ∨ all.length ≤ last then
    .error (.invalidRequiredRange first last all.length)
  else
    let required := last - first + 1
    if budget < required then .error (.contextOverflow required budget)
    else
      let (start, final) := grow (all.length - 1) (budget - required) first last
      .ok ⟨start, (all.take (final + 1)).drop start⟩

end Window

def startLine (tokens : List Token) (start : Nat) : Int :=
  newlineCount (tokens.take start) + 1

end FixCorpus
