import FixCorpus.Text.Decimal

/-! JSON values as they are stored: objects keep the order of their members, and
a number that is no integer keeps its text. -/

namespace FixCorpus

inductive Json where
  | null
  | bool (b : Bool)
  /-- An integer between the least signed and the greatest unsigned one of 64 bits. -/
  | int (n : Int)
  | real (literal : String)
  | str (s : String)
  /-- A value that is spelled as it must be but stands for nothing: a string with half of a
  surrogate pair, an object with such a key, a number that is too large. It can be passed over. -/
  | unreadable
  | arr (items : List Json)
  | obj (members : List (String × Json))

namespace Json

open Text

def toInt? : Json → Option Int
  | .int n => if leastInt ≤ n ∧ n ≤ greatestInt then some n else none
  | _ => none

def toNat? : Json → Option Nat
  | .int n => if 0 ≤ n ∧ n ≤ (greatestNat : Int) then some n.toNat else none
  | _ => none

def toText? : Json → Option String
  | .str s => some s
  | _ => none

def toList? {α : Type} (read : Json → Option α) : Json → Option (List α)
  | .arr items => items.mapM read
  | _ => none

/-- How many arrays and objects may lie in one another where a value is kept. What is passed over
may be nested deeper. -/
def maxLevels : Nat := 127

mutual

/-- The value can be kept: nothing in it is unreadable, and its arrays and objects lie in one
another on no more than so many levels. -/
def fits : (levels : Nat) → Json → Bool
  | _, .unreadable => false
  | levels, .arr items => 1 ≤ levels && itemsFit (levels - 1) items
  | levels, .obj members => 1 ≤ levels && membersFit (levels - 1) members
  | _, _ => true

def itemsFit (levels : Nat) : List Json → Bool
  | [] => true
  | v :: items => fits levels v && itemsFit levels items

def membersFit (levels : Nat) : List (String × Json) → Bool
  | [] => true
  | (_, v) :: members => fits levels v && membersFit levels members

end

@[simp] theorem toText?_str (s : String) : (str s).toText? = some s := rfl

@[simp] theorem toList?_arr {α : Type} (read : Json → Option α) (items : List Json) :
    (arr items).toList? read = items.mapM read := rfl

theorem toInt?_int {n : Int} (low : leastInt ≤ n) (high : n ≤ greatestInt) :
    (int n).toInt? = some n := by
  simp [toInt?, low, high]

theorem toNat?_int {n : Nat} (high : n ≤ greatestNat) : (int n).toNat? = some n := by
  have : (n : Int) ≤ (greatestNat : Int) := by omega
  simp [toNat?, this]

end Json

end FixCorpus
