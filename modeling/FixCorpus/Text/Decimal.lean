/-! Decimal numerals, and the numbers that 64 bits hold. -/

namespace FixCorpus.Text

def leastInt : Int := -9223372036854775808
def greatestInt : Int := 9223372036854775807

def greatestNat : Nat := 18446744073709551615

def digitsValue (run : List Char) : Nat :=
  run.foldl (fun n c => n * 10 + (c.toNat - '0'.toNat)) 0

def natural? (text : List Char) : Option Nat :=
  if text ≠ [] ∧ text.all Char.isDigit then some (digitsValue text) else none

/-- The signed number that digits with a sign or none spell, if 64 bits hold it. -/
def integer? (text : List Char) : Option Int := do
  let n : Int ← match text with
    | '-' :: digits => (natural? digits).map fun n => -(n : Int)
    | '+' :: digits => (natural? digits).map Int.ofNat
    | digits => (natural? digits).map Int.ofNat
  if leastInt ≤ n ∧ n ≤ greatestInt then some n else none

end FixCorpus.Text
