import FixCorpus.Binary64

/-! Proportions between 0 and 1 as binary fractions of 53 bits, and their decimal
texts. A proportion is rounded to the nearest such fraction, halves to even; its
shortest text has the fewest decimal places that no other fraction is nearer to. -/

namespace FixCorpus

/-- The fraction `numerator / 2 ^ scale`. -/
structure Proportion where
  numerator : Nat
  scale : Nat
deriving DecidableEq, Repr

namespace Proportion

def zero : Proportion :=
  ⟨0, 0⟩

/-- How often `part` can be doubled before it is as large as `whole`. It takes no more steps than
`whole` has bits. -/
def doublings (whole : Nat) : (steps part : Nat) → Nat
  | 0, _ => 0
  | steps + 1, part => if whole ≤ part then 0 else doublings whole steps (2 * part) + 1

def ofCounts (part whole : Nat) : Proportion :=
  if part = 0 ∨ whole = 0 then zero
  else
    let scale := 52 + doublings whole (whole.log2 + 1) part
    ⟨roundedQuotient (part * Nat.pow 2 scale) whole, scale⟩

/-- No other fraction of 53 bits is nearer to `n / 10 ^ places`. In units of a quarter of the
last bit, the fractions below a power of two are half as far apart as those above it. -/
def isNearest (p : Proportion) (n places : Nat) : Bool :=
  let value := n * Nat.pow 2 (p.scale + 2)
  let unit := Nat.pow 10 places
  let below := if p.numerator = Nat.pow 2 52 then 1 else 2
  let low := (4 * p.numerator - below) * unit
  let high := (4 * p.numerator + 2) * unit
  if p.numerator % 2 = 0 then decide (low ≤ value ∧ value ≤ high)
  else decide (low < value ∧ value < high)

def decimal? (p : Proportion) (places : Nat) : Option Nat :=
  let exact := p.numerator * Nat.pow 10 places
  let nearest := roundedQuotient exact (Nat.pow 2 p.scale)
  let other := if nearest * Nat.pow 2 p.scale < exact then nearest + 1 else nearest - 1
  [nearest, other].find? (p.isNearest · places)

/-- A number and its decimal places, of which there are as few as can be. With as many places as
the scale has bits the number is exact. -/
def decimal (p : Proportion) : Nat × Nat :=
  ((List.range p.scale).findSome? fun places => (p.decimal? places).map (·, places)).getD
    (p.numerator * Nat.pow 5 p.scale, p.scale)

def pointText (n places : Nat) : String :=
  let behind := toString (n % Nat.pow 10 places)
  toString (n / Nat.pow 10 places) ++ "." ++
    String.ofList (List.replicate (places - behind.length) '0') ++ behind

def powerText (n places : Nat) : String :=
  let exponent : Int := (toString n).length - 1 - places
  match (toString n).toList with
  | [] => ""
  | [d] => String.ofList [d] ++ "e" ++ toString exponent
  | d :: others => String.ofList (d :: '.' :: others) ++ "e" ++ toString exponent

/-- The fewest digits that read back as the proportion. One below 0.00001 is written as a power
of ten. -/
def shortest (p : Proportion) : String :=
  let (n, places) := p.decimal
  if n = 0 then "0.0"
  else if n * 100000 < Nat.pow 10 places then powerText n places
  else pointText n places

def fixed (p : Proportion) (places : Nat) : String :=
  pointText (roundedQuotient (p.numerator * Nat.pow 10 places) (Nat.pow 2 p.scale)) places

end Proportion

end FixCorpus
