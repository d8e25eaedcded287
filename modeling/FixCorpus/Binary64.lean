/-! Whole numbers as binary fractions of 64 bits: 53 of them hold the first binary
digits of a number, which is rounded to what they can say. The numbers end with the
one whose 1024 binary digits begin with 53 ones. -/

namespace FixCorpus

/-- The quotient rounded to the nearest number, and halfway between two to the even one. -/
def roundedQuotient (n d : Nat) : Nat :=
  let q := n / d
  let twice := 2 * (n % d)
  if twice < d then q else if d < twice then q + 1 else q + q % 2

theorem roundedQuotient_mul {n d : Nat} (h : 0 < d) : roundedQuotient (n * d) d = n := by
  simp [roundedQuotient, Nat.mul_div_cancel n h, h]

namespace Binary64

def unit (n : Nat) : Nat :=
  Nat.pow 2 (n.log2 - 52)

def nearest (n : Nat) : Nat :=
  roundedQuotient n (unit n) * unit n

/-- The least number that is rounded to more than the greatest one: it lies halfway between that
and the power of two behind it. -/
def overflow : Nat :=
  (Nat.pow 2 54 - 1) * Nat.pow 2 970

def greatestPower : Nat := 308

/-- A number times a power of ten is too large, if each of the two is rounded before they are
multiplied. A negative exponent makes no number too large. -/
def exceeds (significand : Nat) (exponent : Int) : Bool :=
  if (greatestPower : Int) < exponent then significand ≠ 0
  else if exponent < 0 then false
  else overflow ≤ nearest significand * nearest (Nat.pow 10 exponent.toNat)

theorem nearest_of_lt {n : Nat} (h : n < Nat.pow 2 53) : nearest n = n := by
  have short : n.log2 ≤ 52 := by
    by_cases zero : n = 0
    · simp [zero]
    · have := (Nat.log2_lt zero).mpr h
      omega
  have one : unit n = Nat.pow 2 0 := by
    simp [unit, Nat.sub_eq_zero_of_le short]
  have := roundedQuotient_mul (n := n) (d := 1) (by decide)
  simp_all [nearest]

end Binary64

end FixCorpus
