import FixCorpus.Proofs.Text.Blank
import FixCorpus.Text.Decimal

/-! How numbers are written. A written number is a single word, and its digits are
read as the number they spell. -/

namespace FixCorpus.Text

/-- The number is one that 64 bits hold with a sign. -/
def FitsInt (n : Int) : Prop :=
  leastInt ≤ n ∧ n ≤ greatestInt

instance (n : Int) : Decidable (FitsInt n) :=
  inferInstanceAs (Decidable (_ ∧ _))

theorem digitsValue_toDigits (n : Nat) : digitsValue (Nat.toDigits 10 n) = n := by
  have value := Nat.ofDigitChars_ten_toDigits (n := n)
  rw [Nat.ofDigitChars_eq_foldl] at value
  simpa only [digitsValue, Nat.mul_comm] using value

theorem isDigit_of_mem_toDigits {n : Nat} {c : Char} (member : c ∈ Nat.toDigits 10 n) :
    c.isDigit = true :=
  Nat.isDigit_of_mem_toDigits (by decide) (by decide) member

theorem toList_toString (n : Int) :
    (toString n).toList =
      if 0 ≤ n then Nat.toDigits 10 n.toNat else '-' :: Nat.toDigits 10 (-n).toNat := by
  rw [Int.toString_eq_repr, Int.repr_eq_if]
  split
  · exact Nat.toList_repr
  · simp

theorem toString_ne_empty (n : Int) : toString n ≠ "" := by
  intro empty
  have chars := congrArg String.toList empty
  rw [toList_toString] at chars
  split at chars
  · exact Nat.toDigits_ne_nil chars
  · cases chars

theorem toString_injective {m n : Nat} (same : toString m = toString n) : m = n := by
  have digits : Nat.toDigits 10 m = Nat.toDigits 10 n := by
    rw [← Nat.toList_repr, ← Nat.toList_repr]
    exact congrArg String.toList same
  rw [← digitsValue_toDigits m, digits, digitsValue_toDigits]

theorem solid_toDigits (n : Nat) : Solid (Nat.toDigits 10 n) :=
  fun _ member => isBlank_of_isDigit (isDigit_of_mem_toDigits member)

theorem solid_toString (n : Int) : Solid (toString n).toList := by
  rw [toList_toString]
  split
  · exact solid_toDigits _
  · exact solid_cons.2 ⟨by decide, solid_toDigits _⟩

end FixCorpus.Text
