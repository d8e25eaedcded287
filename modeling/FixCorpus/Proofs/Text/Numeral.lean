import FixCorpus.Proofs.Text.Decimal

/-! The numerals that are read as numbers: digits behind a sign or none, if 64 bits
hold the number that they spell. -/

namespace FixCorpus.Text

inductive Numeral : List Char → Int → Prop where
  | plain {digits : List Char} (nonempty : digits ≠ []) (decimal : digits.all Char.isDigit) :
      Numeral digits (digitsValue digits)
  | plus {digits : List Char} (nonempty : digits ≠ []) (decimal : digits.all Char.isDigit) :
      Numeral ('+' :: digits) (digitsValue digits)
  | minus {digits : List Char} (nonempty : digits ≠ []) (decimal : digits.all Char.isDigit) :
      Numeral ('-' :: digits) (-digitsValue digits)

def checkedInt (n : Int) : Option Int :=
  if FitsInt n then some n else none

theorem checkedInt_eq_some {m n : Int} : checkedInt m = some n ↔ m = n ∧ FitsInt n := by
  unfold checkedInt
  split
  · rename_i fits
    exact ⟨fun same => ⟨Option.some.inj same, Option.some.inj same ▸ fits⟩,
      fun same => congrArg some same.1⟩
  · rename_i wide
    exact ⟨nofun, fun same => absurd (same.1 ▸ same.2) wide⟩

theorem natural?_eq_some {text : List Char} {n : Nat} :
    natural? text = some n ↔ text ≠ [] ∧ text.all Char.isDigit ∧ digitsValue text = n := by
  unfold natural?
  split
  · rename_i digits
    simp [digits]
  · rename_i other
    exact ⟨nofun, fun digits => absurd ⟨digits.1, digits.2.1⟩ other⟩

theorem integer?_minus (digits : List Char) :
    integer? ('-' :: digits) = (natural? digits).bind fun k => checkedInt (-k) := by
  simp only [integer?]
  cases natural? digits <;> rfl

theorem integer?_plus (digits : List Char) :
    integer? ('+' :: digits) = (natural? digits).bind fun k => checkedInt k := by
  simp only [integer?]
  cases natural? digits <;> rfl

theorem integer?_of_unsigned {text : List Char} (no_minus : text.head? ≠ some '-')
    (no_plus : text.head? ≠ some '+') :
    integer? text = (natural? text).bind fun k => checkedInt k := by
  unfold integer?
  split
  · exact absurd rfl no_minus
  · exact absurd rfl no_plus
  · cases natural? text <;> rfl

theorem checked_digits_eq_some {digits : List Char} {signed : Nat → Int} {n : Int} :
    ((natural? digits).bind fun k => checkedInt (signed k)) = some n ↔
      digits ≠ [] ∧ digits.all Char.isDigit ∧ signed (digitsValue digits) = n ∧ FitsInt n := by
  simp only [Option.bind_eq_some_iff, natural?_eq_some, checkedInt_eq_some]
  constructor
  · rintro ⟨k, ⟨nonempty, decimal, rfl⟩, same, fits⟩
    exact ⟨nonempty, decimal, same, fits⟩
  · rintro ⟨nonempty, decimal, same, fits⟩
    exact ⟨_, ⟨nonempty, decimal, rfl⟩, same, fits⟩

theorem numeral_of_integer? {text : List Char} {n : Int} (value : integer? text = some n) :
    Numeral text n ∧ FitsInt n := by
  by_cases minus : text.head? = some '-'
  · obtain ⟨digits, rfl⟩ := List.head?_eq_some_iff.1 minus
    rw [integer?_minus] at value
    obtain ⟨nonempty, decimal, rfl, fits⟩ := checked_digits_eq_some.1 value
    exact ⟨.minus nonempty decimal, fits⟩
  by_cases plus : text.head? = some '+'
  · obtain ⟨digits, rfl⟩ := List.head?_eq_some_iff.1 plus
    rw [integer?_plus] at value
    obtain ⟨nonempty, decimal, rfl, fits⟩ := checked_digits_eq_some.1 value
    exact ⟨.plus nonempty decimal, fits⟩
  · rw [integer?_of_unsigned minus plus] at value
    obtain ⟨nonempty, decimal, rfl, fits⟩ := checked_digits_eq_some.1 value
    exact ⟨.plain nonempty decimal, fits⟩

theorem integer?_of_numeral {text : List Char} {n : Int} (numeral : Numeral text n)
    (fits : FitsInt n) : integer? text = some n := by
  cases numeral with
  | plain nonempty decimal =>
    have digit : ∀ c ∈ text.head?, c.isDigit = true := fun c first =>
      List.all_eq_true.1 decimal c (List.mem_of_head? first)
    have unsigned : ∀ sign, sign.isDigit = false → text.head? ≠ some sign := fun sign other first =>
      absurd (digit sign first) (by simp [other])
    rw [integer?_of_unsigned (unsigned '-' rfl) (unsigned '+' rfl)]
    exact checked_digits_eq_some.2 ⟨nonempty, decimal, rfl, fits⟩
  | plus nonempty decimal =>
    rw [integer?_plus]
    exact checked_digits_eq_some.2 ⟨nonempty, decimal, rfl, fits⟩
  | minus nonempty decimal =>
    rw [integer?_minus]
    exact checked_digits_eq_some.2 ⟨nonempty, decimal, rfl, fits⟩

theorem integer?_eq_some {text : List Char} {n : Int} :
    integer? text = some n ↔ Numeral text n ∧ FitsInt n :=
  ⟨numeral_of_integer?, fun spelled => integer?_of_numeral spelled.1 spelled.2⟩

theorem numeral_toString (n : Int) : Numeral (toString n).toList n := by
  have decimal : ∀ k, (Nat.toDigits 10 k).all Char.isDigit = true := fun k =>
    List.all_eq_true.2 fun c => isDigit_of_mem_toDigits
  rw [toList_toString]
  split
  · rename_i nonnegative
    have written := Numeral.plain Nat.toDigits_ne_nil (decimal n.toNat)
    rwa [digitsValue_toDigits, Int.toNat_of_nonneg nonnegative] at written
  · rename_i negative
    have written := Numeral.minus Nat.toDigits_ne_nil (decimal (-n).toNat)
    have same : -((-n).toNat : Int) = n := by omega
    rwa [digitsValue_toDigits, same] at written

theorem integer?_toString {n : Int} (fits : FitsInt n) : integer? (toString n).toList = some n :=
  integer?_eq_some.2 ⟨numeral_toString n, fits⟩

end FixCorpus.Text
