import FixCorpus.Json.Parser
import FixCorpus.Json.Printer
import FixCorpus.Proofs.Text.Decimal
import Mathlib.Tactic.SplitIfs

/-! Written strings and numbers are one lexeme each, and the spaces in front of a
lexeme do not matter. A number ends where its text does if nothing that could be
a part of it stands behind it. -/

namespace FixCorpus.Json

open Text

section

theorem hexDigit?_hexDigit {n : Nat} (small : n < 16) : hexDigit? (hexDigit n) = some n := by
  have all : ∀ n < 16, hexDigit? (hexDigit n) = some n := by decide
  exact all n small

def part (c : Char) : StringPart :=
  if c.toNat < 0x20 ∧ c ∉ ['\x08', '\x0C', '\n', '\r', '\t'] then .unit c.toNat else .char c

theorem stringParts_escapeChar (c : Char) (text : List Char) :
    stringParts (escapeChar c ++ text) =
      (stringParts text).map fun r => (part c :: r.1, r.2) := by
  unfold escapeChar
  split_ifs with quote backslash backspace feed newline return_ tab control
  -- the seven characters that have a letter of their own
  iterate 7
    · subst_vars
      cases found : stringParts text <;> simp [stringParts, escape?, part, found]
  · have high := hexDigit?_hexDigit (n := c.toNat / 16) (by omega)
    have low := hexDigit?_hexDigit (n := c.toNat % 16) (by omega)
    have zero : hexDigit? '0' = some 0 := by decide
    have unit_eq : unit? '0' '0' (hexDigit (c.toNat / 16)) (hexDigit (c.toNat % 16)) =
        some c.toNat := by
      simp only [unit?, zero, high, low, Option.bind_eq_bind, Option.bind_some, Option.pure_def,
        Option.some.injEq]
      omega
    have coded : part c = .unit c.toNat :=
      if_pos ⟨control, by simp [backspace, feed, newline, return_, tab]⟩
    cases found : stringParts text <;> simp [stringParts, unit_eq, coded, found]
  · have plain : part c = .char c := if_neg fun h => control h.1
    cases found : stringParts text <;> simp [stringParts, plain, found, control, backslash]

theorem stringParts_quoted (cs text : List Char) :
    stringParts (cs.flatMap escapeChar ++ '"' :: text) = some (cs.map part, text) := by
  induction cs with
  | nil => rfl
  | cons c cs ih =>
    rw [List.flatMap_cons, List.append_assoc, stringParts_escapeChar, ih]
    rfl

theorem joinParts_unit {n : Nat} (not_high : isHighHalf n = false) (not_low : isLowHalf n = false)
    (parts : List StringPart) :
    joinParts (.unit n :: parts) = (joinParts parts).map (Char.ofNat n :: ·) := by
  cases parts with
  | nil => simp [joinParts, not_high, not_low]
  | cons p parts =>
    cases p with
    | char c => simp [joinParts, not_high, not_low]
    | unit m => simp [joinParts, not_high, not_low]

theorem joinParts_map_part (cs : List Char) : joinParts (cs.map part) = some cs := by
  induction cs with
  | nil => rfl
  | cons c cs ih =>
    rw [List.map_cons, part]
    split_ifs with unit
    · have not_high : isHighHalf c.toNat = false := by
        simp only [isHighHalf, Bool.and_eq_false_iff, decide_eq_false_iff_not]
        omega
      have not_low : isLowHalf c.toNat = false := by
        simp only [isLowHalf, Bool.and_eq_false_iff, decide_eq_false_iff_not]
        omega
      rw [joinParts_unit not_high not_low, ih, Option.map_some, Char.ofNat_toNat]
    · rw [joinParts, ih]
      rfl

def EndsNumber (text : List Char) : Prop :=
  ∀ c ∈ text.head?, c.isDigit = false ∧ c ∉ ['.', 'e', 'E']

theorem EndsNumber.append {text rest : List Char} (front : EndsNumber text)
    (behind : EndsNumber rest) : EndsNumber (text ++ rest) := by
  intro c first
  rw [List.head?_append] at first
  cases text with
  | nil => exact behind c first
  | cons d text => exact front c first

section

variable {text rest : List Char}

theorem digits_append (nonempty : text ≠ []) (all_digits : ∀ c ∈ text, c.isDigit = true)
    (ends : EndsNumber rest) : digits (text ++ rest) = some (text, rest) := by
  have stops : rest.takeWhile Char.isDigit = [] ∧ rest.dropWhile Char.isDigit = rest := by
    cases rest with
    | nil => simp
    | cons c rest => simp [(ends c rfl).1]
  rw [digits, List.takeWhile_append_of_pos all_digits, List.dropWhile_append_of_pos all_digits,
    stops.1, stops.2, List.append_nil]
  cases text with
  | nil => exact absurd rfl nonempty
  | cons c text => rfl

theorem fractionPart_of_endsNumber (ends : EndsNumber rest) :
    fractionPart rest = some ([], rest) := by
  unfold fractionPart
  split
  · exact absurd (ends _ rfl).2 (by simp)
  · rfl

theorem exponentPart_of_endsNumber (ends : EndsNumber rest) :
    exponentPart rest = some (none, rest) := by
  cases rest with
  | nil => rfl
  | cons c rest =>
    have other : ¬(c = 'e' ∨ c = 'E') := by
      have := (ends c rfl).2
      simp_all
    simp [exponentPart, other]

theorem head?_toDigits_ne {n : Nat} (positive : 0 < n) :
    (Nat.toDigits 10 n).head? ≠ some '0' := by
  induction n using Nat.strongRecOn with
  | ind n ih =>
    by_cases small : n < 10
    · have all : ∀ n < 10, 0 < n → (Nat.toDigits 10 n).head? ≠ some '0' := by decide
      exact all n small positive
    · have parted : Nat.toDigits 10 n = Nat.toDigits 10 (n / 10) ++ [(n % 10).digitChar] :=
        Nat.toDigits_of_base_le (by decide) (by omega)
      have front := ih (n / 10) (by omega) (by omega)
      rw [parted, List.head?_append]
      cases digits : Nat.toDigits 10 (n / 10) with
      | nil => exact absurd digits Nat.toDigits_ne_nil
      | cons c cs => simpa [digits] using front

theorem wholePart_toDigits (n : Nat) (ends : EndsNumber rest) :
    wholePart (Nat.toDigits 10 n ++ rest) = some (Nat.toDigits 10 n, rest) := by
  have run : digits (Nat.toDigits 10 n ++ rest) = some (Nat.toDigits 10 n, rest) :=
    digits_append Nat.toDigits_ne_nil (fun c => isDigit_of_mem_toDigits) ends
  have minimal : ¬((Nat.toDigits 10 n).head? = some '0' ∧ 1 < (Nat.toDigits 10 n).length) := by
    rcases Nat.eq_zero_or_pos n with rfl | positive
    · decide
    · exact fun zero => head?_toDigits_ne positive zero.1
  simp only [wholePart, run, Option.bind_eq_bind, Option.bind_some, if_neg minimal, Option.pure_def]

theorem number_of_isDigit {c : Char} (digit : c.isDigit = true) :
    number (c :: text) = (wholePart (c :: text)).bind fun w => (fractionPart w.2).bind fun f =>
      (exponentPart f.2).bind fun e => some (Numeral.toJson false ⟨w.1, f.1, e.1⟩, e.2) := by
  have minus : c ≠ '-' := by
    rintro rfl
    cases digit
  simp [number, minus]

/-- The integers that keep their value. -/
def FitsJson (n : Int) : Prop :=
  leastInt ≤ n ∧ n ≤ (greatestNat : Int)

theorem number_toString {n : Int} (fits : FitsJson n) (ends : EndsNumber rest) :
    number ((toString n).toList ++ rest) = some (.int n, rest) := by
  have whole := fun m => wholePart_toDigits m ends
  have fraction := fractionPart_of_endsNumber ends
  have exponent := exponentPart_of_endsNumber ends
  rw [toList_toString]
  split
  · rename_i nonnegative
    cases run : Nat.toDigits 10 n.toNat with
    | nil => exact absurd run Nat.toDigits_ne_nil
    | cons c cs =>
      have digit := isDigit_of_mem_toDigits (n := n.toNat) (c := c) (by simp [run])
      have value : (digitsValue (c :: cs) : Int) = n := by
        rw [← run, digitsValue_toDigits, Int.toNat_of_nonneg nonnegative]
      have read := whole n.toNat
      rw [run] at read
      have not_large : ¬(greatestNat : Int) < n := Int.not_lt.2 fits.2
      rw [List.cons_append, number_of_isDigit digit, ← List.cons_append, read, Option.bind_some,
        fraction, Option.bind_some, exponent, Option.bind_some]
      simp [Numeral.toJson, value, not_large]
  · rename_i negative
    have value : (digitsValue (Nat.toDigits 10 (-n).toNat) : Int) = -n := by
      rw [digitsValue_toDigits, Int.toNat_of_nonneg (by omega)]
    have not_small : ¬(-n = 0 ∨ - -n < leastInt) := by
      have := fits.1
      omega
    simp only [List.cons_append, number, whole, fraction, exponent, Option.bind_eq_bind,
      Option.bind_some, Option.pure_def, Numeral.toJson, value, if_neg not_small]
    simp

end

end

end FixCorpus.Json
