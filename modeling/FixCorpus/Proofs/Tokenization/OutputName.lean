import FixCorpus.Proofs.Dataset.Names
import FixCorpus.Proofs.Digest.ContentHash
import Mathlib.Data.Nat.Digits.Defs

/-! The names of output files. Main statement: different lists of parts are hashed as
different messages, so that the tokenized forms of two datapoints share a name only
if text, budget and mode are the same, or if the hashes of two different messages
begin with the same sixty-four bits. -/

namespace FixCorpus

open ContentHash Text

def outputParts (input : String) (settings : Settings) : List (List UInt8) :=
  [bytes input, bytes (toString settings.budget), bytes settings.mode.name]

theorem Mode.name_injective {m n : Mode} : m.name = n.name → m = n := by
  cases m <;> cases n <;> decide

theorem length_lt_of_mem_outputParts {input : String} {settings : Settings}
    (short : input.utf8ByteSize < 2 ^ 64) (fits : settings.budget ≤ greatestNat) :
    ∀ part ∈ outputParts input settings, part.length < 2 ^ 64 := by
  have digits : (bytes (toString settings.budget)).length ≤ 20 := by
    have few := Nat.toDigits_length 10 settings.budget 20 (by decide)
      (Nat.lt_of_le_of_lt fits (by decide))
    rw [length_bytes, Dataset.utf8ByteSize_toString, ← String.length_toList]
    exact Nat.toList_repr ▸ few
  have name : (bytes settings.mode.name).length < 2 ^ 64 := by
    cases settings.mode <;> decide
  simp only [outputParts, List.forall_mem_cons]
  exact ⟨short, by omega, name, nofun⟩

theorem outputParts_injective {input other : String} {s t : Settings}
    (same : outputParts input s = outputParts other t) :
    input = other ∧ s.budget = t.budget ∧ s.mode = t.mode := by
  simp only [outputParts, List.cons.injEq, and_true] at same
  obtain ⟨inputs, budgets, modes⟩ := same
  exact ⟨bytes_injective inputs, toString_injective (bytes_injective budgets),
    Mode.name_injective (bytes_injective modes)⟩

theorem outputFileName_eq (input : String) (settings : Settings) :
    outputFileName input settings = ofParts (outputParts input settings) ++ ".json" := rfl

theorem outputFileName_separates_parts :
    (∀ parts others : List (List UInt8), (∀ p ∈ parts, p.length < 2 ^ 64) →
      (∀ p ∈ others, p.length < 2 ^ 64) → parts ≠ others → framed parts ≠ framed others) ∧
    ∀ (input other : String) (s t : Settings), input.utf8ByteSize < 2 ^ 64 →
      other.utf8ByteSize < 2 ^ 64 → s.budget ≤ greatestNat → t.budget ≤ greatestNat →
      (outputFileName input s = outputFileName other t ↔
        (input = other ∧ s.budget = t.budget ∧ s.mode = t.mode) ∨
        (framed (outputParts input s) ≠ framed (outputParts other t) ∧
          hashHead (framed (outputParts input s)) = hashHead (framed (outputParts other t)))) := by
  refine ⟨fun parts others short others_short apart same =>
    apart (framed_injective short others_short same), ?_⟩
  intro input other s t short other_short fits other_fits
  rw [outputFileName_eq, outputFileName_eq, String.append_left_inj, ofParts_eq_iff]
  constructor
  · intro heads
    by_cases same : outputParts input s = outputParts other t
    · exact Or.inl (outputParts_injective same)
    · have messages : framed (outputParts input s) ≠ framed (outputParts other t) := fun framed_eq =>
        same (framed_injective (length_lt_of_mem_outputParts short fits)
          (length_lt_of_mem_outputParts other_short other_fits) framed_eq)
      exact Or.inr ⟨messages, heads⟩
  · rintro (⟨rfl, budget, mode⟩ | ⟨-, heads⟩)
    · rw [outputParts, outputParts, budget, mode]
    · exact heads

/-- The bytes of a part are those of a length, and input and budget make up the same text. -/
theorem outputFileName_separates_parts_of_same_bytes :
    let lengths : List (List UInt8) := [[], []]
    let zeros : List (List UInt8) := [[0, 0, 0, 0, 0, 0, 0, 0]]
    let s : Settings := ⟨1, .standard⟩
    let t : Settings := ⟨11, .standard⟩
    (∀ p ∈ lengths, p.length < 2 ^ 64) ∧ (∀ p ∈ zeros, p.length < 2 ^ 64) ∧
      framed lengths ≠ framed zeros ∧ "x1".utf8ByteSize < 2 ^ 64 ∧ "x".utf8ByteSize < 2 ^ 64 ∧
      s.budget ≤ greatestNat ∧ t.budget ≤ greatestNat ∧
      outputFileName "x1" s ≠ outputFileName "x" t := by
  intro lengths zeros s t
  obtain ⟨messages, names⟩ := outputFileName_separates_parts
  have short : ∀ p ∈ lengths, p.length < 2 ^ 64 := by decide
  have zeros_short : ∀ p ∈ zeros, p.length < 2 ^ 64 := by decide
  have named := names "x1" "x" s t (by decide) (by decide) (by decide) (by decide)
  have heads : hashHead (framed (outputParts "x1" s)) ≠ hashHead (framed (outputParts "x" t)) := by
    decide +kernel
  refine ⟨short, zeros_short, messages lengths zeros short zeros_short (by decide), by decide,
    by decide, by decide, by decide, fun same => ?_⟩
  rcases named.1 same with ⟨inputs, -⟩ | ⟨-, collision⟩
  · exact absurd inputs (by decide)
  · exact heads collision

end FixCorpus
