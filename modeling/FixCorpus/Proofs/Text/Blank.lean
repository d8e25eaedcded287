import FixCorpus.Text.Blank
import FixCorpus.Text.Lines
import FixCorpus.Text.Word
import Mathlib.Data.List.TakeWhile

/-! Blanks and the other classes of characters have nothing in common: no blank
belongs to a word, to an identifier or to a number. A blank is one of a short
list of characters, on which every class can be evaluated. -/

namespace FixCorpus.Text

def charsOf (ranges : List Range) : List Char :=
  ranges.flatMap fun r => (List.range' r.1 (r.2 + 1 - r.1)).map Char.ofNat

theorem mem_charsOf {ranges : List Range} {c : Char} (h : inRanges ranges c = true) :
    c ∈ charsOf ranges := by
  obtain ⟨r, member, first, last⟩ := inRanges_iff.1 h
  refine List.mem_flatMap.2 ⟨r, member, List.mem_map.2 ⟨c.toNat, ?_, Char.ofNat_toNat c⟩⟩
  rw [List.mem_range'_1]
  omega

def Solid (text : List Char) : Prop :=
  ∀ c ∈ text, isBlank c = false

instance (text : List Char) : Decidable (Solid text) :=
  List.decidableBAll (isBlank · = false) text

@[simp] theorem solid_nil : Solid [] :=
  List.forall_mem_nil _

@[simp] theorem solid_cons {c : Char} {text : List Char} :
    Solid (c :: text) ↔ isBlank c = false ∧ Solid text :=
  List.forall_mem_cons

@[simp] theorem solid_append {a b : List Char} : Solid (a ++ b) ↔ Solid a ∧ Solid b :=
  List.forall_mem_append

theorem solid_takeWhile {p : Char → Bool} (outside : ∀ {c}, p c = true → isBlank c = false)
    (text : List Char) : Solid (text.takeWhile p) :=
  fun _ member => outside (List.mem_takeWhile_imp member)

theorem isBlank_eq_false_of_class {p : Char → Bool}
    (disjoint : (charsOf blankRanges).any p = false) {c : Char} (h : p c = true) :
    isBlank c = false := by
  cases blank : isBlank c with
  | false => rfl
  | true =>
    have outside := List.any_eq_false.1 disjoint c (mem_charsOf blank)
    exact absurd h outside

theorem isBlank_of_isWordChar {c : Char} (h : isWordChar c = true) : isBlank c = false :=
  isBlank_eq_false_of_class (by decide +kernel) h

theorem isBlank_of_isIdentifierChar {c : Char} (h : isIdentifierChar c = true) :
    isBlank c = false :=
  isBlank_eq_false_of_class (by decide +kernel) h

theorem isBlank_of_isDigit {c : Char} (h : c.isDigit = true) : isBlank c = false :=
  isBlank_eq_false_of_class (by decide +kernel) h

theorem isBlank_of_isAlpha {c : Char} (h : c.isAlpha = true) : isBlank c = false :=
  isBlank_eq_false_of_class (by decide +kernel) h

theorem blank_of_lt {c : Char} (h : isBlank c = true) (ascii : c.toNat < 128) :
    c = ' ' ∨ c = '\n' ∨ c = '\t' ∨ c = '\r' ∨ c = '\x0B' ∨ c = '\x0C' := by
  have listed : (charsOf blankRanges).filter (·.toNat < 128) =
      ['\t', '\n', '\x0B', '\x0C', '\r', ' '] := by decide +kernel
  have member : c ∈ (charsOf blankRanges).filter (·.toNat < 128) :=
    List.mem_filter.2 ⟨mem_charsOf h, decide_eq_true ascii⟩
  rw [listed] at member
  simp only [List.mem_cons, List.not_mem_nil, or_false] at member
  rcases member with rfl | rfl | rfl | rfl | rfl | rfl <;> decide

end FixCorpus.Text
