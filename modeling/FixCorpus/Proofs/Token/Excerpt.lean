import FixCorpus.Proofs.Token.LineRange

/-! A piece of a list of tokens around the lines it has to show. It may part a
line at its beginning and at its end, but none of those it shows, and newline
tokens cut off before it count the lines that its own line numbers lack. -/

namespace FixCorpus

open Text

/-- A piece of a list of tokens that shows the lines from `first` to `last`, counted from 0. It
begins at any token before them and ends at any token behind them. -/
structure Excerpt (tokens : List Token) (first last : Nat) where
  before : List Token
  lead : List Token
  shown : List Token
  trail : List Token
  after : List Token
  range : LineRange tokens first last (before ++ lead) shown (trail ++ after)

namespace Excerpt

variable {tokens : List Token} {first last : Nat}

def window (e : Excerpt tokens first last) : List Token :=
  e.lead ++ e.shown ++ e.trail

def startLine (e : Excerpt tokens first last) : Int :=
  newlineCount e.before + 1

theorem parts (e : Excerpt tokens first last) : tokens = e.before ++ e.window ++ e.after := by
  simpa [window] using e.range.parts

theorem spell_parts (e : Excerpt tokens first last) :
    spell tokens = spell e.before ++ spell e.window ++ spell e.after := by
  rw [← spell_append, ← spell_append, ← e.parts]

theorem mem_of_mem_window (e : Excerpt tokens first last) {t : Token} (member : t ∈ e.window) :
    t ∈ tokens := by
  rw [e.parts]
  exact List.mem_append_left _ (List.mem_append_right _ member)

theorem spell_window_ne_nil (e : Excerpt tokens first last) (lexical : ∀ t ∈ tokens, t.Lexical) :
    spell e.window ≠ [] := by
  refine spell_ne_nil ?_ fun t member => lexical t (e.mem_of_mem_window member)
  exact List.append_ne_nil_of_left_ne_nil (List.append_ne_nil_of_right_ne_nil _ e.range.nonempty) _

theorem complete_lead (e : Excerpt tokens first last) (lexical : ∀ t ∈ tokens, t.Lexical) :
    Complete (spell e.lead) := by
  have complete := e.range.complete_before lexical
  rw [spell_append] at complete
  exact complete.of_append

theorem count_before_add_length (e : Excerpt tokens first last)
    (lexical : ∀ t ∈ tokens, t.Lexical) :
    newlineCount e.before + (lines (spell e.lead)).length = first := by
  have count := e.range.count_before
  rw [newlineCount_append] at count
  rw [length_lines (e.complete_lead lexical), ← newlineCount_eq fun t member =>
    lexical t (by simp [e.range.parts, member]), count]

theorem lines_window (e : Excerpt tokens first last) (lexical : ∀ t ∈ tokens, t.Lexical) :
    lines (spell e.window) =
      lines (spell e.lead) ++ (lines (spell e.shown) ++ lines (spell e.trail)) := by
  rw [window, List.append_assoc, spell_append, spell_append,
    lines_append (e.complete_lead lexical)]
  refine congrArg _ (e.range.lines_shown_append lexical fun none => ?_)
  simp [(List.append_eq_nil_iff.1 none).1]

theorem getElem?_lines_window (e : Excerpt tokens first last)
    (lexical : ∀ t ∈ tokens, t.Lexical) {i : Nat} (first_le : first ≤ i) (le_last : i ≤ last)
    (lt : i < (lines (spell tokens)).length) :
    newlineCount e.before ≤ i ∧
      (lines (spell e.window))[i - newlineCount e.before]? = (lines (spell tokens))[i]? := by
  have cut := e.count_before_add_length lexical
  have inside := e.range.le_length lexical (Nat.succ_le_succ le_last) (Nat.succ_le_of_lt lt)
  have length_before := e.range.length_lines_before lexical
  refine ⟨by omega, ?_⟩
  rw [e.lines_window lexical, e.range.lines_spell lexical,
    List.getElem?_append_right (by omega), List.getElem?_append_left (by omega),
    List.getElem?_append_right (by omega), List.getElem?_append_left (by omega), length_before]
  congr 1
  omega

end Excerpt

end FixCorpus
