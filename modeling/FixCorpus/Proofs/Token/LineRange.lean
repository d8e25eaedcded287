import FixCorpus.Proofs.Text.Lines
import FixCorpus.Proofs.Token.Spelling
import FixCorpus.Token.LineIndex

/-! The tokens of a range of lines. An index finds them by the newline tokens
before them, and in the text that the tokens stand for they are the lines of
these numbers. -/

namespace FixCorpus

open Text

def EndsLine (tokens : List Token) : Prop :=
  ∀ t ∈ tokens.getLast?, t.isNewline = true

theorem endsLine_append_singleton {t : Token} (newline : t.isNewline = true) (tokens : List Token) :
    EndsLine (tokens ++ [t]) := by
  simp [EndsLine, newline]

theorem EndsLine.complete_spell {tokens : List Token} (h : EndsLine tokens)
    (lexical : ∀ t ∈ tokens, t.Lexical) : Complete (spell tokens) := by
  cases last : tokens.getLast? with
  | none =>
    rw [List.getLast?_eq_none_iff.1 last]
    exact complete_nil
  | some t =>
    obtain ⟨front, rfl⟩ := List.getLast?_eq_some_iff.1 last
    have newline := (lexical t (by simp)).spelling_of_isNewline (h t last)
    rw [spell_append, spell_cons, newline]
    exact complete_append_newline _

theorem EndsLine.of_append {a b : List Token} (h : EndsLine (a ++ b)) : EndsLine b := by
  intro t last
  refine h t ?_
  rw [List.getLast?_append, Option.mem_def.1 last]
  rfl

theorem EndsLine.newlineCount_pos {tokens : List Token} (h : EndsLine tokens)
    (nonempty : tokens ≠ []) : 0 < newlineCount tokens :=
  List.countP_pos_iff.2 ⟨tokens.getLast nonempty, List.getLast_mem nonempty,
    h _ (List.getLast?_eq_some_getLast nonempty)⟩

theorem endsLine_iff_complete {tokens : List Token} (lexical : ∀ t ∈ tokens, t.Lexical) :
    EndsLine tokens ↔ Complete (spell tokens) := by
  refine ⟨fun ends => ends.complete_spell lexical, fun complete t last => ?_⟩
  obtain ⟨front, rfl⟩ := List.getLast?_eq_some_iff.1 last
  have t_lexical := lexical t (by simp)
  rw [spell_append, spell_cons, spell_nil, List.append_nil] at complete
  rcases complete.of_append.eq_nil_or with nothing | ⟨chars, spelled⟩
  · exact absurd nothing t_lexical.spelling_ne_nil
  · exact t_lexical.isNewline_of_mem (by simp [spelled])

@[simp] theorem newlineCount_append (a b : List Token) :
    newlineCount (a ++ b) = newlineCount a + newlineCount b :=
  List.countP_append

theorem append_of_length_le {α : Type} {a b c d : List α} (same : a ++ b = c ++ d)
    (le : a.length ≤ c.length) : ∃ m, c = a ++ m ∧ b = m ++ d := by
  rcases List.append_eq_append_iff.1 same with ⟨m, rfl, rfl⟩ | ⟨m, rfl, rfl⟩
  · exact ⟨m, rfl, rfl⟩
  · have none : m = [] := List.length_eq_zero_iff.1 (by simp only [List.length_append] at le; omega)
    exact ⟨[], by simp [none], by simp [none]⟩

/-- The tokens `shown` are those of the lines from `first` to `last`, counted from 0; the last one
of these lines may be the one that no newline ends. -/
structure LineRange (tokens : List Token) (first last : Nat) (before shown after : List Token) :
    Prop where
  ordered : first ≤ last
  parts : tokens = before ++ shown ++ after
  nonempty : shown ≠ []
  ends_before : EndsLine before
  count_before : newlineCount before = first
  ends_shown : (EndsLine (before ++ shown) ∧ newlineCount (before ++ shown) = last + 1) ∨
    (after = [] ∧ newlineCount tokens = last)

namespace LineIndex

theorem getElem?_startsFrom {tokens : List Token} {i k start : Nat}
    (found : (startsFrom i tokens)[k]? = some start) :
    ∃ before t after, tokens = before ++ t :: after ∧ t.isNewline = true ∧
      newlineCount before = k ∧ start = i + before.length + 1 := by
  induction tokens generalizing i k with
  | nil => simp [startsFrom] at found
  | cons t tokens ih =>
    rw [startsFrom] at found
    split at found
    · rename_i newline
      cases k with
      | zero => exact ⟨[], t, tokens, rfl, newline, rfl, by simpa using found.symm⟩
      | succ k =>
        obtain ⟨before, u, after, rfl, ends, count, rfl⟩ := ih (by simpa using found)
        refine ⟨t :: before, u, after, rfl, ends, ?_, by simp only [List.length_cons]; omega⟩
        simpa [newlineCount, newline] using count
    · rename_i inside
      obtain ⟨before, u, after, rfl, ends, count, rfl⟩ := ih found
      refine ⟨t :: before, u, after, rfl, ends, ?_, by simp only [List.length_cons]; omega⟩
      simpa [newlineCount, inside] using count

theorem getElem?_starts {tokens : List Token} {k start : Nat}
    (found : (ofTokens tokens).starts[k]? = some start) :
    ∃ before after, tokens = before ++ after ∧ before.length = start ∧ EndsLine before ∧
      newlineCount before = k := by
  cases k with
  | zero => exact ⟨[], tokens, rfl, by simpa [ofTokens] using found, by simp [EndsLine], rfl⟩
  | succ k =>
    obtain ⟨before, t, after, rfl, newline, rfl, rfl⟩ :=
      getElem?_startsFrom (i := 0) (k := k) (by simpa [ofTokens] using found)
    refine ⟨before ++ [t], after, by simp, by simp, endsLine_append_singleton newline before, ?_⟩
    simp [newlineCount, newline]

theorem lineRange_of_tokenRange? {tokens : List Token} {first last a b : Nat}
    (found : (ofTokens tokens).tokenRange? first last = some (a, b)) :
    ∃ before shown after, LineRange tokens first last before shown after ∧
      before.length = a ∧ (before ++ shown).length = b + 1 := by
  simp only [tokenRange?, Option.ite_none_right_eq_some, Option.some.injEq, Prod.mk.injEq] at found
  obtain ⟨⟨ordered, bound⟩, start_lt_stop, rfl, rfl⟩ := found
  have at_first := List.getElem?_eq_getElem (Nat.lt_of_le_of_lt ordered bound)
  rw [List.getD_eq_getElem?_getD, at_first, Option.getD_some] at start_lt_stop ⊢
  obtain ⟨before, rest, parted, length_before, ends_before, count_before⟩ :=
    getElem?_starts at_first
  rw [← length_before] at start_lt_stop ⊢
  rw [List.getD_eq_getElem?_getD] at start_lt_stop ⊢
  -- The next line says where the range stops; behind the last line there is none.
  cases at_stop : (ofTokens tokens).starts[last + 1]? with
  | some stop =>
    rw [at_stop, Option.getD_some] at start_lt_stop
    obtain ⟨front, after, parted_stop, rfl, ends_front, count_front⟩ := getElem?_starts at_stop
    obtain ⟨shown, rfl, -⟩ :=
      append_of_length_le (parted.symm.trans parted_stop) (Nat.le_of_lt start_lt_stop)
    refine ⟨before, shown, after, ⟨ordered, parted_stop, ?_, ends_before, count_before,
      Or.inl ⟨ends_front, count_front⟩⟩, rfl, ?_⟩
    · rintro rfl
      simp at start_lt_stop
    · rw [Option.getD_some]
      omega
  | none =>
    rw [at_stop, Option.getD_none] at start_lt_stop
    have few := List.getElem?_eq_none_iff.1 at_stop
    have count := length_starts tokens
    have length : (ofTokens tokens).tokenCount = (before ++ rest).length :=
      congrArg List.length parted
    refine ⟨before, rest, [], ⟨ordered, by simpa using parted, ?_, ends_before, count_before,
      Or.inr ⟨rfl, by omega⟩⟩, rfl, ?_⟩
    · rintro rfl
      rw [length, List.append_nil] at start_lt_stop
      exact Nat.lt_irrefl _ start_lt_stop
    · rw [Option.getD_none]
      omega

theorem bounds_of_tokenRange? {tokens : List Token} {first last a b : Nat}
    (found : (ofTokens tokens).tokenRange? first last = some (a, b)) :
    a ≤ b ∧ b < tokens.length := by
  obtain ⟨before, shown, after, lines, length_before, length_shown⟩ :=
    lineRange_of_tokenRange? found
  have some_shown := List.length_pos_iff.2 lines.nonempty
  have parts := congrArg List.length lines.parts
  simp only [List.length_append] at length_shown parts
  omega

theorem exists_start {tokens : List Token} {k : Nat} (le : k ≤ newlineCount tokens) :
    ∃ before after, tokens = before ++ after ∧
      (ofTokens tokens).starts[k]? = some before.length ∧ EndsLine before ∧
      newlineCount before = k := by
  have bound : k < (ofTokens tokens).starts.length := by
    rw [length_starts]
    omega
  have at_k := List.getElem?_eq_getElem bound
  obtain ⟨before, after, parted, length, ends, count⟩ := getElem?_starts at_k
  exact ⟨before, after, parted, length ▸ at_k, ends, count⟩

theorem tokenRange?_eq_none_iff {tokens : List Token} {first last : Nat} (ordered : first ≤ last)
    (inside : last ≤ newlineCount tokens) :
    (ofTokens tokens).tokenRange? first last = none ↔
      first = newlineCount tokens ∧ EndsLine tokens := by
  have count := length_starts tokens
  obtain ⟨before, after, parted, at_first, ends_before, count_before⟩ :=
    exists_start (Nat.le_trans ordered inside)
  have total : newlineCount tokens = newlineCount before + newlineCount after := by
    rw [parted, newlineCount_append]
  have in_index : first ≤ last ∧ last < (ofTokens tokens).starts.length := by omega
  simp only [tokenRange?, if_pos in_index, List.getD_eq_getElem?_getD, at_first, Option.getD_some]
  by_cases more : last < newlineCount tokens
  · -- behind the range there is another line, which begins behind further newlines
    obtain ⟨front, rest, parted_stop, at_stop, -, count_front⟩ := exists_start more
    have longer : before.length < front.length := by
      refine Nat.lt_of_not_le fun shorter => ?_
      obtain ⟨m, rfl, -⟩ := append_of_length_le (parted_stop.symm.trans parted) shorter
      rw [newlineCount_append] at count_before
      omega
    rw [at_stop, Option.getD_some, if_pos longer]
    simp only [reduceCtorEq, false_iff]
    omega
  · have no_stop : (ofTokens tokens).starts[last + 1]? = none :=
      List.getElem?_eq_none_iff.2 (by omega)
    have length : (ofTokens tokens).tokenCount = before.length + after.length := by
      rw [← List.length_append, ← parted]
      rfl
    rw [no_stop, Option.getD_none, length]
    by_cases empty : after = []
    · rw [empty, List.append_nil] at parted
      simp [empty, parted, ends_before, count_before]
    · have longer : before.length < before.length + after.length :=
        Nat.lt_add_of_pos_right (List.length_pos_iff.2 empty)
      rw [if_pos longer]
      simp only [reduceCtorEq, false_iff]
      rintro ⟨same, ends⟩
      have further := (parted ▸ ends).of_append.newlineCount_pos empty
      omega

end LineIndex

namespace LineRange

variable {tokens before shown after : List Token} {first last : Nat}

theorem complete_before (h : LineRange tokens first last before shown after)
    (lexical : ∀ t ∈ tokens, t.Lexical) : Complete (spell before) :=
  h.ends_before.complete_spell fun t member => lexical t (by simp [h.parts, member])

theorem count_spell_before (h : LineRange tokens first last before shown after)
    (lexical : ∀ t ∈ tokens, t.Lexical) : (spell before).count '\n' = first := by
  rw [← newlineCount_eq fun t member => lexical t (by simp [h.parts, member]), h.count_before]

theorem complete_shown (h : LineRange tokens first last before shown after)
    (lexical : ∀ t ∈ tokens, t.Lexical) : Complete (spell shown) ∨ after = [] := by
  refine h.ends_shown.imp (fun ends => ?_) fun rest => rest.1
  have whole := ends.1.complete_spell fun t member => lexical t (by
    rw [h.parts]
    exact List.mem_append_left _ member)
  rw [spell_append] at whole
  exact whole.of_append

theorem lines_shown_append (h : LineRange tokens first last before shown after)
    (lexical : ∀ t ∈ tokens, t.Lexical) {rest : List Char} (none : after = [] → rest = []) :
    lines (spell shown ++ rest) = lines (spell shown) ++ lines rest := by
  rcases h.complete_shown lexical with complete | nothing
  · exact lines_append complete rest
  · simp [none nothing]

theorem lines_spell (h : LineRange tokens first last before shown after)
    (lexical : ∀ t ∈ tokens, t.Lexical) :
    lines (spell tokens) =
      lines (spell before) ++ (lines (spell shown) ++ lines (spell after)) := by
  rw [h.parts, List.append_assoc, spell_append, spell_append,
    lines_append (h.complete_before lexical), h.lines_shown_append lexical fun none => none ▸ rfl]

theorem length_lines_before (h : LineRange tokens first last before shown after)
    (lexical : ∀ t ∈ tokens, t.Lexical) : (lines (spell before)).length = first := by
  rw [length_lines (h.complete_before lexical), h.count_spell_before lexical]

theorem length_lines_shown (h : LineRange tokens first last before shown after)
    (lexical : ∀ t ∈ tokens, t.Lexical) (ends : EndsLine (before ++ shown))
    (count : newlineCount (before ++ shown) = last + 1) :
    first + (lines (spell shown)).length = last + 1 := by
  have lexical_shown : ∀ t ∈ before ++ shown, t.Lexical := fun t member =>
    lexical t (h.parts ▸ List.mem_append_left _ member)
  have length := length_lines (ends.complete_spell lexical_shown)
  rwa [← newlineCount_eq lexical_shown, count, spell_append,
    lines_append (h.complete_before lexical), List.length_append,
    h.length_lines_before lexical] at length

theorem le_length (h : LineRange tokens first last before shown after)
    (lexical : ∀ t ∈ tokens, t.Lexical) {i : Nat} (le_last : i ≤ last + 1)
    (le_total : i ≤ (lines (spell tokens)).length) :
    i ≤ first + (lines (spell shown)).length := by
  rcases h.ends_shown with ⟨ends, count⟩ | ⟨rfl, -⟩
  · have length := h.length_lines_shown lexical ends count
    omega
  · have total := congrArg List.length (h.lines_spell lexical)
    simp only [List.length_append, h.length_lines_before lexical, spell_nil, lines_nil,
      List.length_nil] at total
    omega

end LineRange

end FixCorpus
