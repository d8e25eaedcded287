import Mathlib.Data.List.Basic
import Mathlib.Order.Monotone.Basic
import FixCorpus.Proofs.Lexer.Code
import FixCorpus.Proofs.Token.LineRange

/-! The lines of a source in its tokens. An index of the tokens has the lines
that an editor sees, the tokens of each of them stand for its text, and the
ranges of neighbouring lines follow each other without a gap. -/

namespace FixCorpus

open Text

namespace LineIndex

def positions : Option (Nat × Nat) → List Nat
  | none => []
  | some (a, b) => List.range' a (b + 1 - a)

/-- Where a line begins; behind the last line that is where the tokens end. -/
def bound (index : LineIndex) (k : Nat) : Nat :=
  index.starts.getD k index.tokenCount

theorem positions_tokenRange? {index : LineIndex} {first last : Nat} (ordered : first ≤ last)
    (inside : last < index.lineCount) :
    positions (index.tokenRange? first last) =
      List.range' (index.bound first) (index.bound (last + 1) - index.bound first) := by
  have first_start : index.starts.getD first 0 = index.bound first := by
    have found := List.getElem?_eq_getElem (Nat.lt_of_le_of_lt ordered inside)
    rw [bound, List.getD_eq_getElem?_getD, List.getD_eq_getElem?_getD, found]
    rfl
  have in_index : first ≤ last ∧ last < index.starts.length := ⟨ordered, inside⟩
  rw [tokenRange?, if_pos in_index, first_start]
  change positions (if index.bound first < index.bound (last + 1)
    then some (index.bound first, index.bound (last + 1) - 1) else none) = _
  split
  · rename_i nonempty
    rw [positions, Nat.sub_add_cancel (Nat.one_le_of_lt nonempty)]
  · rename_i empty
    rw [positions, Nat.sub_eq_zero_of_le (Nat.le_of_not_lt empty), List.range'_zero]

theorem bounds_of_mem_startsFrom {tokens : List Token} {i start : Nat}
    (member : start ∈ startsFrom i tokens) : i < start ∧ start ≤ i + tokens.length := by
  induction tokens generalizing i with
  | nil => cases member
  | cons t tokens ih =>
    rw [startsFrom] at member
    rw [List.length_cons]
    split at member
    · rcases List.mem_cons.1 member with rfl | later
      · omega
      · have := ih later
        omega
    · have := ih member
      omega

theorem pairwise_startsFrom (i : Nat) (tokens : List Token) :
    (startsFrom i tokens).Pairwise (· < ·) := by
  induction tokens generalizing i with
  | nil => exact .nil
  | cons t tokens ih =>
    rw [startsFrom]
    split
    · exact .cons (fun start later => (bounds_of_mem_startsFrom later).1) (ih (i + 1))
    · exact ih (i + 1)

theorem monotone_bound (tokens : List Token) : Monotone (ofTokens tokens).bound := by
  have increasing : (ofTokens tokens).starts.Pairwise (· < ·) :=
    .cons (fun start later => (bounds_of_mem_startsFrom later).1) (pairwise_startsFrom 0 tokens)
  have inside : ∀ start ∈ (ofTokens tokens).starts, start ≤ tokens.length :=
    List.forall_mem_cons.2 ⟨Nat.zero_le _, fun start later => by
      simpa using (bounds_of_mem_startsFrom later).2⟩
  refine monotone_nat_of_le_succ fun k => ?_
  rw [bound, bound, List.getD_eq_getElem?_getD, List.getD_eq_getElem?_getD]
  by_cases next : k + 1 < (ofTokens tokens).starts.length
  · rw [List.getElem?_eq_getElem next, List.getElem?_eq_getElem (Nat.lt_of_succ_lt next)]
    exact Nat.le_of_lt (List.pairwise_iff_getElem.1 increasing k (k + 1) _ _ k.lt_succ_self)
  · rw [List.getElem?_eq_none (Nat.le_of_not_lt next), Option.getD_none]
    cases found : (ofTokens tokens).starts[k]? with
    | none => exact Nat.le_refl _
    | some start => exact inside start (List.mem_of_getElem? found)

theorem flatMap_range' {bound : Nat → Nat} (mono : Monotone bound) (first n : Nat) :
    ((List.range' first n).flatMap fun k => List.range' (bound k) (bound (k + 1) - bound k)) =
      List.range' (bound first) (bound (first + n) - bound first) := by
  induction n with
  | zero => simp
  | succ n ih =>
    obtain ⟨front, at_front⟩ := Nat.exists_eq_add_of_le (mono (Nat.le_add_right first n))
    obtain ⟨back, at_back⟩ := Nat.exists_eq_add_of_le (mono (first + n).le_succ)
    rw [List.range'_1_concat, List.flatMap_append, ih, List.flatMap_singleton,
      ← Nat.add_assoc first n 1, at_back, at_front, Nat.add_sub_cancel_left,
      Nat.add_sub_cancel_left, List.range'_append_1, Nat.add_assoc, Nat.add_sub_cancel_left]

theorem flatMap_positions_tokenRange? (tokens : List Token) {first n : Nat}
    (inside : first + n ≤ (ofTokens tokens).lineCount) :
    ((List.range' first n).flatMap fun k => positions ((ofTokens tokens).tokenRange? k k)) =
      List.range' ((ofTokens tokens).bound first)
        ((ofTokens tokens).bound (first + n) - (ofTokens tokens).bound first) := by
  rw [← flatMap_range' (monotone_bound tokens)]
  refine List.flatMap_congr fun k member => positions_tokenRange? (Nat.le_refl k) ?_
  have limits := List.mem_range'_1.1 member
  omega

theorem positions_tokenRange?_eq_flatMap (tokens : List Token) {first last : Nat}
    (ordered : first ≤ last) (inside : last < (ofTokens tokens).lineCount) :
    positions ((ofTokens tokens).tokenRange? first last) =
      (List.range' first (last + 1 - first)).flatMap fun k =>
        positions ((ofTokens tokens).tokenRange? k k) := by
  have stop : first + (last + 1 - first) = last + 1 := by omega
  rw [positions_tokenRange? ordered inside, flatMap_positions_tokenRange? tokens (by omega), stop]

theorem range_eq_flatMap_positions (tokens : List Token) :
    List.range tokens.length = (List.range (ofTokens tokens).lineCount).flatMap fun k =>
      positions ((ofTokens tokens).tokenRange? k k) := by
  have start : (ofTokens tokens).bound 0 = 0 := rfl
  have stop : (ofTokens tokens).bound (ofTokens tokens).lineCount = tokens.length := by
    have none : (ofTokens tokens).starts[(ofTokens tokens).lineCount]? = none :=
      List.getElem?_eq_none (Nat.le_refl _)
    rw [bound, List.getD_eq_getElem?_getD, none]
    rfl
  rw [List.range_eq_range', List.range_eq_range',
    flatMap_positions_tokenRange? tokens (Nat.le_of_eq (Nat.zero_add _)), Nat.zero_add, start, stop,
    Nat.sub_zero]

end LineIndex

theorem LineRange.exists_line {tokens before shown after : List Token} {k : Nat}
    (range : LineRange tokens k k before shown after) (lexical : ∀ t ∈ tokens, t.Lexical) :
    ∃ line, ((spell tokens).splitOn '\n')[k]? = some line ∧
      spell shown = line ++ if k = newlineCount tokens then [] else ['\n'] := by
  have parts : spell tokens = spell before ++ (spell shown ++ spell after) := by
    rw [range.parts, spell_append, spell_append, List.append_assoc]
  have at_line : ((spell tokens).splitOn '\n')[k]? =
      ((spell shown ++ spell after).splitOn '\n').head? := by
    rw [parts, splitOn_append (range.complete_before lexical),
      List.getElem?_append_right (Nat.le_of_eq (range.length_lines_before lexical)),
      range.length_lines_before lexical, Nat.sub_self, List.head?_eq_getElem?]
  have newlines : newlineCount shown = (spell shown).count '\n' :=
    newlineCount_eq fun t member => lexical t (by simp [range.parts, member])
  have count := range.count_before
  rcases range.ends_shown with ⟨ends, count_shown⟩ | ⟨rfl, count_all⟩
  · -- the line has one newline, at its end
    have nonempty : spell shown ≠ [] := spell_ne_nil range.nonempty fun t member =>
      lexical t (by simp [range.parts, member])
    have complete : Complete (spell shown) := ends.of_append.complete_spell fun t member =>
      lexical t (by simp [range.parts, member])
    obtain ⟨line, ended⟩ := complete.eq_nil_or.resolve_left nonempty
    have more : k ≠ newlineCount tokens := by
      have total := congrArg newlineCount range.parts
      rw [newlineCount_append] at total
      omega
    rw [newlineCount_append, newlines, ended] at count_shown
    have free : '\n' ∉ line := by
      rw [← List.count_eq_zero]
      simp only [List.count_append, List.count_singleton_self] at count_shown
      omega
    refine ⟨line, ?_, by rw [ended, if_neg more]⟩
    rw [at_line, ended, List.append_assoc, List.singleton_append, splitOn_append_newline,
      splitOn_of_free free]
    rfl
  · -- no newline ends the last line
    have free : '\n' ∉ spell shown := by
      rw [← List.count_eq_zero, ← newlines]
      have total := congrArg newlineCount range.parts
      simp only [newlineCount_append] at total
      have none : newlineCount [] = 0 := rfl
      omega
    refine ⟨spell shown, ?_, by rw [if_pos count_all.symm, List.append_nil]⟩
    rw [at_line, spell_nil, List.append_nil, splitOn_of_free free]
    rfl

namespace Lexer

open LineIndex

/-- The index finds the lines of a text in tokens of the text. -/
structure FindsLines (index : LineIndex) (tokens : List Token) (lines : List String) : Prop where
  lineCount : index.lineCount = lines.length
  /-- Only an empty last line has no tokens. -/
  none_iff (k : Nat) : index.tokenRange? k k = none ↔
    lines.length ≤ k ∨ (k + 1 = lines.length ∧ lines[k]? = some "")
  /-- The tokens of a line stand for it, together with the newline behind it. -/
  text (k a b : Nat) (found : index.tokenRange? k k = some (a, b)) :
    ∃ line, lines[k]? = some line ∧ spell ((tokens.drop a).take (b + 1 - a)) =
      line.toList ++ if k + 1 = lines.length then [] else ['\n']
  /-- A range of lines has the tokens of each of its lines, in order. -/
  union (first last : Nat) (ordered : first ≤ last) (inside : last < lines.length) :
    positions (index.tokenRange? first last) =
      (List.range' first (last + 1 - first)).flatMap fun k => positions (index.tokenRange? k k)
  /-- Each token is one of exactly one line. -/
  tiles : ((List.range lines.length).flatMap fun k => positions (index.tokenRange? k k)) =
    List.range tokens.length

section

variable (style : Style) (source : String)

theorem length_splitLines_eq : (splitLines source).length =
    newlineCount (tokenize style source) + 1 := by
  rw [newlineCount_tokenize, length_splitLines]

theorem lineCount_tokenize :
    (ofTokens (tokenize style source)).lineCount = (splitLines source).length := by
  rw [lineCount_ofTokens, length_splitLines_eq style]

theorem endsLine_tokenize_iff : EndsLine (tokenize style source) ↔
    (splitLines source)[newlineCount (tokenize style source)]? = some "" := by
  rw [endsLine_iff_complete fun t => lexical_tokenize, spell_tokenize,
    complete_iff_getLast?_splitOn, List.getLast?_eq_getElem?, length_splitOn_newline,
    newlineCount_tokenize, splitLines, List.getElem?_map, Option.map_eq_some_iff]
  simp [countNewlines]

theorem tokenRange?_tokenize_eq_none_iff (k : Nat) :
    (ofTokens (tokenize style source)).tokenRange? k k = none ↔ (splitLines source).length ≤ k ∨
      (k + 1 = (splitLines source).length ∧ (splitLines source)[k]? = some "") := by
  have count := length_splitLines_eq style source
  have lineCount := lineCount_tokenize style source
  by_cases inside : k < (splitLines source).length
  · rw [tokenRange?_eq_none_iff (Nat.le_refl k) (by omega), endsLine_tokenize_iff]
    constructor
    · rintro ⟨rfl, empty⟩
      exact Or.inr ⟨count.symm, empty⟩
    · rintro (past | ⟨last, empty⟩)
      · omega
      · obtain rfl : k = newlineCount (tokenize style source) := by omega
        exact ⟨rfl, empty⟩
  · refine iff_of_true (if_neg fun valid => inside ?_) (Or.inl (Nat.le_of_not_lt inside))
    exact lineCount ▸ valid.2

variable {style source}

theorem text_of_tokenRange?_tokenize {k a b : Nat}
    (found : (ofTokens (tokenize style source)).tokenRange? k k = some (a, b)) :
    ∃ line, (splitLines source)[k]? = some line ∧
      spell (((tokenize style source).drop a).take (b + 1 - a)) =
        line.toList ++ if k + 1 = (splitLines source).length then [] else ['\n'] := by
  obtain ⟨before, shown, after, range, rfl, length_shown⟩ := lineRange_of_tokenRange? found
  obtain ⟨line, at_line, text⟩ := range.exists_line fun t => lexical_tokenize
  have cut : ((tokenize style source).drop before.length).take (b + 1 - before.length) =
      shown := by
    rw [← length_shown, List.length_append, Nat.add_sub_cancel_left, range.parts,
      List.append_assoc, List.drop_left, List.take_left]
  rw [spell_tokenize] at at_line
  refine ⟨String.ofList line, by rw [splitLines, List.getElem?_map, at_line]; rfl, ?_⟩
  simp only [cut, text, String.toList_ofList, length_splitLines_eq style,
    Nat.add_right_cancel_iff]

end

theorem tokens_of_source_lines (style : Style) (source : String) :
    FindsLines (.ofTokens (tokenize style source)) (tokenize style source)
      (splitLines source) where
  lineCount := lineCount_tokenize style source
  none_iff := tokenRange?_tokenize_eq_none_iff style source
  text _ _ _ found := text_of_tokenRange?_tokenize found
  union _ _ ordered inside :=
    positions_tokenRange?_eq_flatMap _ ordered (lineCount_tokenize style source ▸ inside)
  tiles := by rw [range_eq_flatMap_positions, lineCount_tokenize]

/-- A string over three lines, one of them blank, in front of an empty last line. -/
example : (List.range 5).map
    (fun k => (LineIndex.ofTokens (tokenize .whole "f(@\"a\n \n\");\n")).tokenRange? k k) =
    [some (0, 4), some (5, 6), some (7, 10), none, none] := by
  decide +kernel

end Lexer

end FixCorpus
