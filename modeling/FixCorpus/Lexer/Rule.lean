import FixCorpus.Token.Basic

/-! Lexer rules. A rule looks at the front of a text and either takes a
non-empty piece of it, which it turns into tokens, or does not apply. A lexer
tries a list of rules in order, and goes on with what the first one that
applies has left. -/

namespace FixCorpus.Lexer

/-- How names, and words of prose, are cut: kept whole, or cut at changes of case. -/
inductive Style where
  | whole
  | camelCase
deriving DecidableEq, Repr

/-- The tokens of a piece at the front of a text, and the text behind the piece. -/
abbrev Rule := List Char → Option (List Token × List Char)

def Rule.Shrinks (rule : Rule) : Prop :=
  ∀ ⦃text tokens rest⦄, rule text = some (tokens, rest) → rest.length < text.length

def Rule.first (rules : List Rule) : Rule :=
  fun text => rules.findSome? (· text)

theorem Rule.shrinks_first {rules : List Rule} (h : ∀ rule ∈ rules, rule.Shrinks) :
    (Rule.first rules).Shrinks := by
  intro text tokens rest found
  obtain ⟨rule, member, applies⟩ := List.exists_of_findSome?_eq_some found
  exact h rule member applies

def blank (isBlank : Char → Bool) : Rule
  | c :: rest => if isBlank c then some ([Token.blank c], rest) else none
  | [] => none

/-- Any character is a token of its own: punctuation if it is one of the marks, else code. -/
def symbol (marks : String) : Rule
  | c :: rest =>
    some ([Token.ofChars (if marks.toList.contains c then .punctuation else .code) [c]], rest)
  | [] => none

def dropFinalNewline (tokens : List Token) : List Token :=
  if tokens.getLast?.any (·.isNewline) then tokens.dropLast else tokens

theorem shrinks_blank (isBlank : Char → Bool) : (blank isBlank).Shrinks := by
  intro text tokens rest h
  cases text with
  | nil => simp [blank] at h
  | cons c text =>
    simp only [blank] at h
    split at h <;> simp_all

theorem shrinks_symbol (marks : String) : (symbol marks).Shrinks := by
  intro text tokens rest h
  cases text with
  | nil => simp [symbol] at h
  | cons c text => simp_all [symbol]

theorem symbol_cons (marks : String) (c : Char) (rest : List Char) :
    ∃ t, symbol marks (c :: rest) = some ([t], rest) := ⟨_, rfl⟩

theorem length_dropWhile_le (p : Char → Bool) (text : List Char) :
    (text.dropWhile p).length ≤ text.length :=
  (List.dropWhile_suffix p).length_le

end FixCorpus.Lexer
