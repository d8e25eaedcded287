import FixCorpus.Proofs.Lexer.Prose
import FixCorpus.Text.Strip

/-! How far a lexer looks. In front of a newline most rules read a text as if it
ended there. Some go on behind the newline, but then they have taken all the
text before it, and its tokens do not depend on what comes next. So what is
behind a newline never changes the tokens of the text up to it:
`prefix_of_reads`, and `Prose.lexFrom_prefix` for prose. -/

namespace FixCorpus.Lexer

open Text

section Cuts

variable {α : Type}

/-- What is cut off in front of a newline is what is cut off where the text ends there. -/
def StopsAtNewline (cut : List Char → α × List Char) : Prop :=
  ∀ a b, cut (a ++ '\n' :: b) = ((cut a).1, (cut a).2 ++ '\n' :: b)

theorem takeWhile_append_newline {p : Char → Bool} (stop : p '\n' = false) (a b : List Char) :
    (a ++ '\n' :: b).takeWhile p = a.takeWhile p := by
  induction a with
  | nil => rw [List.nil_append, List.takeWhile_cons, stop]; rfl
  | cons c a ih => rw [List.cons_append, List.takeWhile_cons, List.takeWhile_cons, ih]

theorem dropWhile_append_newline {p : Char → Bool} (stop : p '\n' = false) (a b : List Char) :
    (a ++ '\n' :: b).dropWhile p = a.dropWhile p ++ '\n' :: b := by
  induction a with
  | nil => rw [List.nil_append, List.dropWhile_cons, stop]; rfl
  | cons c a ih =>
    rw [List.cons_append, List.dropWhile_cons, List.dropWhile_cons, ih]
    split <;> rfl

theorem stripFront?_append_newline {front : List Char} (free : '\n' ∉ front) (a b : List Char) :
    stripFront? front (a ++ '\n' :: b) = (stripFront? front a).map (· ++ '\n' :: b) := by
  induction front generalizing a with
  | nil => rfl
  | cons f front ih =>
    obtain ⟨f_ne, free⟩ := List.ne_and_not_mem_of_not_mem_cons free
    cases a with
    | nil => exact if_neg (Ne.symm f_ne)
    | cons c a =>
      simp only [List.cons_append, stripFront?]
      split
      · exact ih free a
      · rfl

theorem camelPieceLength_append_newline (a b : List Char) :
    camelPieceLength (a ++ '\n' :: b) = camelPieceLength a := by
  have upper := takeWhile_append_newline (p := Char.isUpper) rfl a b
  have within : (a.takeWhile Char.isUpper).length ≤ a.length :=
    (List.takeWhile_prefix _).length_le
  have lower := takeWhile_append_newline (p := Char.isLower) rfl
    (a.drop (a.takeWhile Char.isUpper).length) b
  simp only [camelPieceLength, upper, List.drop_append_of_le_length within, lower]

end Cuts

/-- How a rule reads the front of a text up to a newline: whatever is behind the newline, it does
not apply, or it takes a piece of the front; or it goes on behind the newline, and its tokens
begin with those that it gives if nothing is there. -/
inductive Rule.Reads (rule : Rule) (a : List Char) : Prop where
  | refuses (refused : ∀ b, rule (a ++ '\n' :: b) = none)
  | stops (tokens : List Token) (rest : List Char)
      (taken : ∀ b, rule (a ++ '\n' :: b) = some (tokens, rest ++ '\n' :: b))
  | runsOn (tokens : List Token) (all : rule (a ++ ['\n']) = some (tokens, []))
      (more : ∀ b, ∃ others rest, rule (a ++ '\n' :: b) = some (tokens ++ others, rest))

theorem Rule.reads_of_map {rule : Rule} {a : List Char} (cut : Option (List Token × List Char))
    (same : ∀ b, rule (a ++ '\n' :: b) = cut.map fun cut => (cut.1, cut.2 ++ '\n' :: b)) :
    rule.Reads a := by
  cases cut with
  | none => exact .refuses same
  | some cut => exact .stops cut.1 cut.2 same

theorem Rule.Reads.congr {rule other : Rule} {a a' : List Char} (h : other.Reads a')
    (same : ∀ b, rule (a ++ '\n' :: b) = other (a' ++ '\n' :: b)) : rule.Reads a := by
  cases h with
  | refuses refused => exact .refuses fun b => (same b).trans (refused b)
  | stops tokens rest taken => exact .stops tokens rest fun b => (same b).trans (taken b)
  | runsOn tokens all more =>
    exact .runsOn tokens ((same []).trans all) fun b => (same b).symm ▸ more b

theorem Rule.reads_first {rules : List Rule} {a : List Char}
    (reads : ∀ rule ∈ rules, rule.Reads a) : (Rule.first rules).Reads a := by
  induction rules with
  | nil => exact .refuses fun _ => rfl
  | cons rule rules ih =>
    obtain ⟨first, others⟩ := List.forall_mem_cons.1 reads
    have applies : ∀ {text cut}, rule text = some cut →
        Rule.first (rule :: rules) text = some cut :=
      fun taken => by rw [Rule.first, List.findSome?_cons, taken]
    cases first with
    | refuses refused =>
      exact (ih others).congr fun b => by rw [Rule.first, List.findSome?_cons, refused b]; rfl
    | stops tokens rest taken => exact .stops tokens rest fun b => applies (taken b)
    | runsOn tokens all more =>
      refine .runsOn tokens (applies all) fun b => ?_
      obtain ⟨behind, rest, taken⟩ := more b
      exact ⟨behind, rest, applies taken⟩

theorem Rule.reads_behind_mark {rule : Rule} (mark : List Char) (free : '\n' ∉ mark) (body : Rule)
    (applies : ∀ text, rule (mark ++ text) = body text)
    (refuses : ∀ {text}, (∀ rest, text ≠ mark ++ rest) → rule text = none)
    (reads : ∀ a, body.Reads a) (a : List Char) : rule.Reads a := by
  cases stripped : stripFront? mark a with
  | none =>
    refine .refuses fun b => refuses fun rest marked => ?_
    have behind := stripFront?_append_newline free a b
    rw [stripped, stripFront?_eq_some_iff.2 marked] at behind
    cases behind
  | some rest =>
    refine (reads rest).congr fun b => ?_
    rw [stripFront?_eq_some_iff.1 stripped, List.append_assoc, applies]

theorem reads_blank (c : Char) (a : List Char) : (blank isBlank).Reads (c :: a) := by
  refine Rule.reads_of_map (blank isBlank (c :: a)) fun b => ?_
  simp only [blank, List.cons_append]
  split <;> rfl

theorem reads_symbol (marks : String) (c : Char) (a : List Char) :
    (symbol marks).Reads (c :: a) :=
  Rule.reads_of_map (symbol marks (c :: a)) fun _ => rfl

theorem prefix_of_reads {σ : Type} (rule : σ → Rule) (next : σ → Option Char → List Token → σ)
    {run : σ → List Char → List Token}
    (ends : ∀ {s text}, rule s text = none → run s text = [])
    (steps : ∀ {s text tokens rest}, rule s text = some (tokens, rest) →
      run s text = tokens ++ run (next s text.head? tokens) rest)
    (shrinks : ∀ s, (rule s).Shrinks)
    (newline : ∀ s b, rule s ('\n' :: b) = some ([Token.blank '\n'], b))
    (reads : ∀ s c a, (rule s).Reads (c :: a)) (s : σ) (a b : List Char) :
    run s (a ++ ['\n']) <+: run s (a ++ '\n' :: b) := by
  have nothing : ∀ s, run s [] = [] := fun s => by
    cases found : rule s [] with
    | none => exact ends found
    | some cut => exact absurd (shrinks s found) (Nat.not_lt_zero _)
  -- Each step leaves less of the text in front of the newline.
  induction length : a.length using Nat.strongRecOn generalizing s a with
  | ind n ih =>
    cases a with
    | nil =>
      rw [List.nil_append, List.nil_append, steps (newline s []), steps (newline s b), nothing,
        List.append_nil]
      exact List.prefix_append _ _
    | cons c a =>
      cases reads s c a with
      | refuses refused =>
        rw [ends (refused [])]
        exact List.nil_prefix
      | stops tokens rest taken =>
        have shorter := shrinks s (taken [])
        simp only [List.length_append, List.length_cons, List.length_nil] at shorter length
        rw [steps (taken []), steps (taken b), List.prefix_append_right_inj]
        exact ih rest.length (by omega) _ _ rfl
      | runsOn tokens all more =>
        obtain ⟨behind, rest, taken⟩ := more b
        rw [steps all, steps taken, nothing, List.append_nil, List.append_assoc]
        exact List.prefix_append _ _

namespace Prose

theorem reads_quotedName (afterBlank : Bool) (a : List Char) : (quotedName afterBlank).Reads a := by
  refine Rule.reads_behind_mark ['\''] (by decide)
    (fun text => quotedName afterBlank ('\'' :: text)) (fun _ => rfl) (fun no_mark => ?_)
    (fun a => ?_) a
  · unfold quotedName
    split
    · exact absurd rfl (no_mark _)
    · rfl
  · have inner := takeWhile_append_newline (p := isQuotable) rfl a
    have behind := dropWhile_append_newline (p := isQuotable) rfl a
    generalize a.dropWhile isQuotable = left at behind
    generalize a.takeWhile isQuotable = taken at inner
    -- the newline continues no word, so a name may end right before it
    rcases left with _ | ⟨closer, left⟩
    · exact .refuses fun b => by simp [quotedName, behind b]
    · by_cases closes : closer = '\''
      · subst closes
        cases left with
        | nil =>
          refine Rule.reads_of_map (if afterBlank && !taken.isEmpty then
            some ([quote, Token.ofChars .name taken, quote], []) else none) fun b => ?_
          have solid : (isAlphanumeric '\n' || '\n' == '_') = false := by decide +kernel
          simp only [quotedName, behind b, inner b, List.cons_append, List.nil_append, solid,
            Bool.not_false, Bool.and_true]
          split <;> rfl
        | cons next rest =>
          refine Rule.reads_of_map (if afterBlank && !taken.isEmpty &&
            !(isAlphanumeric next || next == '_') then
              some ([quote, Token.ofChars .name taken, quote], next :: rest) else none) fun b => ?_
          simp only [quotedName, behind b, inner b, List.cons_append]
          split <;> rfl
      · exact .refuses fun b => by simp [quotedName, behind b, closes]

theorem stopsAtNewline_wordEnding : StopsAtNewline wordEnding := by
  intro a b
  cases a with
  | nil => rfl
  | cons c a =>
    by_cases joins : c = '\''
    · subst joins
      simp only [List.cons_append, wordEnding, takeWhile_append_newline isWordChar_newline,
        dropWhile_append_newline isWordChar_newline]
      split <;> rfl
    · simp [wordEnding, joins]

theorem reads_word (a : List Char) : Rule.Reads word a := by
  refine Rule.reads_of_map (word a) fun b => ?_
  simp only [word, takeWhile_append_newline isWordChar_newline,
    dropWhile_append_newline isWordChar_newline, stopsAtNewline_wordEnding _ b]
  split <;> rfl

theorem reads_camelPiece (a : List Char) : Rule.Reads camelPiece a := by
  refine Rule.reads_of_map (camelPiece a) fun b => ?_
  have within := camelPieceLength_le a
  simp only [camelPiece, camelPieceLength_append_newline, List.take_append_of_le_length within,
    List.drop_append_of_le_length within]
  split <;> rfl

theorem reads_digit (a : List Char) : Rule.Reads digit a := by
  refine Rule.reads_of_map (digit a) fun b => ?_
  cases a with
  | nil => rfl
  | cons c a =>
    simp only [digit, List.cons_append]
    split <;> rfl

theorem reads_apostrophe (a : List Char) : Rule.Reads apostrophe a := by
  refine Rule.reads_of_map (apostrophe a) fun b => ?_
  cases a with
  | nil => rfl
  | cons c a =>
    by_cases mark : c = '\''
    · subst mark
      rfl
    · simp [apostrophe, mark]

theorem reads_rules (style : Style) (afterBlank : Bool) (c : Char) (a : List Char) :
    (Rule.first (rules style afterBlank)).Reads (c :: a) := by
  refine Rule.reads_first fun rule member => ?_
  cases style <;>
    simp only [rules, List.mem_cons, List.not_mem_nil, or_false] at member <;>
    rcases member with rfl | rfl | rfl | rfl | rfl
  all_goals first
    | exact reads_blank c a
    | exact reads_quotedName afterBlank (c :: a)
    | exact reads_word (c :: a)
    | exact reads_camelPiece (c :: a)
    | exact reads_digit (c :: a)
    | exact reads_apostrophe (c :: a)
    | exact reads_symbol punctuation c a

theorem lexFrom_prefix (style : Style) (afterBlank : Bool) (a b : List Char) :
    lexFrom style afterBlank (a ++ ['\n']) <+: lexFrom style afterBlank (a ++ '\n' :: b) :=
  prefix_of_reads (fun afterBlank => Rule.first (rules style afterBlank))
    (fun _ front _ => front.any isBlank)
    (fun found => by rw [lexFrom_eq, found]) (fun found => by rw [lexFrom_eq, found])
    (shrinks_rules style) (fun _ b => first_blank_cons _ '\n' b) (reads_rules style) afterBlank a b

end Prose

end FixCorpus.Lexer
