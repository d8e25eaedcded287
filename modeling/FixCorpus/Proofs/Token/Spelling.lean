import FixCorpus.Proofs.Text.Blank
import FixCorpus.Token.Basic

/-! What tokens stand for. A blank stands for one character, every other token
for its own text, and the text a lexer was given is the spellings put together.
The words that stand for blanks are reserved: a token of another kind that has
one of them as its text is restored to something else than it stands for. -/

namespace FixCorpus

open Text

def reservedTexts : List String :=
  ["WHITESPACE", "NEWLINE", "TAB"]

namespace Token

def spelling (t : Token) : List Char :=
  if t.kind = .whitespace then (restore t.text).toList else t.text.toList

theorem restore_of_not_reserved {text : String} (h : text ∉ reservedTexts) :
    restore text = text := by
  simp only [reservedTexts, List.mem_cons, List.not_mem_nil, or_false, not_or] at h
  simp [restore, h]

theorem length_restore_lt {text : String} (h : text ∈ reservedTexts) :
    (restore text).toList.length < text.toList.length := by
  simp only [reservedTexts, List.mem_cons, List.not_mem_nil, or_false] at h
  rcases h with rfl | rfl | rfl <;> decide

theorem length_restore_le (text : String) :
    (restore text).toList.length ≤ text.toList.length := by
  by_cases h : text ∈ reservedTexts
  · exact Nat.le_of_lt (length_restore_lt h)
  · exact Nat.le_of_eq (by rw [restore_of_not_reserved h])

theorem restore_eq_self_iff {text : String} : restore text = text ↔ text ∉ reservedTexts := by
  refine ⟨fun same reserved => ?_, restore_of_not_reserved⟩
  have shorter := length_restore_lt reserved
  rw [same] at shorter
  exact Nat.lt_irrefl _ shorter

theorem restore_ne_empty {text : String} (nonempty : text ≠ "") : restore text ≠ "" := by
  by_cases h : text ∈ reservedTexts
  · simp only [reservedTexts, List.mem_cons, List.not_mem_nil, or_false] at h
    rcases h with rfl | rfl | rfl <;> decide
  · rwa [restore_of_not_reserved h]

theorem singleton_not_reserved (c : Char) : String.ofList [c] ∉ reservedTexts := by
  intro h
  simp only [reservedTexts, List.mem_cons, List.not_mem_nil, or_false] at h
  rcases h with h | h | h <;> simpa using congrArg (fun s => s.toList.length) h

theorem restore_blankText (c : Char) : restore (blankText c) = String.ofList [c] := by
  unfold blankText
  split
  · rename_i space
    rw [space]
    rfl
  · split
    · rename_i newline
      rw [newline]
      rfl
    · split
      · rename_i tab
        rw [tab]
        rfl
      · exact restore_of_not_reserved (singleton_not_reserved c)

@[simp] theorem spelling_blank (c : Char) : (blank c).spelling = [c] := by
  simp [spelling, blank, restore_blankText]

theorem spelling_of_kind_ne {t : Token} (h : t.kind ≠ .whitespace) :
    t.spelling = t.text.toList := by
  simp [spelling, h]

theorem spelling_ofChars {kind : TokenKind} (h : kind ≠ .whitespace) (text : List Char) :
    (ofChars kind text).spelling = text := by
  simp [spelling, ofChars, h]

theorem isNewline_blank (c : Char) : (blank c).isNewline = true ↔ c = '\n' := by
  refine ⟨fun h => ?_, fun h => h ▸ rfl⟩
  rw [isNewline, Bool.and_eq_true] at h
  have text : blankText c = "NEWLINE" := of_decide_eq_true h.2
  have restored := restore_blankText c
  rw [text] at restored
  simpa [restore] using (congrArg String.toList restored).symm

/-- A blank, or a piece of text that has no blank in it. -/
inductive Plain : Token → Prop
  | blank {c : Char} (isBlank : isBlank c = true) : Plain (Token.blank c)
  | solid {kind : TokenKind} {text : List Char} (kind_ne : kind ≠ .whitespace)
      (nonempty : text ≠ []) (solid : Solid text) :
      Plain (ofChars kind text)

def escapedBlank (c : Char) : Token :=
  ofChars .stringChar ['\'', '\\', c, '\'']

/-- What a lexer of code makes of a text. -/
inductive Lexical : Token → Prop
  | plain {t : Token} (h : t.Plain) : Lexical t
  | escaped {c : Char} (isBlank : isBlank c = true) (ne_newline : c ≠ '\n') :
      Lexical (escapedBlank c)

theorem spelling_escapedBlank (c : Char) :
    (escapedBlank c).spelling = ['\'', '\\', c, '\''] :=
  spelling_ofChars (by decide) _

theorem Plain.spelling_ne_nil {t : Token} (h : t.Plain) : t.spelling ≠ [] := by
  cases h with
  | blank => simp
  | solid kind_ne nonempty => rwa [spelling_ofChars kind_ne]

theorem Lexical.spelling_ne_nil {t : Token} (h : t.Lexical) : t.spelling ≠ [] := by
  cases h with
  | plain h => exact h.spelling_ne_nil
  | escaped => simp [spelling_escapedBlank]

theorem Lexical.eq_blank {t : Token} (h : t.Lexical) (kind : t.kind = .whitespace) :
    ∃ c, isBlank c = true ∧ t = Token.blank c := by
  cases h with
  | plain h =>
    cases h with
    | blank isBlank => exact ⟨_, isBlank, rfl⟩
    | solid kind_ne => exact absurd kind kind_ne
  | escaped => cases kind

theorem Lexical.spelling_of_isNewline {t : Token} (h : t.Lexical) (newline : t.isNewline = true) :
    t.spelling = ['\n'] := by
  have kind : t.kind = .whitespace := by
    simp only [isNewline, Bool.and_eq_true, decide_eq_true_eq] at newline
    exact newline.1
  obtain ⟨c, -, rfl⟩ := h.eq_blank kind
  rw [spelling_blank, (isNewline_blank c).1 newline]

theorem Lexical.isNewline_of_mem {t : Token} (h : t.Lexical) (member : '\n' ∈ t.spelling) :
    t.isNewline = true := by
  cases h with
  | plain h =>
    cases h with
    | blank =>
      rw [spelling_blank, List.mem_singleton] at member
      exact (isNewline_blank _).2 member.symm
    | solid kind_ne nonempty solid =>
      rw [spelling_ofChars kind_ne] at member
      exact absurd (solid _ member) (by decide)
  | escaped isBlank ne_newline =>
    rw [spelling_escapedBlank] at member
    simp [ne_newline.symm] at member

theorem newline_not_mem_blankText (c : Char) : '\n' ∉ (blankText c).toList := by
  unfold blankText
  split
  · decide
  · split
    · decide
    · rename_i other
      split
      · decide
      · simpa using Ne.symm other

theorem Lexical.newline_not_mem_text {t : Token} (h : t.Lexical) : '\n' ∉ t.text.toList := by
  cases h with
  | plain h =>
    cases h with
    | blank => exact newline_not_mem_blankText _
    | solid kind_ne nonempty solid =>
      rw [text_ofChars, String.toList_ofList]
      exact fun member => absurd (solid _ member) (by decide)
  | escaped isBlank ne_newline =>
    simpa [escapedBlank] using Ne.symm ne_newline

theorem blankText_ne_empty (c : Char) : blankText c ≠ "" := by
  intro empty
  have restored := congrArg String.toList (restore_blankText c)
  rw [empty, String.toList_ofList] at restored
  cases restored

theorem Lexical.text_ne_empty {t : Token} (h : t.Lexical) : t.text ≠ "" := by
  cases h with
  | plain h =>
    cases h with
    | blank => exact blankText_ne_empty _
    | solid kind_ne nonempty solid => simpa using nonempty
  | escaped => simp [escapedBlank]

end Token

def spell (tokens : List Token) : List Char :=
  tokens.flatMap Token.spelling

@[simp] theorem spell_nil : spell [] = [] := rfl

@[simp] theorem spell_cons (t : Token) (tokens : List Token) :
    spell (t :: tokens) = t.spelling ++ spell tokens := rfl

@[simp] theorem spell_append (a b : List Token) : spell (a ++ b) = spell a ++ spell b :=
  List.flatMap_append

theorem spell_ne_nil {tokens : List Token} (nonempty : tokens ≠ [])
    (lexical : ∀ t ∈ tokens, t.Lexical) : spell tokens ≠ [] := by
  obtain ⟨t, member⟩ := List.exists_mem_of_ne_nil _ nonempty
  obtain ⟨c, inside⟩ := List.exists_mem_of_ne_nil _ (lexical t member).spelling_ne_nil
  exact List.ne_nil_of_mem (List.mem_flatMap.2 ⟨t, member, inside⟩)

theorem spell_map_blank (text : List Char) : spell (text.map Token.blank) = text := by
  induction text with
  | nil => rfl
  | cons c text ih => simp [ih]

theorem newlineCount_eq {tokens : List Token} (lexical : ∀ t ∈ tokens, t.Lexical) :
    newlineCount tokens = (spell tokens).count '\n' := by
  induction tokens with
  | nil => rfl
  | cons t tokens ih =>
    have first := lexical t List.mem_cons_self
    have rest := ih fun other member => lexical other (List.mem_cons_of_mem _ member)
    rw [newlineCount] at rest ⊢
    rw [List.countP_cons, rest, spell_cons, List.count_append, Nat.add_comm]
    by_cases newline : t.isNewline = true
    · rw [first.spelling_of_isNewline newline, if_pos newline]
      rfl
    · rw [if_neg newline,
        List.count_eq_zero.2 fun member => newline (first.isNewline_of_mem member)]

end FixCorpus
