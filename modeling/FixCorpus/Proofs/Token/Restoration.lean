import FixCorpus.Proofs.Text.Words
import FixCorpus.Proofs.Token.Spelling

/-! Restoring a text from token texts. No token is restored to more characters
than it stands for, so the text comes back exactly if each token does: those
with a reserved text do not, and neither do those with a blank in their text
when the token texts are written with spaces between them. -/

namespace FixCorpus

open Text

theorem length_flatMap_le {α β : Type} {f g : α → List β} {items : List α}
    (le : ∀ a ∈ items, (f a).length ≤ (g a).length) :
    (items.flatMap f).length ≤ (items.flatMap g).length := by
  induction items with
  | nil => exact Nat.le_refl _
  | cons a items ih =>
    have first := le a List.mem_cons_self
    have others := ih fun b member => le b (List.mem_cons_of_mem _ member)
    simp only [List.flatMap_cons, List.length_append]
    omega

theorem flatMap_eq_flatMap_iff {α β : Type} {f g : α → List β} {items : List α}
    (le : ∀ a ∈ items, (f a).length ≤ (g a).length) :
    items.flatMap f = items.flatMap g ↔ ∀ a ∈ items, f a = g a := by
  induction items with
  | nil => simp
  | cons a items ih =>
    have first := le a List.mem_cons_self
    have others := fun b member => le b (List.mem_cons_of_mem a member)
    rw [List.forall_mem_cons, ← ih others, List.flatMap_cons, List.flatMap_cons]
    refine ⟨fun same => ?_, fun ⟨head, tail⟩ => by rw [head, tail]⟩
    have total := congrArg List.length same
    have shorter := length_flatMap_le others
    simp only [List.length_append] at total
    exact List.append_inj same (by omega)

theorem toList_restoreTexts (texts : List String) :
    (restoreTexts texts).toList = texts.flatMap fun text => (Token.restore text).toList := by
  rw [restoreTexts, String.toList_join, List.flatMap_map]

theorem detokenize_eq_iff {tokens : List Token} {text : String}
    (spelled : spell tokens = text.toList) :
    detokenize tokens = text ↔
      ∀ t ∈ tokens, t.kind ≠ .whitespace → t.text ∉ reservedTexts := by
  have le : ∀ t ∈ tokens, (Token.restore t.text).toList.length ≤ t.spelling.length := by
    intro t _
    unfold Token.spelling
    split
    · exact Nat.le_refl _
    · exact Token.length_restore_le t.text
  rw [← String.toList_inj, detokenize, toList_restoreTexts, tokenTexts, List.flatMap_map,
    ← spelled, spell, flatMap_eq_flatMap_iff le]
  refine forall_congr' fun t => forall_congr' fun _ => ?_
  unfold Token.spelling
  split
  · rename_i kind
    simp [kind]
  · rename_i kind
    rw [String.toList_inj, Token.restore_eq_self_iff]
    exact ⟨fun h _ => h, fun h => h kind⟩

namespace Token

/-- Only a blank has a reserved text, and no text has a blank in it. -/
def Clean (t : Token) : Prop :=
  (t.kind ≠ .whitespace → t.text ∉ reservedTexts) ∧ Solid t.text.toList

instance (t : Token) : Decidable t.Clean :=
  inferInstanceAs (Decidable (_ ∧ _))

/-- What is read back of a token whose text stands among others, parted from them by spaces. -/
def readBack (t : Token) : List Char :=
  (restoreTexts (words t.text)).toList

theorem readBack_of_solid {t : Token} (nonempty : t.text ≠ "")
    (solid : Solid t.text.toList) :
    t.readBack = (restore t.text).toList := by
  simp [readBack, words_of_solid nonempty solid, toList_restoreTexts]

theorem solid_of_reserved {text : String} (h : text ∈ reservedTexts) :
    text ≠ "" ∧ Solid text.toList := by
  simp only [reservedTexts, List.mem_cons, List.not_mem_nil, or_false] at h
  rcases h with rfl | rfl | rfl <;> decide

theorem blankText_eq (c : Char) :
    blankText c ∈ reservedTexts ∨ blankText c = String.ofList [c] := by
  unfold blankText reservedTexts
  split
  · exact Or.inl (by decide)
  · split
    · exact Or.inl (by decide)
    · split
      · exact Or.inl (by decide)
      · exact Or.inr rfl

theorem words_blankText {c : Char} (blank : isBlank c = true) :
    (blankText c ∈ reservedTexts ∧ words (blankText c) = [blankText c]) ∨
      (blankText c = String.ofList [c] ∧ words (blankText c) = []) := by
  rcases blankText_eq c with reserved | itself
  · have solid := solid_of_reserved reserved
    exact Or.inl ⟨reserved, words_of_solid solid.1 solid.2⟩
  · have parted := words_append_blank blank [] []
    rw [List.nil_append, ← itself] at parted
    exact Or.inr ⟨itself, parted⟩

theorem not_clean_of_blank {t : Token} {c : Char} (member : c ∈ t.text.toList)
    (blank : isBlank c = true) : ¬ t.Clean := by
  intro clean
  have free := clean.2 c member
  rw [blank] at free
  cases free

theorem readBack_blank {c : Char} (blank : isBlank c = true) :
    ((Token.blank c).Clean ∧ (Token.blank c).readBack = [c]) ∨
      (¬ (Token.blank c).Clean ∧ (Token.blank c).readBack = []) := by
  have text : (Token.blank c).text = blankText c := rfl
  rcases words_blankText blank with ⟨reserved, read⟩ | ⟨itself, lost⟩
  · refine Or.inl ⟨⟨fun kind => absurd rfl kind, (solid_of_reserved reserved).2⟩, ?_⟩
    rw [readBack, text, read]
    simp [toList_restoreTexts, restore_blankText]
  · refine Or.inr ⟨not_clean_of_blank (c := c) ?_ blank, ?_⟩
    · rw [text, itself]
      simp
    · rw [readBack, text, lost]
      rfl

theorem readBack_ofChars {kind : TokenKind} {text : List Char} (nonempty : text ≠ [])
    (solid : Solid text) :
    (ofChars kind text).readBack = (restore (String.ofList text)).toList :=
  readBack_of_solid (t := ofChars kind text) (by simpa using nonempty) (by simpa using solid)

theorem clean_ofChars_iff {kind : TokenKind} (kind_ne : kind ≠ .whitespace) {text : List Char}
    (solid : Solid text) :
    (ofChars kind text).Clean ↔ String.ofList text ∉ reservedTexts :=
  ⟨fun clean => clean.1 kind_ne, fun free => ⟨fun _ => free, by simpa using solid⟩⟩

theorem readBack_escapedBlank {c : Char} (blank : isBlank c = true) :
    (escapedBlank c).readBack = ['\'', '\\', '\''] := by
  have parted := words_append_blank blank ['\'', '\\'] ['\'']
  have front : words (String.ofList ['\'', '\\']) = ["'\\"] :=
    words_of_solid (by decide) (by decide)
  have back : words (String.ofList ['\'']) = ["'"] := words_of_solid (by decide) (by decide)
  have text : (escapedBlank c).text = String.ofList (['\'', '\\'] ++ c :: ['\'']) := rfl
  rw [front, back] at parted
  rw [readBack, text, parted]
  decide

theorem Lexical.readBack {t : Token} (h : t.Lexical) :
    t.readBack.length ≤ t.spelling.length ∧ (t.readBack = t.spelling ↔ t.Clean) := by
  cases h with
  | plain h =>
    cases h with
    | @blank c blank =>
      rw [spelling_blank]
      rcases readBack_blank blank with ⟨clean, read⟩ | ⟨unclean, lost⟩
      · rw [read]
        exact ⟨Nat.le_refl _, iff_of_true rfl clean⟩
      · rw [lost]
        exact ⟨Nat.zero_le _, iff_of_false (List.cons_ne_nil _ _).symm unclean⟩
    | @solid kind text kind_ne nonempty solid =>
      have spelled : (ofChars kind text).spelling = (String.ofList text).toList := by
        rw [spelling_ofChars kind_ne, String.toList_ofList]
      rw [readBack_ofChars nonempty solid, spelled, String.toList_inj, restore_eq_self_iff,
        clean_ofChars_iff kind_ne solid]
      exact ⟨length_restore_le _, Iff.rfl⟩
  | @escaped c blank ne_newline =>
    have unclean : ¬ (escapedBlank c).Clean :=
      not_clean_of_blank (c := c) (by simp [escapedBlank]) blank
    rw [readBack_escapedBlank blank, spelling_escapedBlank]
    exact ⟨Nat.le_succ _, iff_of_false (by simp) unclean⟩

end Token

theorem restoreTexts_words_eq_iff {tokens : List Token} {text : String}
    (lexical : ∀ t ∈ tokens, t.Lexical) (spelled : spell tokens = text.toList) :
    restoreTexts (words (joinWords (tokenTexts tokens))) = text ↔ ∀ t ∈ tokens, t.Clean := by
  have read : (restoreTexts (words (joinWords (tokenTexts tokens)))).toList =
      tokens.flatMap Token.readBack := by
    rw [words_joinWords, toList_restoreTexts, tokenTexts, List.flatMap_map, List.flatMap_assoc]
    exact congrArg tokens.flatMap (funext fun t => (toList_restoreTexts _).symm)
  rw [← String.toList_inj, read, ← spelled, spell,
    flatMap_eq_flatMap_iff fun t member => (lexical t member).readBack.1]
  exact forall_congr' fun t => forall_congr' fun member => (lexical t member).readBack.2

end FixCorpus
