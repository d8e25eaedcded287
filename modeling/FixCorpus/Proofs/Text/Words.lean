import FixCorpus.Proofs.Text.Blank
import FixCorpus.Text.Lines

/-! The words of a text that was put together from pieces. Blanks between the
pieces part the words, so that pieces without a blank come back as they are. -/

namespace FixCorpus.Text

theorem words_append_blank {c : Char} (blank : isBlank c = true) (a b : List Char) :
    words (String.ofList (a ++ c :: b)) = words (String.ofList a) ++ words (String.ofList b) := by
  simp only [words, String.toList_ofList, List.splitOnP_append_cons a b blank,
    List.filter_append, List.map_append]

@[simp] theorem words_empty : words "" = [] := rfl

theorem words_of_solid {text : String} (nonempty : text ≠ "") (solid : Solid text.toList) :
    words text = [text] := by
  have some_char : text.toList ≠ [] := fun h => nonempty (String.toList_inj.1 h)
  simp [words, List.splitOnP_eq_singleton solid, some_char]

theorem words_append_newline (text : String) : words (text ++ "\n") = words text := by
  have parted := words_append_blank isBlank_newline text.toList []
  simpa [String.ofList_append] using parted

theorem joinWords_singleton (w : String) : joinWords [w] = w := by
  simp [joinWords]

theorem joinWords_cons_cons (v w : String) (ws : List String) :
    joinWords (v :: w :: ws) = String.ofList (v.toList ++ ' ' :: (joinWords (w :: ws)).toList) := by
  simp [joinWords]

theorem words_joinWords (texts : List String) : words (joinWords texts) = texts.flatMap words := by
  induction texts with
  | nil => rfl
  | cons v texts ih =>
    cases texts with
    | nil => simp [joinWords_singleton]
    | cons w texts =>
      rw [joinWords_cons_cons, words_append_blank isBlank_space, String.ofList_toList,
        String.ofList_toList, ih]
      rfl

theorem flatMap_words_of_solid (texts : List String)
    (solid : ∀ text ∈ texts, text ≠ "" ∧ Solid text.toList) :
    texts.flatMap words = texts := by
  induction texts with
  | nil => rfl
  | cons text texts ih =>
    have first := solid text List.mem_cons_self
    rw [List.flatMap_cons, words_of_solid first.1 first.2,
      ih fun other member => solid other (List.mem_cons_of_mem _ member)]
    rfl

theorem ne_empty_of_mem_words {text w : String} (member : w ∈ words text) : w ≠ "" := by
  obtain ⟨piece, kept, rfl⟩ := List.mem_map.1 member
  simpa using (List.mem_filter.1 kept).2

theorem solid_of_mem_splitOnP {text piece : List Char} (member : piece ∈ text.splitOnP isBlank) :
    Solid piece := by
  induction text generalizing piece with
  | nil =>
    rw [List.splitOnP_nil, List.mem_singleton] at member
    exact member ▸ solid_nil
  | cons c text ih =>
    rw [List.splitOnP_cons_eq_if_modifyHead] at member
    split at member
    · rcases List.mem_cons.1 member with rfl | later
      · exact solid_nil
      · exact ih later
    · rename_i no_blank
      obtain ⟨first, others, parted⟩ := List.exists_cons_of_ne_nil
        (List.splitOnP_ne_nil isBlank text)
      rw [parted] at ih
      rw [parted, List.modifyHead_cons] at member
      rcases List.mem_cons.1 member with rfl | later
      · exact solid_cons.2 ⟨by simpa using no_blank, ih List.mem_cons_self⟩
      · exact ih (List.mem_cons_of_mem _ later)

theorem solid_of_mem_words {text w : String} (member : w ∈ words text) : Solid w.toList := by
  obtain ⟨piece, kept, rfl⟩ := List.mem_map.1 member
  rw [String.toList_ofList]
  exact solid_of_mem_splitOnP (List.mem_filter.1 kept).1

theorem words_joinWords_eq_iff {texts : List String} (nonempty : ∀ text ∈ texts, text ≠ "") :
    words (joinWords texts) = texts ↔ ∀ text ∈ texts, Solid text.toList := by
  rw [words_joinWords]
  constructor
  · intro same text member
    rw [← same] at member
    obtain ⟨_, -, inside⟩ := List.mem_flatMap.1 member
    exact solid_of_mem_words inside
  · exact fun solid => flatMap_words_of_solid texts fun text member =>
      ⟨nonempty text member, solid text member⟩

end FixCorpus.Text
