import FixCorpus.Flattened.Decoder
import FixCorpus.Flattened.Writer
import FixCorpus.Proofs.Text.Numeral
import FixCorpus.Proofs.Token.Restoration

/-! Reading the source line of a datapoint again. All diagnostics come back as
long as no word of a message is one that ends messages, and the file context is
what the words of its tokens restore. -/

namespace FixCorpus.Flattened

open Text

theorem words_toString (n : Int) : words (toString n) = [toString n] :=
  words_of_solid (toString_ne_empty n) (solid_toString n)

theorem lineNumber_toString {n : Int} (fits : FitsInt n) : lineNumber (toString n) = .ok n := by
  rw [lineNumber, integer?_toString fits]

theorem eq_text_of_mem_words {t : Token} (plain : t.Plain) {w : String}
    (member : w ∈ words t.text) : w = t.text := by
  cases plain with
  | @blank c blank =>
    have text : (Token.blank c).text = Token.blankText c := rfl
    rw [text] at member ⊢
    rcases Token.words_blankText blank with ⟨-, read⟩ | ⟨-, lost⟩
    · rw [read] at member
      exact List.mem_singleton.1 member
    · rw [lost] at member
      cases member
  | @solid kind text kind_ne nonempty solid =>
    rw [words_of_solid (by simpa using nonempty) (by simpa using solid)] at member
    exact List.mem_singleton.1 member

def annotation (o : TokenizedOccurrence) : Annotation :=
  ⟨o.line, restoreTexts (o.tokenizedMessage.flatMap words)⟩

/-- The occurrence can be told from what follows it. -/
structure Readable (o : TokenizedOccurrence) : Prop where
  fits : FitsInt o.line
  inside : ∀ w ∈ o.tokenizedMessage.flatMap words, endsMessage w = false

theorem flatMap_words_occurrenceWords (o : TokenizedOccurrence) :
    (occurrenceWords o).flatMap words =
      "LINE" :: toString o.line :: "MESSAGE" :: o.tokenizedMessage.flatMap words := by
  have line : words "LINE" = ["LINE"] := words_of_solid (by decide) (by decide)
  have message : words "MESSAGE" = ["MESSAGE"] := words_of_solid (by decide) (by decide)
  simp only [occurrenceWords, List.flatMap_cons, line, message, words_toString,
    List.singleton_append]

theorem words_source (d : TokenizedDatapoint .window) :
    words (source d) = d.occurrences.flatMap (fun o => (occurrenceWords o).flatMap words) ++
      "FILE_CONTENT" :: d.tokenizedFileContext.flatMap words := by
  have content : words "FILE_CONTENT" = ["FILE_CONTENT"] :=
    words_of_solid (by decide) (by decide)
  rw [source, words_append_newline, words_joinWords, sourceWords, List.flatMap_append,
    List.flatMap_assoc, List.flatMap_cons, content, List.singleton_append]

theorem span_message {message rest : List String} (inside : ∀ w ∈ message, endsMessage w = false)
    (ended : ∀ w ∈ rest.head?, endsMessage w = true) :
    (message ++ rest).takeWhile (!endsMessage ·) = message ∧
      (message ++ rest).dropWhile (!endsMessage ·) = rest := by
  have taken : ∀ w ∈ message, (!endsMessage w) = true := by simpa using inside
  rw [List.takeWhile_append_of_pos taken, List.dropWhile_append_of_pos taken]
  cases rest with
  | nil => simp
  | cons w rest => simp [ended w rfl]

theorem annotations_message {n : Int} (fits : FitsInt n) {message rest : List String}
    (inside : ∀ w ∈ message, endsMessage w = false)
    (ended : ∀ w ∈ rest.head?, endsMessage w = true) :
    annotations ("LINE" :: toString n :: "MESSAGE" :: (message ++ rest)) = do
      let (others, rest) ← annotations rest
      return (⟨n, restoreTexts message⟩ :: others, rest) := by
  have parted := span_message inside ended
  rw [annotations, lineNumber_toString fits]
  simp only [bind, Except.bind, parted.1, parted.2]

theorem annotations_occurrences {occurrences : List TokenizedOccurrence}
    (readable : ∀ o ∈ occurrences, Readable o) (rest : List String) :
    annotations (occurrences.flatMap (fun o => (occurrenceWords o).flatMap words) ++
      "FILE_CONTENT" :: rest) = .ok (occurrences.map annotation, "FILE_CONTENT" :: rest) := by
  induction occurrences with
  | nil =>
    rw [List.flatMap_nil, List.nil_append, annotations]
    · rfl
    all_goals simp
  | cons o occurrences ih =>
    have first := readable o List.mem_cons_self
    have ended : ∀ w ∈ (occurrences.flatMap (fun o => (occurrenceWords o).flatMap words) ++
        "FILE_CONTENT" :: rest).head?, endsMessage w = true := by
      cases occurrences with
      | nil => simp [endsMessage]
      | cons next occurrences => simp [flatMap_words_occurrenceWords, endsMessage]
    have others := ih fun other member => readable other (List.mem_cons_of_mem o member)
    rw [List.flatMap_cons, flatMap_words_occurrenceWords, List.append_assoc, List.cons_append,
      List.cons_append, List.cons_append, annotations_message first.fits first.inside ended, others]
    rfl

theorem decodeSource_source {d : TokenizedDatapoint .window}
    (readable : ∀ o ∈ d.occurrences, Readable o) :
    decodeSource (source d) =
      .ok ⟨d.occurrences.map annotation, restoreTexts (d.tokenizedFileContext.flatMap words)⟩ := by
  have read := annotations_occurrences readable (d.tokenizedFileContext.flatMap words)
  rw [← words_source] at read
  unfold decodeSource
  split
  · rename_i none
    rw [words_source] at none
    simp at none
  · rw [read]
    rfl

theorem toList_restoreTexts_tokenTexts {tokens : List Token} (lexical : ∀ t ∈ tokens, t.Lexical)
    (clean : ∀ t ∈ tokens, t.Clean) :
    (restoreTexts ((tokenTexts tokens).flatMap words)).toList = spell tokens := by
  have restored := (restoreTexts_words_eq_iff lexical
    (String.toList_ofList (l := spell tokens)).symm).2 clean
  rw [words_joinWords] at restored
  rw [restored, String.toList_ofList]

end FixCorpus.Flattened
