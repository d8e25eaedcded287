import FixCorpus.Proofs.Datapoint.Parsed
import FixCorpus.Proofs.Flattened.Language
import FixCorpus.Proofs.Tokenization.Renaming

/-! Flattened datapoints are lines. No token has a newline in it, so that the source
and the target of a datapoint are one line each, and those of many datapoints can
be told apart again. -/

namespace FixCorpus

open Text

namespace Text

theorem readLines_of_endLines {text : String} {ls : List (List Char)}
    (free : ∀ l ∈ ls, '\n' ∉ l) (ended : text.toList = endLines ls) :
    readLines text = ls.map fun l => String.ofList (dropReturn l) := by
  have parted : (endLines ls).splitOn '\n' = ls ++ [[]] := by
    rcases List.eq_nil_or_concat ls with rfl | ⟨front, last, rfl⟩
    · rfl
    · have nonempty : front.concat last ≠ [] := by simp
      rw [endLines_eq_intercalate nonempty, splitOn_append_newline,
        List.splitOn_intercalate _ free nonempty]
      rfl
  rw [readLines, ended, parted, terminatedLines_append_singleton]
  simp

theorem toList_join_of_ended {α : Type} {text : α → String} {line : α → List Char}
    (ended : ∀ a, (text a).toList = line a ++ ['\n']) (as : List α) :
    (String.join (as.map text)).toList = endLines (as.map line) := by
  rw [String.toList_join, List.flatMap_map, endLines, List.flatMap_map]
  exact List.flatMap_congr fun a _ => ended a

theorem words_dropReturn (line : List Char) :
    words (String.ofList (dropReturn line)) = words (String.ofList line) := by
  have blank : isBlank '\r' = true := by decide
  unfold dropReturn
  split
  · rename_i last
    obtain ⟨front, rfl⟩ := List.getLast?_eq_some_iff.1 last
    rw [List.dropLast_concat, words_append_blank blank front [], String.ofList_nil, words_empty,
      List.append_nil]
  · rfl

theorem newline_not_mem_joinWords {ws : List String} (free : ∀ w ∈ ws, '\n' ∉ w.toList) :
    '\n' ∉ (joinWords ws).toList := by
  induction ws with
  | nil => simp [joinWords]
  | cons v ws ih =>
    rw [List.forall_mem_cons] at free
    cases ws with
    | nil =>
      rw [joinWords_singleton]
      exact free.1
    | cons w ws =>
      have behind := ih free.2
      rw [joinWords_cons_cons, String.toList_ofList]
      simp [free.1, behind]

theorem newline_not_mem_toString (n : Int) : '\n' ∉ (toString n).toList := fun member =>
  absurd (solid_toString n _ member) (by decide)

end Text

namespace Flattened

structure NewlineFree (d : TokenizedDatapoint .window) : Prop where
  messages : ∀ o ∈ d.occurrences, ∀ w ∈ o.tokenizedMessage, '\n' ∉ w.toList
  context : ∀ w ∈ d.tokenizedFileContext, '\n' ∉ w.toList
  target : ∀ w ∈ d.tokenizedTargetLines, '\n' ∉ w.toList

def sourceLine (d : TokenizedDatapoint .window) : List Char :=
  (joinWords (sourceWords d)).toList

def targetLine (d : TokenizedDatapoint .window) : List Char :=
  (joinWords (targetWords d)).toList

section

variable {d : TokenizedDatapoint .window}

theorem toList_source : (source d).toList = sourceLine d ++ ['\n'] :=
  String.toList_append

theorem toList_target : (target d).toList = targetLine d ++ ['\n'] :=
  String.toList_append

theorem newline_not_mem_sourceLine (h : NewlineFree d) : '\n' ∉ sourceLine d := by
  refine newline_not_mem_joinWords (List.forall_mem_append.2 ⟨fun w member => ?_,
    List.forall_mem_cons.2 ⟨by decide, h.context⟩⟩)
  obtain ⟨o, listed, inside⟩ := List.mem_flatMap.1 member
  have words : ∀ w ∈ occurrenceWords o, '\n' ∉ w.toList := by
    simp only [occurrenceWords, List.forall_mem_cons]
    exact ⟨by decide, newline_not_mem_toString _, by decide, h.messages o listed⟩
  exact words w inside

theorem newline_not_mem_targetLine (h : NewlineFree d) : '\n' ∉ targetLine d := by
  refine newline_not_mem_joinWords ?_
  rw [targetWords]
  cases d.edit with
  | insert i =>
    simp only [List.forall_mem_cons, Edit.actionName]
    exact ⟨by decide, by decide, newline_not_mem_toString _, by decide, h.target⟩
  | delete e =>
    simp only [List.forall_mem_cons, Edit.actionName]
    exact ⟨by decide, by decide, newline_not_mem_toString _, by decide, newline_not_mem_toString _,
      List.forall_mem_nil _⟩
  | replace r =>
    simp only [List.forall_mem_cons, List.forall_mem_append, Edit.actionName]
    refine ⟨by decide, by decide, fun w member => ?_, by decide, h.target⟩
    obtain ⟨n, -, rfl⟩ := List.mem_map.1 member
    exact newline_not_mem_toString n

theorem countNewlines_source (h : NewlineFree d) : countNewlines (source d) = 1 := by
  rw [countNewlines, toList_source, List.count_append,
    List.count_eq_zero.2 (newline_not_mem_sourceLine h)]
  rfl

theorem countNewlines_target (h : NewlineFree d) : countNewlines (target d) = 1 := by
  rw [countNewlines, toList_target, List.count_append,
    List.count_eq_zero.2 (newline_not_mem_targetLine h)]
  rfl

end

theorem edit_targetLine (d : TokenizedDatapoint .window) :
    edit (String.ofList (dropReturn (targetLine d))) = edit (target d) := by
  have same : words (String.ofList (dropReturn (targetLine d))) = words (target d) := by
    rw [words_dropReturn, targetLine, String.ofList_toList, target, words_append_newline]
  simp only [edit, same]

end Flattened

namespace Tokenization

theorem newlineFree_attach {s : Streams} (free : ∀ t ∈ s.tokens, '\n' ∉ t.text.toList)
    (d : UnifiedDatapoint) : Flattened.NewlineFree (s.attach d) := by
  have texts : ∀ tokens : List Token, (∀ t ∈ tokens, t ∈ s.tokens) →
      ∀ w ∈ tokenTexts tokens, '\n' ∉ w.toList := fun tokens inside w member => by
    obtain ⟨t, listed, rfl⟩ := List.mem_map.1 member
    exact free t (inside t listed)
  refine ⟨fun o member => ?_, texts s.context fun t => List.mem_append_left _,
    texts s.target fun t listed => List.mem_append_right _ (List.mem_append_left _ listed)⟩
  obtain ⟨p, -, tokens, listed, rfl⟩ := mem_occurrences_attach member
  exact texts tokens fun t inside =>
    List.mem_append_right _ (List.mem_append_right _ (List.mem_flatten_of_mem listed inside))

theorem newline_not_mem_rename {t : Token} (free : '\n' ∉ t.text.toList) (a : Aliases) :
    '\n' ∉ (t.rename a.aliasOf).text.toList := by
  unfold Token.rename
  split
  · rw [Aliases.aliasOf, String.toList_append, List.mem_append, not_or]
    exact ⟨by decide, newline_not_mem_toString (a.names.idxOf t.text)⟩
  · exact free

theorem newlineFree_tokenizeDatapoint {d : UnifiedDatapoint} {source : String} {settings : Settings}
    {dp : TokenizedDatapoint .window} (tokenized : tokenizeDatapoint d source settings = .ok dp) :
    Flattened.NewlineFree dp := by
  obtain ⟨s, found, attached⟩ := except_bind_eq_ok.1 tokenized
  have lexical : ∀ t ∈ s.tokens, t.Lexical := forall_mem_streams found
    (fun _ _ => Lexer.lexical_tokenize)
    fun text t member => .plain ((Lexer.Prose.faithful_tokenize _ text).2 t member)
  have free : ∀ t ∈ s.tokens, '\n' ∉ t.text.toList := fun t member =>
    (lexical t member).newline_not_mem_text
  cases attached
  split
  · rw [s.withAliases_eq]
    refine newlineFree_attach (fun t member => ?_) d
    rw [s.tokens_rename] at member
    obtain ⟨t, listed, rfl⟩ := List.mem_map.1 member
    exact newline_not_mem_rename (free t listed) _
  · exact newlineFree_attach free d

end Tokenization

end FixCorpus
