import FixCorpus.Text.Lines

/-! Lines in the plain sense, which only newlines end. Behind a whole number of
lines a text can be cut without a line being parted, so that the lines of both
pieces are those of the text. The reader's and the decoder's view of the lines
are this one as long as there is no carriage return. -/

namespace FixCorpus.Text

def Complete (text : List Char) : Prop :=
  ∀ c ∈ text.getLast?, c = '\n'

/-- The lines of a text; what stands behind the last newline is one if it holds anything. -/
def lines (text : List Char) : List (List Char) :=
  if text = [] then [] else (dropFinalNewline text).splitOn '\n'

def endLines (ls : List (List Char)) : List Char :=
  ls.flatMap (· ++ ['\n'])

theorem complete_nil : Complete [] := by
  simp [Complete]

theorem complete_append_newline (front : List Char) : Complete (front ++ ['\n']) := by
  simp [Complete]

theorem Complete.eq_nil_or {text : List Char} (h : Complete text) :
    text = [] ∨ ∃ front, text = front ++ ['\n'] := by
  cases last : text.getLast? with
  | none => exact Or.inl (List.getLast?_eq_none_iff.1 last)
  | some c =>
    obtain ⟨front, rfl⟩ := List.getLast?_eq_some_iff.1 last
    exact Or.inr ⟨front, by rw [h c last]⟩

theorem Complete.append {a b : List Char} (left : Complete a) (right : Complete b) :
    Complete (a ++ b) := by
  intro c last
  rw [List.getLast?_append, Option.mem_def] at last
  cases found : b.getLast? with
  | none => exact left c (by simpa [found] using last)
  | some d => exact right c (by simpa [found] using last)

theorem Complete.of_append {a b : List Char} (h : Complete (a ++ b)) : Complete b := by
  intro c last
  refine h c ?_
  rw [List.getLast?_append, Option.mem_def.1 last]
  rfl

theorem dropFinalNewline_append_newline (front : List Char) :
    dropFinalNewline (front ++ ['\n']) = front := by
  simp [dropFinalNewline]

theorem dropFinalNewline_append {b : List Char} (a : List Char) (nonempty : b ≠ []) :
    dropFinalNewline (a ++ b) = a ++ dropFinalNewline b := by
  unfold dropFinalNewline
  have same_end : (a ++ b).getLast? = b.getLast? := by
    rw [List.getLast?_append, List.getLast?_eq_some_getLast nonempty]
    rfl
  rw [same_end, List.dropLast_append_of_ne_nil nonempty]
  split <;> rfl

@[simp] theorem lines_nil : lines [] = [] := rfl

theorem lines_of_ne_nil {text : List Char} (nonempty : text ≠ []) :
    lines text = (dropFinalNewline text).splitOn '\n' :=
  if_neg nonempty

theorem lines_eq_nil_iff {text : List Char} : lines text = [] ↔ text = [] := by
  refine ⟨fun none => ?_, fun none => by rw [none, lines_nil]⟩
  by_cases empty : text = []
  · exact empty
  · rw [lines_of_ne_nil empty] at none
    exact absurd none (List.splitOn_ne_nil _ _)

theorem splitOn_append_newline (a b : List Char) :
    (a ++ '\n' :: b).splitOn '\n' = a.splitOn '\n' ++ b.splitOn '\n' :=
  List.splitOnP_append_cons a b (by simp)

theorem splitOn_of_free {l : List Char} (free : '\n' ∉ l) : l.splitOn '\n' = [l] :=
  List.splitOnP_eq_singleton fun c member => by
    simpa using fun same : c = '\n' => free (same ▸ member)

theorem lines_append_newline (front : List Char) :
    lines (front ++ ['\n']) = front.splitOn '\n' := by
  rw [lines_of_ne_nil (by simp), dropFinalNewline_append_newline]

theorem lines_of_not_complete {text : List Char} (open_end : ¬ Complete text) :
    lines text = text.splitOn '\n' := by
  have nonempty : text ≠ [] := fun nil => open_end (nil ▸ complete_nil)
  have last : text.getLast? ≠ some '\n' := fun last => open_end (by simp [Complete, last])
  rw [lines_of_ne_nil nonempty, dropFinalNewline, if_neg last]

theorem lines_append {a : List Char} (complete : Complete a) (b : List Char) :
    lines (a ++ b) = lines a ++ lines b := by
  rcases complete.eq_nil_or with rfl | ⟨front, rfl⟩
  · rfl
  · by_cases nonempty : b = []
    · simp [nonempty]
    · rw [lines_append_newline, lines_of_ne_nil nonempty, List.append_assoc,
        lines_of_ne_nil (by simp), ← List.append_assoc,
        dropFinalNewline_append _ nonempty, List.append_assoc, List.singleton_append,
        splitOn_append_newline]

theorem splitOn_append {a : List Char} (complete : Complete a) (b : List Char) :
    (a ++ b).splitOn '\n' = lines a ++ b.splitOn '\n' := by
  rcases complete.eq_nil_or with rfl | ⟨front, rfl⟩
  · rfl
  · rw [lines_append_newline, List.append_assoc, List.singleton_append, splitOn_append_newline]

theorem length_splitOn_newline (text : List Char) :
    (text.splitOn '\n').length = text.count '\n' + 1 := by
  induction text with
  | nil => rfl
  | cons c text ih =>
    rw [List.splitOn_eq_splitOnP] at ih ⊢
    rw [List.splitOnP_cons_eq_if_modifyHead]
    by_cases newline : c = '\n'
    · simp [newline, ih]
    · simp [newline, ih]

theorem length_lines {text : List Char} (complete : Complete text) :
    (lines text).length = text.count '\n' := by
  rcases complete.eq_nil_or with rfl | ⟨front, rfl⟩
  · rfl
  · simp [lines_append_newline, length_splitOn_newline]

@[simp] theorem endLines_nil : endLines [] = [] := rfl

@[simp] theorem endLines_cons (l : List Char) (ls : List (List Char)) :
    endLines (l :: ls) = l ++ '\n' :: endLines ls := by
  simp [endLines]

@[simp] theorem endLines_append (a b : List (List Char)) :
    endLines (a ++ b) = endLines a ++ endLines b :=
  List.flatMap_append

theorem complete_endLines (ls : List (List Char)) : Complete (endLines ls) := by
  induction ls with
  | nil => exact complete_nil
  | cons l ls ih =>
    rw [endLines_cons, ← List.singleton_append, ← List.append_assoc]
    exact (complete_append_newline l).append ih

theorem lines_endLines {ls : List (List Char)} (free : ∀ l ∈ ls, '\n' ∉ l) :
    lines (endLines ls) = ls := by
  induction ls with
  | nil => rfl
  | cons l ls ih =>
    rw [endLines_cons, ← List.singleton_append, ← List.append_assoc,
      lines_append (complete_append_newline l), lines_append_newline,
      splitOn_of_free (free l List.mem_cons_self),
      ih fun other member => free other (List.mem_cons_of_mem _ member)]
    rfl

theorem endLines_eq_intercalate {ls : List (List Char)} (nonempty : ls ≠ []) :
    endLines ls = ['\n'].intercalate ls ++ ['\n'] := by
  induction ls with
  | nil => exact absurd rfl nonempty
  | cons l ls ih =>
    cases ls with
    | nil => simp
    | cons next ls =>
      rw [endLines_cons, ih (by simp), List.intercalate_cons_cons]
      simp

theorem endLines_lines {text : List Char} (complete : Complete text) :
    endLines (lines text) = text := by
  rcases complete.eq_nil_or with rfl | ⟨front, rfl⟩
  · rfl
  · rw [lines_append_newline, endLines_eq_intercalate (List.splitOn_ne_nil _ _),
      List.intercalate_splitOn]

theorem intercalate_append_singleton (ls : List (List Char)) (l : List Char) :
    ['\n'].intercalate (ls ++ [l]) = endLines ls ++ l := by
  have some_line : ls ++ [l] ≠ [] := by simp
  have ended := endLines_eq_intercalate some_line
  rw [endLines_append, endLines_cons, endLines_nil, ← List.append_assoc] at ended
  exact (List.append_cancel_right ended).symm

theorem complete_endLines_append_iff (ls : List (List Char)) {l : List Char} (free : '\n' ∉ l) :
    Complete (endLines ls ++ l) ↔ l = [] := by
  refine ⟨fun complete => ?_, fun empty => ?_⟩
  · rcases complete.of_append.eq_nil_or with empty | ⟨front, rfl⟩
    · exact empty
    · simp at free
  · rw [empty, List.append_nil]
    exact complete_endLines ls

theorem mem_of_mem_splitOn {text l : List Char} (member : l ∈ text.splitOn '\n') {c : Char}
    (inside : c ∈ l) : c ∈ text ∧ c ≠ '\n' := by
  induction text generalizing l with
  | nil =>
    rw [List.splitOn_nil, List.mem_singleton] at member
    simp [member] at inside
  | cons d text ih =>
    rw [List.splitOn_eq_splitOnP] at ih member
    rw [List.splitOnP_cons_eq_if_modifyHead] at member
    split at member
    · rcases List.mem_cons.1 member with rfl | member
      · cases inside
      · exact (ih member inside).imp_left (List.mem_cons_of_mem d)
    · rename_i other
      cases pieces : text.splitOnP (· == '\n') with
      | nil => exact absurd pieces (List.splitOnP_ne_nil _ _)
      | cons first rest =>
        rw [pieces] at ih member
        rcases List.mem_cons.1 member with rfl | member
        · rcases List.mem_cons.1 inside with rfl | inside
          · exact ⟨List.mem_cons_self, by simpa using other⟩
          · exact (ih List.mem_cons_self inside).imp_left (List.mem_cons_of_mem d)
        · exact (ih (List.mem_cons_of_mem _ member) inside).imp_left (List.mem_cons_of_mem d)

theorem complete_iff_getLast?_splitOn (text : List Char) :
    Complete text ↔ (text.splitOn '\n').getLast? = some [] := by
  obtain ⟨ls, l, parted⟩ :=
    (List.eq_nil_or_concat _).resolve_left (List.splitOn_ne_nil '\n' text)
  rw [List.concat_eq_append] at parted
  have joined : text = endLines ls ++ l := by
    rw [← intercalate_append_singleton, ← parted, List.intercalate_splitOn]
  have last : l ∈ text.splitOn '\n' := by simp [parted]
  have free : '\n' ∉ l := fun inside => (mem_of_mem_splitOn last inside).2 rfl
  rw [parted, List.getLast?_concat, Option.some.injEq, ← complete_endLines_append_iff ls free,
    ← joined]

theorem newline_not_mem_of_mem_lines {text l : List Char} (member : l ∈ lines text) :
    '\n' ∉ l := by
  unfold lines at member
  split at member
  · cases member
  · exact fun inside => (mem_of_mem_splitOn member inside).2 rfl

theorem terminatedLines_append_singleton (ls : List (List Char)) (l : List Char) :
    terminatedLines (ls ++ [l]) = ls.map dropReturn ++ if l.isEmpty then [] else [l] := by
  induction ls with
  | nil => rfl
  | cons first ls ih =>
    cases ls with
    | nil => simp [terminatedLines]
    | cons next ls =>
      rw [List.cons_append, List.cons_append, terminatedLines, ← List.cons_append, ih]
      rfl

@[simp] theorem map_toList_map_ofList (ls : List (List Char)) :
    (ls.map String.ofList).map String.toList = ls := by
  simp

@[simp] theorem map_ofList_map_toList (ls : List String) :
    (ls.map String.toList).map String.ofList = ls := by
  have same : (String.ofList ∘ String.toList) = id := funext fun _ => String.ofList_toList
  rw [List.map_map, same, List.map_id]

theorem dropReturn_subset (l : List Char) : dropReturn l ⊆ l := by
  unfold dropReturn
  split
  · exact (List.dropLast_sublist l).subset
  · exact List.Subset.refl l

theorem newline_not_mem_of_mem_readLines {text l : String} (member : l ∈ readLines text) :
    '\n' ∉ l.toList := by
  obtain ⟨chars, terminated, rfl⟩ := List.mem_map.1 member
  obtain ⟨ls, last, parted⟩ :=
    (List.eq_nil_or_concat _).resolve_left (List.splitOn_ne_nil '\n' text.toList)
  have free : ∀ piece ∈ ls ++ [last], '\n' ∉ piece := fun piece piece_member inside => by
    rw [← List.concat_eq_append, ← parted] at piece_member
    exact (mem_of_mem_splitOn piece_member inside).2 rfl
  rw [parted, List.concat_eq_append, terminatedLines_append_singleton] at terminated
  rw [String.toList_ofList]
  rcases List.mem_append.1 terminated with front | back
  · obtain ⟨piece, piece_member, rfl⟩ := List.mem_map.1 front
    exact fun inside =>
      free piece (List.mem_append_left _ piece_member) (dropReturn_subset piece inside)
  · split at back
    · cases back
    · rw [List.mem_singleton.1 back]
      exact free last (List.mem_append_right _ (List.mem_singleton.2 rfl))

theorem map_dropReturn {ls : List (List Char)} (no_return : ∀ l ∈ ls, '\r' ∉ l) :
    ls.map dropReturn = ls := by
  have same : ∀ l ∈ ls, dropReturn l = id l := by
    intro l member
    unfold dropReturn
    split
    · rename_i last
      exact absurd (List.mem_of_getLast? last) (no_return l member)
    · rfl
  rw [List.map_congr_left same, List.map_id]

theorem terminatedLines_splitOn {text : List Char} (no_return : '\r' ∉ text) :
    terminatedLines (text.splitOn '\n') = lines text := by
  have kept : ∀ ls l, text.splitOn '\n' = ls ++ [l] → ls.map dropReturn = ls := fun ls l parted =>
    map_dropReturn fun other member inside =>
      no_return (mem_of_mem_splitOn (by simp [parted, member]) inside).1
  by_cases complete : Complete text
  · rcases complete.eq_nil_or with rfl | ⟨front, rfl⟩
    · rfl
    · have parted := splitOn_append_newline front []
      rw [List.splitOn_nil] at parted
      rw [parted, terminatedLines_append_singleton, kept _ _ parted, lines_append_newline]
      exact List.append_nil _
  · obtain ⟨ls, l, parted⟩ := (List.eq_nil_or_concat _).resolve_left (List.splitOn_ne_nil '\n' text)
    rw [List.concat_eq_append] at parted
    have last_piece : l ≠ [] := by
      rintro rfl
      exact complete ((complete_iff_getLast?_splitOn text).2 (by simp [parted]))
    rw [lines_of_not_complete complete, parted, terminatedLines_append_singleton, kept ls l parted]
    simp [last_piece]

theorem toList_joinLines_append_empty (ls : List String) :
    (joinLines (ls ++ [""])).toList = endLines (ls.map String.toList) := by
  rw [joinLines, String.toList_ofList, List.map_append, List.map_singleton, String.toList_empty,
    intercalate_append_singleton, List.append_nil]

section

variable {text : String}

theorem readLines_eq (no_return : '\r' ∉ text.toList) :
    readLines text = (lines text.toList).map String.ofList := by
  rw [readLines, terminatedLines_splitOn no_return]

theorem splitLines_eq (complete : Complete text.toList) (no_return : '\r' ∉ text.toList) :
    splitLines text = readLines text ++ [""] := by
  rw [readLines_eq no_return, splitLines]
  rcases complete.eq_nil_or with empty | ⟨front, parted⟩
  · rw [empty]
    rfl
  · rw [parted, lines_append_newline, splitOn_append_newline]
    simp

theorem splitLines_eq_readLines (open_end : ¬ Complete text.toList)
    (no_return : '\r' ∉ text.toList) : splitLines text = readLines text := by
  rw [readLines_eq no_return, lines_of_not_complete open_end, splitLines]

theorem length_readLines_lt_splitLines (complete : Complete text.toList)
    (no_return : '\r' ∉ text.toList) : (readLines text).length < (splitLines text).length := by
  rw [splitLines_eq complete no_return, List.length_append]
  exact Nat.lt_succ_self _

theorem length_readLines_le_splitLines (no_return : '\r' ∉ text.toList) :
    (readLines text).length ≤ (splitLines text).length := by
  by_cases complete : Complete text.toList
  · exact Nat.le_of_lt (length_readLines_lt_splitLines complete no_return)
  · exact Nat.le_of_eq (congrArg List.length (splitLines_eq_readLines complete no_return).symm)

theorem length_splitLines (text : String) : (splitLines text).length = countNewlines text + 1 := by
  rw [splitLines, List.length_map, length_splitOn_newline]
  rfl

theorem newline_not_mem_of_mem_splitLines {line : String} (member : line ∈ splitLines text) :
    '\n' ∉ line.toList := by
  obtain ⟨piece, inside, rfl⟩ := List.mem_map.1 member
  rw [String.toList_ofList]
  exact fun newline => (mem_of_mem_splitOn inside newline).2 rfl

theorem splitLines_joinLines {ls : List String} (nonempty : ls ≠ [])
    (free : ∀ l ∈ ls, '\n' ∉ l.toList) : splitLines (joinLines ls) = ls := by
  have chars_free : ∀ l ∈ ls.map String.toList, '\n' ∉ l := by
    intro l member
    obtain ⟨line, inside, rfl⟩ := List.mem_map.1 member
    exact free line inside
  rw [splitLines, joinLines, String.toList_ofList,
    List.splitOn_intercalate _ chars_free (by simpa using nonempty), map_ofList_map_toList]

theorem complete_joinLines_append_singleton_iff (ls : List String) {l : String}
    (free : '\n' ∉ l.toList) : Complete (joinLines (ls ++ [l])).toList ↔ l = "" := by
  rw [joinLines, String.toList_ofList, List.map_append, List.map_singleton,
    intercalate_append_singleton, complete_endLines_append_iff _ free, String.toList_eq_nil_iff]

theorem length_readLines_le (complete : Complete text.toList) (no_return : '\r' ∉ text.toList) :
    (readLines text).length ≤ text.length := by
  rw [readLines_eq no_return, List.length_map, length_lines complete, ← String.length_toList]
  exact List.count_le_length

end

end FixCorpus.Text
