import FixCorpus.Proofs.Patch.Layout
import FixCorpus.Proofs.Text.Decimal

/-! Unified diffs are read as they were written. What the header of a hunk says
decides how many lines are its own, so that lines of a hunk may look like headers.
`read_eq_of_layout` is the main statement. -/

namespace FixCorpus.Patch

open Text

section Header

variable {rest : List Char}

theorem number?_toString {n : Int} (unsigned : Unsigned n)
    (stop : ∀ c ∈ rest.head?, c.isDigit = false) :
    number? ((toString n).toList ++ rest) = some (n, rest) := by
  rw [toList_toString, if_pos unsigned.1]
  have no_digits : rest.takeWhile Char.isDigit = [] ∧ rest.dropWhile Char.isDigit = rest := by
    cases rest with
    | nil => exact ⟨rfl, rfl⟩
    | cons c rest => simp [stop c rfl]
  have digits : ∀ c ∈ Nat.toDigits 10 n.toNat, c.isDigit = true := fun c =>
    isDigit_of_mem_toDigits
  unfold number?
  rw [List.takeWhile_append_of_pos digits, List.dropWhile_append_of_pos digits, no_digits.1,
    no_digits.2, List.append_nil]
  split
  · rename_i none
    exact absurd none Nat.toDigits_ne_nil
  · have value : (digitsValue (Nat.toDigits 10 n.toNat) : Int) = n := by
      rw [digitsValue_toDigits, Int.toNat_of_nonneg unsigned.1]
    rw [value, if_pos unsigned.2]

theorem side?_of_gives {start length : Int} {text : List Char} (gives : Gives start length text)
    (start_unsigned : Unsigned start) (length_unsigned : Unsigned length)
    (spaced : rest.head? = some ' ') : side? (text ++ rest) = some (start, length, rest) := by
  obtain ⟨rest, rfl⟩ := List.head?_eq_some_iff.1 spaced
  have number {n : Int} (unsigned : Unsigned n) :
      number? ((toString n).toList ++ ' ' :: rest) = some (n, ' ' :: rest) :=
    number?_toString unsigned (by simp)
  unfold side?
  rcases gives with rfl | ⟨rfl, rfl⟩
  · rw [List.append_assoc, List.cons_append, number?_toString start_unsigned (by simp)]
    simp only [Option.bind_eq_bind, Option.bind_some, number length_unsigned]
    rfl
  · rw [number start_unsigned]
    rfl

theorem header?_of_announces {h : Hunk} {line : List Char} (announces : Announces h line)
    (unsigned : ∀ n ∈ [h.sourceStart, h.sourceLength, h.targetStart, h.targetLength], Unsigned n) :
    header? line = some { h with lines := [] } := by
  obtain ⟨source, target, title, source_given, target_given, titled, rfl⟩ := announces
  have strip {front rest : List Char} : stripFront? front (front ++ rest) = some rest :=
    stripFront?_eq_some_iff.2 rfl
  have source_read (rest : List Char) (spaced : rest.head? = some ' ') :=
    side?_of_gives source_given (unsigned _ (by simp)) (unsigned _ (by simp)) spaced
  have target_read (rest : List Char) (spaced : rest.head? = some ' ') :=
    side?_of_gives target_given (unsigned _ (by simp)) (unsigned _ (by simp)) spaced
  simp only [header?, List.append_assoc, strip, Option.bind_eq_bind, Option.bind_some]
  rw [source_read (" +".toList ++ _) rfl]
  simp only [strip, Option.bind_some]
  rw [target_read (" @@".toList ++ _) rfl]
  simp only [strip, Option.bind_some]
  rcases titled with rfl | ⟨empty, rfl⟩
  · simp
  · simp [← empty]

end Header

section Body

/-- The lines are those for which the cursor has room, with its numbers. -/
structure Cursor.Awaits (c : Cursor) (ls : List HunkLine) : Prop where
  numbered : NumberedOnBoth c.sourceLine c.targetLine ls
  source_left : (ls.countP (·.kind ≠ .added) : Int) = c.sourceLeft
  target_left : (ls.countP (·.kind ≠ .removed) : Int) = c.targetLeft

variable {c : Cursor} {l : HunkLine} {ls : List HunkLine} {line : List Char}
  {lines : List (List Char)}

theorem awaits_ofHunk {h : Hunk} (wellFormed : h.WellFormed) : (Cursor.ofHunk h).Awaits h.lines :=
  ⟨wellFormed.numbered, wellFormed.source_length, wellFormed.target_length⟩

theorem Cursor.Awaits.isDone_eq (h : c.Awaits ls) : c.isDone = ls.isEmpty := by
  have source_left := h.source_left
  have target_left := h.target_left
  rw [Bool.eq_iff_iff, Cursor.isDone, List.isEmpty_iff, Bool.and_eq_true, decide_eq_true_eq,
    decide_eq_true_eq]
  cases ls with
  | nil => simp_all
  | cons l ls =>
    rw [List.countP_cons] at source_left target_left
    cases kind : l.kind <;> simp [kind] at source_left target_left ⊢ <;> omega

theorem body?_of_isDone (done : c.isDone = true) (lines : List (List Char)) :
    body? c lines = some ([], lines) := by
  cases lines <;> simp [body?, done]

theorem exists_body?_iff (h : c.Awaits []) {P : List (List Char) → Prop} :
    (∃ rest, body? c lines = some ([], rest) ∧ P rest) ↔ P lines := by
  simp [body?_of_isDone h.isDone_eq]

theorem Cursor.Awaits.advance (h : c.Awaits (l :: ls)) :
    l = c.line l.kind l.text.toList ∧ (c.advance l.kind).Awaits ls := by
  have numbered : l = c.line l.kind l.text.toList ∧
      NumberedOnBoth (c.advance l.kind).sourceLine (c.advance l.kind).targetLine ls := by
    cases h.numbered with
    | context text others => exact ⟨by simp [Cursor.line], others⟩
    | added text others => exact ⟨by simp [Cursor.line], others⟩
    | removed text others => exact ⟨by simp [Cursor.line], others⟩
  have source_left := h.source_left
  have target_left := h.target_left
  rw [List.countP_cons] at source_left target_left
  refine ⟨numbered.1, numbered.2, ?_, ?_⟩ <;> cases kind : l.kind <;>
    simp [kind, Cursor.advance] at source_left target_left ⊢ <;> omega

theorem lineKind?_of_shows (shows : Shows l line) :
    lineKind? line = some (l.kind, l.text.toList) ∧ startsWith "\\" line = false := by
  rcases shows with rfl | ⟨kind, text, rfl⟩
  · cases kind : l.kind <;> exact ⟨rfl, rfl⟩
  · rw [kind, text]
    exact ⟨rfl, rfl⟩

theorem body?_of_shows (awaits : c.Awaits (l :: ls)) (shows : Shows l line)
    {rest : List (List Char)} (others : body? (c.advance l.kind) lines = some (ls, rest)) :
    body? c (line :: lines) = some (l :: ls, rest) := by
  obtain ⟨same, next⟩ := awaits.advance
  obtain ⟨kind, no_remark⟩ := lineKind?_of_shows shows
  have room : ¬ ((c.advance l.kind).sourceLeft < 0 ∨ (c.advance l.kind).targetLeft < 0) := by
    rw [← next.source_left, ← next.target_left]
    omega
  simp only [body?, awaits.isDone_eq, List.isEmpty_cons, Bool.false_eq_true, if_false, no_remark,
    kind, Option.bind_eq_bind, Option.bind_some, if_neg room, others, ← same]
  rfl

theorem body?_of_remark (awaits : c.Awaits (l :: ls)) (marked : startsWith "\\" line = true) :
    body? c (line :: lines) = body? c lines := by
  simp [body?, awaits.isDone_eq, marked]

end Body

section Files

variable {line : List Char} {lines : List (List Char)} {done : List FilePatch}

theorem readOnto_of_filler (passed : Filler line) :
    readOnto (line :: lines) done = readOnto lines done := by
  have no_file : lines.head?.any (beginFile line) = false := by
    cases lines <;> simp [beginFile, passed "--- " (by simp)]
  rw [readOnto]
  simp [no_file, passed "@@" (by simp)]

theorem filler_of_remark (marked : startsWith "\\" line = true) : Filler line := by
  obtain ⟨rest, rfl⟩ := startsWith_iff.1 marked
  intro front member
  simp only [List.mem_cons, List.not_mem_nil, or_false] at member
  rcases member with rfl | rfl | rfl <;> rfl

theorem readOnto_dropWhile_remark (lines : List (List Char)) (done : List FilePatch) :
    readOnto (lines.dropWhile (startsWith "\\")) done = readOnto lines done := by
  induction lines with
  | nil => rfl
  | cons line lines ih =>
    rw [List.dropWhile_cons]
    split
    · rename_i marked
      rw [ih, readOnto_of_filler (filler_of_remark marked)]
    · rfl

theorem startsWith_of_names {front path : String} (names : Names front path line) :
    startsWith front line = true := by
  rw [startsWith_iff]
  rcases names with rfl | ⟨time, rfl⟩
  · exact List.prefix_append _ _
  · rw [List.append_assoc]
    exact List.prefix_append _ _

theorem headerPath_of_names {front path : String} (plain : PlainPath path)
    (four : front.toList.length = 4) (names : Names front path line) : headerPath line = path := by
  have no_tab : ∀ c ∈ path.toList, (c != '\t') = true := fun c member => by
    simpa using fun tab : c = '\t' => plain.no_tab (tab ▸ member)
  have behind (stamp : List Char) (stop : stamp.takeWhile (· != '\t') = []) :
      headerPath (front.toList ++ path.toList ++ stamp) = path := by
    rw [headerPath, List.append_assoc, List.drop_left' four,
      List.takeWhile_append_of_pos no_tab, stop, List.append_nil, plain.trimmed,
      String.ofList_toList]
  rcases names with rfl | ⟨time, rfl⟩
  · simpa using behind [] rfl
  · exact behind _ rfl

theorem readOnto_of_names {p : FilePatch} {source target : List Char}
    (wellFormed : p.WellFormed) (source_named : Names "--- " p.sourceFile source)
    (target_named : Names "+++ " p.targetFile target) :
    readOnto (source :: target :: lines) done =
      readOnto lines (⟨p.sourceFile, p.targetFile, []⟩ :: done) := by
  have begins : (target :: lines).head?.any (beginFile source) = true := by
    simp [beginFile, startsWith_of_names source_named, startsWith_of_names target_named]
  rw [readOnto, if_pos begins, headerPath_of_names wellFormed.source rfl source_named,
    List.headD_cons, headerPath_of_names wellFormed.target rfl target_named, List.tail_cons]

theorem readOnto_of_announces {h : Hunk} {rest : List (List Char)} (wellFormed : h.WellFormed)
    (announces : Announces h line) (read : body? (.ofHunk h) lines = some (h.lines, rest)) :
    readOnto (line :: lines) done = addHunk h done >>= readOnto rest := by
  have hunk_read : hunk line lines = .ok (h, rest.dropWhile (startsWith "\\")) := by
    have same_cursor : Cursor.ofHunk { h with lines := [] } = .ofHunk h := rfl
    simp only [hunk, header?_of_announces announces wellFormed.unsigned, same_cursor, read]
  obtain ⟨tail, starts⟩ : ∃ tail, line = '@' :: '@' :: tail := by
    obtain ⟨source, target, title, -, -, -, rfl⟩ := announces
    exact ⟨_, rfl⟩
  have no_file : lines.head?.any (beginFile line) = false := by
    rw [starts]
    cases lines <;> rfl
  rw [readOnto, no_file, if_neg Bool.false_ne_true, if_pos (starts ▸ rfl)]
  split
  · rename_i failed
    rw [hunk_read] at failed
    cases failed
  · rename_i found
    rw [hunk_read] at found
    cases found
    cases addHunk h done with
    | error e => rfl
    | ok done => exact readOnto_dropWhile_remark rest done

theorem foldlM_addHunk (p : FilePatch) (hs : List Hunk) (done : List FilePatch) :
    hs.foldlM (fun done h => addHunk h done) (p :: done) =
      .ok ({ p with hunks := p.hunks ++ hs } :: done) := by
  induction hs generalizing p with
  | nil =>
    rw [List.append_nil]
    rfl
  | cons h hs ih =>
    rw [List.foldlM_cons, addHunk]
    refine (ih { p with hunks := p.hunks ++ [h] }).trans ?_
    rw [List.append_assoc, List.singleton_append]

theorem readOnto_of_layout {ls : List HunkLine} {hs : List Hunk} {ps : List FilePatch}
    {text : List (List Char)} (layout : Layout ls hs ps text) (hunks : ∀ h ∈ hs, h.WellFormed)
    (files : ∀ p ∈ ps, p.WellFormed) {c : Cursor} (awaits : c.Awaits ls) :
    ∃ rest, body? c text = some (ls, rest) ∧ ∀ done, readOnto rest done = do
      let done ← hs.foldlM (fun done h => addHunk h done) done
      return done.reverse ++ ps := by
  -- Where no line of a hunk is awaited, the text goes on between hunks.
  induction layout generalizing c with
  | done =>
    refine ⟨[], body?_of_isDone awaits.isDone_eq [], fun done => ?_⟩
    rw [readOnto, List.foldlM_nil, pure_bind, List.append_nil]
    rfl
  | filler passed rest ih =>
    have read := (exists_body?_iff awaits).1 (ih hunks files awaits)
    exact (exists_body?_iff awaits).2 fun done => (readOnto_of_filler passed).trans (read done)
  | @remark ls hs ps line text marked rest ih =>
    cases ls with
    | nil =>
      have read := (exists_body?_iff awaits).1 (ih hunks files awaits)
      exact (exists_body?_iff awaits).2 fun done =>
        (readOnto_of_filler (filler_of_remark marked)).trans (read done)
    | cons l ls =>
      rw [body?_of_remark awaits marked]
      exact ih hunks files awaits
  | line shows rest ih =>
    obtain ⟨behind, others, read⟩ := ih hunks files awaits.advance.2
    exact ⟨behind, body?_of_shows awaits shows others, read⟩
  | hunk announces rest ih =>
    rw [List.forall_mem_cons] at hunks
    obtain ⟨behind, body, read⟩ := ih hunks.2 files (awaits_ofHunk hunks.1)
    refine (exists_body?_iff awaits).2 fun done => ?_
    rw [readOnto_of_announces hunks.1 announces body, List.foldlM_cons, bind_assoc]
    exact congrArg _ (funext read)
  | @file p ps source target text source_named target_named rest ih =>
    rw [List.forall_mem_cons] at files
    have read := (exists_body?_iff awaits).1 (ih files.1.hunks files.2 awaits)
    refine (exists_body?_iff awaits).2 fun done => ?_
    rw [readOnto_of_names files.1 source_named target_named, read, foldlM_addHunk]
    have in_front : (p :: done).reverse ++ ps = done.reverse ++ p :: ps := by simp
    exact congrArg Except.ok in_front

theorem read_eq_readOnto (text : String) :
    read text = readOnto ((terminatedLines (text.toList.splitOn '\n')).map dropReturn) [] := by
  simp [read, readLines, Function.comp_def]

theorem read_eq_of_layout {patches : List FilePatch} {lines : List (List Char)} {text : String}
    (wellFormed : ∀ p ∈ patches, p.WellFormed) (layout : Layout [] [] patches lines)
    (ended : Ended lines text.toList) : read text = .ok patches := by
  have trimmed := layout.trims (by simp) (by simp) wellFormed ended.trims
  have nothing : (⟨0, 0, 0, 0⟩ : Cursor).Awaits [] := ⟨.nil 0 0, rfl, rfl⟩
  rw [read_eq_readOnto]
  exact (exists_body?_iff nothing).1 (readOnto_of_layout trimmed (by simp) wellFormed nothing) []

/-- Lines that go out and come in look like the header of a file and a line that stays like that
of a hunk, an empty line has no mark, and the last line is not ended. -/
theorem read_eq_of_layout_of_false_headers :
    read ("diff\n--- a/A.cs\r\n+++ b/A.cs\tnow\r\n" ++ "@@ -1,4 +1,4 @@ class A\n a\n\r\n" ++
        "--- x\n+++ y\r\n\\ no end\n @@\nindex 1\n" ++ "--- /dev/null\n+++ b/B.cs\n" ++
        "@@ -0,0 +1 @@\n+z") =
      .ok [
        ⟨"a/A.cs", "b/A.cs", [⟨1, 4, 1, 4, "class A", [
          ⟨.context, "a", some 1, some 1⟩, ⟨.context, "", some 2, some 2⟩,
          ⟨.removed, "-- x", some 3, none⟩, ⟨.added, "++ y", none, some 3⟩,
          ⟨.context, "@@", some 4, some 4⟩]⟩]⟩,
        ⟨"/dev/null", "b/B.cs", [⟨0, 0, 1, 1, "", [⟨.added, "z", none, some 1⟩]⟩]⟩] := by
  let lines := ["diff", "--- a/A.cs", "+++ b/A.cs\tnow", "@@ -1,4 +1,4 @@ class A", " a", "",
    "--- x", "+++ y", "\\ no end", " @@", "index 1", "--- /dev/null", "+++ b/B.cs",
    "@@ -0,0 +1 @@", "+z"]
  refine @read_eq_of_layout _ (lines.map String.toList) _
    (List.forall_mem_cons.2 ⟨?_, List.forall_mem_singleton.2 ?_⟩) ?_ ?_
  · refine ⟨⟨by decide, by decide⟩, ⟨by decide, by decide⟩, List.forall_mem_singleton.2 ?_⟩
    exact ⟨.context _ (.context _ (.removed _ (.added _ (.context _ (.nil _ _))))), by decide,
      by decide, by decide, by decide, by decide⟩
  · refine ⟨⟨by decide, by decide⟩, ⟨by decide, by decide⟩, List.forall_mem_singleton.2 ?_⟩
    exact ⟨.added _ (.nil _ _), by decide, by decide, by decide, by decide, by decide⟩
  · exact .filler (by decide) <|
      .file (Or.inl rfl) (Or.inr ⟨"now".toList, rfl⟩) <|
      .hunk ⟨"1,4".toList, "1,4".toList, _, Or.inl rfl, Or.inl rfl, Or.inl rfl, rfl⟩ <|
      .line (Or.inl rfl) <| .line (Or.inr ⟨rfl, rfl, rfl⟩) <| .line (Or.inl rfl) <|
      .line (Or.inl rfl) <| .remark rfl <| .line (Or.inl rfl) <| .filler (by decide) <|
      .file (Or.inl rfl) (Or.inl rfl) <|
      .hunk ⟨"0,0".toList, "1".toList, [], Or.inl rfl, Or.inr ⟨rfl, rfl⟩, Or.inr ⟨rfl, rfl⟩, rfl⟩ <|
      .line (Or.inl rfl) .done
  · refine cast (congrArg (Ended _) ?_) <|
      Ended.newline (by decide) <| .returnNewline (by decide) <| .returnNewline (by decide) <|
      .newline (by decide) <| .newline (by decide) <| .returnNewline (by decide) <|
      .newline (by decide) <| .returnNewline (by decide) <| .newline (by decide) <|
      .newline (by decide) <| .newline (by decide) <| .newline (by decide) <|
      .newline (by decide) <| .newline (by decide) <| .last (by decide) (by decide)
    simp only [String.toList_append]
    decide +kernel

end Files

end FixCorpus.Patch
