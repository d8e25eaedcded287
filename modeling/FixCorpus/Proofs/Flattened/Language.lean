import FixCorpus.Proofs.Except
import FixCorpus.Proofs.Flattened.Source
import FixCorpus.Proofs.Text.Lines
import FixCorpus.Proofs.Text.Numeral
import Mathlib.Data.List.Forall2

/-! Which texts are read as target lines: `edit_isOk_iff`. They are those that the forms of
the three kinds of edit describe, and also removals with words behind them. -/

namespace FixCorpus.Flattened

open Text

/-- The word is a line number: a numeral that 64 bits hold. -/
def Spells (w : String) (n : Int) : Prop :=
  Numeral w.toList n ∧ FitsInt n

theorem lineNumber_eq_ok {w : String} {n : Int} : lineNumber w = .ok n ↔ Spells w n := by
  rw [Spells, ← integer?_eq_some, lineNumber]
  cases integer? w.toList <;> simp

theorem Spells.ne_marker {w : String} {n : Int} (spelled : Spells w n) : w ≠ "TARGET_LINES" := by
  rintro rfl
  have no_value : integer? "TARGET_LINES".toList = none := by decide
  rw [integer?_eq_some.2 spelled] at no_value
  cases no_value

@[simp] theorem expect_cons (marker : String) (ws : List String) :
    expect marker (marker :: ws) = .ok ws :=
  if_pos rfl

/-- The lines of the text that the words stand for; a newline at its end begins none. -/
def linesOfWords (ws : List String) : List String :=
  (Text.lines (restoreTexts ws).toList).map String.ofList

theorem targetLines_eq (ws : List String) : targetLines ws = linesOfWords ws := by
  unfold linesOfWords
  by_cases empty : (restoreTexts ws).toList = []
  · simp [targetLines, empty]
  · have not_empty : (restoreTexts ws).toList.isEmpty = false := by simpa using empty
    rw [lines_of_ne_nil empty]
    simp only [targetLines, not_empty, splitLines, String.toList_ofList]
    rfl

theorem linesOfWords_eq_nil_iff {ws : List String} (nonempty : ∀ w ∈ ws, w ≠ "") :
    linesOfWords ws = [] ↔ ws = [] := by
  refine ⟨fun none => ?_, fun none => by rw [none]; rfl⟩
  rw [linesOfWords, List.map_eq_nil_iff, lines_eq_nil_iff, toList_restoreTexts,
    List.flatMap_eq_nil_iff] at none
  refine List.eq_nil_iff_forall_not_mem.2 fun w member => ?_
  have restored : Token.restore w = "" := String.toList_inj.1 (none w member)
  exact Token.restore_ne_empty (nonempty w member) restored

section

variable {ws rest : List String} {n : Int} {ns : List Int} {e : Edit}

theorem expect_eq_ok {marker : String} : expect marker ws = .ok rest ↔ ws = marker :: rest := by
  cases ws with
  | nil => simp [expect]
  | cons w ws =>
    by_cases same : w = marker <;> simp [expect, same]

theorem takeNumber_eq_ok {after : String} :
    takeNumber after ws = .ok (n, rest) ↔ ∃ w, Spells w n ∧ ws = w :: rest := by
  cases ws with
  | nil => simp [takeNumber]
  | cons w ws =>
    simp only [takeNumber, except_bind_eq_ok, lineNumber_eq_ok]
    constructor
    · rintro ⟨m, spelled, same⟩
      cases same
      exact ⟨w, spelled, rfl⟩
    · rintro ⟨v, spelled, same⟩
      cases same
      exact ⟨n, spelled, rfl⟩

theorem takeSourceLines_eq_ok :
    takeSourceLines ws = .ok (ns, rest) ↔
      ∃ numerals tokens, List.Forall₂ Spells numerals ns ∧ rest = "TARGET_LINES" :: tokens ∧
        ws = numerals ++ rest := by
  induction ws generalizing ns with
  | nil =>
    simp only [takeSourceLines, reduceCtorEq, false_iff]
    rintro ⟨numerals, tokens, -, rfl, ends⟩
    simp at ends
  | cons w ws ih =>
    unfold takeSourceLines
    split
    · rename_i marker
      constructor
      · intro same
        cases same
        exact ⟨[], ws, .nil, by rw [marker], rfl⟩
      · rintro ⟨numerals, tokens, spelled, rfl, same⟩
        -- The marker is no numeral, so that the numerals end before it.
        cases spelled with
        | nil => rw [same]; rfl
        | cons first _ => exact absurd marker ((List.cons.inj same).1 ▸ first.ne_marker)
    · rename_i other
      simp only [except_bind_eq_ok, lineNumber_eq_ok, Prod.exists]
      constructor
      · rintro ⟨n, first, ns', rest', others, same⟩
        cases same
        obtain ⟨numerals, tokens, spelled, behind, rfl⟩ := ih.1 others
        exact ⟨w :: numerals, tokens, .cons first spelled, behind, rfl⟩
      · rintro ⟨numerals, tokens, spelled, behind, same⟩
        cases spelled with
        | nil =>
          rw [behind] at same
          exact absurd (List.cons.inj same).1 other
        | cons first spelled =>
          obtain ⟨rfl, rfl⟩ := List.cons.inj same
          exact ⟨_, first, _, rest, ih.2 ⟨_, tokens, spelled, behind, rfl⟩, rfl⟩

theorem insertion_eq_ok :
    insertion ws = .ok e ↔ ∃ w n tokens, Spells w n ∧
      ws = "PREVIOUS_SOURCE_LOCATION" :: w :: "TARGET_LINES" :: tokens ∧
      e = .insert ⟨n, n + 1, linesOfWords tokens⟩ := by
  simp only [insertion, except_bind_eq_ok, expect_eq_ok, takeNumber_eq_ok, Prod.exists,
    targetLines_eq]
  constructor
  · rintro ⟨_, rfl, n, _, ⟨w, spelled, rfl⟩, tokens, rfl, same⟩
    cases same
    exact ⟨w, n, tokens, spelled, rfl, rfl⟩
  · rintro ⟨w, n, tokens, spelled, rfl, rfl⟩
    exact ⟨_, rfl, n, _, ⟨w, spelled, rfl⟩, tokens, rfl, rfl⟩

def replaced (ns : List Int) (tokens : List String) : Edit :=
  if linesOfWords tokens = [] then .delete ⟨ns.headD 0, ns.getLastD 0⟩
  else .replace ⟨ns, linesOfWords tokens⟩

theorem replaced_of_words (ns : List Int) {tokens : List String}
    (nonempty : ∀ w ∈ tokens, w ≠ "") :
    replaced ns tokens = if tokens = [] then .delete ⟨ns.headD 0, ns.getLastD 0⟩
      else .replace ⟨ns, linesOfWords tokens⟩ := by
  simp only [replaced, linesOfWords_eq_nil_iff nonempty]

theorem replacement_of_lines {numerals : List String} {n : Int} {ns : List Int}
    (spelled : List.Forall₂ Spells numerals (n :: ns)) (tokens : List String) :
    replacement ("SOURCE_LOCATION" :: (numerals ++ "TARGET_LINES" :: tokens)) =
      .ok (replaced (n :: ns) tokens) := by
  refine except_bind_eq_ok.2 ⟨_, expect_cons _ _, except_bind_eq_ok.2
    ⟨(n :: ns, "TARGET_LINES" :: tokens),
      takeSourceLines_eq_ok.2 ⟨numerals, tokens, spelled, rfl, rfl⟩,
      except_bind_eq_ok.2 ⟨tokens, expect_cons _ _, ?_⟩⟩⟩
  rw [targetLines_eq, replaced, List.headD_cons, List.getLastD_cons]
  split
  · rename_i none_there
    rw [if_pos none_there]
    rfl
  · rename_i some_line
    rw [if_neg some_line]
    rfl

theorem replacement_eq_ok :
    replacement ws = .ok e ↔ ∃ numerals ns tokens, List.Forall₂ Spells numerals ns ∧ ns ≠ [] ∧
      ws = "SOURCE_LOCATION" :: (numerals ++ "TARGET_LINES" :: tokens) ∧
      e = replaced ns tokens := by
  constructor
  · intro decoded
    have steps := decoded
    simp only [replacement, except_bind_eq_ok, expect_eq_ok, takeSourceLines_eq_ok,
      Prod.exists] at steps
    obtain ⟨_, rfl, ns, _, ⟨numerals, tokens, spelled, rfl, rfl⟩, made⟩ := steps
    cases ns with
    | nil => cases made
    | cons n ns =>
      have whole := decoded.symm.trans (replacement_of_lines spelled tokens)
      exact ⟨numerals, n :: ns, tokens, spelled, List.cons_ne_nil _ _, rfl, Except.ok.inj whole⟩
  · rintro ⟨numerals, ns, tokens, spelled, names, rfl, rfl⟩
    cases ns with
    | nil => exact absurd rfl names
    | cons n ns => exact replacement_of_lines spelled tokens

theorem deletion_eq_ok :
    deletion ws = .ok e ↔ ∃ v first w last surplus, Spells v first ∧ Spells w last ∧
      ws = "SOURCE_LOCATION_START" :: v :: "SOURCE_LOCATION_END" :: w :: surplus ∧
      e = .delete ⟨first, last⟩ := by
  simp only [deletion, except_bind_eq_ok, expect_eq_ok, takeNumber_eq_ok, Prod.exists]
  constructor
  · rintro ⟨_, rfl, first, _, ⟨v, spelled, rfl⟩, _, rfl, last, surplus, ⟨w, also, rfl⟩, same⟩
    cases same
    exact ⟨v, first, w, last, surplus, spelled, also, rfl, rfl⟩
  · rintro ⟨v, first, w, last, surplus, spelled, also, rfl, rfl⟩
    exact ⟨_, rfl, first, _, ⟨v, spelled, rfl⟩, _, rfl, last, surplus, ⟨w, also, rfl⟩, rfl⟩

end

section

variable {text : String} {ws : List String}

theorem edit_of_add (read : words text = "ADD" :: ws) : edit text = insertion ws := by
  simp only [edit, read]

theorem edit_of_replace (read : words text = "REPLACE" :: ws) : edit text = replacement ws := by
  simp only [edit, read]

theorem edit_of_remove (read : words text = "REMOVE" :: ws) : edit text = deletion ws := by
  simp only [edit, read]

end

/-- The words of a target line, by the kind of the edit. -/
inductive TargetWords : List String → Prop where
  | add {w : String} {n : Int} (number : Spells w n) (tokens : List String) :
      TargetWords ("ADD" :: "PREVIOUS_SOURCE_LOCATION" :: w :: "TARGET_LINES" :: tokens)
  | replace {ws : List String} {ns : List Int} (numbers : List.Forall₂ Spells ws ns)
      (some_line : ws ≠ []) (tokens : List String) :
      TargetWords ("REPLACE" :: "SOURCE_LOCATION" :: (ws ++ "TARGET_LINES" :: tokens))
  | remove {v w : String} {first last : Int} (start : Spells v first) (stop : Spells w last) :
      TargetWords ["REMOVE", "SOURCE_LOCATION_START", v, "SOURCE_LOCATION_END", w]

/-- The words of a removal with more words behind them. -/
def OverlongRemoval (ws : List String) : Prop :=
  ∃ v first w last surplus, Spells v first ∧ Spells w last ∧ surplus ≠ [] ∧
    ws = "REMOVE" :: "SOURCE_LOCATION_START" :: v :: "SOURCE_LOCATION_END" :: w :: surplus

theorem not_targetWords_of_overlong {ws : List String} (overlong : OverlongRemoval ws) :
    ¬ TargetWords ws := by
  obtain ⟨v, first, w, last, surplus, -, -, more, written⟩ := overlong
  intro form
  cases form with
  | add => simp at written
  | replace => simp at written
  | remove => simp [more.symm] at written

section

variable {text : String}

theorem form_of_edit {e : Edit} (read : edit text = .ok e) :
    TargetWords (words text) ∨ OverlongRemoval (words text) := by
  unfold edit at read
  split at read
  · cases read
  · rename_i ws written
    obtain ⟨w, n, tokens, number, rfl, -⟩ := insertion_eq_ok.1 read
    rw [written]
    exact .inl (.add number tokens)
  · rename_i ws written
    obtain ⟨numerals, ns, tokens, numbers, names, rfl, -⟩ := replacement_eq_ok.1 read
    have some_line : numerals ≠ [] := by
      rintro rfl
      cases numbers
      exact names rfl
    rw [written]
    exact .inl (.replace numbers some_line tokens)
  · rename_i ws written
    obtain ⟨v, first, w, last, surplus, start, stop, rfl, -⟩ := deletion_eq_ok.1 read
    rw [written]
    cases surplus with
    | nil => exact .inl (.remove start stop)
    | cons x surplus =>
      exact .inr ⟨v, first, w, last, x :: surplus, start, stop, List.cons_ne_nil _ _, rfl⟩
  · cases read

theorem exists_edit_of_form (form : TargetWords (words text)) : ∃ e, edit text = .ok e := by
  generalize written : words text = ws at form
  cases form with
  | add number tokens =>
    exact ⟨_, (edit_of_add written).trans (insertion_eq_ok.2 ⟨_, _, _, number, rfl, rfl⟩)⟩
  | @replace numerals ns numbers some_line tokens =>
    have names : ns ≠ [] := by
      rintro rfl
      cases numbers
      exact some_line rfl
    exact ⟨_, (edit_of_replace written).trans
      (replacement_eq_ok.2 ⟨_, _, _, numbers, names, rfl, rfl⟩)⟩
  | remove start stop =>
    exact ⟨_, (edit_of_remove written).trans
      (deletion_eq_ok.2 ⟨_, _, _, _, [], start, stop, rfl, rfl⟩)⟩

theorem exists_edit_of_overlong (overlong : OverlongRemoval (words text)) :
    ∃ e, edit text = .ok e := by
  obtain ⟨v, first, w, last, surplus, start, stop, -, written⟩ := overlong
  exact ⟨_, (edit_of_remove written).trans
    (deletion_eq_ok.2 ⟨_, _, _, _, surplus, start, stop, rfl, rfl⟩)⟩

theorem edit_isOk :
    (∃ e, edit text = .ok e) ↔ TargetWords (words text) ∨ OverlongRemoval (words text) :=
  ⟨fun ⟨_, read⟩ => form_of_edit read,
    fun form => form.elim exists_edit_of_form exists_edit_of_overlong⟩

end

theorem predictionMatches_iff {expected predicted : String} :
    predictionMatches expected predicted = true ↔
      ∃ e, edit expected = .ok e ∧ edit predicted = .ok e := by
  unfold predictionMatches
  cases edit expected with
  | error cause => simp
  | ok a =>
    cases edit predicted with
    | error cause => simp
    | ok b => simp [eq_comm]

theorem edit_isOk_iff (text : String) :
    ((∃ e, edit text = .ok e) ↔ TargetWords (words text) ∨ OverlongRemoval (words text)) ∧
    (((∃ e, edit text = .ok e) ↔ TargetWords (words text)) ↔ ¬ OverlongRemoval (words text)) ∧
    ∀ expected, predictionMatches expected text = true →
      TargetWords (words text) ∨ OverlongRemoval (words text) := by
  refine ⟨edit_isOk, ?_, fun expected scored => ?_⟩
  · rw [edit_isOk]
    constructor
    · exact fun same overlong => not_targetWords_of_overlong overlong (same.1 (.inr overlong))
    · exact fun exact_length => or_iff_left exact_length
  · obtain ⟨e, -, read⟩ := predictionMatches_iff.1 scored
    exact edit_isOk.1 ⟨e, read⟩

/-- A removal is read as one whatever words stand behind it, and scored as correct. -/
theorem edit_of_overlong_removal :
    ¬ TargetWords (words "REMOVE SOURCE_LOCATION_START 1 SOURCE_LOCATION_END 2 x") ∧
      edit "REMOVE SOURCE_LOCATION_START 1 SOURCE_LOCATION_END 2 x" = .ok (.delete ⟨1, 2⟩) ∧
      predictionMatches "REMOVE SOURCE_LOCATION_START 1 SOURCE_LOCATION_END 2"
        "REMOVE SOURCE_LOCATION_START 1 SOURCE_LOCATION_END 2 x" = true := by
  have written : words "REMOVE SOURCE_LOCATION_START 1 SOURCE_LOCATION_END 2 x" =
      ["REMOVE", "SOURCE_LOCATION_START", "1", "SOURCE_LOCATION_END", "2", "x"] := by
    decide +kernel
  refine ⟨not_targetWords_of_overlong ⟨"1", 1, "2", 2, ["x"], ?_, ?_, by simp, written⟩,
    by decide +kernel, by decide +kernel⟩
  · exact integer?_eq_some.1 (by decide)
  · exact integer?_eq_some.1 (by decide)

end FixCorpus.Flattened
