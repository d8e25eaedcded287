import FixCorpus.Patch.Reader
import FixCorpus.Proofs.Text.Endings

/-! Unified diffs as they are written down. A hunk has as many lines as its header
says, numbered without gaps on both sides. Its lines stand behind its header,
each behind the mark of its kind, whatever they look like. A carriage return
less at the end of a line leaves what is laid out the same. -/

namespace FixCorpus

open Text

/-- The lines are numbered from `source` on one side and from `target` on the other. -/
inductive NumberedOnBoth : Int → Int → List HunkLine → Prop
  | nil (source target : Int) : NumberedOnBoth source target []
  | context {source target : Int} {lines : List HunkLine} (text : String)
      (others : NumberedOnBoth (source + 1) (target + 1) lines) :
      NumberedOnBoth source target (⟨.context, text, some source, some target⟩ :: lines)
  | added {source target : Int} {lines : List HunkLine} (text : String)
      (others : NumberedOnBoth source (target + 1) lines) :
      NumberedOnBoth source target (⟨.added, text, none, some target⟩ :: lines)
  | removed {source target : Int} {lines : List HunkLine} (text : String)
      (others : NumberedOnBoth (source + 1) target lines) :
      NumberedOnBoth source target (⟨.removed, text, some source, none⟩ :: lines)

/-- The number is one that 64 bits hold and that is written without a sign. -/
def Unsigned (n : Int) : Prop :=
  0 ≤ n ∧ n ≤ greatestInt

instance (n : Int) : Decidable (Unsigned n) :=
  inferInstanceAs (Decidable (_ ∧ _))

def EndsInReturn (text : List Char) : Prop :=
  text.getLast? = some '\r'

instance (text : List Char) : Decidable (EndsInReturn text) :=
  inferInstanceAs (Decidable (_ = _))

structure Hunk.WellFormed (h : Hunk) : Prop where
  numbered : NumberedOnBoth h.sourceStart h.targetStart h.lines
  source_length : (h.lines.countP (·.kind ≠ .added) : Int) = h.sourceLength
  target_length : (h.lines.countP (·.kind ≠ .removed) : Int) = h.targetLength
  unsigned : ∀ n ∈ [h.sourceStart, h.sourceLength, h.targetStart, h.targetLength], Unsigned n
  no_return : ∀ l ∈ h.lines, ¬ EndsInReturn l.text.toList
  section_no_return : ¬ EndsInReturn h.section_.toList

/-- A path that has no tab and does not end in a blank. -/
structure PlainPath (path : String) : Prop where
  no_tab : '\t' ∉ path.toList
  trimmed : trimRight path.toList = path.toList

structure FilePatch.WellFormed (p : FilePatch) : Prop where
  source : PlainPath p.sourceFile
  target : PlainPath p.targetFile
  hunks : ∀ h ∈ p.hunks, h.WellFormed

theorem length_trimRight_concat_le (text : List Char) {c : Char} (blank : isBlank c = true) :
    (trimRight (text ++ [c])).length ≤ text.length := by
  simpa [trimRight, blank] using (List.dropWhile_suffix (l := text.reverse) isBlank).length_le

theorem PlainPath.not_endsInReturn {path : String} (h : PlainPath path) :
    ¬ EndsInReturn path.toList := by
  intro ended
  obtain ⟨front, parted⟩ := List.getLast?_eq_some_iff.1 ended
  have shorter := length_trimRight_concat_le front (c := '\r') rfl
  rw [← parted, h.trimmed, parted, List.length_append] at shorter
  exact absurd shorter (Nat.not_succ_le_self _)

namespace Patch

/-- The line gives the path behind the mark of its side, with or without a time of day. -/
def Names (mark path : String) (line : List Char) : Prop :=
  line = mark.toList ++ path.toList ∨
    ∃ time, line = mark.toList ++ path.toList ++ '\t' :: time

/-- The text gives the start and the length of a side; a length of 1 may be left out. -/
def Gives (start length : Int) (text : List Char) : Prop :=
  text = (toString start).toList ++ ',' :: (toString length).toList ∨
    (length = 1 ∧ text = (toString start).toList)

def Announces (h : Hunk) (line : List Char) : Prop :=
  ∃ source target title, Gives h.sourceStart h.sourceLength source ∧
    Gives h.targetStart h.targetLength target ∧
    (title = ' ' :: h.section_.toList ∨ (h.section_ = "" ∧ title = [])) ∧
    line = "@@ -".toList ++ source ++ " +".toList ++ target ++ " @@".toList ++ title

def mark : LineKind → Char
  | .context => ' '
  | .added => '+'
  | .removed => '-'

/-- The line shows a line of a hunk; an empty line that stays may go without its mark. -/
def Shows (l : HunkLine) (line : List Char) : Prop :=
  line = mark l.kind :: l.text.toList ∨ (l.kind = .context ∧ l.text = "" ∧ line = [])

/-- The line could not be the header of a file or of a hunk. -/
def Filler (line : List Char) : Prop :=
  ∀ front ∈ ["--- ", "+++ ", "@@"], startsWith front line = false

instance (line : List Char) : Decidable (Filler line) :=
  inferInstanceAs (Decidable (∀ front ∈ ["--- ", "+++ ", "@@"], startsWith front line = false))

/-- The text lines show what is still to come of a hunk, behind it the hunks still to come of a
file, and behind them the files. -/
inductive Layout : List HunkLine → List Hunk → List FilePatch → List (List Char) → Prop
  | done : Layout [] [] [] []
  | filler {hs : List Hunk} {ps : List FilePatch} {line : List Char} {text : List (List Char)}
      (passed : Filler line) (rest : Layout [] hs ps text) : Layout [] hs ps (line :: text)
  | remark {ls : List HunkLine} {hs : List Hunk} {ps : List FilePatch} {line : List Char}
      {text : List (List Char)} (marked : startsWith "\\" line = true)
      (rest : Layout ls hs ps text) : Layout ls hs ps (line :: text)
  | line {l : HunkLine} {ls : List HunkLine} {hs : List Hunk} {ps : List FilePatch}
      {line : List Char} {text : List (List Char)} (shows : Shows l line)
      (rest : Layout ls hs ps text) : Layout (l :: ls) hs ps (line :: text)
  | hunk {h : Hunk} {hs : List Hunk} {ps : List FilePatch} {line : List Char}
      {text : List (List Char)} (announces : Announces h line)
      (rest : Layout h.lines hs ps text) : Layout [] (h :: hs) ps (line :: text)
  | file {p : FilePatch} {ps : List FilePatch} {source target : List Char}
      {text : List (List Char)} (source_named : Names "--- " p.sourceFile source)
      (target_named : Names "+++ " p.targetFile target) (rest : Layout [] p.hunks ps text) :
      Layout [] [] (p :: ps) (source :: target :: text)

variable {line : List Char}

theorem startsWith_iff {front : String} : startsWith front line = true ↔ front.toList <+: line :=
  List.isPrefixOf_iff_prefix

theorem dropReturn_isPrefix (line : List Char) : dropReturn line <+: line := by
  rcases dropReturn_cases line with ended | same
  · exact ⟨['\r'], ended.symm⟩
  · exact ⟨[], by rw [same, List.append_nil]⟩

theorem Filler.dropReturn (h : Filler line) : Filler (dropReturn line) := by
  intro front member
  refine Bool.eq_false_iff.2 fun starts => ?_
  have longer := startsWith_iff.2 ((startsWith_iff.1 starts).trans (dropReturn_isPrefix line))
  rw [h front member] at longer
  cases longer

theorem startsWith_remark_dropReturn (marked : startsWith "\\" line = true) :
    startsWith "\\" (dropReturn line) = true := by
  rcases dropReturn_cases line with ended | same
  · rw [startsWith_iff] at marked ⊢
    rw [ended] at marked
    refine List.prefix_of_prefix_length_le marked ⟨['\r'], rfl⟩ (Nat.pos_of_ne_zero fun none => ?_)
    rw [List.length_eq_zero_iff.1 none] at marked
    exact absurd marked (by decide)
  · rwa [same]

theorem not_endsInReturn_append {a b : List Char} (left : ¬ EndsInReturn a)
    (right : ¬ EndsInReturn b) : ¬ EndsInReturn (a ++ b) := by
  unfold EndsInReturn at left right ⊢
  rw [List.getLast?_append]
  cases last : b.getLast? with
  | none => simpa using left
  | some c => simpa [last] using right

theorem Names.dropReturn {front path : String} (plain : PlainPath path)
    (front_no_return : ¬ EndsInReturn front.toList) (h : Names front path line) :
    Names front path (dropReturn line) := by
  rcases h with rfl | ⟨time, rfl⟩
  · rw [dropReturn_eq_self (not_endsInReturn_append front_no_return plain.not_endsInReturn)]
    exact Or.inl rfl
  · refine Or.inr ?_
    rcases List.eq_nil_or_concat time with rfl | ⟨time, c, rfl⟩
    · exact ⟨[], dropReturn_eq_self (by simp)⟩
    · rw [List.concat_eq_append, ← List.cons_append, ← List.append_assoc]
      by_cases ended : c = '\r'
      · exact ⟨time, by rw [ended, dropReturn_append_return]⟩
      · refine ⟨time ++ [c], ?_⟩
        rw [dropReturn_eq_self (by rw [List.getLast?_concat]; simpa using ended)]
        simp

theorem Announces.not_endsInReturn {h : Hunk} (no_return : ¬ EndsInReturn h.section_.toList)
    (announces : Announces h line) : ¬ EndsInReturn line := by
  obtain ⟨source, target, title, -, -, titled, rfl⟩ := announces
  have title_no_return : ¬ EndsInReturn title := by
    rcases titled with rfl | ⟨-, rfl⟩
    · exact not_endsInReturn_append (a := [' ']) (by decide) no_return
    · decide
  have marks : " @@".toList.getLast? = some '@' := by decide
  refine not_endsInReturn_append ?_ title_no_return
  rw [EndsInReturn, List.getLast?_append, marks]
  simp

theorem Shows.not_endsInReturn {l : HunkLine} (no_return : ¬ EndsInReturn l.text.toList)
    (shows : Shows l line) : ¬ EndsInReturn line := by
  rcases shows with rfl | ⟨-, -, rfl⟩
  · exact not_endsInReturn_append (a := [mark l.kind]) (by cases l.kind <;> decide) no_return
  · decide

theorem Layout.trims {ls : List HunkLine} {hs : List Hunk} {ps : List FilePatch}
    {text trimmed : List (List Char)} (layout : Layout ls hs ps text)
    (no_return : ∀ l ∈ ls, ¬ EndsInReturn l.text.toList) (hunks : ∀ h ∈ hs, h.WellFormed)
    (files : ∀ p ∈ ps, p.WellFormed) (trims : List.Forall₂ Trims text trimmed) :
    Layout ls hs ps trimmed := by
  induction layout generalizing trimmed with
  | done =>
    cases trims
    exact .done
  | filler passed rest ih =>
    cases trims with
    | cons first others =>
      have kept := first.keep (P := Filler) (fun _ => Filler.dropReturn) passed
      exact .filler kept (ih no_return hunks files others)
  | remark marked rest ih =>
    cases trims with
    | cons first others =>
      have kept := first.keep (P := (startsWith "\\" · = true))
        (fun _ => startsWith_remark_dropReturn) marked
      exact .remark kept (ih no_return hunks files others)
  | line shows rest ih =>
    rw [List.forall_mem_cons] at no_return
    cases trims with
    | cons first others =>
      rw [first.eq_self (shows.not_endsInReturn no_return.1)]
      exact .line shows (ih no_return.2 hunks files others)
  | hunk announces rest ih =>
    rw [List.forall_mem_cons] at hunks
    cases trims with
    | cons first others =>
      rw [first.eq_self (announces.not_endsInReturn hunks.1.section_no_return)]
      exact .hunk announces (ih hunks.1.no_return hunks.2 files others)
  | file source_named target_named rest ih =>
    rw [List.forall_mem_cons] at files
    cases trims with
    | cons source others =>
      cases others with
      | cons target others =>
        have source_kept := source.keep (P := Names "--- " _)
          (fun _ => Names.dropReturn files.1.source (by decide)) source_named
        have target_kept := target.keep (P := Names "+++ " _)
          (fun _ => Names.dropReturn files.1.target (by decide)) target_named
        exact .file source_kept target_kept (ih (by simp) files.1.hunks files.2 others)

end Patch

end FixCorpus
