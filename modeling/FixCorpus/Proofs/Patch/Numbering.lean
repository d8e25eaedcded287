import FixCorpus.Patch.Edits
import FixCorpus.Patch.Reader
import FixCorpus.Proofs.Text.Lines

/-! The line numbers in a hunk that was read. The lines that stay or go out are
numbered one after the other, from the line on with which the hunk begins. -/

namespace FixCorpus

open Text

/-- The lines that are not added have the numbers from `next` on, and no line has a newline. -/
inductive NumberedFrom : Int → List HunkLine → Prop
  | nil (next : Int) : NumberedFrom next []
  | source {next : Int} {l : HunkLine} {lines : List HunkLine} (kind : l.kind ≠ .added)
      (number : l.sourceLine = some next) (free : '\n' ∉ l.text.toList)
      (others : NumberedFrom (next + 1) lines) : NumberedFrom next (l :: lines)
  | added {next : Int} {l : HunkLine} {lines : List HunkLine} (kind : l.kind = .added)
      (free : '\n' ∉ l.text.toList) (others : NumberedFrom next lines) :
      NumberedFrom next (l :: lines)

theorem NumberedFrom.of_added {next : Int} {lines : List HunkLine} (h : NumberedFrom next lines)
    (added : ∀ l ∈ lines, l.kind = .added) (other : Int) : NumberedFrom other lines := by
  induction h with
  | nil => exact .nil other
  | source kind => exact absurd (added _ List.mem_cons_self) kind
  | added kind free _ ih =>
    exact .added kind free (ih fun l member => added l (List.mem_cons_of_mem _ member))

theorem NumberedFrom.bounds {next : Int} {lines : List HunkLine} (h : NumberedFrom next lines)
    {l : HunkLine} (member : l ∈ lines) (kind : l.kind ≠ .added) {n : Int}
    (number : l.sourceLine = some n) : next ≤ n ∧ n < next + lines.length := by
  induction h with
  | nil => cases member
  | source _ first _ _ ih =>
    rw [List.length_cons]
    rcases List.mem_cons.1 member with rfl | later
    · cases first.symm.trans number
      omega
    · have bounds := ih later
      omega
  | added added _ _ ih =>
    rw [List.length_cons]
    rcases List.mem_cons.1 member with rfl | later
    · exact absurd added kind
    · have bounds := ih later
      omega

def Hunk.Numbered (h : Hunk) : Prop :=
  NumberedFrom ((EditScan.start h).previousLine + 1) h.lines

def HunkLine.inSource (l : HunkLine) : Bool :=
  l.kind ≠ .added

def Hunk.Counted (h : Hunk) : Prop :=
  0 ≤ h.sourceStart ∧ (h.lines.countP (·.inSource) : Int) = h.sourceLength

namespace Patch

theorem newline_not_mem_of_lineKind? {line text : List Char} {kind : LineKind}
    (found : lineKind? line = some (kind, text)) (free : '\n' ∉ line) : '\n' ∉ text := by
  unfold lineKind? at found
  split at found <;> cases found
  · exact free
  all_goals exact fun inside => free (List.mem_cons_of_mem _ inside)

theorem body?_nil {c : Cursor} {rest : List (List Char)} {read : List HunkLine}
    (found : body? c [] = some (read, rest)) : c.isDone = true ∧ read = [] ∧ rest = [] := by
  simp only [body?] at found
  split at found
  · rename_i full
    cases found
    exact ⟨full, rfl, rfl⟩
  · cases found

theorem body?_cons {c : Cursor} {line : List Char} {lines rest : List (List Char)}
    {read : List HunkLine} (found : body? c (line :: lines) = some (read, rest)) :
    (c.isDone = true ∧ read = [] ∧ rest = line :: lines) ∨ body? c lines = some (read, rest) ∨
      ∃ kind text others, lineKind? line = some (kind, text) ∧
        0 ≤ (c.advance kind).sourceLeft ∧ body? (c.advance kind) lines = some (others, rest) ∧
        read = c.line kind text :: others := by
  simp only [body?] at found
  split at found
  · rename_i full
    cases found
    exact Or.inl ⟨full, rfl, rfl⟩
  · split at found
    · exact Or.inr (Or.inl found)
    · simp only [Option.bind_eq_bind, Option.bind_eq_some_iff] at found
      obtain ⟨⟨kind, text⟩, kind_found, found⟩ := found
      dsimp only at found
      split at found
      · cases found
      · rename_i room
        simp only [Option.bind_eq_some_iff] at found
        obtain ⟨⟨others, after⟩, found, eq⟩ := found
        cases eq
        exact Or.inr (Or.inr ⟨kind, text, others, kind_found, by omega, found, rfl⟩)

theorem numberedFrom_line {c : Cursor} {kind : LineKind} {text : List Char}
    {others : List HunkLine} (free : '\n' ∉ text)
    (numbered : NumberedFrom (c.advance kind).sourceLine others) :
    NumberedFrom c.sourceLine (c.line kind text :: others) := by
  have text_free : '\n' ∉ (c.line kind text).text.toList := by simpa [Cursor.line] using free
  cases kind with
  | added => exact .added rfl text_free numbered
  | context => exact .source (by simp [Cursor.line]) rfl text_free numbered
  | removed => exact .source (by simp [Cursor.line]) rfl text_free numbered

theorem numberedFrom_body? {c : Cursor} {lines rest : List (List Char)} {read : List HunkLine}
    (found : body? c lines = some (read, rest)) (free : ∀ line ∈ lines, '\n' ∉ line) :
    NumberedFrom c.sourceLine read ∧ rest ⊆ lines := by
  induction lines generalizing c read with
  | nil =>
    obtain ⟨-, rfl, rfl⟩ := body?_nil found
    exact ⟨.nil _, List.Subset.refl _⟩
  | cons line lines ih =>
    have others_free : ∀ other ∈ lines, '\n' ∉ other := fun other member =>
      free other (List.mem_cons_of_mem line member)
    rcases body?_cons found with
      ⟨-, rfl, rfl⟩ | remark | ⟨kind, text, others, kind_found, -, after, rfl⟩
    · exact ⟨.nil _, List.Subset.refl _⟩
    · have numbered := ih remark others_free
      exact ⟨numbered.1, List.subset_cons_of_subset line numbered.2⟩
    · have numbered := ih after others_free
      have text_free := newline_not_mem_of_lineKind? kind_found (free line List.mem_cons_self)
      exact ⟨numberedFrom_line text_free numbered.1, List.subset_cons_of_subset line numbered.2⟩

theorem Cursor.sourceLeft_eq (c : Cursor) (kind : LineKind) (text : List Char) :
    c.sourceLeft = (c.advance kind).sourceLeft + if (c.line kind text).inSource then 1 else 0 := by
  cases kind <;> simp [advance, line, HunkLine.inSource]

theorem count_source_of_body? {c : Cursor} {lines rest : List (List Char)}
    {read : List HunkLine} (found : body? c lines = some (read, rest))
    (positive : 0 ≤ c.sourceLeft) : (read.countP (·.inSource) : Int) = c.sourceLeft := by
  have full : c.isDone = true → 0 = c.sourceLeft := by
    simp only [Cursor.isDone, Bool.and_eq_true, decide_eq_true_eq]
    omega
  induction lines generalizing c read with
  | nil =>
    obtain ⟨done, rfl, -⟩ := body?_nil found
    exact full done
  | cons line lines ih =>
    rcases body?_cons found with
      ⟨done, rfl, -⟩ | remark | ⟨kind, text, others, -, room, after, rfl⟩
    · exact full done
    · exact ih remark positive full
    · have counted := ih after room (by
        simp only [Cursor.isDone, Bool.and_eq_true, decide_eq_true_eq]
        omega)
      rw [List.countP_cons, Int.natCast_add, counted, c.sourceLeft_eq kind text]
      split <;> rfl

theorem number?_nonneg {text rest : List Char} {n : Int} (found : number? text = some (n, rest)) :
    0 ≤ n := by
  unfold number? at found
  split at found
  · cases found
  · split at found
    · cases found
      exact Int.natCast_nonneg _
    · cases found

theorem side?_nonneg {text rest : List Char} {start length : Int}
    (found : side? text = some (start, length, rest)) : 0 ≤ start ∧ 0 ≤ length := by
  simp only [side?, Option.bind_eq_bind, Option.bind_eq_some_iff] at found
  obtain ⟨⟨n, behind⟩, first, found⟩ := found
  dsimp only at found
  split at found
  · obtain ⟨⟨m, behind⟩, second, found⟩ := Option.bind_eq_some_iff.1 found
    cases found
    exact ⟨number?_nonneg first, number?_nonneg second⟩
  · cases found
    exact ⟨number?_nonneg first, Int.one_nonneg⟩

theorem header?_nonneg {line : List Char} {h : Hunk} (found : header? line = some h) :
    0 ≤ h.sourceStart ∧ 0 ≤ h.sourceLength := by
  simp only [header?, Option.bind_eq_bind, Option.bind_eq_some_iff] at found
  obtain ⟨_, -, ⟨start, length, _⟩, source, _, -, ⟨_, _, _⟩, -, _, -, found⟩ := found
  cases found
  exact side?_nonneg source

theorem counted_hunk {header : List Char} {lines rest : List (List Char)} {h : Hunk}
    (read : hunk header lines = .ok (h, rest)) : h.Counted := by
  unfold hunk at read
  split at read
  · cases read
  · rename_i announced header_found
    split at read
    · cases read
    · rename_i found
      cases read
      have nonneg := header?_nonneg header_found
      exact ⟨nonneg.1, count_source_of_body? found nonneg.2⟩

theorem numbered_hunk {header : List Char} {lines rest : List (List Char)} {h : Hunk}
    (read : hunk header lines = .ok (h, rest)) (free : ∀ line ∈ lines, '\n' ∉ line) :
    h.Numbered ∧ rest ⊆ lines := by
  have counted := (counted_hunk read).2
  unfold hunk at read
  split at read
  · cases read
  · rename_i announced _
    split at read
    · cases read
    · rename_i found
      cases read
      have numbered := numberedFrom_body? found free
      refine ⟨?_, fun line member => numbered.2 ((List.dropWhile_suffix _).subset member)⟩
      unfold Hunk.Numbered EditScan.start
      dsimp only at counted ⊢
      split
      · rename_i none
        rw [none] at counted
        have none_source := List.countP_eq_zero.1 (Int.ofNat.inj counted)
        exact numbered.1.of_added
          (fun l member => by simpa [HunkLine.inSource] using none_source l member) _
      · rw [Int.sub_add_cancel]
        exact numbered.1

/-- The hunk stands under some header in lines that hold no newline. -/
def IsRead (h : Hunk) : Prop :=
  ∃ (header : List Char) (lines rest : List (List Char)),
    hunk header lines = .ok (h, rest) ∧ ∀ line ∈ lines, '\n' ∉ line

theorem isRead_addHunk {h : Hunk} {done patches : List FilePatch}
    (added : addHunk h done = .ok patches) (new : IsRead h)
    (old : ∀ p ∈ done, ∀ h ∈ p.hunks, IsRead h) :
    ∀ p ∈ patches, ∀ h ∈ p.hunks, IsRead h := by
  cases done with
  | nil => cases added
  | cons p done =>
    cases added
    rw [List.forall_mem_cons] at old ⊢
    exact ⟨List.forall_mem_append.2 ⟨old.1, List.forall_mem_singleton.2 new⟩, old.2⟩

theorem isRead_readOnto {lines : List (List Char)} {done patches : List FilePatch}
    (read : readOnto lines done = .ok patches) (free : ∀ line ∈ lines, '\n' ∉ line)
    (old : ∀ p ∈ done, ∀ h ∈ p.hunks, IsRead h) :
    ∀ p ∈ patches, ∀ h ∈ p.hunks, IsRead h := by
  fun_induction readOnto lines done with
  | case1 done =>
    cases read
    simpa using old
  | case2 done line rest begins ih =>
    refine ih read (fun other member => ?_) ?_
    · exact free other (List.mem_cons_of_mem line (List.mem_of_mem_tail member))
    · simpa using old
  | case3 => cases read
  | case4 => cases read
  | case5 done line rest _ _ h after found patched added ih =>
    have rest_free : ∀ other ∈ rest, '\n' ∉ other := fun other member =>
      free other (List.mem_cons_of_mem line member)
    have after_subset := (numbered_hunk found rest_free).2
    exact ih read (fun other member => rest_free other (after_subset member))
      (isRead_addHunk added ⟨line, rest, after, found, rest_free⟩ old)
  | case6 done line rest _ _ ih =>
    exact ih read (fun other member => free other (List.mem_cons_of_mem line member)) old

section

variable {text : String} {patches : List FilePatch}

theorem isRead_read (read : Patch.read text = .ok patches) {p : FilePatch} (patch : p ∈ patches)
    {h : Hunk} (member : h ∈ p.hunks) : IsRead h := by
  refine isRead_readOnto read (fun line member inside => ?_) (by simp) p patch h member
  obtain ⟨l, read_line, rfl⟩ := List.mem_map.1 member
  exact newline_not_mem_of_mem_readLines read_line (dropReturn_subset _ inside)

theorem numbered_read (read : Patch.read text = .ok patches) {p : FilePatch}
    (patch : p ∈ patches) {h : Hunk} (member : h ∈ p.hunks) : h.Numbered := by
  obtain ⟨header, lines, rest, found, free⟩ := isRead_read read patch member
  exact (numbered_hunk found free).1

theorem counted_read (read : Patch.read text = .ok patches) {p : FilePatch} (patch : p ∈ patches)
    {h : Hunk} (member : h ∈ p.hunks) : h.Counted := by
  obtain ⟨header, lines, rest, found, -⟩ := isRead_read read patch member
  exact counted_hunk found

end

end Patch

end FixCorpus
