import FixCorpus.AnnotatedDiff
import FixCorpus.Proofs.LineDiff.Sides
import Mathlib.Data.List.Basic
import Mathlib.Data.List.Nodup

/-! Where the annotations of a difference stand: `render_places_annotations`. What
is printed are the lines of the difference in order, and the annotations of a line
of the source stand directly in front of it, each of them once. -/

namespace FixCorpus.AnnotatedDiff

open Flattened LineDiff

/-- A line of a difference, or the annotation that has the given position in the list of all. -/
inductive Piece where
  | line (l : DiffLine)
  | note (n : Nat) (a : Annotation)
deriving DecidableEq

namespace Piece

def text : Piece → String
  | .line l => l.render ++ "\n"
  | .note _ a => annotationLine a

def line? : Piece → Option DiffLine
  | .line l => some l
  | .note _ _ => none

end Piece

def numbered (annotations : List Annotation) (i : Nat) : List Piece :=
  (annotations.zipIdx.filter fun a => a.1.line = (i : Int) + 1).map fun a => .note a.2 a.1

def piecesAt (annotations : List Annotation) (l : DiffLine) : List Piece :=
  (match l.sourceIndex? with
    | some i => numbered annotations i
    | none => []) ++ [.line l]

def pieces (annotations : List Annotation) (diff : List DiffLine) : List Piece :=
  diff.flatMap (piecesAt annotations)

/-- The pieces are the lines of the difference and the annotations of the lines of the source, each
annotation once and in front of its line. -/
structure Placed (annotations : List Annotation) (lineCount : Nat) (diff : List DiffLine)
    (pieces : List Piece) : Prop where
  lines : pieces.filterMap Piece.line? = diff
  once : ∀ n a, pieces.count (.note n a) =
    if annotations[n]? = some a ∧ 1 ≤ a.line ∧ a.line ≤ lineCount then 1 else 0
  in_front : ∀ i < lineCount, ∃ front l behind,
    pieces = front ++ numbered annotations i ++ .line l :: behind ∧ l.sourceIndex? = some i

section

variable {annotations : List Annotation}

theorem text_numbered (i : Nat) : (numbered annotations i).map Piece.text =
    (annotations.filter fun a => a.line - 1 = (i : Int)).map annotationLine := by
  have same : (fun a : Annotation => decide (a.line - 1 = (i : Int))) =
      fun a => decide (a.line = (i : Int) + 1) := by
    funext a
    rw [decide_eq_decide]
    omega
  rw [numbered, List.map_map, same,
    ← map_fst_filter_zipIdx (p := fun a : Annotation => a.line = (i : Int) + 1) annotations 0,
    List.map_map]
  rfl

theorem text_piecesAt (l : DiffLine) :
    String.join ((piecesAt annotations l).map Piece.text) = renderLine annotations l := by
  rw [piecesAt, renderLine, annotationsAt, List.map_append, String.join_append]
  cases l.sourceIndex? with
  | some i => simp [text_numbered, Piece.text, String.append_assoc]
  | none => simp [Piece.text]

theorem pieces_cons (l : DiffLine) (diff : List DiffLine) :
    pieces annotations (l :: diff) = piecesAt annotations l ++ pieces annotations diff :=
  List.flatMap_cons

theorem text_pieces (diff : List DiffLine) :
    String.join ((pieces annotations diff).map Piece.text) =
      String.join (diff.map (renderLine annotations)) := by
  induction diff with
  | nil => rfl
  | cons l diff ih =>
    rw [pieces_cons, List.map_append, String.join_append, ih, text_piecesAt, List.map_cons,
      String.join_cons]

theorem line_numbered (i : Nat) : (numbered annotations i).filterMap Piece.line? = [] := by
  rw [numbered, List.filterMap_map, List.filterMap_eq_nil_iff]
  exact fun _ _ => rfl

theorem lines_pieces (diff : List DiffLine) :
    (pieces annotations diff).filterMap Piece.line? = diff := by
  induction diff with
  | nil => rfl
  | cons l diff ih =>
    rw [pieces_cons, List.filterMap_append, ih, piecesAt, List.filterMap_append]
    cases l.sourceIndex? with
    | some i => simp [line_numbered, Piece.line?]
    | none => simp [Piece.line?]

theorem mem_numbered {i n : Nat} {a : Annotation} :
    .note n a ∈ numbered annotations i ↔ annotations[n]? = some a ∧ a.line = (i : Int) + 1 := by
  simp only [numbered, List.mem_map, List.mem_filter, Prod.exists, decide_eq_true_eq,
    List.mk_mem_zipIdx_iff_getElem?, Piece.note.injEq]
  constructor
  · rintro ⟨_, _, about, rfl, rfl⟩
    exact about
  · exact fun about => ⟨a, n, about, rfl, rfl⟩

theorem nodup_numbered (i : Nat) : (numbered annotations i).Nodup := by
  have positions : (annotations.zipIdx.map (·.2)).Nodup := by
    rw [List.zipIdx_map_snd]
    exact List.nodup_range'
  refine ((List.Nodup.of_map _ positions).filter _).map fun a b same => ?_
  obtain ⟨position, text⟩ := Piece.note.inj same
  exact Prod.ext text position

theorem count_numbered (i n : Nat) (a : Annotation) :
    (numbered annotations i).count (.note n a) =
      if annotations[n]? = some a ∧ a.line = (i : Int) + 1 then 1 else 0 := by
  rw [(nodup_numbered i).count]
  exact if_congr mem_numbered rfl rfl

theorem count_pieces (diff : List DiffLine) (n : Nat) (a : Annotation) :
    (pieces annotations diff).count (.note n a) =
      (diff.filterMap DiffLine.sourceIndex?).countP fun i : Nat =>
        annotations[n]? = some a ∧ a.line = (i : Int) + 1 := by
  induction diff with
  | nil => rfl
  | cons l diff ih =>
    rw [pieces_cons, List.count_append, ih, piecesAt, List.count_append, List.filterMap_cons]
    cases l.sourceIndex? with
    | some i => simp [count_numbered, List.countP_cons, Nat.add_comm]
    | none => simp

theorem countP_range (here : Prop) [Decidable here] (line : Int) (k : Nat) :
    (List.range k).countP (fun i : Nat => here ∧ line = (i : Int) + 1) =
      if here ∧ 1 ≤ line ∧ line ≤ k then 1 else 0 := by
  induction k with
  | zero => grind
  | succ k ih =>
    rw [List.range_succ, List.countP_append, ih, List.countP_singleton]
    grind

theorem placed_pieces {lineCount : Nat} {diff : List DiffLine}
    (each_line : diff.filterMap DiffLine.sourceIndex? = List.range lineCount) :
    Placed annotations lineCount diff (pieces annotations diff) where
  lines := lines_pieces diff
  once n a := by rw [count_pieces, each_line, countP_range]
  in_front i inside := by
    have listed : i ∈ diff.filterMap DiffLine.sourceIndex? := each_line ▸ List.mem_range.2 inside
    obtain ⟨l, member, at_line⟩ := List.mem_filterMap.1 listed
    obtain ⟨front, behind, rfl⟩ := List.append_of_mem member
    refine ⟨pieces annotations front, l, pieces annotations behind, ?_, at_line⟩
    rw [pieces, List.flatMap_append, ← pieces, ← pieces, pieces_cons, piecesAt, at_line]
    simp

theorem eq_of_count_eq_one {α : Type} [BEq α] [LawfulBEq α]
    {front behind other otherBehind : List α} {a : α} (once : (front ++ a :: behind).count a = 1)
    (same : front ++ a :: behind = other ++ a :: otherBehind) : behind = otherBehind := by
  rw [List.count_append, List.count_cons_self] at once
  have not_before : a ∉ front := List.count_eq_zero.1 (by omega)
  have not_behind : a ∉ behind := List.count_eq_zero.1 (by omega)
  exact ((List.append_cons_inj_of_notMem not_before not_behind).1 same).2.2

theorem Placed.sourceIndex_of_beside {lineCount : Nat} {diff : List DiffLine} {pieces : List Piece}
    (placed : Placed annotations lineCount diff pieces) {front behind : List Piece} {n : Nat}
    {a : Annotation} {l : DiffLine}
    (beside : pieces = front ++ .note n a :: .line l :: behind) :
    ∃ i, l.sourceIndex? = some i ∧ a.line = (i : Int) + 1 := by
  have once := placed.once n a
  have printed : 0 < pieces.count (.note n a) := List.count_pos_iff.2 (by simp [beside])
  split at once
  case isFalse => omega
  case isTrue found =>
    obtain ⟨at_n, first, last⟩ := found
    obtain ⟨own_front, own, own_behind, in_place, at_own⟩ :=
      placed.in_front (a.line - 1).toNat (by omega)
    have number : a.line = (((a.line - 1).toNat : Nat) : Int) + 1 := by omega
    obtain ⟨earlier, later, in_order⟩ := List.append_of_mem (mem_numbered.2 ⟨at_n, number⟩)
    have same : front ++ .note n a :: .line l :: behind =
        (own_front ++ earlier) ++ .note n a :: (later ++ .line own :: own_behind) := by
      rw [← beside, in_place, in_order]
      simp
    have next := eq_of_count_eq_one (beside ▸ once) same
    -- The annotation is the last one of its line, for what stands behind it is no annotation.
    cases later with
    | nil =>
      cases next
      exact ⟨_, at_own, number⟩
    | cons p later =>
      have about_line : p ∈ numbered annotations (a.line - 1).toNat := by
        rw [in_order]
        simp
      have no_line := List.filterMap_eq_nil_iff.1 (line_numbered _) p about_line
      cases next
      cases no_line

end

/-- Lines that come in stand behind no annotation. -/
theorem render_places_annotations (lines : List String) (edit : Edit)
    (annotations : List Annotation) :
    (∀ cause, render lines edit annotations = .error cause ↔ edit.apply lines = .error cause) ∧
      ∀ edited, edit.apply lines = .ok edited →
        let diff := LineDiff.ofLines lines edited
        let printed := pieces annotations diff
        render lines edit annotations = .ok (String.join (printed.map Piece.text)) ∧
          (∀ i < lines.length, diff.countP (·.sourceIndex? = some i) = 1) ∧
          Placed annotations lines.length diff printed ∧
          ∀ front n a l behind, printed = front ++ .note n a :: .line l :: behind →
            l.isAdded = false := by
  refine ⟨fun cause => ?_, fun edited applied => ?_⟩
  · rw [render]
    cases edit.apply lines <;> simp [Bind.bind, Except.bind, Pure.pure, Except.pure]
  · intro diff printed
    have each_line := LineDiff.filterMap_sourceIndex lines edited
    have placed : Placed annotations lines.length diff printed := placed_pieces each_line
    refine ⟨?_, fun i inside => ?_, placed, fun front n a l behind beside => ?_⟩
    · rw [render, applied, text_pieces]
      rfl
    · have once := (List.nodup_range (n := lines.length)).count (a := i)
      rw [if_pos (List.mem_range.2 inside), ← each_line, List.count, List.countP_filterMap] at once
      rw [← once]
      refine List.countP_congr fun l _ => ?_
      cases l.sourceIndex? <;> simp
    · obtain ⟨i, at_line, -⟩ := placed.sourceIndex_of_beside beside
      cases l with
      | added j text => cases at_line
      | equal | removed => rfl

/-- The second of three lines goes out and has two annotations; a third one is about no line. -/
theorem render_places_annotations_of_removed :
    let lines := ["a", "b", "a"]
    let annotations : List Annotation := [⟨2, "first"⟩, ⟨9, "elsewhere"⟩, ⟨2, "second"⟩]
    let printed := pieces annotations (LineDiff.ofLines lines ["a", "a"])
    render lines (.delete ⟨2, 2⟩) annotations = .ok (String.join (printed.map Piece.text)) ∧
      Placed annotations 3 (LineDiff.ofLines lines ["a", "a"]) printed ∧
      printed = [.line (.equal 0 0 "a"), .note 0 ⟨2, "first"⟩,
        .note 2 ⟨2, "second"⟩, .line (.removed 1 "b"), .line (.equal 2 1 "a")] := by
  intro lines annotations printed
  have applied : (Edit.delete ⟨2, 2⟩).apply lines = .ok ["a", "a"] := by decide +kernel
  obtain ⟨rendered, -, placed, -⟩ :=
    (render_places_annotations lines (.delete ⟨2, 2⟩) annotations).2 _ applied
  exact ⟨rendered, placed, by decide +kernel⟩

end FixCorpus.AnnotatedDiff
