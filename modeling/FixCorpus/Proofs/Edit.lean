import FixCorpus.Edit

/-! Edits that replace a block of neighbouring lines. Applied to a list of lines
such an edit changes nothing before the block and nothing behind it, so that it
does the same to any piece of the list that has the block in it. -/

namespace FixCorpus

def consecutive (first : Int) : Nat → List Int
  | 0 => []
  | n + 1 => first :: consecutive (first + 1) n

theorem consecutive_succ (first : Int) (n : Nat) :
    consecutive first (n + 1) = consecutive first n ++ [first + n] := by
  induction n generalizing first with
  | zero => simp [consecutive]
  | succ n ih =>
    rw [consecutive, ih, consecutive, List.cons_append]
    congr 3
    omega

theorem mem_consecutive {first line : Int} {n : Nat} :
    line ∈ consecutive first n ↔ first ≤ line ∧ line < first + n := by
  induction n generalizing first with
  | zero =>
    simp only [consecutive, List.not_mem_nil, false_iff]
    omega
  | succ n ih =>
    simp only [consecutive, List.mem_cons, ih]
    omega

theorem map_sub_consecutive (first offset : Int) (n : Nat) :
    (consecutive first n).map (· - offset) = consecutive (first - offset) n := by
  induction n generalizing first with
  | zero => rfl
  | succ n ih =>
    rw [consecutive, consecutive, List.map_cons, ih]
    congr 2
    omega

theorem mapM_linePosition_consecutive {length start n : Nat} (inside : start + n ≤ length) :
    (consecutive (start + 1) n).mapM (linePosition length) = .ok (List.range' start n) := by
  induction n generalizing start with
  | zero => rfl
  | succ n ih =>
    have first : linePosition length (start + 1) = .ok start :=
      linePosition_eq_ok_iff.2 ⟨rfl, by omega⟩
    have others := @ih (start + 1) (by omega)
    rw [consecutive, List.mapM_cons, first, List.range'_succ]
    rw [Int.natCast_succ] at others
    rw [others]
    rfl

/-- The line of a number that counts from 1. -/
def lineAt? (lines : List String) (number : Int) : Option String :=
  if 1 ≤ number then lines[(number - 1).toNat]? else none

theorem bounds_of_lineAt? {lines : List String} {number : Int} {text : String}
    (found : lineAt? lines number = some text) : 1 ≤ number ∧ number ≤ lines.length := by
  unfold lineAt? at found
  split at found
  · obtain ⟨bound, -⟩ := List.getElem?_eq_some_iff.1 found
    omega
  · cases found

/-- The lines with those from `start` on, `count` in number, replaced. -/
def splice (lines : List String) (start count : Nat) (target : List String) : List String :=
  lines.take start ++ target ++ lines.drop (start + count)

theorem exists_block {lines : List String} {start count : Nat}
    (inside : start + count ≤ lines.length) :
    ∃ before block after, lines = before ++ (block ++ after) ∧ before.length = start ∧
      block.length = count := by
  refine ⟨lines.take start, (lines.drop start).take count, lines.drop (start + count), ?_, ?_, ?_⟩
  · rw [← List.drop_drop, List.take_append_drop, List.take_append_drop]
  · rw [List.length_take]
    omega
  · rw [List.length_take, List.length_drop]
    omega

theorem splice_block (before block after target : List String) :
    splice (before ++ (block ++ after)) before.length block.length target =
      before ++ (target ++ after) := by
  rw [splice, List.take_left, ← List.length_append, ← List.append_assoc, List.drop_left,
    List.append_assoc]

theorem splice_append (before shown after target : List String) {start count : Nat}
    (start_le : before.length ≤ start) (stop_le : start + count ≤ before.length + shown.length) :
    splice (before ++ (shown ++ after)) start count target =
      before ++ (splice shown (start - before.length) count target ++ after) := by
  have inside : start - before.length + count ≤ shown.length := by omega
  obtain ⟨lead, block, trail, rfl, length_lead, rfl⟩ := exists_block inside
  have start_eq : start = (before ++ lead).length := by
    rw [List.length_append]
    omega
  have whole := splice_block (before ++ lead) block (trail ++ after) target
  rw [← length_lead, splice_block, start_eq]
  simpa using whole

section

variable {keep : Nat → Bool} {lines : List String} {k : Nat}

theorem filter_zipIdx_of_kept (kept : ∀ i, k ≤ i → i < k + lines.length → keep i = true) :
    ((lines.zipIdx k).filter fun l => keep l.2).map (·.1) = lines := by
  rw [List.filter_eq_self.2 fun l member => kept l.2 (List.le_snd_of_mem_zipIdx member)
    (List.snd_lt_add_of_mem_zipIdx member)]
  exact List.zipIdx_map_fst k lines

theorem filter_zipIdx_of_dropped (dropped : ∀ i, k ≤ i → i < k + lines.length → keep i = false) :
    (lines.zipIdx k).filter (fun l => keep l.2) = [] := by
  refine List.filter_eq_nil_iff.2 fun l member => ?_
  simp [dropped l.2 (List.le_snd_of_mem_zipIdx member) (List.snd_lt_add_of_mem_zipIdx member)]

theorem keepLines_eq_splice (keep : Nat → Bool) {start count : Nat}
    (inside : start + count ≤ lines.length)
    (block : ∀ i, keep i = false ↔ start ≤ i ∧ i < start + count) :
    keepLines keep lines = splice lines start count [] := by
  have kept : ∀ i, ¬ (start ≤ i ∧ i < start + count) → keep i = true := fun i outside => by
    simpa [← block i] using outside
  obtain ⟨before, removed, after, rfl, rfl, rfl⟩ := exists_block inside
  rw [splice_block, keepLines, List.zipIdx_append, List.zipIdx_append, List.filter_append,
    List.filter_append, List.map_append, List.map_append]
  rw [filter_zipIdx_of_kept fun i _ lt => kept i (by omega),
    filter_zipIdx_of_dropped fun i le lt => (block i).2 (by omega),
    filter_zipIdx_of_kept fun i le _ => kept i (by omega)]
  rfl

theorem keepLines_eq_take_drop (keep : Nat → Bool) {start count : Nat}
    (block : ∀ i, keep i = true ↔ start ≤ i ∧ i < start + count) :
    keepLines keep lines = (lines.drop start).take count := by
  have dropped : ∀ i, ¬ (start ≤ i ∧ i < start + count) → keep i = false := fun i outside => by
    simpa [← block i] using outside
  have length_front : (lines.take start).length = min start lines.length := List.length_take
  have length_block : ((lines.drop start).take count).length = min count (lines.length - start) := by
    rw [List.length_take, List.length_drop]
  have length_back : ((lines.drop start).drop count).length = lines.length - start - count := by
    rw [List.length_drop, List.length_drop]
  have parts : lines.take start ++
      ((lines.drop start).take count ++ (lines.drop start).drop count) = lines := by
    rw [List.take_append_drop, List.take_append_drop]
  have split := congrArg (keepLines keep) parts
  rw [keepLines, List.zipIdx_append, List.zipIdx_append, List.filter_append, List.filter_append,
    List.map_append, List.map_append] at split
  rw [← split, filter_zipIdx_of_dropped fun i _ lt => dropped i (by omega),
    filter_zipIdx_of_kept fun i le lt => (block i).2 (by omega),
    filter_zipIdx_of_dropped fun i le lt => dropped i (by omega)]
  simp

theorem le_length_keepLines {keep : Nat → Bool} {n : Nat} (kept : ∀ i < n, keep i = true)
    (inside : n ≤ lines.length) : n ≤ (keepLines keep lines).length := by
  have length_front : (lines.take n).length = n := List.length_take_of_le inside
  have split := congrArg (keepLines keep) (List.take_append_drop n lines)
  rw [keepLines, List.zipIdx_append, List.filter_append, List.map_append,
    filter_zipIdx_of_kept fun i _ lt => kept i (by omega)] at split
  rw [← split, List.length_append, length_front]
  exact Nat.le_add_right n _

end

theorem stripNewlines_of_free {line : String} (free : '\n' ∉ line.toList) :
    stripNewlines line = line := by
  have kept : line.toList.reverse.dropWhile (· == '\n') = line.toList.reverse := by
    cases chars : line.toList.reverse with
    | nil => rfl
    | cons c rest =>
      have member : c ∈ line.toList := List.mem_reverse.1 (chars ▸ List.mem_cons_self)
      have other : c ≠ '\n' := fun same => free (same ▸ member)
      simp [other]
  rw [stripNewlines, kept, List.reverse_reverse, String.ofList_toList]

theorem map_stripNewlines {target : List String} (free : ∀ t ∈ target, '\n' ∉ t.toList) :
    target.map stripNewlines = target := by
  have same : ∀ t ∈ target, stripNewlines t = id t := fun t member =>
    stripNewlines_of_free (free t member)
  rw [List.map_congr_left same, List.map_id]

namespace Edit

def sourceLines : Edit → List Int
  | .insert i => [i.previousLine]
  | .delete d => [d.firstLine, d.lastLine]
  | .replace r => r.sourceLines

@[simp] theorem sourceLines_shift (e : Edit) (n : Int) :
    (e.shift n).sourceLines = e.sourceLines.map (· - n) := by
  cases e <;> rfl

/-- The edit replaces the `count` lines behind the line `start` with the target lines. One that
only brings lines in replaces none, and one that only removes has no target lines. -/
inductive Splices (start : Int) : Nat → List String → Edit → Prop
  | insert {target : List String} (targetStart : Int) (nonempty : target ≠ []) :
      Splices start 0 target (.insert ⟨start, targetStart, target⟩)
  | delete (more : Nat) : Splices start (more + 1) [] (.delete ⟨start + 1, start + 1 + more⟩)
  | replace {target : List String} (more : Nat) (nonempty : target ≠ []) :
      Splices start (more + 1) target (.replace ⟨consecutive (start + 1) (more + 1), target⟩)

namespace Splices

variable {start : Int} {count : Nat} {target : List String} {e : Edit}

theorem targetLines_eq (h : e.Splices start count target) : e.targetLines = target := by
  cases h <;> rfl

theorem start_mem_sourceLines (h : e.Splices start 0 target) : start ∈ e.sourceLines := by
  cases h with
  | insert => exact List.mem_cons_self

theorem bounds_of_mem_sourceLines (h : e.Splices start count target) {line : Int}
    (member : line ∈ e.sourceLines) : start ≤ line ∧ line ≤ start + count := by
  cases h with
  | insert =>
    simp only [sourceLines, List.mem_singleton] at member
    omega
  | delete more =>
    simp only [sourceLines, List.mem_cons, List.not_mem_nil, or_false] at member
    omega
  | replace more =>
    simp only [sourceLines, mem_consecutive] at member
    omega

theorem getLast?_sourceLines (h : e.Splices start count target) :
    e.sourceLines.getLast? = some (start + count) := by
  cases h with
  | insert => simp [sourceLines]
  | delete more =>
    simp only [sourceLines, List.getLast?_cons_cons, List.getLast?_singleton, Option.some.injEq]
    omega
  | replace more =>
    rw [sourceLines, consecutive_succ, List.getLast?_append, List.getLast?_singleton,
      Option.some_or]
    congr 1
    omega

theorem sourceSpan_eq (h : e.Splices start count target) :
    e.sourceSpan = if count = 0 then (start, none) else (start + 1, some (start + count)) := by
  cases h with
  | insert => rfl
  | delete more =>
    simp only [sourceSpan, Nat.add_eq_zero_iff, Nat.one_ne_zero, and_false, if_false,
      Prod.mk.injEq, Option.some.injEq, true_and]
    omega
  | replace more =>
    simp only [sourceSpan, consecutive_succ, List.getLast?_append, List.getLast?_singleton,
      Option.some_or, Nat.add_eq_zero_iff, Nat.one_ne_zero, and_false, if_false, Prod.mk.injEq,
      Option.some.injEq]
    rw [← consecutive_succ]
    refine ⟨rfl, by omega⟩

theorem shift (h : e.Splices start count target) (offset : Int) :
    (e.shift offset).Splices (start - offset) count target := by
  cases h with
  | insert targetStart nonempty => exact .insert targetStart nonempty
  | delete more =>
    have moved : Splices (start - offset) _ _ _ := .delete more
    rw [show start - offset + 1 = start + 1 - offset by omega,
      show start + 1 - offset + more = start + 1 + more - offset by omega] at moved
    exact moved
  | replace more nonempty =>
    have moved : Splices (start - offset) _ _ _ := .replace more nonempty
    rw [show start - offset + 1 = start + 1 - offset by omega, ← map_sub_consecutive] at moved
    exact moved

theorem requiredTargetLines?_eq (h : e.Splices start count target) (nonempty : target ≠ []) :
    e.requiredTargetLines? = some (start, start + target.length - 1) := by
  cases h with
  | insert => rfl
  | delete => exact absurd rfl nonempty
  | replace more =>
    simp [requiredTargetLines?, consecutive]

theorem requiredTargetLines?_eq_none (h : e.Splices start count []) :
    e.requiredTargetLines? = none := by
  cases h with
  | insert _ nonempty => exact absurd rfl nonempty
  | delete => rfl
  | replace _ nonempty => exact absurd rfl nonempty

theorem apply_eq {start : Nat} (h : e.Splices start count target)
    (free : ∀ t ∈ target, '\n' ∉ t.toList) (lines : List String)
    (inside : start + count ≤ lines.length) :
    e.apply lines = .ok (splice lines start count target) := by
  cases h with
  | insert targetStart nonempty =>
    have valid : (0 : Int) ≤ start ∧ (start : Int) ≤ lines.length := by omega
    simp only [apply, if_pos valid, Int.toNat_natCast, map_stripNewlines free]
    rfl
  | delete more =>
    have first : linePosition lines.length (start + 1) = .ok start :=
      linePosition_eq_ok_iff.2 ⟨rfl, by omega⟩
    have last : linePosition lines.length (start + 1 + more) = .ok (start + more) :=
      linePosition_eq_ok_iff.2 ⟨by omega, by omega⟩
    have removed := keepLines_eq_splice
      (fun i => !(decide (start ≤ i) && decide (i ≤ start + more))) inside
      fun i => by simp; omega
    rw [apply, first, last, ← removed]
    rfl
  | replace more nonempty =>
    have positions := mapM_linePosition_consecutive inside
    have removed := keepLines_eq_splice
      (fun i => !(List.range' start (more + 1)).contains i) inside
      fun i => by simp [List.mem_range'_1]
    -- The lines before the block are kept, so the target lines come in behind as many.
    have length_front : (lines.take start).length = start := by
      rw [List.length_take]
      omega
    have made : apply (.replace ⟨consecutive (start + 1) (more + 1), target⟩) lines =
        .ok ((keepLines (fun i => !(List.range' start (more + 1)).contains i) lines).take start ++
          target.map stripNewlines ++
          (keepLines (fun i => !(List.range' start (more + 1)).contains i) lines).drop start) := by
      rw [apply, positions]
      rfl
    rw [made, removed, map_stripNewlines free, splice, List.append_nil,
      List.take_left' length_front, List.drop_left' length_front, splice]

end Splices

end Edit

end FixCorpus
