import FixCorpus.Proofs.Unification.Bounds
import FixCorpus.Proofs.Unification.Grouping

/-! What becomes of each diagnostic. An occurrence is matched once or not at all,
with an edit of the kind that its line asks for; the datapoints show the matched
ones in order, and the others are those for which the edits leave no choice.
`unifyFilePatch_accounts` says so of the datapoints of any patched file. -/

namespace FixCorpus.Unification

def Spares (edits : List Edit) (line : Int) : Prop :=
  ∀ e ∈ edits, removesLine line e = false

/-- A diagnostic on the line goes to an edit like this one, and no edit of a kind that comes
before it will do. -/
def Suits (edits : HunkEdits) (line : Int) : Edit → Prop
  | .replace r => line ∈ r.sourceLines
  | .delete d => d.firstLine ≤ line ∧ line ≤ d.lastLine ∧ Spares edits.replacements line
  | .insert i =>
    (i.previousLine = line - 1 ∨ i.previousLine = line) ∧
      Spares edits.replacements line ∧ Spares edits.deletions line

/-- What the occurrences `before` have been matched with leaves no edit to a diagnostic on the
line: none takes it out, none puts lines behind it, and those that put lines behind the line
before it have each been matched with an occurrence on that line. -/
def Unmatched (edits : HunkEdits) (before : List (Occurrence × Option EditKey)) (line : Int) :
    Prop :=
  Spares edits.replacements line ∧ Spares edits.deletions line ∧
    (∀ e ∈ edits.insertions, insertsBehind line e = false) ∧
    ∀ i e, edits.insertions[i]? = some e → insertsBehind (line - 1) e = true →
      ∃ y, (y, some (.insertion i)) ∈ before ∧ y.line = line - 1

variable {edits : HunkEdits} {line : Int} {below : List Nat}

theorem findRemoval_eq_none_iff : findRemoval edits line = none ↔
    Spares edits.replacements line ∧ Spares edits.deletions line := by
  unfold findRemoval
  split
  · rename_i i replaced
    obtain ⟨e, at_i, removes⟩ := exists_of_findIdx? replaced
    refine ⟨nofun, fun spared => ?_⟩
    rw [spared.1 e (List.mem_of_getElem? at_i)] at removes
    cases removes
  · rename_i spared
    rw [List.findIdx?_eq_none_iff] at spared
    rw [Option.map_eq_none_iff, List.findIdx?_eq_none_iff]
    exact ⟨fun also => ⟨spared, also⟩, And.right⟩

theorem suits_of_findRemoval (byKind : edits.ByKind) {key : EditKey}
    (found : findRemoval edits line = some key) :
    (∀ i, key ≠ .insertion i) ∧ ∃ e, key.get? edits = some e ∧ Suits edits line e := by
  unfold findRemoval at found
  split at found
  · rename_i i replaced
    cases found
    obtain ⟨e, at_i, removes⟩ := exists_of_findIdx? replaced
    obtain ⟨r, rfl⟩ := byKind.replacements e (List.mem_of_getElem? at_i)
    exact ⟨by simp, _, at_i, List.contains_iff_mem.1 removes⟩
  · rename_i spared
    obtain ⟨i, deleted, rfl⟩ := Option.map_eq_some_iff.1 found
    obtain ⟨e, at_i, removes⟩ := exists_of_findIdx? deleted
    obtain ⟨d, rfl⟩ := byKind.deletions e (List.mem_of_getElem? at_i)
    simp only [removesLine, Bool.and_eq_true, decide_eq_true_eq] at removes
    exact ⟨by simp, _, at_i, removes.1, removes.2, List.findIdx?_eq_none_iff.1 spared⟩

theorem findAbove_eq_none_iff : findAbove edits below line = none ↔
    ∀ i e, edits.insertions[i]? = some e → insertsBehind (line - 1) e = true → i ∈ below := by
  simp only [findAbove, Option.map_eq_none_iff, List.find?_eq_none, Prod.forall,
    List.mem_zipIdx_iff_getElem?, Bool.and_eq_true, Bool.not_eq_true', List.contains_eq_mem,
    decide_eq_false_iff_not, not_and, Decidable.not_not]
  exact ⟨fun all i e => all e i, fun all e i => all i e⟩

theorem findBelow_eq_none_iff : findBelow edits line = none ↔
    ∀ e ∈ edits.insertions, insertsBehind line e = false :=
  List.findIdx?_eq_none_iff

theorem insertsBehind_iff {i : Insertion} :
    insertsBehind line (.insert i) = true ↔ i.previousLine = line := by
  simp [insertsBehind]

structure StepsTo (edits : HunkEdits) (m m' : Matching) (o : Occurrence) (key : Option EditKey) :
    Prop where
  batches : m'.batches = key.elim m.batches (addTo · o m.batches)
  below : ∀ i, i ∈ m'.below ↔ i ∈ m.below ∨ (key = some (.insertion i) ∧
    ∃ e, edits.insertions[i]? = some e ∧ insertsBehind o.line e = true)
  suits : ∀ k, key = some k → ∃ e, k.get? edits = some e ∧ Suits edits o.line e
  unmatched : key = none ↔ Spares edits.replacements o.line ∧ Spares edits.deletions o.line ∧
    (∀ e ∈ edits.insertions, insertsBehind o.line e = false) ∧
    ∀ i e, edits.insertions[i]? = some e → insertsBehind (o.line - 1) e = true → i ∈ m.below

variable {m : Matching} {o : Occurrence} {i : Nat}

theorem stepsTo_removal (byKind : edits.ByKind) {key : EditKey}
    (removal : findRemoval edits o.line = some key) :
    StepsTo edits m { m with batches := addTo key o m.batches } o (some key) := by
  obtain ⟨no_insertion, suits⟩ := suits_of_findRemoval byKind removal
  refine ⟨rfl, by simp [no_insertion], by simpa using suits, nofun, fun stays => ?_⟩
  rw [findRemoval_eq_none_iff.2 ⟨stays.1, stays.2.1⟩] at removal
  cases removal

theorem stepsTo_above (byKind : edits.ByKind) (spared : findRemoval edits o.line = none)
    (above : findAbove edits m.below o.line = some i) :
    StepsTo edits m { m with batches := addTo (.insertion i) o m.batches } o
      (some (.insertion i)) := by
  obtain ⟨e, at_i, behind⟩ := exists_of_findAbove above
  obtain ⟨insertion, rfl⟩ := byKind.insertions e (List.mem_of_getElem? at_i)
  rw [insertsBehind_iff] at behind
  refine ⟨rfl, fun j => (or_iff_left ?_).symm, ?_, nofun, fun stays => ?_⟩
  · rintro ⟨same, e, at_j, on_line⟩
    cases same
    cases at_i.symm.trans at_j
    rw [insertsBehind_iff] at on_line
    omega
  · rintro k ⟨⟩
    exact ⟨_, at_i, Or.inl behind, findRemoval_eq_none_iff.1 spared⟩
  · rw [findAbove_eq_none_iff.2 stays.2.2.2] at above
    cases above

theorem stepsTo_below (byKind : edits.ByKind) (spared : findRemoval edits o.line = none)
    (below : findBelow edits o.line = some i) :
    StepsTo edits m ⟨addTo (.insertion i) o m.batches, i :: m.below⟩ o (some (.insertion i)) := by
  obtain ⟨e, at_i, behind⟩ := exists_of_findIdx? below
  obtain ⟨insertion, rfl⟩ := byKind.insertions e (List.mem_of_getElem? at_i)
  refine ⟨rfl, fun j => ?_, ?_, nofun, fun stays => ?_⟩
  · rw [List.mem_cons, or_comm]
    refine or_congr_right ⟨?_, ?_⟩
    · rintro rfl
      exact ⟨rfl, _, at_i, behind⟩
    · rintro ⟨same, -⟩
      cases same
      rfl
  · rintro k ⟨⟩
    exact ⟨_, at_i, Or.inr (insertsBehind_iff.1 behind), findRemoval_eq_none_iff.1 spared⟩
  · rw [findBelow_eq_none_iff.2 stays.2.2.1] at below
    cases below

theorem stepsTo_none (spared : findRemoval edits o.line = none)
    (not_above : findAbove edits m.below o.line = none)
    (not_below : findBelow edits o.line = none) : StepsTo edits m m o none := by
  obtain ⟨not_replaced, not_deleted⟩ := findRemoval_eq_none_iff.1 spared
  exact ⟨rfl, by simp, nofun, fun _ => ⟨not_replaced, not_deleted,
    findBelow_eq_none_iff.1 not_below, findAbove_eq_none_iff.1 not_above⟩, fun _ => rfl⟩

theorem exists_stepsTo (byKind : edits.ByKind) (m : Matching) (o : Occurrence) :
    ∃ key, StepsTo edits m (m.step edits o) o key := by
  unfold Matching.step
  split
  · rename_i removal
    exact ⟨_, stepsTo_removal byKind removal⟩
  · rename_i spared
    split
    · rename_i above
      exact ⟨_, stepsTo_above byKind spared above⟩
    · rename_i not_above
      split
      · rename_i below
        exact ⟨_, stepsTo_below byKind spared below⟩
      · rename_i not_below
        exact ⟨_, stepsTo_none spared not_above not_below⟩

/-- The matching is that of the occurrences matched so far, each with an edit or with none. -/
structure Explains (edits : HunkEdits) (matched : List (Occurrence × Option EditKey))
    (m : Matching) : Prop where
  batches : m.batches = groups matched
  below : ∀ i, i ∈ m.below ↔ ∃ y, (y, some (.insertion i)) ∈ matched ∧
    ∃ e, edits.insertions[i]? = some e ∧ insertsBehind y.line e = true
  suits : ∀ y key, (y, some key) ∈ matched → ∃ e, key.get? edits = some e ∧ Suits edits y.line e
  unmatched : ∀ before y key after, matched = before ++ (y, key) :: after →
    (key = none ↔ Unmatched edits before y.line)

theorem explains_nil (edits : HunkEdits) : Explains edits [] ⟨[], []⟩ :=
  ⟨rfl, by simp, by simp, by simp⟩

variable {matched : List (Occurrence × Option EditKey)} {m' : Matching} {key : Option EditKey}

theorem Explains.mem_below (h : Explains edits matched m) (byKind : edits.ByKind) {e : Edit}
    (at_i : edits.insertions[i]? = some e) (behind : insertsBehind line e = true) :
    i ∈ m.below ↔ ∃ y, (y, some (.insertion i)) ∈ matched ∧ y.line = line := by
  obtain ⟨insertion, rfl⟩ := byKind.insertions e (List.mem_of_getElem? at_i)
  obtain rfl := insertsBehind_iff.1 behind
  simp [h.below, at_i, insertsBehind_iff, eq_comm (a := insertion.previousLine)]

theorem Explains.concat (h : Explains edits matched m) (byKind : edits.ByKind)
    (step : StepsTo edits m m' o key) : Explains edits (matched ++ [(o, key)]) m' where
  batches := by
    rw [step.batches, h.batches]
    cases key with
    | none => exact (groups_concat_none matched o).symm
    | some key => exact (groups_concat_some matched o key).symm
  below i := by
    rw [step.below, h.below]
    simp only [List.mem_append, List.mem_singleton, Prod.mk.injEq, or_and_right, exists_or]
    grind
  suits y k member := by
    rcases List.mem_append.1 member with old | new
    · exact h.suits y k old
    · cases List.mem_singleton.1 new
      exact step.suits k rfl
  unmatched before y k after split := by
    -- Only the last occurrence is new; all that was matched stands before it.
    rcases List.eq_nil_or_concat after with rfl | ⟨after, last, rfl⟩
    · obtain ⟨rfl, same⟩ := List.append_inj' split rfl
      cases same
      rw [step.unmatched, Unmatched]
      have claimed : ∀ i e, edits.insertions[i]? = some e → insertsBehind (o.line - 1) e = true →
          (i ∈ m.below ↔ ∃ z, (z, some (.insertion i)) ∈ matched ∧ z.line = o.line - 1) :=
        fun i e at_i behind => h.mem_below byKind at_i behind
      grind
    · rw [List.concat_eq_append, ← List.cons_append, ← List.append_assoc] at split
      exact h.unmatched before y k after (List.append_inj' split rfl).1

theorem exists_explains (byKind : edits.ByKind) (occurrences : List Occurrence) :
    ∃ matched, matched.map (·.1) = occurrences ∧
      Explains edits matched (matchOccurrences edits occurrences) := by
  have more : ∀ (occurrences : List Occurrence) (matched : List (Occurrence × Option EditKey))
      (m : Matching), Explains edits matched m → ∃ further, further.map (·.1) = occurrences ∧
        Explains edits (matched ++ further) (occurrences.foldl (Matching.step edits) m) := by
    intro occurrences
    induction occurrences with
    | nil => exact fun matched m known => ⟨[], rfl, by simpa using known⟩
    | cons o occurrences ih =>
      intro matched m known
      obtain ⟨key, step⟩ := exists_stepsTo byKind m o
      obtain ⟨further, rest, explained⟩ := ih _ _ (known.concat byKind step)
      exact ⟨(o, key) :: further, by simp [rest], by simpa using explained⟩
  exact more occurrences [] ⟨[], []⟩ (explains_nil edits)

theorem occurrence_of_relevant {o : Origin} {p : FilePatch} {diagnostics : List DiagnosticRecord}
    {x : Occurrence} (member : x ∈ ((relevant o p diagnostics).map (·.occurrence)).eraseDups) :
    ∃ r ∈ diagnostics, r.repo = o.repo ∧ r.diagnosticId = o.diagnosticId ∧
      samePath r.filePath p.path = true ∧ r.occurrence = x := by
  obtain ⟨r, chosen, same⟩ := List.mem_map.1 (List.mem_eraseDups.1 member)
  obtain ⟨given, about⟩ := List.mem_filter.1 chosen
  simp only [Bool.and_eq_true, decide_eq_true_eq] at about
  exact ⟨r, given, about.1.1, about.1.2, about.2, same⟩

theorem unifyFilePatch_eq_batches (o : Origin) (p : FilePatch) (diagnostics : List DiagnosticRecord)
    (source : String) {batches : List (EditKey × List Occurrence)}
    (matching : (matchOccurrences p.edits
      ((relevant o p diagnostics).map (·.occurrence)).eraseDups).batches = batches)
    (whole : ∀ batch ∈ batches, (∃ e, batch.1.get? p.edits = some e) ∧ batch.2 ≠ []) :
    (unifyFilePatch o p diagnostics source).map (fun d => (some d.edit, d.occurrences)) =
      batches.map fun batch => (batch.1.get? p.edits, batch.2) := by
  subst matching
  unfold unifyFilePatch
  rw [List.map_filterMap, List.filterMap_eq_map_iff_forall_eq_some]
  intro batch member
  obtain ⟨⟨e, found⟩, nonempty⟩ := whole batch member
  obtain ⟨first, others, cons⟩ := List.exists_cons_of_ne_nil nonempty
  simp [found, cons, datapoint]

/-- There is a datapoint for each edit, in the order of the first matches, with the occurrences
matched with it. -/
def Shows (edits : HunkEdits) (matched : List (Occurrence × Option EditKey))
    (datapoints : List UnifiedDatapoint) : Prop :=
  datapoints.map (fun d => (some d.edit, d.occurrences)) =
    (groups matched).map fun batch => (batch.1.get? edits, batch.2)

/-- The datapoints account for the diagnostics of a patched file, each of which has been matched
with an edit or with none. -/
structure Accounts (o : Origin) (p : FilePatch) (diagnostics : List DiagnosticRecord)
    (matched : List (Occurrence × Option EditKey)) (datapoints : List UnifiedDatapoint) : Prop where
  considered : matched.map (·.1) = ((relevant o p diagnostics).map (·.occurrence)).eraseDups
  shows : Shows p.edits matched datapoints
  distinct_edits : ((groups matched).map (·.1)).Nodup
  distinct : (datapoints.flatMap (·.occurrences)).Nodup
  given : ∀ d ∈ datapoints, ∀ x ∈ d.occurrences, ∃ r ∈ diagnostics, r.repo = o.repo ∧
    r.diagnosticId = o.diagnosticId ∧ samePath r.filePath p.path = true ∧ r.occurrence = x
  ordered : ∀ d ∈ datapoints,
    d.occurrences.Sublist ((relevant o p diagnostics).map (·.occurrence)).eraseDups
  suits : ∀ d ∈ datapoints, ∀ x ∈ d.occurrences, Suits p.edits x.line d.edit
  left_out : ∀ before x key after, matched = before ++ (x, key) :: after →
    ((∀ d ∈ datapoints, x ∉ d.occurrences) ↔ Unmatched p.edits before x.line)

section Shows

variable {o : Origin} {p : FilePatch} {diagnostics : List DiagnosticRecord}
  {datapoints : List UnifiedDatapoint}

theorem Shows.flatMap_occurrences (h : Shows edits matched datapoints) :
    datapoints.flatMap (·.occurrences) = (groups matched).flatMap (·.2) := by
  have all := congrArg (List.flatMap (·.2)) h
  rwa [List.flatMap_map, List.flatMap_map] at all

theorem Shows.exists_group (h : Shows edits matched datapoints) {d : UnifiedDatapoint}
    (member : d ∈ datapoints) :
    ∃ key, key.get? edits = some d.edit ∧ d.occurrences = group matched key := by
  have shown := List.mem_map_of_mem (f := fun d => (some d.edit, d.occurrences)) member
  rw [h] at shown
  obtain ⟨batch, is_group, same⟩ := List.mem_map.1 shown
  obtain ⟨at_key, all⟩ := Prod.mk.inj same
  exact ⟨batch.1, at_key, all ▸ (mem_groups.1 is_group).2⟩

theorem Explains.accounts (explains : Explains p.edits matched m)
    (considered : matched.map (·.1) = ((relevant o p diagnostics).map (·.occurrence)).eraseDups)
    (shows : Shows p.edits matched datapoints) :
    Accounts o p diagnostics matched datapoints := by
  have once : (matched.map (·.1)).Nodup := considered ▸ nodup_eraseDups _
  have ordered : ∀ d ∈ datapoints,
      d.occurrences.Sublist ((relevant o p diagnostics).map (·.occurrence)).eraseDups := by
    intro d member
    obtain ⟨key, -, all⟩ := shows.exists_group member
    rw [all, ← considered]
    exact group_sublist matched key
  refine ⟨considered, shows, nodup_keys matched, ?_, fun d member x shown => ?_, ordered,
    fun d member x shown => ?_, fun before x key after split => ?_⟩
  · rw [shows.flatMap_occurrences]
    exact nodup_groups once
  · exact occurrence_of_relevant ((ordered d member).subset shown)
  · obtain ⟨key, at_key, all⟩ := shows.exists_group member
    rw [all, mem_group] at shown
    obtain ⟨e, found, suits⟩ := explains.suits x key shown
    cases at_key.symm.trans found
    exact suits
  · have place : (x, key) ∈ matched := split ▸ by simp
    have shown : (∃ d ∈ datapoints, x ∈ d.occurrences) ↔ ∃ k, (x, some k) ∈ matched := by
      rw [← mem_flatMap_groups, ← shows.flatMap_occurrences, List.mem_flatMap]
    -- What no datapoint shows was matched with nothing, as nothing suited it.
    rw [← explains.unmatched before x key after split]
    constructor
    · intro absent
      cases key with
      | none => rfl
      | some key =>
        obtain ⟨d, member, on_d⟩ := shown.2 ⟨key, place⟩
        exact absurd on_d (absent d member)
    · rintro rfl d member on_d
      obtain ⟨k, also⟩ := shown.1 ⟨d, member, on_d⟩
      cases eq_of_mem_of_mem once place also

end Shows

/-- If the line numbers do not overflow, the datapoints account for the diagnostics. -/
theorem unifyFilePatch_accounts {o : Origin} {p : FilePatch} {diagnostics : List DiagnosticRecord}
    {source : String} (fits : UnifiesExactly o p diagnostics source) :
    (∃ matched, Accounts o p diagnostics matched (unifyFilePatch o p diagnostics source)) ∧
      ∀ d ∈ unifyFilePatch o p diagnostics source, d.LinesFit := by
  obtain ⟨matched, considered, explains⟩ := exists_explains p.edits_byKind
    ((relevant o p diagnostics).map (·.occurrence)).eraseDups
  have shows := unifyFilePatch_eq_batches o p diagnostics source explains.batches
    fun batch member => by
      obtain ⟨⟨x, x_matched⟩, all⟩ := mem_groups.1 member
      obtain ⟨e, found, -⟩ := explains.suits x _ x_matched
      exact ⟨⟨e, found⟩, List.ne_nil_of_mem (all ▸ mem_group.2 x_matched)⟩
  exact ⟨⟨matched, explains.accounts considered shows⟩, fun d =>
    linesFit_of_mem_unifyFilePatch fits⟩

/-- The insertion stands below the diagnostic on line 10, so that the one on line 11 goes
without. -/
theorem unifyFilePatch_accounts_for_three_edits :
    let p : FilePatch := ⟨"a/Cart.cs", "b/Cart.cs", [
      ⟨2, 4, 2, 3, "", [⟨.removed, "b;", some 2, none⟩, ⟨.added, "B;", none, some 2⟩,
        ⟨.context, "c;", some 3, some 3⟩, ⟨.context, "d;", some 4, some 4⟩,
        ⟨.removed, "e;", some 5, none⟩]⟩,
      ⟨10, 1, 9, 2, "", [⟨.context, "j;", some 10, some 9⟩, ⟨.added, "k;", none, some 10⟩]⟩]⟩
    let o : Origin := ⟨"fix", "shop", "Shop.sln", "c1", "", "SA1028", none⟩
    let record (line character : Int) : DiagnosticRecord :=
      ⟨"shop", "SA1028", "Cart.cs", "Trim", line, character, "Warning"⟩
    let diagnostics := [record 10 1, record 2 1, record 11 1, record 5 3, record 2 7, record 10 1]
    let datapoints := unifyFilePatch o p diagnostics "a;\nb;\n"
    UnifiesExactly o p diagnostics "a;\nb;\n" ∧
      datapoints.map (fun d => (d.edit, d.occurrences)) =
        [(.insert ⟨10, 10, ["k;"]⟩, [⟨"Trim", 10, 1⟩]),
          (.replace ⟨[2], ["B;"]⟩, [⟨"Trim", 2, 1⟩, ⟨"Trim", 2, 7⟩]),
          (.delete ⟨5, 5⟩, [⟨"Trim", 5, 3⟩])] ∧
      (∃ matched, Accounts o p diagnostics matched datapoints) ∧
      ∀ d ∈ datapoints, d.LinesFit := by
  intro p o record diagnostics datapoints
  have fits : UnifiesExactly o p diagnostics "a;\nb;\n" := by
    refine ⟨fun h listed => ?_, by decide, by decide +kernel, by decide +kernel⟩
    have all : ∀ h ∈ p.hunks, Text.FitsInt (EditScan.start h).previousLine ∧
        ∀ l ∈ h.lines, ∀ n ∈ l.sourceLine, Text.FitsInt n := by
      decide
    exact ⟨(all h listed).1, (all h listed).2⟩
  exact ⟨fits, by decide +kernel, unifyFilePatch_accounts fits⟩

end FixCorpus.Unification
