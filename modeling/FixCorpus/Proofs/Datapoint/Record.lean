import FixCorpus.Datapoint.Record
import FixCorpus.Proofs.Json.RoundTrip
import FixCorpus.Unification

/-! Edits, datapoints and diagnostics are read as they were stored, if 64 bits hold
their numbers: `UnifiedDatapoint.parse?_render`, `TokenizedDatapoint.parse?_render`,
`DiagnosticRecord.parse?_render`. -/

namespace FixCorpus

open Json Text

theorem Text.FitsInt.fitsJson {n : Int} (fits : FitsInt n) : FitsJson n :=
  ⟨fits.1, Int.le_trans fits.2 (by decide)⟩

theorem Text.FitsInt.toInt?_int {n : Int} (fits : FitsInt n) : (Json.int n).toInt? = some n :=
  Json.toInt?_int fits.1 fits.2

namespace Json

theorem plain_map {α : Type} {write : α → Json} {as : List α}
    (plain : ∀ a ∈ as, Plain (write a)) : Plain (.arr (as.map write)) :=
  .arr (List.forall_mem_map.2 plain)

theorem plain_strings (texts : List String) : Plain (strings texts) :=
  plain_map fun s _ => .str s

theorem plain_ints {numbers : List Int} (fits : ∀ n ∈ numbers, FitsInt n) :
    Plain (ints numbers) :=
  plain_map fun n listed => .int (fits n listed).fitsJson

theorem plain_nat {n : Nat} (fits : n ≤ greatestNat) : Plain (.int n) :=
  .int ⟨Int.le_trans (by decide) (Int.natCast_nonneg n), Int.ofNat_le.2 fits⟩

theorem plain_optionalMember (name : String) (text : Option String) :
    ∀ m ∈ optionalMember name text, Plain m.2 := by
  cases text with
  | none => exact nofun
  | some s => exact fun m member => List.mem_singleton.1 member ▸ .str s

theorem mapM_map {α : Type} {read : Json → Option α} {write : α → Json} {as : List α}
    (inverse : ∀ a ∈ as, read (write a) = some a) : (as.map write).mapM read = some as := by
  induction as with
  | nil => rfl
  | cons a as ih =>
    rw [List.forall_mem_cons] at inverse
    simp [inverse.1, ih inverse.2]

theorem toList?_strings (texts : List String) : (strings texts).toList? toText? = some texts :=
  mapM_map fun _ _ => rfl

theorem toList?_ints {numbers : List Int} (fits : ∀ n ∈ numbers, FitsInt n) :
    (ints numbers).toList? toInt? = some numbers :=
  mapM_map fun n member => (fits n member).toInt?_int

theorem bind_some {α β : Type} {x : Option α} {f : α → Option β} {a : α} {b : β}
    (first : x = some a) (rest : f a = some b) : x >>= f = some b := by
  rw [first]
  exact rest

def membersOf (fields : List (String × Option Json)) : List (String × Json) :=
  fields.filterMap fun f => f.2.map fun v => (f.1, v)

def slotOf : Option Json → Slot
  | some v => .given v
  | none => .absent

theorem optional_slotOf (text : Option String) :
    (slotOf (text.map .str)).optional toText? = some text := by
  cases text <;> rfl

theorem filter_membersOf (fields : List (String × Option Json)) (names : List String) :
    (membersOf fields).filter (fun m => m.1 ∈ names) =
      membersOf (fields.filter fun f => f.1 ∈ names) := by
  rw [membersOf, membersOf, List.filter_filterMap, List.filterMap_filter]
  refine congrArg (fun g => fields.filterMap g) (funext fun f => ?_)
  obtain ⟨key, _ | v⟩ := f
  · simp
  · by_cases named : key ∈ names <;> simp [named, Option.filter]

section

variable {layout : List (List String)} {fields : List (String × Option Json)}

theorem memberSlot_membersOf {names : List String} {f : String × Option Json} (member : f ∈ fields)
    (alone : (fields.map (·.1)).filter (· ∈ names) = [f.1]) :
    memberSlot (membersOf fields) names = some (slotOf f.2) := by
  rw [List.filter_map, List.map_eq_singleton_iff] at alone
  obtain ⟨g, found, same⟩ := alone
  have named : g.1 ∈ names := by
    have kept : g ∈ fields.filter ((fun k => decide (k ∈ names)) ∘ (·.1)) :=
      found ▸ List.mem_cons_self
    simpa using (List.mem_filter.1 kept).2
  have itself : f ∈ fields.filter ((fun k => decide (k ∈ names)) ∘ (·.1)) :=
    List.mem_filter.2 ⟨member, by simpa [← same] using named⟩
  rw [found, List.mem_singleton] at itself
  subst itself
  have only : fields.filter (fun g => decide (g.1 ∈ names)) = [f] := found
  rw [memberSlot, filter_membersOf, only]
  obtain ⟨key, _ | v⟩ := f <;> rfl

theorem mapM_memberSlot {part : List (String × Option Json)} (inside : part ⊆ fields)
    (apart : layout.map (fun names => (fields.map (·.1)).filter (· ∈ names)) =
      part.map fun f => [f.1]) :
    layout.mapM (memberSlot (membersOf fields)) = some (part.map fun f => slotOf f.2) := by
  induction layout generalizing part with
  | nil =>
    rw [List.map_eq_nil_iff.1 apart.symm]
    rfl
  | cons names layout ih =>
    cases part with
    | nil => cases apart
    | cons f part =>
      obtain ⟨alone, others⟩ := List.cons_eq_cons.1 apart
      rw [List.mapM_cons, memberSlot_membersOf (inside List.mem_cons_self) alone,
        ih (List.subset_of_cons_subset inside) others]
      rfl

theorem slots?_membersOf (apart : layout.map (fun names =>
      (fields.map (·.1)).filter (· ∈ names)) = fields.map fun f => [f.1]) :
    slots? layout (.obj (membersOf fields)) = some (fields.map fun f => slotOf f.2) :=
  mapM_memberSlot (List.Subset.refl _) apart

end

end Json

def Edit.Storable : Edit → Prop
  | .insert i => FitsInt i.previousLine ∧ FitsInt i.targetStart
  | .delete d => FitsInt d.firstLine ∧ FitsInt d.lastLine
  | .replace r => ∀ n ∈ r.sourceLines, FitsInt n

theorem Edit.plain_toJson {e : Edit} (h : e.Storable) : Plain e.toJson := by
  cases e with
  | insert i =>
    refine .obj ?_
    simp only [List.forall_mem_cons]
    exact ⟨.str _, .obj (by
      simp only [List.forall_mem_cons]
      exact ⟨.int h.1.fitsJson, .int h.2.fitsJson, plain_strings _, nofun⟩), nofun⟩
  | delete d =>
    refine .obj ?_
    simp only [List.forall_mem_cons]
    exact ⟨.str _, .obj (by
      simp only [List.forall_mem_cons]
      exact ⟨.int h.1.fitsJson, .int h.2.fitsJson, nofun⟩), nofun⟩
  | replace r =>
    refine .obj ?_
    simp only [List.forall_mem_cons]
    exact ⟨.str _, .obj (by
      simp only [List.forall_mem_cons]
      exact ⟨plain_ints h, plain_strings _, nofun⟩), nofun⟩

theorem Edit.ofJson?_toJson {e : Edit} (h : e.Storable) : Edit.ofJson? e.toJson = some e := by
  cases e with
  | insert i =>
    have previous := h.1.toInt?_int
    have start := h.2.toInt?_int
    simp [Edit.ofJson?, toJson, slots?, memberSlot, content?, contentFirst, action?, insertion?,
      previous, start, toList?_strings]
  | delete d =>
    have first := h.1.toInt?_int
    have last := h.2.toInt?_int
    simp [Edit.ofJson?, toJson, slots?, memberSlot, content?, contentFirst, action?, deletion?,
      first, last]
  | replace r =>
    have source := toList?_ints h
    simp [Edit.ofJson?, toJson, slots?, memberSlot, content?, contentFirst, action?, replacement?,
      source, toList?_strings]

structure TokenizedOccurrence.Storable (o : TokenizedOccurrence) : Prop where
  line : FitsInt o.line
  character : FitsInt o.character

theorem TokenizedOccurrence.plain_toJson {o : TokenizedOccurrence} (h : o.Storable) :
    Plain o.toJson := by
  refine .obj ?_
  simp only [List.forall_mem_cons]
  exact ⟨.str _, .int h.line.fitsJson, .int h.character.fitsJson, plain_strings _, nofun⟩

theorem TokenizedOccurrence.ofJson?_toJson {o : TokenizedOccurrence} (h : o.Storable) :
    TokenizedOccurrence.ofJson? o.toJson = some o := by
  have line := h.line.toInt?_int
  have character := h.character.toInt?_int
  simp [TokenizedOccurrence.ofJson?, toJson, slots?, memberSlot, line, character, toList?_strings]

/-- 64 bits hold the numbers of the datapoint. -/
structure TokenizedDatapoint.Storable {base : LineBase} (d : TokenizedDatapoint base) : Prop where
  numberFileLines : d.numberFileLines ≤ greatestNat
  requiredLinesStart : FitsInt d.requiredLinesStart
  requiredLinesEnd : FitsInt d.requiredLinesEnd
  occurrences : ∀ o ∈ d.occurrences, o.Storable
  edit : d.edit.Storable
  fileContextStart : FitsInt d.fileContextStart
  tokenizedFileContextStart : FitsInt d.tokenizedFileContextStart

theorem TokenizedDatapoint.plain_toJson {base : LineBase} {d : TokenizedDatapoint base}
    (h : d.Storable) : Plain d.toJson := by
  have occurrences : Plain (.arr (d.occurrences.map TokenizedOccurrence.toJson)) :=
    plain_map fun o listed => TokenizedOccurrence.plain_toJson (h.occurrences o listed)
  refine .obj ?_
  simp only [List.forall_mem_append, List.forall_mem_cons]
  exact ⟨⟨⟨.str _, nofun⟩, plain_optionalMember _ _⟩, .str _, .str _, .str _,
    plain_nat h.numberFileLines, .int h.requiredLinesStart.fitsJson,
    .int h.requiredLinesEnd.fitsJson, occurrences, Edit.plain_toJson h.edit, plain_strings _,
    .int h.fileContextStart.fitsJson, plain_strings _, plain_strings _,
    .int h.tokenizedFileContextStart.fitsJson, nofun⟩

theorem TokenizedDatapoint.slots?_toJson (d : TokenizedDatapoint .window) :
    slots? layout d.toJson = some [.given (.str d.repo), slotOf (d.fileUrl.map .str),
      .given (.str d.diagnosticId), .given (.str d.analyzerNuGet), .given (.str d.severity),
      .given (.int d.numberFileLines), .given (.int d.requiredLinesStart),
      .given (.int d.requiredLinesEnd),
      .given (.arr (d.occurrences.map TokenizedOccurrence.toJson)), .given d.edit.toJson,
      .given (strings d.tokenizedTargetLines), .given (.int d.fileContextStart),
      .given (strings d.fileContext), .given (strings d.tokenizedFileContext),
      .given (.int d.tokenizedFileContextStart)] := by
  have members : d.toJson = .obj (membersOf [("Repo", some (.str d.repo)),
      ("FileURL", d.fileUrl.map .str), ("DiagnosticID", some (.str d.diagnosticId)),
      ("AnalyzerNuGet", some (.str d.analyzerNuGet)), ("Severity", some (.str d.severity)),
      ("NumberFileLines", some (.int d.numberFileLines)),
      ("RequiredLinesStart", some (.int d.requiredLinesStart)),
      ("RequiredLinesEnd", some (.int d.requiredLinesEnd)),
      ("DiagnosticOccurances", some (.arr (d.occurrences.map TokenizedOccurrence.toJson))),
      ("ParsedDiff", some d.edit.toJson),
      ("TokenizedTargetLines", some (strings d.tokenizedTargetLines)),
      ("FileContextStart", some (.int d.fileContextStart)),
      ("FileContext", some (strings d.fileContext)),
      ("TokenizedFileContext", some (strings d.tokenizedFileContext)),
      ("TokenizedFileContextStart", some (.int d.tokenizedFileContextStart))]) := by
    obtain ⟨_, url, _⟩ := d
    cases url <;> rfl
  have apart : layout.map (fun names => (layout.map (·.headD "")).filter (· ∈ names)) =
      layout.map fun names => [names.headD ""] := by
    decide +kernel
  rw [members]
  exact slots?_membersOf apart

theorem TokenizedDatapoint.ofJson?_toJson {d : TokenizedDatapoint .window} (h : d.Storable) :
    TokenizedDatapoint.ofJson? d.toJson = some d := by
  have lines := toNat?_int h.numberFileLines
  have first := h.requiredLinesStart.toInt?_int
  have last := h.requiredLinesEnd.toInt?_int
  have occurrences : (d.occurrences.map TokenizedOccurrence.toJson).mapM
      TokenizedOccurrence.ofJson? = some d.occurrences :=
    mapM_map fun o listed => TokenizedOccurrence.ofJson?_toJson (h.occurrences o listed)
  have edit := Edit.ofJson?_toJson h.edit
  have start := h.fileContextStart.toInt?_int
  have window := h.tokenizedFileContextStart.toInt?_int
  rw [TokenizedDatapoint.ofJson?]
  exact bind_some (slots?_toJson d) <| bind_some rfl <| bind_some (optional_slotOf _) <|
    bind_some rfl <|
    bind_some rfl <| bind_some rfl <| bind_some lines <| bind_some first <| bind_some last <|
    bind_some occurrences <| bind_some edit <| bind_some (toList?_strings _) <|
    bind_some start <| bind_some (toList?_strings _) <| bind_some (toList?_strings _) <|
    bind_some window rfl

theorem TokenizedDatapoint.parse?_render {d : TokenizedDatapoint .window} (h : d.Storable) :
    (Json.parse? d.toJson.render).bind TokenizedDatapoint.ofJson? = some d := by
  rw [Json.parse?_render (plain_toJson h), Option.bind_some, ofJson?_toJson h]

structure Occurrence.Storable (o : Occurrence) : Prop where
  line : FitsInt o.line
  character : FitsInt o.character

theorem Occurrence.plain_toJson {o : Occurrence} (h : o.Storable) : Plain o.toJson := by
  refine .obj ?_
  simp only [List.forall_mem_cons]
  exact ⟨.str _, .int h.line.fitsJson, .int h.character.fitsJson, nofun⟩

theorem Occurrence.ofJson?_toJson {o : Occurrence} (h : o.Storable) :
    Occurrence.ofJson? o.toJson = some o := by
  have line := h.line.toInt?_int
  have character := h.character.toInt?_int
  simp [Occurrence.ofJson?, toJson, slots?, memberSlot, line, character]

structure UnifiedDatapoint.Storable (d : UnifiedDatapoint) : Prop where
  numberFileLines : d.numberFileLines ≤ greatestNat
  requiredLinesStart : FitsInt d.requiredLinesStart
  requiredLinesEnd : FitsInt d.requiredLinesEnd
  occurrences : ∀ o ∈ d.occurrences, o.Storable
  edit : d.edit.Storable
  fileContextStart : FitsInt d.fileContextStart

theorem UnifiedDatapoint.plain_toJson {d : UnifiedDatapoint} (h : d.Storable) :
    Plain d.toJson := by
  have occurrences : Plain (.arr (d.occurrences.map Occurrence.toJson)) :=
    plain_map fun o listed => Occurrence.plain_toJson (h.occurrences o listed)
  refine .obj ?_
  simp only [List.forall_mem_append, List.forall_mem_cons]
  exact ⟨⟨⟨⟨⟨.str _, nofun⟩, plain_optionalMember _ _⟩, .str _, .str _, plain_nat h.numberFileLines,
    .str _, nofun⟩, plain_optionalMember _ _⟩, .str _, .str _, .str _,
    .int h.requiredLinesStart.fitsJson, .int h.requiredLinesEnd.fitsJson, occurrences,
    Edit.plain_toJson h.edit, .int h.fileContextStart.fitsJson, plain_strings _, nofun⟩

theorem UnifiedDatapoint.slots?_toJson (d : UnifiedDatapoint) :
    slots? layout d.toJson = some [.given (.str d.repo), slotOf (d.repoUrl.map .str),
      .given (.str d.solutionFile), .given (.str d.filePath), .given (.int d.numberFileLines),
      .given (.str d.commit), slotOf (d.fileUrl.map .str), .given (.str d.diagnosticId),
      .given (.str d.analyzerNuGet), .given (.str d.severity), .given (.int d.requiredLinesStart),
      .given (.int d.requiredLinesEnd), .given (.arr (d.occurrences.map Occurrence.toJson)),
      .given d.edit.toJson, .given (.int d.fileContextStart), .given (strings d.fileContext)] := by
  have members : d.toJson = .obj (membersOf [("Repo", some (.str d.repo)),
      ("RepoURL", d.repoUrl.map .str), ("SolutionFile", some (.str d.solutionFile)),
      ("FilePath", some (.str d.filePath)), ("NumberFileLines", some (.int d.numberFileLines)),
      ("Commit", some (.str d.commit)), ("FileURL", d.fileUrl.map .str),
      ("DiagnosticID", some (.str d.diagnosticId)),
      ("AnalyzerNuGet", some (.str d.analyzerNuGet)), ("Severity", some (.str d.severity)),
      ("RequiredLinesStart", some (.int d.requiredLinesStart)),
      ("RequiredLinesEnd", some (.int d.requiredLinesEnd)),
      ("DiagnosticOccurances", some (.arr (d.occurrences.map Occurrence.toJson))),
      ("ParsedDiff", some d.edit.toJson), ("FileContextStart", some (.int d.fileContextStart)),
      ("FileContext", some (strings d.fileContext))]) := by
    obtain ⟨_, repoUrl, _, _, _, _, url, _⟩ := d
    cases repoUrl <;> cases url <;> rfl
  have apart : layout.map (fun names => (layout.map (·.headD "")).filter (· ∈ names)) =
      layout.map fun names => [names.headD ""] := by
    decide +kernel
  rw [members]
  exact slots?_membersOf apart

theorem UnifiedDatapoint.ofJson?_toJson {d : UnifiedDatapoint} (h : d.Storable) :
    UnifiedDatapoint.ofJson? d.toJson = some d := by
  have lines := toNat?_int h.numberFileLines
  have first := h.requiredLinesStart.toInt?_int
  have last := h.requiredLinesEnd.toInt?_int
  have occurrences : (d.occurrences.map Occurrence.toJson).mapM Occurrence.ofJson? =
      some d.occurrences :=
    mapM_map fun o listed => Occurrence.ofJson?_toJson (h.occurrences o listed)
  have edit := Edit.ofJson?_toJson h.edit
  have start := h.fileContextStart.toInt?_int
  rw [UnifiedDatapoint.ofJson?]
  exact bind_some (slots?_toJson d) <| bind_some rfl <| bind_some (optional_slotOf _) <|
    bind_some rfl <| bind_some rfl <| bind_some lines <| bind_some rfl <|
    bind_some (optional_slotOf _) <| bind_some rfl <| bind_some rfl <| bind_some rfl <|
    bind_some first <| bind_some last <| bind_some occurrences <| bind_some edit <|
    bind_some start <| bind_some (toList?_strings _) rfl

theorem UnifiedDatapoint.parse?_render {d : UnifiedDatapoint} (h : d.Storable) :
    (Json.parse? d.toJson.render).bind UnifiedDatapoint.ofJson? = some d := by
  rw [Json.parse?_render (plain_toJson h), Option.bind_some, ofJson?_toJson h]

structure DiagnosticRecord.Storable (d : DiagnosticRecord) : Prop where
  line : FitsInt d.line
  character : FitsInt d.character

theorem DiagnosticRecord.plain_toJson {d : DiagnosticRecord} (h : d.Storable) :
    Plain d.toJson := by
  refine .obj ?_
  simp only [List.forall_mem_cons]
  exact ⟨.str _, .str _, .str _, .str _, .int h.line.fitsJson, .int h.character.fitsJson, .str _,
    nofun⟩

theorem DiagnosticRecord.slots?_toJson (d : DiagnosticRecord) :
    slots? [["Repo"], ["Id"], ["FilePath"], ["Message"], ["Line"], ["Character"], ["Severity"]]
      d.toJson = some [.given (.str d.repo), .given (.str d.diagnosticId),
        .given (.str d.filePath), .given (.str d.message), .given (.int d.line),
        .given (.int d.character), .given (.str d.severity)] := by
  simp [toJson, slots?, memberSlot]

theorem DiagnosticRecord.ofJson?_toJson {d : DiagnosticRecord} (h : d.Storable) :
    DiagnosticRecord.ofJson? d.toJson = some d := by
  have line := h.line.toInt?_int
  have character := h.character.toInt?_int
  simp [DiagnosticRecord.ofJson?, toJson, slots?, memberSlot, line, character]

theorem DiagnosticRecord.parse?_render {ds : List DiagnosticRecord} (h : ∀ d ∈ ds, d.Storable) :
    (Json.parse? (Json.arr (ds.map toJson)).render).bind (Json.toList? ofJson?) = some ds := by
  have plain : Plain (.arr (ds.map toJson)) := plain_map fun d listed => plain_toJson (h d listed)
  rw [Json.parse?_render plain, Option.bind_some, toList?_arr]
  exact mapM_map fun d listed => ofJson?_toJson (h d listed)

end FixCorpus
