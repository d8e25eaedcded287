import FixCorpus.Proofs.Dataset.Tokenized
import FixCorpus.Proofs.Flattened.OneLine

/-! Directories that the tokenization has filled, in one run or in many: whatever
inputs and settings these had, each record holds a datapoint that can be read
again, and that is one source line and one target line
(`FilledBy.holdsDatapoints`). -/

namespace FixCorpus.Dataset

open FileTree

/-- The file holds a datapoint that can be read again, as one source line and one target line. -/
def HoldsDatapoint (t : FileTree) (path : String) : Prop :=
  ∃ dp : TokenizedDatapoint .window, dp.Storable ∧ Flattened.NewlineFree dp ∧
    t.read? path = some dp.toJson.render.toUTF8

structure HoldsDatapoints (t : FileTree) (directory : String) : Prop where
  place : ∃ l, t.locate? directory = some l ∧ t.isDirectory l = true
  each : ∀ path ∈ t.records directory, HoldsDatapoint t path

/-- The directory is still there, and its records are old ones that have not changed. -/
structure NoNewRecord (directory : String) (t u : FileTree) : Prop where
  place : ∃ l, u.locate? directory = some l ∧ u.isDirectory l = true
  old : ∀ path ∈ u.records directory, path ∈ t.records directory ∧ u.read? path = t.read? path

/-- Each input has the property in the tree in which its turn comes. -/
def EachInTurn (step : String → StateM FileTree TokenizeOutcome)
    (ok : FileTree → String → Prop) : (inputs : List String) → FileTree → Prop
  | [], _ => True
  | path :: inputs, t => ok t path ∧ EachInTurn step ok inputs ((step path).run t).2

/-- Counting the lines of a datapoint from its window does not overflow in the run. -/
def RunsExactly (t : FileTree) (paths : TokenizePaths) (settings : Settings) : Prop :=
  EachInTurn (processInput paths settings ((t.withDirectory paths.output).names paths.output))
    (fun u path => ∀ dp, u.value (tokenizedDatapoint path paths.checkouts settings) = .ok dp →
      dp.RebasedFits)
    (t.records paths.input) (t.withDirectory paths.output)

/-- The trees in which all records of a directory are from runs of the tokenization. -/
inductive FilledBy (output : String) : FileTree → Prop
  | empty {t : FileTree} (none_there : t.HoldsNoRecord output) : FilledBy output t
  /-- A run adds what it can, with any inputs and settings, and even if it fails. -/
  | tokenized {t : FileTree} (before : FilledBy output t) {paths : TokenizePaths}
      {settings : Settings} (into : paths.output = output) (exact : RunsExactly t paths settings) :
      FilledBy output ((tokenize paths settings : Action _).run.run t).2
  /-- The directory gets or changes the file that describes a run. -/
  | described {t u : FileTree} (before : FilledBy output t) {l : Location}
      (place : t.locate? output = some l) (there : t.isDirectory l = true) {content : ByteArray}
      (wrote : t.write? (Path.join output metadataName) content = some u) : FilledBy output u
  /-- Records may go away, and anything may happen to other files. -/
  | elsewhere {t u : FileTree} (before : FilledBy output t) (kept : NoNewRecord output t u) :
      FilledBy output u

section

variable {t u : FileTree} {directory : String}

theorem HoldsDatapoints.of_noNewRecord (h : HoldsDatapoints t directory)
    (kept : NoNewRecord directory t u) : HoldsDatapoints u directory := by
  refine ⟨kept.place, fun path listed => ?_⟩
  obtain ⟨old, same⟩ := kept.old path listed
  obtain ⟨dp, storable, free, held⟩ := h.each path old
  exact ⟨dp, storable, free, same.trans held⟩

theorem HoldsDatapoints.gains (h : HoldsDatapoints t directory) (more : Gains t u) :
    HoldsDatapoints u directory := by
  obtain ⟨l, found, there⟩ := h.place
  refine ⟨⟨l, locate?_mono more.isDirectory found, more.isDirectory l there⟩, fun path listed => ?_⟩
  rw [more.records_eq found] at listed
  obtain ⟨dp, storable, free, held⟩ := h.each path listed
  exact ⟨dp, storable, free, more.read?_eq held⟩

theorem place_of_write? {path : String} {content : ByteArray}
    (place : ∃ l, t.locate? directory = some l ∧ t.isDirectory l = true)
    (wrote : t.write? path content = some u) :
    ∃ l, u.locate? directory = some l ∧ u.isDirectory l = true := by
  obtain ⟨l, found, there⟩ := place
  obtain ⟨_, -, unused, rfl⟩ := write?_eq_some.1 wrote
  exact ⟨l, (locate?_set_file unused _ _).trans found,
    (isDirectory_set_file unused _ l).trans there⟩

theorem HoldsDatapoints.write (h : HoldsDatapoints t directory) {name : String}
    (plain : Path.PlainName name) {dp : TokenizedDatapoint .window} (storable : dp.Storable)
    (free : Flattened.NewlineFree dp)
    (wrote : t.write? (Path.join directory name) dp.toJson.render.toUTF8 = some u) :
    HoldsDatapoints u directory := by
  refine ⟨place_of_write? h.place wrote, fun path listed => ?_⟩
  obtain ⟨l, found, there⟩ := h.place
  obtain ⟨led, unused, rfl⟩ := set_of_write?_join found there plain wrote
  rw [HoldsDatapoint, read?_set_file unused]
  split
  · exact ⟨dp, storable, free, rfl⟩
  · rename_i other
    obtain ⟨-, rfl | old⟩ := mem_records_of_set_file found unused listed
    · exact absurd led other
    · exact h.each path old

theorem namesRecord_eq_true {path : String} : namesRecord path = true ↔
    Path.extension? path = some "json" ∧ Path.fileName? path ≠ some metadataName := by
  simp [namesRecord]

theorem noNewRecord_of_described {l : Location} (found : t.locate? directory = some l)
    (there : t.isDirectory l = true) {content : ByteArray}
    (wrote : t.write? (Path.join directory metadataName) content = some u) :
    NoNewRecord directory t u := by
  have plain : Path.PlainName metadataName := by constructor <;> decide
  refine ⟨place_of_write? ⟨l, found, there⟩ wrote, fun path listed => ?_⟩
  obtain ⟨led, unused, rfl⟩ := set_of_write?_join found there plain wrote
  obtain ⟨named, rfl | old⟩ := mem_records_of_set_file found unused listed
  · exact absurd (plain.fileName?_join directory) (namesRecord_eq_true.1 named).2
  · refine ⟨old, ?_⟩
    rw [read?_set_file unused, if_neg fun led => ?_]
    obtain ⟨extension, other⟩ := namesRecord_eq_true.1 named
    rcases fileName?_of_locate? led with none_there | same
    · rw [Path.extension?, none_there] at extension
      cases extension
    · exact other same

end

section

variable {paths : TokenizePaths} {settings : Settings} {existing : List String} {path : String}
  {t : FileTree}

theorem runsExactly_of_writesApart {l : Location}
    (apart : WritesApart t paths.output (tokenizeReads t paths) l)
    (fits : ∀ path ∈ t.records paths.input, ∀ dp,
      t.value (tokenizedDatapoint path paths.checkouts settings) = .ok dp → dp.RebasedFits) :
    RunsExactly t paths settings := by
  have known : ∀ name, t.get? (l ++ [name]) ≠ none → name ∈ t.names paths.output :=
    fun name => (mem_names_iff apart.place).2
  have turns : ∀ inputs u, (∀ path ∈ inputs, path ∈ t.records paths.input) → AgreesOutside t u l →
      EachInTurn (processInput paths settings (t.names paths.output))
        (fun u path => ∀ dp, u.value (tokenizedDatapoint path paths.checkouts settings) = .ok dp →
          dp.RebasedFits) inputs u := by
    intro inputs
    induction inputs with
    | nil => exact fun _ _ _ => trivial
    | cons path inputs ih =>
      intro u listed agrees
      rw [List.forall_mem_cons] at listed
      refine ⟨fun dp made => ?_, ?_⟩
      · rw [value_tokenizedDatapoint_of_agrees settings apart agrees listed.1] at made
        exact fits path listed.1 dp made
      · rw [run_processInput_of_agrees apart known agrees listed.1]
        refine ih _ listed.2 (agrees.putAll _ fun f made => ?_)
        exact isDirectory_of_get?_eq_none (get?_of_newFile? known (Option.mem_toList.1 made))
  rw [RunsExactly, withDirectory_of_isDirectory apart.place apart.there]
  exact turns _ t (fun _ => id) (.refl t l)

theorem storable_of_tokenizedDatapoint {checkouts : String} {dp : TokenizedDatapoint .window}
    (made : t.value (tokenizedDatapoint path checkouts settings) = .ok dp) (fits : dp.RebasedFits) :
    dp.Storable ∧ Flattened.NewlineFree dp := by
  rw [value_tokenizedDatapoint] at made
  obtain ⟨⟨text, d⟩, held, made⟩ := except_bind_eq_ok.1 made
  obtain ⟨source, -, made⟩ := except_bind_eq_ok.1 made
  have tokenized : tokenizeDatapoint d source settings = .ok dp := by
    unfold tokenizeSource at made
    split at made
    · rename_i found
      rw [found, Except.ok.inj made]
    · cases made
  obtain ⟨v, -, read⟩ := Option.bind_eq_some_iff.1
    (unifiedOfText_eq_ok.1 (value_readUnified_eq_ok.1 held).2).2
  exact ⟨Tokenization.storable_tokenizeDatapoint (UnifiedDatapoint.storable_of_ofJson? read)
    tokenized fits, Tokenization.newlineFree_tokenizeDatapoint tokenized⟩

theorem HoldsDatapoints.processInput (h : HoldsDatapoints t paths.output)
    (fits : ∀ dp, t.value (tokenizedDatapoint path paths.checkouts settings) = .ok dp →
      dp.RebasedFits) :
    HoldsDatapoints ((processInput paths settings existing path).run t).2 paths.output := by
  rw [run_tokenizeFileOutcome, run_tokenizeFile]
  cases t.value (readUnified path) with
  | error e => exact h
  | ok r =>
    dsimp only
    by_cases known : outputFileName r.1 settings ∈ existing
    · rw [if_pos known]
      exact h
    · rw [if_neg known]
      cases made : t.value (tokenizedDatapoint path paths.checkouts settings) with
      | error e => exact h
      | ok dp =>
        obtain ⟨storable, free⟩ := storable_of_tokenizedDatapoint made (fits dp made)
        dsimp only
        cases wrote : t.write? (Path.join paths.output (outputFileName r.1 settings))
          dp.toJson.render.toUTF8 with
        | none => exact h
        | some u => exact h.write (plainName_outputFileName r.1 settings) storable free wrote

theorem HoldsDatapoints.processInputs {inputs : List String} (h : HoldsDatapoints t paths.output)
    (exact : EachInTurn (Dataset.processInput paths settings existing)
      (fun u path => ∀ dp, u.value (tokenizedDatapoint path paths.checkouts settings) = .ok dp →
        dp.RebasedFits) inputs t) :
    HoldsDatapoints ((inputs.mapM (Dataset.processInput paths settings existing)).run t).2
      paths.output := by
  -- Each input keeps what holds of the directory.
  induction inputs generalizing t with
  | nil => exact h
  | cons path inputs ih =>
    rw [List.mapM_cons, run_bind, run_bind]
    exact ih (h.processInput exact.1) exact.2

end

section

variable {paths : TokenizePaths} {settings : Settings} {output : String} {t : FileTree}

theorem holdsDatapoints_tokenize (h : t.HoldsNoRecord paths.output ∨ HoldsDatapoints t paths.output)
    (exact : RunsExactly t paths settings) :
    ((tokenize paths settings : Action _).run.run t).2.HoldsNoRecord paths.output ∨
      HoldsDatapoints ((tokenize paths settings : Action _).run.run t).2 paths.output := by
  rw [run_tokenize]
  split
  · exact h
  · rw [RunsExactly, withDirectory] at exact
    cases made : (Storage.makeDirectory paths.output : StateM FileTree Bool).run t with
    | mk b u =>
      have more := gains_makeDirectory made
      have kept : u.HoldsNoRecord paths.output ∨ HoldsDatapoints u paths.output :=
        h.imp (·.gains more) (·.gains more)
      rw [made] at exact
      cases b with
      | false => exact kept
      | true =>
        by_cases named : paths.output = ""
        · -- no path leads to a directory without a name, which therefore never has records
          refine .inl fun v _ => records_of_locate?_none ?_
          rw [named]
          rfl
        · have place := isDirectory_of_makeDirectory named made
          refine .inr (HoldsDatapoints.processInputs ⟨place, fun path listed => ?_⟩ exact)
          rcases kept with none_there | all
          · rw [none_there u (.refl u)] at listed
            cases listed
          · exact all.each path listed

theorem FilledBy.holdsDatapoints (filled : FilledBy output t) :
    t.HoldsNoRecord output ∨ HoldsDatapoints t output := by
  have of_kept : ∀ {t u : FileTree}, t.HoldsNoRecord output ∨ HoldsDatapoints t output →
      NoNewRecord output t u → u.HoldsNoRecord output ∨ HoldsDatapoints u output := by
    rintro t u (none_there | all) kept
    · refine .inr ⟨kept.place, fun path listed => ?_⟩
      have old := (kept.old path listed).1
      rw [none_there t (.refl t)] at old
      cases old
    · exact .inr (all.of_noNewRecord kept)
  induction filled with
  | empty none_there => exact .inl none_there
  | tokenized before into exact ih =>
    subst into
    exact holdsDatapoints_tokenize ih exact
  | described before place there wrote ih =>
    exact of_kept ih (noNewRecord_of_described place there wrote)
  | elsewhere before kept ih => exact of_kept ih kept

end

end FixCorpus.Dataset
