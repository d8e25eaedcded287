import FixCorpus.Proofs.Dataset.Names
import FixCorpus.Proofs.Dataset.Reading
import Mathlib.Data.List.Basic

/-! A run of the tokenization. -/

namespace FixCorpus.Dataset

open FileTree

theorem TokenizeCounts.total_eq (outcomes : List TokenizeOutcome) :
    (ofOutcomes outcomes).total =
      (ofOutcomes outcomes).written + (ofOutcomes outcomes).duplicates +
        (ofOutcomes outcomes).malformed + (ofOutcomes outcomes).contextOverflow +
        (ofOutcomes outcomes).lexerFaults + (ofOutcomes outcomes).otherFailures := by
  have once : ∀ o : TokenizeOutcome,
      1 = (if o.isWritten then 1 else 0) + (if o.isDuplicate then 1 else 0) +
        (if o.isMalformed then 1 else 0) + (if o.isContextOverflow then 1 else 0) +
        (if o.isLexerFault then 1 else 0) +
        (if !(o.isWritten || o.isDuplicate || o.isMalformed || o.isContextOverflow ||
          o.isLexerFault) then 1 else 0) := by
    intro o
    cases o with
    | written => rfl
    | duplicate => rfl
    | failed cause =>
      cases cause with
      | tokenize cause =>
        cases cause with
        | window cause => cases cause <;> rfl
        | _ => rfl
      | _ => rfl
  induction outcomes with
  | nil => rfl
  | cons o outcomes ih =>
    simp only [ofOutcomes, List.length_cons, List.countP_cons] at ih ⊢
    have := once o
    omega

section

variable {checkouts output : String} {settings : Settings} {existing : List String}
  {t u : FileTree} {l : Location}

theorem run_tokenizeFile (path : String) (t : FileTree) :
    (tokenizeFile checkouts output settings existing path : Action _).run.run t =
      match t.value (readUnified path) with
      | .error e => (.error e, t)
      | .ok (text, _) =>
        if outputFileName text settings ∈ existing then (.ok .duplicate, t)
        else
          match t.value (tokenizedDatapoint path checkouts settings) with
          | .error e => (.error e, t)
          | .ok dp =>
            match t.write? (Path.join output (outputFileName text settings))
              dp.toJson.render.toUTF8 with
            | some u => (.ok .written, u)
            | none => (.error (.io (Path.join output (outputFileName text settings))), t) := by
  rw [tokenizeFile, (readsOnly_readUnified path).run_bind]
  cases found : t.value (readUnified path) with
  | error e => rfl
  | ok r =>
    obtain ⟨text, d⟩ := r
    dsimp only
    split
    · rfl
    · rw [value_tokenizedDatapoint_of_ok found settings,
        (readsOnly_readSource checkouts d).run_bind]
      cases t.value (readSource checkouts d) with
      | error e => rfl
      | ok source =>
        change (liftM (tokenizeSource d source settings) >>= _ : Action _).run.run t =
          match tokenizeSource d source settings with | .error e => _ | .ok dp => _
        rw [(readsOnly_lift _).run_bind, value_lift]
        cases tokenizeSource d source settings with
        | error e => rfl
        | ok dp =>
          have wrote := run_writeText
            (Path.join output (outputFileName text settings)) dp.toJson.render t
          dsimp only
          cases new : t.write? (Path.join output (outputFileName text settings))
            dp.toJson.render.toUTF8 with
          | none => exact run_bind_error (by rw [wrote, new])
          | some v => exact run_bind_ok (wrote.trans (by rw [new]))

theorem run_tokenizeFileOutcome (path : String) (t : FileTree) :
    (tokenizeFileOutcome checkouts output settings existing path : StateM FileTree _).run t =
      match (tokenizeFile checkouts output settings existing path : Action _).run.run t with
      | (.ok outcome, u) => (outcome, u)
      | (.error cause, u) => (.failed cause, u) := by
  rw [tokenizeFileOutcome, run_bind]
  match (tokenizeFile checkouts output settings existing path : Action _).run.run t with
  | (.ok outcome, u) => rfl
  | (.error cause, u) => rfl

/-- The file that an input adds to the output directory of a tree, if it adds one. -/
def newFile? (checkouts output : String) (settings : Settings) (existing : List String)
    (t : FileTree) (path : String) : Option (String × ByteArray) :=
  match t.value (readUnified path) with
  | .error _ => none
  | .ok (text, _) =>
    if outputFileName text settings ∈ existing then none
    else
      match t.value (tokenizedDatapoint path checkouts settings) with
      | .error _ => none
      | .ok dp =>
        if isPath (Path.join output (outputFileName text settings)) then
          some (outputFileName text settings, dp.toJson.render.toUTF8)
        else none

theorem newFile?_eq_some {path : String} {f : String × ByteArray} :
    newFile? checkouts output settings existing t path = some f ↔
      ∃ text d dp, t.value (readUnified path) = .ok (text, d) ∧
        outputFileName text settings ∉ existing ∧
        t.value (tokenizedDatapoint path checkouts settings) = .ok dp ∧
        isPath (Path.join output (outputFileName text settings)) = true ∧
        f = (outputFileName text settings, dp.toJson.render.toUTF8) := by
  unfold newFile?
  cases t.value (readUnified path) with
  | error e => simp
  | ok r =>
    obtain ⟨text, d⟩ := r
    cases t.value (tokenizedDatapoint path checkouts settings) with
    | error e => simp
    | ok dp =>
      simp only [Except.ok.injEq, Prod.mk.injEq]
      constructor
      · intro made
        split_ifs at made with known valid
        exact ⟨text, d, dp, ⟨rfl, rfl⟩, known, rfl, valid, (Option.some.inj made).symm⟩
      · rintro ⟨_, _, _, ⟨rfl, rfl⟩, known, rfl, valid, rfl⟩
        rw [if_neg known, if_pos valid]

theorem get?_of_newFile? (known : ∀ name, t.get? (l ++ [name]) ≠ none → name ∈ existing)
    {path : String} {f : String × ByteArray}
    (made : newFile? checkouts output settings existing t path = some f) :
    t.get? (l ++ [f.1]) = none := by
  obtain ⟨text, d, dp, -, new, -, -, rfl⟩ := newFile?_eq_some.1 made
  by_contra taken
  exact new (known _ taken)

end

abbrev processInput (paths : TokenizePaths) (settings : Settings) (existing : List String) :
    String → StateM FileTree TokenizeOutcome :=
  tokenizeFileOutcome paths.checkouts paths.output settings existing

/-- What becomes of an input alone. -/
def inputOutcome (paths : TokenizePaths) (settings : Settings) (existing : List String)
    (t : FileTree) (path : String) : TokenizeOutcome :=
  match t.value (readUnified path) with
  | .error cause => .failed cause
  | .ok (text, _) =>
    if outputFileName text settings ∈ existing then .duplicate
    else
      match t.value (tokenizedDatapoint path paths.checkouts settings) with
      | .error cause => .failed cause
      | .ok _ =>
        if isPath (Path.join paths.output (outputFileName text settings)) then .written
        else .failed (.io (Path.join paths.output (outputFileName text settings)))

theorem isSome_newFile? {paths : TokenizePaths} {settings : Settings} {existing : List String}
    {t : FileTree} {path : String} :
    (newFile? paths.checkouts paths.output settings existing t path).isSome = true ↔
      inputOutcome paths settings existing t path = .written := by
  unfold newFile? inputOutcome
  cases t.value (readUnified path) with
  | error cause => simp
  | ok r =>
    dsimp only
    cases t.value (tokenizedDatapoint path paths.checkouts settings) with
    | error cause =>
      dsimp only
      split_ifs <;> simp
    | ok dp =>
      dsimp only
      split_ifs <;> simp

theorem run_processInput_of_ok {paths : TokenizePaths} {settings : Settings}
    {existing : List String} {path text : String} {d : UnifiedDatapoint}
    {dp : TokenizedDatapoint .window} {t : FileTree}
    (held : t.value (readUnified path) = .ok (text, d))
    (new : outputFileName text settings ∉ existing)
    (made : t.value (tokenizedDatapoint path paths.checkouts settings) = .ok dp) :
    (processInput paths settings existing path).run t =
      match t.write? (Path.join paths.output (outputFileName text settings))
        dp.toJson.render.toUTF8 with
      | some u => (.written, u)
      | none => (.failed (.io (Path.join paths.output (outputFileName text settings))), t) := by
  rw [run_tokenizeFileOutcome, run_tokenizeFile, held, made]
  simp only [if_neg new]
  cases t.write? (Path.join paths.output (outputFileName text settings))
    dp.toJson.render.toUTF8 <;> rfl

theorem run_tokenize (paths : TokenizePaths) (settings : Settings) (t : FileTree) :
    (tokenize paths settings : Action _).run.run t =
      if (t.records paths.input).isEmpty then (.error (.noInputs paths.input "json"), t)
      else
        match (Storage.makeDirectory paths.output : StateM FileTree Bool).run t with
        | (false, u) => (.error (.io paths.output), u)
        | (true, u) =>
          (.ok (TokenizeCounts.ofOutcomes (((t.records paths.input).mapM
              (processInput paths settings (u.names paths.output))).run u).1),
            (((t.records paths.input).mapM
              (processInput paths settings (u.names paths.output))).run u).2) := by
  rw [tokenize, run_bind_ok (run_discoverRecords _ t)]
  by_cases empty : (t.records paths.input).isEmpty = true
  · rw [(readsOnly_lift _).run_bind, value_lift, orNoInputs, if_pos empty, if_pos empty]
  · rw [run_bind_ok (run_orNoInputs (by simpa using empty) _ _ t), if_neg empty]
    have made := run_makeDirectory paths.output t
    cases built : (Storage.makeDirectory paths.output : StateM FileTree Bool).run t with
    | mk done u =>
      rw [built] at made
      cases done with
      | false => exact run_bind_error made
      | true =>
        rw [run_bind_ok made, run_bind_ok (run_lift _ u), run_names,
          run_bind_ok (run_mapM_lift _ _ _)]
        rfl

theorem run_tokenize_of_isDirectory {paths : TokenizePaths} (settings : Settings) {t : FileTree}
    {l : Location} (some_input : t.records paths.input ≠ [])
    (place : t.locate? paths.output = some l) (there : t.isDirectory l = true) :
    (tokenize paths settings : Action _).run.run t =
      (.ok (TokenizeCounts.ofOutcomes (((t.records paths.input).mapM
          (processInput paths settings (t.names paths.output))).run t).1),
        (((t.records paths.input).mapM
          (processInput paths settings (t.names paths.output))).run t).2) := by
  rw [run_tokenize, if_neg (by simpa using some_input), makeDirectory_of_isDirectory place there]

def inputDatapoints (t : FileTree) (paths : TokenizePaths) : List (String × UnifiedDatapoint) :=
  (t.records paths.input).filterMap fun path => (t.value (readUnified path)).toOption

/-- The files that a run reads: the inputs and their source files. -/
def tokenizeReads (t : FileTree) (paths : TokenizePaths) : List String :=
  t.records paths.input ++ (inputDatapoints t paths).map fun r => sourcePath paths.checkouts r.2

theorem mem_inputDatapoints {paths : TokenizePaths} {t : FileTree} {path : String}
    {r : String × UnifiedDatapoint} (listed : path ∈ t.records paths.input)
    (held : t.value (readUnified path) = .ok r) : r ∈ inputDatapoints t paths :=
  List.mem_filterMap.2 ⟨path, listed, by rw [held]; rfl⟩

/-- Inputs of different texts have outputs of different names. -/
def OutputsDiffer (t : FileTree) (paths : TokenizePaths) (settings : Settings) : Prop :=
  ∀ r ∈ inputDatapoints t paths, ∀ s ∈ inputDatapoints t paths,
    outputFileName r.1 settings = outputFileName s.1 settings → r.1 = s.1

theorem newFile?_of_same_name {paths : TokenizePaths} {settings : Settings}
    {existing : List String} {t : FileTree} (differ : OutputsDiffer t paths settings)
    {path other text : String} {d : UnifiedDatapoint} {f : String × ByteArray}
    (listed : path ∈ t.records paths.input) (also : other ∈ t.records paths.input)
    (held : t.value (readUnified path) = .ok (text, d))
    (made : newFile? paths.checkouts paths.output settings existing t other = some f)
    (named : f.1 = outputFileName text settings) :
    newFile? paths.checkouts paths.output settings existing t path = some f := by
  obtain ⟨text', d', dp, held', new, tokenized, valid, rfl⟩ := newFile?_eq_some.1 made
  obtain rfl : text' = text :=
    differ _ (mem_inputDatapoints also held') _ (mem_inputDatapoints listed held) named
  obtain rfl : d' = d := by
    have first := unifiedOfText_eq_ok.1 (value_readUnified_eq_ok.1 held).2
    have second := unifiedOfText_eq_ok.1 (value_readUnified_eq_ok.1 held').2
    exact Option.some.inj (second.2.symm.trans first.2)
  rw [value_tokenizedDatapoint_of_ok held'] at tokenized
  rw [← value_tokenizedDatapoint_of_ok held] at tokenized
  exact newFile?_eq_some.2 ⟨text', d', dp, held, new, tokenized, valid, rfl⟩

theorem unique_of_newFile? {paths : TokenizePaths} {settings : Settings} {existing : List String}
    {t : FileTree} (differ : OutputsDiffer t paths settings) {path other : String}
    {f g : String × ByteArray} (listed : path ∈ t.records paths.input)
    (also : other ∈ t.records paths.input)
    (made : newFile? paths.checkouts paths.output settings existing t path = some f)
    (made_too : newFile? paths.checkouts paths.output settings existing t other = some g)
    (named : g.1 = f.1) : g.2 = f.2 := by
  obtain ⟨text, d, dp, held, -, -, -, rfl⟩ := newFile?_eq_some.1 made
  have same := newFile?_of_same_name differ listed also held made_too named
  rw [made] at same
  rw [Option.some.inj same]

section

variable {paths : TokenizePaths} {settings : Settings} {existing : List String}
  {t u : FileTree} {l : Location}
  (apart : WritesApart t paths.output (tokenizeReads t paths) l)
include apart

theorem value_readUnified_of_agrees (agrees : AgreesOutside t u l) {path : String}
    (listed : path ∈ t.records paths.input) :
    u.value (readUnified path) = t.value (readUnified path) :=
  value_readUnified_congr (agrees.read?_eq (apart.apart path (List.mem_append_left _ listed)))

variable (settings) in
theorem value_tokenizedDatapoint_of_agrees (agrees : AgreesOutside t u l) {path : String}
    (listed : path ∈ t.records paths.input) :
    u.value (tokenizedDatapoint path paths.checkouts settings) =
      t.value (tokenizedDatapoint path paths.checkouts settings) := by
  have same : ∀ path ∈ tokenizeReads t paths, u.read? path = t.read? path :=
    fun path read => agrees.read?_eq (apart.apart path read)
  refine value_tokenizedDatapoint_congr settings (same path (List.mem_append_left _ listed))
    fun text d held => same _ (List.mem_append_right _ ?_)
  exact List.mem_map.2 ⟨(text, d), mem_inputDatapoints listed held, rfl⟩

variable (known : ∀ name, t.get? (l ++ [name]) ≠ none → name ∈ existing)
include known

theorem run_processInput_of_agrees (agrees : AgreesOutside t u l) {path : String}
    (listed : path ∈ t.records paths.input) :
    (processInput paths settings existing path).run u =
      (inputOutcome paths settings existing t path,
        u.putAll l (newFile? paths.checkouts paths.output settings existing t path).toList) := by
  rw [run_tokenizeFileOutcome, run_tokenizeFile, value_readUnified_of_agrees apart agrees listed,
    value_tokenizedDatapoint_of_agrees settings apart agrees listed, inputOutcome, newFile?]
  cases t.value (readUnified path) with
  | error e => rfl
  | ok r =>
    obtain ⟨text, d⟩ := r
    dsimp only
    by_cases duplicate : outputFileName text settings ∈ existing
    · simp only [if_pos duplicate]
      rfl
    · simp only [if_neg duplicate]
      cases t.value (tokenizedDatapoint path paths.checkouts settings) with
      | error e => rfl
      | ok dp =>
        have free : t.isDirectory (l ++ [outputFileName text settings]) = false := by
          rw [← Bool.not_eq_true, isDirectory_iff]
          intro taken
          exact duplicate (known _ (by simp [taken]))
        dsimp only
        rw [write?_join (agrees.locate?_eq _ ▸ apart.place) (agrees.isDirectory_eq l ▸ apart.there)
          (plainName_outputFileName text settings) (agrees.isDirectory_eq _ ▸ free),
          accepts_outputFileName]
        by_cases valid : isPath (Path.join paths.output (outputFileName text settings)) = true
        · simp only [if_pos valid]
          rfl
        · simp only [if_neg valid]
          rfl

theorem run_processInputs {order : List String}
    (listed : ∀ path ∈ order, path ∈ t.records paths.input) :
    (order.mapM (processInput paths settings existing)).run t =
      (order.map (inputOutcome paths settings existing t),
        t.putAll l
          (order.filterMap (newFile? paths.checkouts paths.output settings existing t))) := by
  rw [List.filterMap_eq_flatMap_toList]
  refine run_mapM_of_agrees (fun path member u agrees => ?_) (fun path member f made => ?_)
    (.refl t l)
  · exact run_processInput_of_agrees apart known agrees (listed path member)
  · exact isDirectory_of_get?_eq_none (get?_of_newFile? known (Option.mem_toList.1 made))

end

section

variable {paths : TokenizePaths} {settings : Settings} {existing : List String}
  {t : FileTree} {l : Location} {order : List String}

theorem get?_putAll_newFiles (differ : OutputsDiffer t paths settings)
    (known : ∀ name, t.get? (l ++ [name]) ≠ none → name ∈ existing)
    (listed : ∀ path ∈ order, path ∈ t.records paths.input) (k : Location) (e : Entry) :
    (t.putAll l (order.filterMap
        (newFile? paths.checkouts paths.output settings existing t))).get? k = some e ↔
      t.get? k = some e ∨ ∃ path ∈ order, ∃ f,
        newFile? paths.checkouts paths.output settings existing t path = some f ∧
          k = l ++ [f.1] ∧ e = .file f.2 := by
  by_cases added : ∃ path ∈ order, ∃ f,
      newFile? paths.checkouts paths.output settings existing t path = some f ∧ k = l ++ [f.1]
  · obtain ⟨path, member, f, made, rfl⟩ := added
    have unique : ∀ other ∈ order, ∀ g,
        newFile? paths.checkouts paths.output settings existing t other = some g →
          g.1 = f.1 → g.2 = f.2 := fun other also g made_too named =>
      unique_of_newFile? differ (listed path member) (listed other also) made made_too named
    have there := get?_putAll_of_mem (t := t) (l := l) (List.mem_filterMap.2 ⟨path, member, made⟩)
      fun g found => by
        obtain ⟨other, also, made_too⟩ := List.mem_filterMap.1 found
        exact unique other also g made_too
    rw [there, get?_of_newFile? known made]
    constructor
    · rintro ⟨⟩
      exact .inr ⟨path, member, f, made, rfl, rfl⟩
    · rintro (⟨⟨⟩⟩ | ⟨other, also, g, made_too, same, rfl⟩)
      have named : f.1 = g.1 := by simpa using same
      rw [unique other also g made_too named.symm]
  · have kept : (t.putAll l (order.filterMap
        (newFile? paths.checkouts paths.output settings existing t))).get? k = t.get? k := by
      refine get?_putAll_of_ne fun f found same => ?_
      obtain ⟨path, member, made⟩ := List.mem_filterMap.1 found
      exact added ⟨path, member, f, made, same⟩
    rw [kept]
    constructor
    · exact .inl
    · rintro (there | ⟨path, member, f, made, same, -⟩)
      · exact there
      · exact absurd ⟨path, member, f, made, same⟩ added

end

end FixCorpus.Dataset
