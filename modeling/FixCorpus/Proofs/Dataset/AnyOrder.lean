import FixCorpus.Proofs.Dataset.Tokenized

/-! A run of the tokenization gives the same whatever order its inputs are taken in:
`tokenize_in_any_order`. What was there stays as it is, and what is new is the
output of each input that can be tokenized and whose output can be written. -/

namespace FixCorpus.Dataset

open FileTree

section

variable {t : FileTree} {paths : TokenizePaths} {settings : Settings} {l : Location}

/-- What a run makes of a tree whose output directory is at a location. The order of the inputs is
not a part of it. -/
structure Tokenizes (t : FileTree) (paths : TokenizePaths) (settings : Settings) (l : Location)
    (counts : TokenizeCounts) (u : FileTree) : Prop where
  old : ∀ k e, t.get? k = some e → u.get? k = some e
  new : ∀ k e, t.get? k = none → (u.get? k = some e ↔
    ∃ path ∈ t.records paths.input, ∃ text d dp,
      t.value (readUnified path) = .ok (text, d) ∧
      t.value (tokenizedDatapoint path paths.checkouts settings) = .ok dp ∧
      isPath (Path.join paths.output (outputFileName text settings)) = true ∧
      k = l ++ [outputFileName text settings] ∧ e = .file dp.toJson.render.toUTF8)
  counts_eq : counts = TokenizeCounts.ofOutcomes ((t.records paths.input).map fun path =>
    ((processInput paths settings (t.names paths.output) path).run t).1)
  total_eq : counts.total = counts.written + counts.duplicates + counts.malformed +
    counts.contextOverflow + counts.lexerFaults + counts.otherFailures

theorem perm_ofOutcomes {outcomes others : List TokenizeOutcome} (same : outcomes.Perm others) :
    TokenizeCounts.ofOutcomes outcomes = TokenizeCounts.ofOutcomes others := by
  simp only [TokenizeCounts.ofOutcomes, same.length_eq, same.countP_eq]

theorem tokenizes_of_perm (apart : WritesApart t paths.output (tokenizeReads t paths) l)
    (differ : OutputsDiffer t paths settings) {order : List String}
    (shuffled : order.Perm (t.records paths.input)) :
    Tokenizes t paths settings l
      (TokenizeCounts.ofOutcomes
        ((order.mapM (processInput paths settings (t.names paths.output))).run t).1)
      ((order.mapM (processInput paths settings (t.names paths.output))).run t).2 := by
  have known : ∀ name, t.get? (l ++ [name]) ≠ none → name ∈ t.names paths.output :=
    fun name => (mem_names_iff apart.place).2
  have listed : ∀ path ∈ order, path ∈ t.records paths.input := fun path => shuffled.mem_iff.1
  have alone : ∀ path ∈ t.records paths.input,
      ((processInput paths settings (t.names paths.output) path).run t).1 =
        inputOutcome paths settings (t.names paths.output) t path := fun path member => by
    rw [run_processInput_of_agrees apart known (.refl t l) member]
  rw [run_processInputs apart known listed]
  have content := get?_putAll_newFiles differ known listed
  refine ⟨fun k e there => (content k e).2 (.inl there), fun k e missing => ?_,
    (perm_ofOutcomes (shuffled.map _)).trans (by rw [List.map_congr_left alone]),
    TokenizeCounts.total_eq _⟩
  rw [content, missing]
  constructor
  · rintro (⟨⟨⟩⟩ | ⟨path, member, f, made, rfl, rfl⟩)
    obtain ⟨text, d, dp, held, -, tokenized, valid, rfl⟩ := newFile?_eq_some.1 made
    exact ⟨path, listed path member, text, d, dp, held, tokenized, valid, rfl, rfl⟩
  · rintro ⟨path, member, text, d, dp, held, tokenized, valid, rfl, rfl⟩
    refine .inr ⟨path, shuffled.mem_iff.2 member, _, newFile?_eq_some.2
      ⟨text, d, dp, held, fun taken => ?_, tokenized, valid, rfl⟩, rfl, rfl⟩
    exact (mem_names_iff apart.place).1 taken missing

theorem run_of_failed {existing : List String} {path : String} {v w : FileTree} {cause : Failure}
    (failed : (processInput paths settings existing path).run v = (.failed cause, w)) : w = v := by
  rw [run_tokenizeFileOutcome, run_tokenizeFile] at failed
  grind

theorem tokenize_in_any_order (apart : WritesApart t paths.output (tokenizeReads t paths) l)
    (differ : OutputsDiffer t paths settings) {order : List String}
    (shuffled : order.Perm (t.records paths.input)) {outcomes : List TokenizeOutcome}
    {u : FileTree}
    (ran : (order.mapM (processInput paths settings (t.names paths.output))).run t =
      (outcomes, u)) :
    Tokenizes t paths settings l (TokenizeCounts.ofOutcomes outcomes) u ∧
      (∀ path v w cause, (processInput paths settings (t.names paths.output) path).run v =
        (.failed cause, w) → w = v) ∧
      (order ≠ [] → ∃ v, (tokenize paths settings : Action _).run.run t =
        (.ok (TokenizeCounts.ofOutcomes outcomes), v) ∧ ∀ k, v.get? k = u.get? k) := by
  have first := tokenizes_of_perm apart differ shuffled
  have sorted := tokenizes_of_perm apart differ (.refl (t.records paths.input))
  rw [ran] at first
  refine ⟨first, fun path v w cause => run_of_failed, fun some_input => ?_⟩
  have nonempty : t.records paths.input ≠ [] := fun none_there =>
    some_input (List.perm_nil.1 (none_there ▸ shuffled))
  have whole := run_tokenize_of_isDirectory settings nonempty apart.place apart.there
  refine ⟨_, whole.trans (Prod.ext (congrArg Except.ok
    (sorted.counts_eq.trans first.counts_eq.symm)) rfl), fun k => ?_⟩
  cases found : t.get? k with
  | some e => rw [sorted.old k e found, first.old k e found]
  | none => exact Option.ext fun e => (sorted.new k e found).trans (first.new k e found).symm

end

section

/-- A datapoint of a file with two lines, of which the first one goes out. -/
def sampleDatapoint : UnifiedDatapoint :=
  { repo := "r", repoUrl := none, solutionFile := "", filePath := "f", numberFileLines := 2
    commit := "", fileUrl := none, diagnosticId := "d", analyzerNuGet := "", severity := ""
    requiredLinesStart := 1, requiredLinesEnd := 1, occurrences := [⟨"m", 1, 1⟩]
    edit := .delete ⟨1, 1⟩, fileContextStart := 1, fileContext := ["a", "b"] }

def sampleTree : FileTree :=
  ⟨[(["in"], .directory), (["in", "1.json"], .file sampleDatapoint.toJson.render.toUTF8),
    (["in", "2.json"], .file sampleDatapoint.toJson.render.toUTF8),
    (["r"], .directory), (["r", "f"], .file "a\nb\n".toUTF8), (["out"], .directory)]⟩

def samplePaths (output : String) : TokenizePaths :=
  ⟨"in", "", output⟩

theorem storable_sampleDatapoint : sampleDatapoint.Storable where
  numberFileLines := by decide
  requiredLinesStart := by decide
  requiredLinesEnd := by decide
  occurrences := List.forall_mem_singleton.2 ⟨by decide, by decide⟩
  edit := ⟨by decide, by decide⟩
  fileContextStart := by decide

theorem isAscii_sampleDatapoint : isAscii sampleDatapoint.toJson.render = true := by
  have others : ∀ text ∈ [Int.repr 1, Int.repr 2, "\x7b", "\x7d", "[", "]", ",", ": "],
      isAscii text = true := List.all_eq_true.1 (by decide)
  simp only [List.forall_mem_cons] at others
  simp (disch := decide) [Json.render, UnifiedDatapoint.toJson, sampleDatapoint, Json.write,
    Json.writeMembers, Json.writeItems, Json.optionalMember, Edit.toJson, Occurrence.toJson,
    Json.strings, isAscii_append, isAscii_newLine, isAscii_quote, others]

theorem records_sampleTree : sampleTree.records "in" = ["in/1.json", "in/2.json"] :=
  (records_of_sorted (by decide)).trans (by rfl)

theorem value_sampleTree {path : String} (listed : path ∈ ["in/1.json", "in/2.json"]) :
    sampleTree.value (readUnified path) = .ok (sampleDatapoint.toJson.render, sampleDatapoint) := by
  refine value_readUnified_of_stored storable_sampleDatapoint isAscii_sampleDatapoint ?_
  simp only [List.mem_cons, List.not_mem_nil, or_false] at listed
  rcases listed with rfl | rfl
  · rfl
  · rfl

theorem inputDatapoints_sampleTree (output : String) :
    inputDatapoints sampleTree (samplePaths output) =
      [(sampleDatapoint.toJson.render, sampleDatapoint),
        (sampleDatapoint.toJson.render, sampleDatapoint)] := by
  rw [inputDatapoints, samplePaths, records_sampleTree]
  simp [value_sampleTree, Except.toOption]

theorem writesApart_sampleTree {output : String}
    (place : sampleTree.locate? output = some ["out"]) :
    WritesApart sampleTree output (tokenizeReads sampleTree (samplePaths output)) ["out"] := by
  have reads : tokenizeReads sampleTree (samplePaths output) =
      ["in/1.json", "in/2.json", sourcePath "" sampleDatapoint, sourcePath "" sampleDatapoint] := by
    rw [tokenizeReads, inputDatapoints_sampleTree, samplePaths, records_sampleTree]
    rfl
  refine ⟨place, rfl, ?_⟩
  rw [reads]
  decide

theorem outputsDiffer_sampleTree (output : String) (settings : Settings) :
    OutputsDiffer sampleTree (samplePaths output) settings := by
  rw [OutputsDiffer, inputDatapoints_sampleTree]
  simp

/-- The inputs are taken from the last one to the first one. -/
theorem tokenize_in_any_order_backwards :
    Tokenizes sampleTree (samplePaths "out") .default ["out"]
      (TokenizeCounts.ofOutcomes ((["in/2.json", "in/1.json"].mapM (processInput
        (samplePaths "out") .default (sampleTree.names "out"))).run sampleTree).1)
      ((["in/2.json", "in/1.json"].mapM (processInput (samplePaths "out") .default
        (sampleTree.names "out"))).run sampleTree).2 := by
  have swapped :
      ["in/2.json", "in/1.json"].Perm (sampleTree.records (samplePaths "out").input) := by
    rw [samplePaths, records_sampleTree]
    exact .swap _ _ _
  have apart : WritesApart sampleTree (samplePaths "out").output _ ["out"] :=
    writesApart_sampleTree rfl
  generalize ran : (["in/2.json", "in/1.json"].mapM (processInput (samplePaths "out") .default
    (sampleTree.names "out"))).run sampleTree = r
  obtain ⟨outcomes, u⟩ := r
  exact (tokenize_in_any_order apart (outputsDiffer_sampleTree "out" .default) swapped ran).1

def sampleTokenized : TokenizedDatapoint .window :=
  { repo := "r", fileUrl := none, diagnosticId := "d", analyzerNuGet := "", severity := ""
    numberFileLines := 2, requiredLinesStart := 1, requiredLinesEnd := 1
    occurrences := [⟨"m", 0, 1, ["m"]⟩], edit := .delete ⟨0, 0⟩, tokenizedTargetLines := []
    fileContextStart := 1, fileContext := ["a", "b"]
    tokenizedFileContext := ["a", "NEWLINE", "b", "NEWLINE"], tokenizedFileContextStart := 1 }

theorem tokenizeSource_sampleDatapoint :
    tokenizeSource sampleDatapoint "a\nb\n" .default = .ok sampleTokenized := by
  decide +kernel

theorem value_tokenizedDatapoint_sampleTree {path : String}
    (listed : path ∈ ["in/1.json", "in/2.json"]) :
    sampleTree.value (tokenizedDatapoint path "" .default) = .ok sampleTokenized := by
  have read : sampleTree.value (readSource "" sampleDatapoint) = .ok "a\nb\n" := by rfl
  rw [value_tokenizedDatapoint_of_ok (value_sampleTree listed), read]
  exact tokenizeSource_sampleDatapoint

theorem run_sampleTree_of_unwritable {output : String}
    (place : sampleTree.locate? output = some ["out"])
    (unwritable : ∀ text, isPath (Path.join output (outputFileName text .default)) = false) :
    (tokenize (samplePaths output) .default : Action _).run.run sampleTree =
      (.ok ⟨2, 0, 0, 0, 0, 0, 2⟩, sampleTree) := by
  obtain ⟨text, held⟩ : ∃ text, ∀ path ∈ ["in/1.json", "in/2.json"],
      sampleTree.value (readUnified path) = .ok (text, sampleDatapoint) :=
    ⟨_, fun path listed => value_sampleTree listed⟩
  have absent : outputFileName text .default ∉ sampleTree.names output := by
    rw [mem_names_iff place]
    simp [sampleTree, FileTree.get?, List.lookup_cons]
  have free : sampleTree.isDirectory (["out"] ++ [outputFileName text .default]) = false := by
    simp [sampleTree, FileTree.isDirectory, FileTree.get?, List.lookup_cons]
  have failed : ∀ path ∈ ["in/1.json", "in/2.json"],
      (processInput (samplePaths output) .default (sampleTree.names (samplePaths output).output)
        path).run sampleTree =
        (.failed (.io (Path.join output (outputFileName text .default))), sampleTree) := by
    intro path listed
    have alone := @run_processInput_of_ok (samplePaths output) .default _ path _ _ _ _
      (held path listed) absent
      (value_tokenizedDatapoint_sampleTree listed)
    rwa [show (samplePaths output).output = output from rfl, write?_join place rfl
      (plainName_outputFileName text .default) free, accepts_outputFileName, unwritable] at alone
  have inputs : sampleTree.records (samplePaths output).input = ["in/1.json", "in/2.json"] :=
    records_sampleTree
  have some_input : sampleTree.records (samplePaths output).input ≠ [] := by simp [inputs]
  rw [run_tokenize_of_isDirectory .default some_input place rfl, inputs, List.mapM_cons, run_bind,
    failed _ (by simp), run_bind, List.mapM_cons, run_bind, failed _ (by simp)]
  rfl

/-- A path of the output directory that leaves no space for a name behind it. -/
def longOutput : String :=
  detour 2040 "out"

/-- Both inputs can be read and tokenized, and yet there is no output: it cannot be written. -/
theorem unwritable_output_left_out :
    (∃ dp, sampleTree.value (tokenizedDatapoint "in/1.json" "" .default) = .ok dp) ∧
      (tokenize (samplePaths longOutput) .default : Action _).run.run sampleTree =
        (.ok ⟨2, 0, 0, 0, 0, 0, 2⟩, sampleTree) := by
  refine ⟨⟨_, value_tokenizedDatapoint_sampleTree (by simp)⟩,
    run_sampleTree_of_unwritable ?_ fun text => ?_⟩
  · exact (locate?_detour 2040 (by decide) (by decide) sampleTree).trans rfl
  · have named := plainName_outputFileName text .default
    have size : (Path.join longOutput (outputFileName text .default)).utf8ByteSize = 4105 := by
      rw [longOutput, join_detour 2040 (by decide) named.head?_ne, utf8ByteSize_detour,
        Path.join, if_neg named.head?_ne, if_neg (by decide), String.utf8ByteSize_append,
        utf8ByteSize_outputFileName]
      rfl
    rw [isPath, size]
    simp

end

end FixCorpus.Dataset
