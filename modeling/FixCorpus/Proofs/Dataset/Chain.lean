import FixCorpus.Dataset.Evaluation
import FixCorpus.Dataset.Flattened
import FixCorpus.Proofs.Dataset.AnyOrder
import FixCorpus.Proofs.Dataset.Filled
import FixCorpus.Proofs.Dataset.Writing
import FixCorpus.Proofs.Flattened.Target
import Mathlib

/-! From tokenized datapoints to scores: `flatten_then_evaluate`. What runs of the
tokenization have written is flattened without a loss, line by line in the order
of the files, and each of the targets is correct if it is taken as a prediction
of itself. -/

namespace FixCorpus.Dataset

open FileTree Text

section

variable {t : FileTree}

def readPairs (t : FileTree) (inputs : List String) : List (Option Pair) :=
  inputs.map fun path =>
    (t.value (readRecord TokenizedDatapoint.ofJson? path)).toOption.map Pair.ofDatapoint

theorem run_readPair? (path : String) (t : FileTree) : (readPair? path : StateM FileTree _).run t =
    ((t.value (readRecord TokenizedDatapoint.ofJson? path)).toOption.map Pair.ofDatapoint, t) := by
  rw [readPair?, run_bind, readsOnly_readRecord TokenizedDatapoint.ofJson? path t]
  cases t.value (readRecord TokenizedDatapoint.ofJson? path) <;> rfl

theorem run_readPairs (inputs : List String) (t : FileTree) :
    (inputs.mapM readPair? : StateM FileTree _).run t = (readPairs t inputs, t) := by
  induction inputs with
  | nil => rfl
  | cons path inputs ih =>
    rw [List.mapM_cons, run_bind, run_readPair?, run_bind, ih]
    rfl

theorem plainName_sourceName : Path.PlainName sourceName := by
  constructor <;> decide

theorem plainName_targetName : Path.PlainName targetName := by
  constructor <;> decide

theorem run_flatten (paths : FlattenPaths) {read : List (Option Pair)}
    (some_record : t.records paths.input ≠ [])
    (can : CanWrite t paths.output [sourceName, targetName])
    (pairs : readPairs (t.withDirectory paths.output) (t.records paths.input) = read) :
    ∃ u, (flatten paths : Action _).run.run t = (.ok (FlattenCounts.ofPairs read), u) ∧
      u.value (readText (Path.join paths.output sourceName)) =
        .ok (String.join ((flatPairs read).map (·.source))) ∧
      u.value (readText (Path.join paths.output targetName)) =
        .ok (String.join ((flatPairs read).map (·.target))) ∧
      ∀ k, u.isDirectory k = (t.withDirectory paths.output).isDirectory k := by
  have made := can.run_makeDirectory
  have free := can.free
  generalize t.withDirectory paths.output = v at *
  rw [List.forall_mem_cons, List.forall_mem_singleton] at free
  obtain ⟨⟨j, source_at, source_free⟩, ⟨k, target_at, target_free⟩⟩ := free
  have source_ne := locate?_join_ne plainName_targetName plainName_sourceName (by decide) target_at
    target_free
  obtain ⟨_, begun_source, same, -⟩ := run_writeText_of_free (fun _ => rfl) source_at source_free ""
  obtain ⟨_, begun_target, same, -⟩ := run_writeText_of_free same target_at target_free ""
  obtain ⟨_, wrote_source, same, source_held⟩ := run_writeText_of_free same source_at source_free
    (String.join ((flatPairs read).map (·.source)))
  obtain ⟨u, wrote_target, same, held⟩ := run_writeText_of_free same target_at target_free
    (String.join ((flatPairs read).map (·.target)))
  refine ⟨u, ?_, value_readText_of_stored ?_, value_readText_of_stored ?_, same⟩
  · rw [flatten, run_bind_ok (run_discoverRecords _ t),
      run_bind_ok (run_orNoInputs some_record _ _ t), run_bind_ok made,
      run_bind_ok (run_mapM_lift _ _ _), run_readPairs, pairs, run_bind_ok begun_source,
      run_bind_ok begun_target, run_bind_ok wrote_source, run_bind_ok wrote_target]
    rfl
  · rw [held, if_neg source_ne, source_held, if_pos source_at]
  · rw [held, if_pos target_at]

theorem run_evaluate (paths : EvaluatePaths) {source expected predicted : String}
    (source_read : t.value (readText paths.source) = .ok source)
    (expected_read : t.value (readText paths.expected) = .ok expected)
    (predicted_read : t.value (readText paths.predictions) = .ok predicted)
    (can : CanWrite t paths.output ((List.range
      (Prediction.ofTexts source expected predicted).length).map reportName)) :
    ∃ u, (evaluate paths : Action _).run.run t =
      (.ok (EvaluationCounts.ofPredictions (Prediction.ofTexts source expected predicted)), u) := by
  have made := can.run_makeDirectory
  have listed : ∀ p ∈ (Prediction.ofTexts source expected predicted).zipIdx,
      Writable (t.withDirectory paths.output) (Path.join paths.output (reportName p.2)) :=
    fun p member => can.free _
      (List.mem_map_of_mem (List.mem_range.2 (List.snd_lt_of_mem_zipIdx member)))
  obtain ⟨u, wrote⟩ := run_forM_of_writable (fun p : Prediction × Nat =>
    Path.join paths.output (reportName p.2)) (fun p => p.1.report) (fun _ => rfl) listed
  refine ⟨u, ?_⟩
  rw [evaluate, run_bind_ok (source_read ▸ readsOnly_readText paths.source t),
    run_bind_ok (expected_read ▸ readsOnly_readText paths.expected t),
    run_bind_ok (predicted_read ▸ readsOnly_readText paths.predictions t), run_bind_ok made,
    run_bind_ok wrote]
  rfl

end

section

variable {dps : List (TokenizedDatapoint .window)}

theorem isFlat_ofDatapoint {d : TokenizedDatapoint .window} (free : Flattened.NewlineFree d) :
    (Pair.ofDatapoint d).isFlat = true := by
  rw [Pair.isFlat, Pair.ofDatapoint, Flattened.countNewlines_source free,
    Flattened.countNewlines_target free]
  rfl

theorem flatPairs_of_newlineFree (free : ∀ d ∈ dps, Flattened.NewlineFree d) :
    flatPairs (dps.map fun d => some (Pair.ofDatapoint d)) = dps.map Pair.ofDatapoint ∧
      FlattenCounts.ofPairs (dps.map fun d => some (Pair.ofDatapoint d)) =
        ⟨dps.length, dps.length, 0, 0⟩ := by
  have read : (dps.map fun d => some (Pair.ofDatapoint d)).filterMap id =
      dps.map Pair.ofDatapoint := by
    rw [List.filterMap_map]
    exact congrFun List.filterMap_eq_map dps
  have flat : ∀ p ∈ dps.map Pair.ofDatapoint, p.isFlat = true :=
    List.forall_mem_map.2 fun d member => isFlat_ofDatapoint (free d member)
  have all : flatPairs (dps.map fun d => some (Pair.ofDatapoint d)) = dps.map Pair.ofDatapoint := by
    rw [flatPairs, read, List.filter_eq_self.2 flat]
  have none_bad : (dps.map Pair.ofDatapoint).filter (!·.isFlat) = [] :=
    List.filter_eq_nil_iff.2 fun p member => by simp [flat p member]
  refine ⟨all, ?_⟩
  simp [FlattenCounts.ofPairs, all, none_bad]

def selfPredictions (dps : List (TokenizedDatapoint .window)) : List Prediction :=
  Prediction.ofTexts (String.join (dps.map Flattened.source))
    (String.join (dps.map Flattened.target)) (String.join (dps.map Flattened.target))

theorem selfPredictions_eq (free : ∀ d ∈ dps, Flattened.NewlineFree d) :
    selfPredictions dps = dps.map fun d =>
      ⟨String.ofList (dropReturn (Flattened.sourceLine d)),
        String.ofList (dropReturn (Flattened.targetLine d)),
        String.ofList (dropReturn (Flattened.targetLine d))⟩ := by
  have sources := readLines_of_endLines
    (List.forall_mem_map.2 fun d member => Flattened.newline_not_mem_sourceLine (free d member))
    (toList_join_of_ended (fun _ => Flattened.toList_source) dps)
  have targets := readLines_of_endLines
    (List.forall_mem_map.2 fun d member => Flattened.newline_not_mem_targetLine (free d member))
    (toList_join_of_ended (fun _ => Flattened.toList_target) dps)
  rw [selfPredictions, Prediction.ofTexts, sources, targets, List.map_map, List.map_map,
    List.zip_map', List.zip_map', List.map_map]
  rfl

theorem length_selfPredictions (free : ∀ d ∈ dps, Flattened.NewlineFree d) :
    (selfPredictions dps).length = dps.length := by
  rw [selfPredictions_eq free, List.length_map]

theorem ofPredictions_of_targets (free : ∀ d ∈ dps, Flattened.NewlineFree d)
    (fits : ∀ d ∈ dps, ∀ n ∈ d.edit.sourceLines, FitsInt n)
    (names : ∀ d ∈ dps, d.edit.sourceLines ≠ []) :
    (EvaluationCounts.ofPredictions (selfPredictions dps)).total = dps.length ∧
      (EvaluationCounts.ofPredictions (selfPredictions dps)).correct = dps.length := by
  refine ⟨length_selfPredictions free, ?_⟩
  rw [EvaluationCounts.ofPredictions, selfPredictions_eq free, List.countP_map]
  refine List.countP_eq_length.2 fun d member => ?_
  have read := (Flattened.edit_targetLine d).trans
    (Flattened.edit_target_eq (names d member) (fits d member))
  rw [Function.comp_apply, Prediction.isCorrect]
  exact Flattened.predictionMatches_iff.2 ⟨_, read, read⟩

end

section

variable {t : FileTree} {output : String}

theorem FilledBy.exists_datapoints (filled : FilledBy output t)
    (some_record : t.records output ≠ []) :
    ∃ dps : List (TokenizedDatapoint .window),
      (t.records output).map (fun path => t.value (readRecord TokenizedDatapoint.ofJson? path)) =
        dps.map .ok ∧
      ∀ d ∈ dps, d.Storable ∧ Flattened.NewlineFree d := by
  have all : HoldsDatapoints t output :=
    filled.holdsDatapoints.resolve_left fun none_there => some_record (none_there t (.refl t))
  have value : ∀ path ∈ t.records output, ∃ d : TokenizedDatapoint .window,
      t.value (readRecord TokenizedDatapoint.ofJson? path) = .ok d ∧
        d.Storable ∧ Flattened.NewlineFree d := fun path listed => by
    obtain ⟨d, storable, free, held⟩ := all.each path listed
    exact ⟨d, value_readRecord_of_stored held (TokenizedDatapoint.parse?_render storable),
      storable, free⟩
  have readable : ∀ r ∈ (t.records output).map fun path =>
      t.value (readRecord TokenizedDatapoint.ofJson? path), r ∈ Set.range Except.ok :=
    List.forall_mem_map.2 fun path listed => by
      obtain ⟨d, read, -⟩ := value path listed
      exact ⟨d, read.symm⟩
  obtain ⟨dps, same⟩ := (Set.ext_iff.1 (Set.range_list_map Except.ok) _).2 readable
  refine ⟨dps, same.symm, fun d member => ?_⟩
  have read : (.ok d : Except Failure _) ∈ dps.map .ok := List.mem_map_of_mem member
  rw [same] at read
  obtain ⟨path, listed, found⟩ := List.mem_map.1 read
  obtain ⟨other, read, holds⟩ := value path listed
  cases found.symm.trans read
  exact holds

theorem sourceLines_ne_nil {e : Edit} (names : ∀ r, e = .replace r → r.sourceLines ≠ []) :
    e.sourceLines ≠ [] := by
  cases e with
  | insert i => exact List.cons_ne_nil _ _
  | delete d => exact List.cons_ne_nil _ _
  | replace r => exact names r rfl

theorem readPairs_withDirectory {dps : List (TokenizedDatapoint .window)}
    (read : (t.records output).map
      (fun path => t.value (readRecord TokenizedDatapoint.ofJson? path)) = dps.map .ok)
    (flat : String) : readPairs (t.withDirectory flat) (t.records output) =
      dps.map fun d => some (Pair.ofDatapoint d) := by
  have kept : ∀ path ∈ t.records output,
      (t.withDirectory flat).value (readRecord TokenizedDatapoint.ofJson? path) =
        t.value (readRecord TokenizedDatapoint.ofJson? path) := fun path listed => by
    have member := List.mem_map_of_mem
      (f := fun path => t.value (readRecord TokenizedDatapoint.ofJson? path)) listed
    rw [read] at member
    obtain ⟨d, -, found⟩ := List.mem_map.1 member
    exact (value_readRecord_of_gains (gains_withDirectory t flat) found.symm).trans found
  have pairs := congrArg (List.map fun r => r.toOption.map Pair.ofDatapoint) read
  rw [List.map_map, List.map_map] at pairs
  rw [readPairs, List.map_congr_left fun path listed => by rw [kept path listed]]
  exact pairs

theorem flatten_then_evaluate (filled : FilledBy output t) (some_record : t.records output ≠ [])
    (names : ∀ path ∈ t.records output, ∀ d r,
      t.value (readRecord TokenizedDatapoint.ofJson? path) = .ok d → d.edit = .replace r →
        r.sourceLines ≠ []) :
    ∃ dps : List (TokenizedDatapoint .window),
      (t.records output).map (fun path => t.value (readRecord TokenizedDatapoint.ofJson? path)) =
        dps.map .ok ∧
      ∀ flat, CanWrite t flat [sourceName, targetName] → ∃ sources targets u,
        (flatten ⟨output, flat⟩ : Action _).run.run t =
          (.ok ⟨dps.length, dps.length, 0, 0⟩, u) ∧
        u.value (readText (Path.join flat sourceName)) = .ok sources ∧
        u.value (readText (Path.join flat targetName)) = .ok targets ∧
        lines sources.toList = dps.map Flattened.sourceLine ∧
        lines targets.toList = dps.map Flattened.targetLine ∧
        ∀ v out, v.value (readText (Path.join flat sourceName)) = .ok sources →
          v.value (readText (Path.join flat targetName)) = .ok targets →
          CanWrite v out ((List.range dps.length).map reportName) → ∃ c w,
            (evaluate ⟨Path.join flat sourceName, Path.join flat targetName,
              Path.join flat targetName, out⟩ : Action _).run.run v = (.ok c, w) ∧
            c.total = dps.length ∧ c.correct = dps.length := by
  obtain ⟨dps, read, holds⟩ := filled.exists_datapoints some_record
  have free : ∀ d ∈ dps, Flattened.NewlineFree d := fun d member => (holds d member).2
  have fits : ∀ d ∈ dps, ∀ n ∈ d.edit.sourceLines, FitsInt n := fun d member =>
    (holds d member).1.edit.fitsInt
  have named : ∀ d ∈ dps, d.edit.sourceLines ≠ [] := fun d member => by
    have found : (.ok d : Except Failure _) ∈ dps.map .ok := List.mem_map_of_mem member
    rw [← read] at found
    obtain ⟨path, listed, found⟩ := List.mem_map.1 found
    exact sourceLines_ne_nil fun r => names path listed d r found
  obtain ⟨pairs_eq, counts_eq⟩ := flatPairs_of_newlineFree free
  obtain ⟨total, correct⟩ := ofPredictions_of_targets free fits named
  refine ⟨dps, read, fun flat can => ?_⟩
  obtain ⟨u, ran, source_held, target_held, -⟩ :=
    run_flatten ⟨output, flat⟩ some_record can (readPairs_withDirectory read flat)
  rw [counts_eq] at ran
  have sources_eq : (dps.map Pair.ofDatapoint).map (·.source) = dps.map Flattened.source :=
    List.map_map
  have targets_eq : (dps.map Pair.ofDatapoint).map (·.target) = dps.map Flattened.target :=
    List.map_map
  rw [pairs_eq, sources_eq] at source_held
  rw [pairs_eq, targets_eq] at target_held
  refine ⟨String.join (dps.map Flattened.source), String.join (dps.map Flattened.target), u, ran,
    source_held, target_held, ?_, ?_, fun v out source_read target_read can => ?_⟩
  · exact (congrArg lines (toList_join_of_ended (fun _ => Flattened.toList_source) dps)).trans
      (lines_endLines (List.forall_mem_map.2 fun d member =>
        Flattened.newline_not_mem_sourceLine (free d member)))
  · exact (congrArg lines (toList_join_of_ended (fun _ => Flattened.toList_target) dps)).trans
      (lines_endLines (List.forall_mem_map.2 fun d member =>
        Flattened.newline_not_mem_targetLine (free d member)))
  · rw [← length_selfPredictions free] at can
    obtain ⟨w, scored⟩ := run_evaluate ⟨Path.join flat sourceName, Path.join flat targetName,
      Path.join flat targetName, out⟩ source_read target_read target_read can
    exact ⟨_, w, scored, total, correct⟩

end

section

def swapDatapoint : UnifiedDatapoint :=
  { sampleDatapoint with
    requiredLinesStart := 2, requiredLinesEnd := 2, occurrences := [⟨"n", 2, 1⟩]
    edit := .replace ⟨[2], ["c", "d"]⟩ }

def swapTokenized : TokenizedDatapoint .window :=
  { sampleTokenized with
    requiredLinesStart := 2, requiredLinesEnd := 2, occurrences := [⟨"n", 1, 1, ["n"]⟩]
    edit := .replace ⟨[1], ["c", "d"]⟩, tokenizedTargetLines := ["c", "NEWLINE", "d", "NEWLINE"] }

/-- The array of what the fields hold is read as the object is. -/
def swapText : String :=
  "[\"r\",null,\"\",\"f\",2,\"\",null,\"d\",\"\",\"\",2,2,[[\"n\",2,1]]," ++
    "[\"REPLACE\",[[2],[\"c\",\"d\"]]],1,[\"a\",\"b\"]]"

def cutText : String :=
  "[\"r\",null,\"\",\"f\",2,\"\",null,\"d\",\"\",\"\",1,1,[[\"m\",1,1]]," ++
    "[\"REMOVE\",[1,1]],1,[\"a\",\"b\"]]"

/-- A tree with both datapoints, of which the second one to be read is the first to be listed when
it has been tokenized. -/
def mixedTree : FileTree :=
  ⟨[(["in"], .directory), (["in", "1.json"], .file swapText.toUTF8),
    (["in", "2.json"], .file cutText.toUTF8),
    (["r"], .directory), (["r", "f"], .file "a\nb\n".toUTF8), (["out"], .directory)]⟩

def mixedFilled : FileTree :=
  ((tokenize (samplePaths "out") .default : Action _).run.run mixedTree).2

def mixedFiles : List (String × ByteArray) :=
  [("ed1e3032d41a4907.json", swapTokenized.toJson.render.toUTF8),
    ("989a4e149a630280.json", sampleTokenized.toJson.render.toUTF8)]

theorem storable_sampleTokenized : sampleTokenized.Storable where
  numberFileLines := by decide
  requiredLinesStart := by decide
  requiredLinesEnd := by decide
  occurrences := List.forall_mem_singleton.2 ⟨by decide, by decide⟩
  edit := ⟨by decide, by decide⟩
  fileContextStart := by decide
  tokenizedFileContextStart := by decide

theorem storable_swapTokenized : swapTokenized.Storable where
  numberFileLines := by decide
  requiredLinesStart := by decide
  requiredLinesEnd := by decide
  occurrences := List.forall_mem_singleton.2 ⟨by decide, by decide⟩
  edit := List.forall_mem_singleton.2 (by decide)
  fileContextStart := by decide
  tokenizedFileContextStart := by decide

theorem outputs_mixedTree :
    outputFileName swapText .default = "ed1e3032d41a4907.json" ∧
      outputFileName cutText .default = "989a4e149a630280.json" ∧
      tokenizeSource swapDatapoint "a\nb\n" .default = .ok swapTokenized :=
  ⟨by decide +kernel, by decide +kernel, by decide +kernel⟩

theorem records_mixedTree : mixedTree.records "in" = ["in/1.json", "in/2.json"] :=
  (records_of_sorted (by decide)).trans (by rfl)

theorem records_mixedTree_out : mixedTree.records "out" = [] :=
  (records_of_sorted (by decide)).trans (by rfl)

theorem value_mixedTree :
    mixedTree.value (readUnified "in/1.json") = .ok (swapText, swapDatapoint) ∧
      mixedTree.value (readUnified "in/2.json") = .ok (cutText, sampleDatapoint) :=
  ⟨value_readUnified_eq_ok.2 ⟨value_readText_of_stored rfl,
      unifiedOfText_eq_ok.2 ⟨by decide, by cbv⟩⟩,
    value_readUnified_eq_ok.2 ⟨value_readText_of_stored rfl,
      unifiedOfText_eq_ok.2 ⟨by decide, by cbv⟩⟩⟩

theorem value_tokenizedDatapoint_mixedTree :
    mixedTree.value (tokenizedDatapoint "in/1.json" "" .default) = .ok swapTokenized ∧
      mixedTree.value (tokenizedDatapoint "in/2.json" "" .default) = .ok sampleTokenized := by
  have swap_source : mixedTree.value (readSource "" swapDatapoint) = .ok "a\nb\n" := by rfl
  have cut_source : mixedTree.value (readSource "" sampleDatapoint) = .ok "a\nb\n" := by rfl
  rw [value_tokenizedDatapoint_of_ok value_mixedTree.1, swap_source,
    value_tokenizedDatapoint_of_ok value_mixedTree.2, cut_source]
  exact ⟨outputs_mixedTree.2.2, tokenizeSource_sampleDatapoint⟩

theorem writesApart_mixedTree : WritesApart mixedTree (samplePaths "out").output
    (tokenizeReads mixedTree (samplePaths "out")) ["out"] := by
  have reads : tokenizeReads mixedTree (samplePaths "out") =
      ["in/1.json", "in/2.json", sourcePath "" swapDatapoint, sourcePath "" sampleDatapoint] := by
    rw [tokenizeReads, inputDatapoints, samplePaths, records_mixedTree]
    simp [value_mixedTree, Except.toOption]
  refine ⟨rfl, rfl, ?_⟩
  rw [reads]
  decide

theorem newFile?_mixedTree : ["in/1.json", "in/2.json"].map (newFile? (samplePaths "out").checkouts
    (samplePaths "out").output .default (mixedTree.names (samplePaths "out").output) mixedTree) =
      mixedFiles.map some := by
  have no_name : mixedTree.names (samplePaths "out").output = [] := by rfl
  have accepted : ∀ text, isPath (Path.join "out" (outputFileName text .default)) = true :=
    fun text => (accepts_outputFileName "out" text .default).symm.trans
      (accepts_outputFileName_of_short (by decide) (by decide) (by decide) text .default)
  refine List.map_eq_cons_iff.2 ⟨_, _, rfl, ?_, List.map_eq_singleton_iff.2 ⟨_, rfl, ?_⟩⟩
  · exact newFile?_eq_some.2 ⟨_, _, _, value_mixedTree.1, no_name ▸ List.not_mem_nil,
      value_tokenizedDatapoint_mixedTree.1, accepted _, by rw [outputs_mixedTree.1]⟩
  · exact newFile?_eq_some.2 ⟨_, _, _, value_mixedTree.2, no_name ▸ List.not_mem_nil,
      value_tokenizedDatapoint_mixedTree.2, accepted _, by rw [outputs_mixedTree.2.1]⟩

theorem mixedFilled_eq : mixedFilled = mixedTree.putAll ["out"] mixedFiles := by
  have known : ∀ name, mixedTree.get? (["out"] ++ [name]) ≠ none →
      name ∈ mixedTree.names (samplePaths "out").output :=
    fun name => (mem_names_iff writesApart_mixedTree.place).2
  have inputs : mixedTree.records (samplePaths "out").input = ["in/1.json", "in/2.json"] :=
    records_mixedTree
  have some_input : mixedTree.records (samplePaths "out").input ≠ [] := by simp [inputs]
  have files : ["in/1.json", "in/2.json"].filterMap (newFile? (samplePaths "out").checkouts
      (samplePaths "out").output .default (mixedTree.names (samplePaths "out").output)
      mixedTree) = mixedFiles := by
    have all := congrArg (List.filterMap id) newFile?_mixedTree
    rw [List.filterMap_map, Function.id_comp] at all
    exact all
  rw [mixedFilled, run_tokenize_of_isDirectory .default some_input writesApart_mixedTree.place
    writesApart_mixedTree.there, run_processInputs writesApart_mixedTree known fun _ => id, inputs,
    files]

theorem agreesOutside_mixedFilled : AgreesOutside mixedTree mixedFilled ["out"] := by
  rw [mixedFilled_eq]
  exact (AgreesOutside.refl mixedTree ["out"]).putAll _ (by decide)

theorem files_mixedFilled :
    mixedFilled.files "out" = ["out/989a4e149a630280.json", "out/ed1e3032d41a4907.json"] := by
  have entries : (mixedTree.putAll ["out"] mixedFiles).entries =
      (["out", "989a4e149a630280.json"], .file sampleTokenized.toJson.render.toUTF8) ::
        (["out", "ed1e3032d41a4907.json"], .file swapTokenized.toJson.render.toUTF8) ::
          mixedTree.entries := rfl
  have place : (mixedTree.putAll ["out"] mixedFiles).locate? "out" = some ["out"] := rfl
  rw [mixedFilled_eq, files, place, entries]
  rfl

theorem records_mixedFilled : mixedFilled.records "out" =
    ["out/989a4e149a630280.json", "out/ed1e3032d41a4907.json"] := by
  rw [records_of_sorted (by rw [files_mixedFilled]; decide), files_mixedFilled]
  rfl

theorem value_mixedFilled :
    (mixedFilled.records "out").map (fun path =>
        mixedFilled.value (readRecord TokenizedDatapoint.ofJson? path)) =
      [sampleTokenized, swapTokenized].map .ok := by
  rw [records_mixedFilled, mixedFilled_eq]
  exact congrArg₂ (fun a b => [a, b])
    (value_readRecord_of_stored rfl (TokenizedDatapoint.parse?_render storable_sampleTokenized))
    (value_readRecord_of_stored rfl (TokenizedDatapoint.parse?_render storable_swapTokenized))

theorem filledBy_mixedFilled : FilledBy "out" mixedFilled := by
  have none_there := holdsNoRecord_of_locate? writesApart_mixedTree.place records_mixedTree_out
  refine .tokenized (.empty none_there) rfl (runsExactly_of_writesApart writesApart_mixedTree
    fun path listed dp made => ?_)
  rw [samplePaths, records_mixedTree] at listed
  simp only [List.mem_cons, List.not_mem_nil, or_false] at listed
  rcases listed with rfl | rfl
  · cases value_tokenizedDatapoint_mixedTree.1.symm.trans made
    exact ⟨by decide, by decide, by decide⟩
  · cases value_tokenizedDatapoint_mixedTree.2.symm.trans made
    exact ⟨by decide, by decide, by decide⟩

section

variable {t : FileTree} (same : ∀ k, t.isDirectory k = mixedTree.isDirectory k)
include same

theorem place_of_mixedTree : t.locate? "r" = some ["r"] ∧ t.isDirectory ["r"] = true := by
  have found : mixedTree.locate? "r" = some ["r"] := by rfl
  exact ⟨(locate?_congr same "r").trans found, (same ["r"]).trans rfl⟩

theorem canWrite_of_mixedTree {names : List String}
    (free : ∀ name ∈ names, Writable mixedTree (Path.join "r" name)) : CanWrite t "r" names := by
  obtain ⟨found, there⟩ := place_of_mixedTree same
  exact canWrite_of_isDirectory found there fun name listed => (free name listed).congr same

end

/-- The records are a deletion and a replacement, in another order than the inputs were. -/
theorem flatten_then_evaluate_of_two_records : ∃ sources targets u v c,
    (flatten ⟨"out", "r"⟩ : Action _).run.run mixedFilled = (.ok ⟨2, 2, 0, 0⟩, u) ∧
      u.value (readText (Path.join "r" sourceName)) = .ok sources ∧
      u.value (readText (Path.join "r" targetName)) = .ok targets ∧
      lines sources.toList =
        ["LINE 0 MESSAGE m FILE_CONTENT a NEWLINE b NEWLINE".toList,
          "LINE 1 MESSAGE n FILE_CONTENT a NEWLINE b NEWLINE".toList] ∧
      lines targets.toList =
        ["REMOVE SOURCE_LOCATION_START 0 SOURCE_LOCATION_END 0".toList,
          "REPLACE SOURCE_LOCATION 1 TARGET_LINES c NEWLINE d NEWLINE".toList] ∧
      (evaluate ⟨Path.join "r" sourceName, Path.join "r" targetName, Path.join "r" targetName,
        "r"⟩ : Action _).run.run u = (.ok c, v) ∧ c.total = 2 ∧ c.correct = 2 := by
  have some_record : mixedFilled.records "out" ≠ [] := by simp [records_mixedFilled]
  have can : CanWrite mixedFilled "r" [sourceName, targetName] :=
    canWrite_of_mixedTree agreesOutside_mixedFilled.isDirectory_eq <|
      List.forall_mem_cons.2 ⟨⟨["r", sourceName], rfl, rfl⟩,
        List.forall_mem_singleton.2 ⟨["r", targetName], rfl, rfl⟩⟩
  obtain ⟨dps, read, chain⟩ := flatten_then_evaluate filledBy_mixedFilled some_record
    fun path listed d r read replaced => by
      have held := List.mem_map_of_mem
        (f := fun path => mixedFilled.value (readRecord TokenizedDatapoint.ofJson? path)) listed
      rw [value_mixedFilled] at held
      simp only [read, List.map_cons, List.map_nil, List.mem_cons, List.not_mem_nil, or_false,
        Except.ok.injEq] at held
      rcases held with rfl | rfl <;> cases replaced
      exact List.cons_ne_nil _ _
  obtain rfl : dps = [sampleTokenized, swapTokenized] :=
    List.map_injective_iff.2 (fun _ _ => Except.ok.inj) (read.symm.trans value_mixedFilled)
  obtain ⟨sources, targets, u, ran, source_held, target_held, source_lines, target_lines, scores⟩ :=
    chain "r" can
  -- the run leaves the directories as they are, so that reports can be written
  obtain ⟨v, same_run, -, -, same⟩ := run_flatten ⟨"out", "r"⟩ some_record can rfl
  obtain rfl : u = v := congrArg Prod.snd (ran.symm.trans same_run)
  have same_before : ∀ k, u.isDirectory k = mixedTree.isDirectory k := fun k => by
    obtain ⟨found, there⟩ := place_of_mixedTree agreesOutside_mixedFilled.isDirectory_eq
    rw [same, withDirectory_of_isDirectory found there, agreesOutside_mixedFilled.isDirectory_eq]
  have can_report : CanWrite u "r" ((List.range 2).map reportName) :=
    canWrite_of_mixedTree same_before <|
      List.forall_mem_cons.2 ⟨⟨["r", reportName 0], rfl, rfl⟩,
        List.forall_mem_singleton.2 ⟨["r", reportName 1], rfl, rfl⟩⟩
  obtain ⟨c, v, scored, total, correct⟩ := scores u "r" source_held target_held can_report
  exact ⟨sources, targets, u, v, c, ran, source_held, target_held,
    source_lines.trans (by rfl), target_lines.trans (by decide), scored, total,
    correct⟩

end

end FixCorpus.Dataset
