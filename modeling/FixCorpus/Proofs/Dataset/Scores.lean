import FixCorpus.Proofs.Dataset.Chain
import FixCorpus.Proofs.Flattened.Fix

/-! Scores of predictions: `scores_of_evaluate`. Whether a prediction is correct
depends on the two targets alone, whether it can be shown also on the source, so
that a correct prediction is undecodable just if the target that was expected does
not fit the file context. -/

namespace FixCorpus.Dataset

open AnnotatedDiff FileTree

def FitsContext (source target : String) : Prop :=
  ∃ decoded e edited, Flattened.decodeSource source = .ok decoded ∧
    Flattened.edit target = .ok e ∧ (e.shift (-1)).apply decoded.lines = .ok edited

theorem exists_renderPrediction_iff {source target : String} :
    (∃ text, renderPrediction source target = .ok text) ↔ FitsContext source target := by
  constructor
  · rintro ⟨text, rendered⟩
    obtain ⟨decoded, read, rendered⟩ := except_bind_eq_ok.1 rendered
    obtain ⟨e, read_edit, rendered⟩ := except_bind_eq_ok.1 rendered
    cases applied : (e.shift (-1)).apply decoded.lines with
    | ok edited => exact ⟨decoded, e, edited, read, read_edit, applied⟩
    | error cause =>
      simp only [render, applied] at rendered
      cases rendered
  · rintro ⟨decoded, e, edited, read, read_edit, applied⟩
    exact ⟨_, Flattened.renderPrediction_eq_ok read read_edit applied⟩

namespace Prediction

variable {p : Prediction}

theorem isUndecodable_iff : p.isUndecodable = true ↔ ¬ FitsContext p.source p.predicted := by
  rw [← exists_renderPrediction_iff, isUndecodable]
  cases renderPrediction p.source p.predicted <;> simp

theorem fitsContext_iff_of_isCorrect (correct : p.isCorrect = true) :
    FitsContext p.source p.predicted ↔ FitsContext p.source p.expected := by
  obtain ⟨e, expected, predicted⟩ := Flattened.predictionMatches_iff.1 correct
  rw [FitsContext, FitsContext, expected, predicted]

theorem isUndecodable_iff_of_isCorrect (correct : p.isCorrect = true) :
    p.isUndecodable = true ↔ ¬ FitsContext p.source p.expected := by
  rw [isUndecodable_iff, fitsContext_iff_of_isCorrect correct]

theorem length_ofTexts (source expected predicted : String) :
    (ofTexts source expected predicted).length = min (Text.readLines source).length
      (min (Text.readLines expected).length (Text.readLines predicted).length) := by
  rw [ofTexts, List.length_map, List.length_zip, List.length_zip]

end Prediction

theorem countP_add_countP_le {α : Type} {p q : α → Bool} {items : List α}
    (apart : ∀ a ∈ items, p a = true → q a = false) :
    items.countP p + items.countP q ≤ items.length := by
  have others : items.countP q ≤ items.countP fun a => !p a :=
    List.countP_mono_left fun a member second => by
      cases first : p a with
      | false => rfl
      | true => cases second.symm.trans (apart a member first)
  have parted := List.length_eq_countP_add_countP p (l := items)
  simp only [Bool.not_eq_true, Bool.decide_eq_false] at parted
  omega

section

variable {t : FileTree} {paths : EvaluatePaths} {source expected predicted : String}

theorem counts_of_run_evaluate (source_read : t.value (readText paths.source) = .ok source)
    (expected_read : t.value (readText paths.expected) = .ok expected)
    (predicted_read : t.value (readText paths.predictions) = .ok predicted)
    {c : EvaluationCounts} {u : FileTree}
    (ran : (evaluate paths : Action _).run.run t = (.ok c, u)) :
    c = .ofPredictions (Prediction.ofTexts source expected predicted) := by
  obtain ⟨_, read, ran⟩ := (readsOnly_readText paths.source).run_bind_eq_ok.1 ran
  cases source_read.symm.trans read
  obtain ⟨_, read, ran⟩ := (readsOnly_readText paths.expected).run_bind_eq_ok.1 ran
  cases expected_read.symm.trans read
  obtain ⟨_, read, ran⟩ := (readsOnly_readText paths.predictions).run_bind_eq_ok.1 ran
  cases predicted_read.symm.trans read
  obtain ⟨_, _, -, ran⟩ := run_bind_eq_ok.1 ran
  obtain ⟨_, _, -, ran⟩ := run_bind_eq_ok.1 ran
  cases ran
  rfl

theorem scores_of_evaluate (source_read : t.value (readText paths.source) = .ok source)
    (expected_read : t.value (readText paths.expected) = .ok expected)
    (predicted_read : t.value (readText paths.predictions) = .ok predicted) :
    let predictions := Prediction.ofTexts source expected predicted
    (CanWrite t paths.output ((List.range predictions.length).map reportName) →
        ∃ c u, (evaluate paths : Action _).run.run t = (.ok c, u)) ∧
      (∀ c u, (evaluate paths : Action _).run.run t = (.ok c, u) →
        c.total = min (Text.readLines source).length
            (min (Text.readLines expected).length (Text.readLines predicted).length) ∧
          c.correct = predictions.countP (·.isCorrect) ∧
          c.undecodable = predictions.countP (·.isUndecodable) ∧
          ((∀ p ∈ predictions, p.isCorrect = true → FitsContext p.source p.expected) →
            c.correct + c.undecodable ≤ c.total)) ∧
      ((∀ p ∈ predictions, ¬ (p.isCorrect = true ∧ p.isUndecodable = true)) ↔
        ∀ p ∈ predictions, p.isCorrect = true → FitsContext p.source p.expected) := by
  intro predictions
  have apart : (∀ p ∈ predictions, ¬ (p.isCorrect = true ∧ p.isUndecodable = true)) ↔
      ∀ p ∈ predictions, p.isCorrect = true → FitsContext p.source p.expected := by
    refine forall₂_congr fun p _ => not_and.trans (forall_congr' fun correct => ?_)
    rw [Prediction.isUndecodable_iff_of_isCorrect correct, not_not]
  refine ⟨fun can => ?_, fun c u ran => ?_, apart⟩
  · obtain ⟨u, ran⟩ := run_evaluate paths source_read expected_read predicted_read can
    exact ⟨_, u, ran⟩
  · obtain rfl := counts_of_run_evaluate source_read expected_read predicted_read ran
    refine ⟨Prediction.length_ofTexts .., rfl, rfl, fun fits => countP_add_countP_le ?_⟩
    exact fun p member correct => Bool.eq_false_iff.2 fun undecodable =>
      apart.2 fits p member ⟨correct, undecodable⟩

end

section

/-- The three texts and an empty directory for the reports. -/
def scoredTree (source expected predicted : String) : FileTree :=
  ⟨[(["source"], .file source.toUTF8), (["expected"], .file expected.toUTF8),
    (["predicted"], .file predicted.toUTF8), (["out"], .directory)]⟩

def scoredPaths : EvaluatePaths :=
  ⟨"source", "expected", "predicted", "out"⟩

variable (source expected predicted : String)

theorem value_scoredTree :
    (scoredTree source expected predicted).value (readText scoredPaths.source) = .ok source ∧
      (scoredTree source expected predicted).value (readText scoredPaths.expected) =
        .ok expected ∧
      (scoredTree source expected predicted).value (readText scoredPaths.predictions) =
        .ok predicted :=
  ⟨value_readText_of_stored rfl, value_readText_of_stored rfl, value_readText_of_stored rfl⟩

theorem canWrite_scoredTree {count : Nat} (few : count ≤ 2) :
    CanWrite (scoredTree source expected predicted) scoredPaths.output
      ((List.range count).map reportName) := by
  refine canWrite_of_isDirectory (l := ["out"]) rfl rfl (List.forall_mem_map.2 fun n listed => ?_)
  match n, Nat.lt_of_lt_of_le (List.mem_range.1 listed) few with
  | 0, _ => exact ⟨["out", reportName 0], rfl, rfl⟩
  | 1, _ => exact ⟨["out", reportName 1], rfl, rfl⟩

end

/-- One of two predictions is right, and the other one is not read as an edit. -/
theorem scores_of_evaluate_two_predictions :
    let source := "FILE_CONTENT a\nFILE_CONTENT b\n"
    let expected := "REPLACE SOURCE_LOCATION 0 TARGET_LINES\n" ++
      "REPLACE SOURCE_LOCATION 0 TARGET_LINES\n"
    let predicted := "REPLACE SOURCE_LOCATION 0 TARGET_LINES\nREPLACE\n"
    ∃ c u, (evaluate scoredPaths : Action _).run.run (scoredTree source expected predicted) =
        (.ok c, u) ∧ c.total = 2 ∧ c.correct = 1 ∧ c.undecodable = 1 ∧
        c.correct + c.undecodable ≤ c.total := by
  intro source expected predicted
  obtain ⟨source_read, expected_read, predicted_read⟩ :=
    value_scoredTree source expected predicted
  obtain ⟨runs, counts, apart⟩ := scores_of_evaluate source_read expected_read predicted_read
  have scores : (Prediction.ofTexts source expected predicted).map
      (fun p => (p.isCorrect, p.isUndecodable)) = [(true, false), (false, true)] := by
    have lines : Prediction.ofTexts source expected predicted =
        [⟨"FILE_CONTENT a", "REPLACE SOURCE_LOCATION 0 TARGET_LINES",
            "REPLACE SOURCE_LOCATION 0 TARGET_LINES"⟩,
          ⟨"FILE_CONTENT b", "REPLACE SOURCE_LOCATION 0 TARGET_LINES", "REPLACE"⟩] := by
      decide +kernel
    rw [lines]
    decide +kernel
  have count : (Prediction.ofTexts source expected predicted).length = 2 := by
    simpa using congrArg List.length scores
  have right := congrArg (List.countP (·.1)) scores
  have unread := congrArg (List.countP (·.2)) scores
  have apart_here : ∀ s ∈ [(true, false), (false, true)], ¬ (s.1 = true ∧ s.2 = true) := by decide
  rw [List.countP_map] at right unread
  rw [← scores, List.forall_mem_map] at apart_here
  obtain ⟨c, u, ran⟩ := runs (canWrite_scoredTree _ _ _ count.le)
  obtain ⟨total, correct, undecodable, bounded⟩ := counts c u ran
  rw [← Prediction.length_ofTexts, count] at total
  exact ⟨c, u, ran, total, correct.trans right, undecodable.trans unread,
    bounded (apart.1 apart_here)⟩

/-- The target that was expected takes out lines that the file context does not have. -/
theorem evaluate_correct_undecodable :
    let source := "FILE_CONTENT a\n"
    let target := "REMOVE SOURCE_LOCATION_START 5 SOURCE_LOCATION_END 6\n"
    ∃ u, (evaluate scoredPaths : Action _).run.run (scoredTree source target target) =
      (.ok ⟨1, 1, 1⟩, u) := by
  intro source target
  obtain ⟨source_read, expected_read, predicted_read⟩ := value_scoredTree source target target
  have counts : EvaluationCounts.ofPredictions (Prediction.ofTexts source target target) =
      ⟨1, 1, 1⟩ := by
    decide +kernel
  rw [← counts]
  exact run_evaluate scoredPaths source_read expected_read predicted_read
    (canWrite_scoredTree _ _ _ (by decide +kernel))

end FixCorpus.Dataset
