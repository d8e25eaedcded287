import FixCorpus.Proofs.Datapoint.Record
import FixCorpus.Proofs.Edit
import FixCorpus.Proofs.Except
import FixCorpus.Tokenization

/-! Whatever was read from JSON can be stored: 64 bits hold the numbers of edits,
occurrences and datapoints (`UnifiedDatapoint.storable_of_ofJson?`). Tokenized, a
datapoint can be stored if 64 bits hold its lines in the window too. -/

namespace FixCorpus

open Json Text

namespace Json

variable {α : Type} {read : Json → Option α}

theorem fitsInt_of_toInt? {v : Json} {n : Int} (found : v.toInt? = some n) : FitsInt n := by
  cases v with
  | int m =>
    simp only [toInt?, Option.ite_none_right_eq_some, Option.some.injEq] at found
    exact found.2 ▸ found.1
  | _ => cases found

theorem le_greatestNat_of_toNat? {v : Json} {n : Nat} (found : v.toNat? = some n) :
    n ≤ greatestNat := by
  cases v with
  | int m =>
    simp only [toNat?, Option.ite_none_right_eq_some, Option.some.injEq] at found
    omega
  | _ => cases found

theorem forall_of_toList? {P : α → Prop} (each : ∀ v a, read v = some a → P a) {v : Json}
    {as : List α} (found : v.toList? read = some as) : ∀ a ∈ as, P a := by
  cases v with
  | arr items =>
    rw [toList?_arr] at found
    induction items generalizing as with
    | nil =>
      cases found
      exact nofun
    | cons v items ih =>
      simp only [List.mapM_cons, Option.pure_def, Option.bind_eq_bind, Option.bind_eq_some_iff,
        Option.some.injEq] at found
      obtain ⟨a, first, as, rest, rfl⟩ := found
      exact List.forall_mem_cons.2 ⟨each v a first, ih rest⟩
  | _ => cases found

theorem Slot.of_required {P : α → Prop} (each : ∀ v a, read v = some a → P a) {slot : Slot} {a : α}
    (found : slot.required read = some a) : P a := by
  cases slot with
  | given v => exact each v a found
  | _ => cases found

theorem Slot.fitsInt_of_required {slot : Slot} {n : Int} (found : slot.required toInt? = some n) :
    FitsInt n :=
  Slot.of_required (fun _ _ => fitsInt_of_toInt?) found

theorem Slot.le_greatestNat_of_orElse {slot : Slot} {n : Nat}
    (found : slot.orElse 0 toNat? = some n) : n ≤ greatestNat := by
  cases slot with
  | given v => exact le_greatestNat_of_toNat? found
  | _ =>
    cases found
    exact Nat.zero_le _

end Json

namespace Edit

theorem storable_of_insertion? {v : Json} {e : Edit} (found : insertion? v = some e) :
    e.Storable := by
  simp only [insertion?, Option.bind_eq_bind, Option.bind_eq_some_iff] at found
  obtain ⟨slots, -, found⟩ := found
  split at found
  · simp only [Option.bind_eq_some_iff, Option.pure_def, Option.some.injEq] at found
    obtain ⟨previous, previous_read, start, start_read, target, -, rfl⟩ := found
    exact ⟨Slot.fitsInt_of_required previous_read, Slot.fitsInt_of_required start_read⟩
  · cases found

theorem storable_of_deletion? {v : Json} {e : Edit} (found : deletion? v = some e) :
    e.Storable := by
  simp only [deletion?, Option.bind_eq_bind, Option.bind_eq_some_iff] at found
  obtain ⟨slots, -, found⟩ := found
  split at found
  · simp only [Option.bind_eq_some_iff, Option.pure_def, Option.some.injEq] at found
    obtain ⟨first, first_read, last, last_read, rfl⟩ := found
    exact ⟨Slot.fitsInt_of_required first_read, Slot.fitsInt_of_required last_read⟩
  · cases found

theorem storable_of_replacement? {v : Json} {e : Edit} (found : replacement? v = some e) :
    e.Storable := by
  simp only [replacement?, Option.bind_eq_bind, Option.bind_eq_some_iff] at found
  obtain ⟨slots, -, found⟩ := found
  split at found
  · simp only [Option.bind_eq_some_iff, Option.pure_def, Option.some.injEq] at found
    obtain ⟨source, source_read, target, -, rfl⟩ := found
    exact Slot.of_required (fun _ _ => forall_of_toList? fun _ _ => fitsInt_of_toInt?) source_read
  · cases found

theorem storable_of_ofJson? {v : Json} {e : Edit} (found : ofJson? v = some e) : e.Storable := by
  simp only [ofJson?, Option.bind_eq_bind, Option.bind_eq_some_iff] at found
  obtain ⟨slots, -, found⟩ := found
  split at found
  · simp only [Option.bind_eq_some_iff] at found
    obtain ⟨content, -, kind, -, found⟩ := found
    split at found
    · exact storable_of_insertion? found
    · exact storable_of_deletion? found
    · exact storable_of_replacement? found
    · cases found
  · cases found

theorem Storable.fitsInt {e : Edit} (h : e.Storable) : ∀ n ∈ e.sourceLines, FitsInt n := by
  cases e with
  | insert i => exact List.forall_mem_singleton.2 h.1
  | delete d => exact List.forall_mem_cons.2 ⟨h.1, List.forall_mem_singleton.2 h.2⟩
  | replace r => exact h

theorem Storable.shift {e : Edit} (h : e.Storable) {offset : Int}
    (fits : ∀ n ∈ (e.shift offset).sourceLines, FitsInt n) : (e.shift offset).Storable := by
  cases e with
  | insert i => exact ⟨fits _ List.mem_cons_self, h.2⟩
  | delete d =>
    exact ⟨fits _ List.mem_cons_self, fits _ (List.mem_cons_of_mem _ List.mem_cons_self)⟩
  | replace r => exact fits

end Edit

theorem Occurrence.storable_of_ofJson? {v : Json} {o : Occurrence}
    (found : Occurrence.ofJson? v = some o) : o.Storable := by
  simp only [ofJson?, Option.bind_eq_bind, Option.bind_eq_some_iff] at found
  obtain ⟨slots, -, found⟩ := found
  split at found
  · simp only [Option.bind_eq_some_iff, Option.pure_def, Option.some.injEq] at found
    obtain ⟨message, -, line, line_read, character, character_read, rfl⟩ := found
    exact ⟨Slot.fitsInt_of_required line_read, Slot.fitsInt_of_required character_read⟩
  · cases found

theorem UnifiedDatapoint.storable_of_ofJson? {v : Json} {d : UnifiedDatapoint}
    (found : UnifiedDatapoint.ofJson? v = some d) : d.Storable := by
  unfold ofJson? at found
  obtain ⟨slots, -, found⟩ := Option.bind_eq_some_iff.1 found
  split at found
  · -- `simp` would look at each of the sixteen binds twice for every look at the one around it.
    obtain ⟨repo, -, found⟩ := Option.bind_eq_some_iff.1 found
    obtain ⟨repoUrl, -, found⟩ := Option.bind_eq_some_iff.1 found
    obtain ⟨solutionFile, -, found⟩ := Option.bind_eq_some_iff.1 found
    obtain ⟨filePath, -, found⟩ := Option.bind_eq_some_iff.1 found
    obtain ⟨numberFileLines, lines_read, found⟩ := Option.bind_eq_some_iff.1 found
    obtain ⟨commit, -, found⟩ := Option.bind_eq_some_iff.1 found
    obtain ⟨fileUrl, -, found⟩ := Option.bind_eq_some_iff.1 found
    obtain ⟨diagnosticId, -, found⟩ := Option.bind_eq_some_iff.1 found
    obtain ⟨analyzerNuGet, -, found⟩ := Option.bind_eq_some_iff.1 found
    obtain ⟨severity, -, found⟩ := Option.bind_eq_some_iff.1 found
    obtain ⟨requiredLinesStart, first_read, found⟩ := Option.bind_eq_some_iff.1 found
    obtain ⟨requiredLinesEnd, last_read, found⟩ := Option.bind_eq_some_iff.1 found
    obtain ⟨occurrences, occurrences_read, found⟩ := Option.bind_eq_some_iff.1 found
    obtain ⟨edit, edit_read, found⟩ := Option.bind_eq_some_iff.1 found
    obtain ⟨fileContextStart, start_read, found⟩ := Option.bind_eq_some_iff.1 found
    obtain ⟨fileContext, -, found⟩ := Option.bind_eq_some_iff.1 found
    cases found
    exact {
      numberFileLines := Slot.le_greatestNat_of_orElse lines_read
      requiredLinesStart := Slot.fitsInt_of_required first_read
      requiredLinesEnd := Slot.fitsInt_of_required last_read
      occurrences := Slot.of_required
        (fun _ _ => forall_of_toList? fun _ _ => Occurrence.storable_of_ofJson?) occurrences_read
      edit := Slot.of_required (fun _ _ => Edit.storable_of_ofJson?) edit_read
      fileContextStart := Slot.fitsInt_of_required start_read }
  · cases found

/-- 64 bits hold the lines that are counted from the window, so that taking its start from the
lines of the file does not overflow. -/
structure TokenizedDatapoint.RebasedFits (d : TokenizedDatapoint .window) : Prop where
  occurrences : ∀ o ∈ d.occurrences, FitsInt o.line
  edit : ∀ n ∈ d.edit.sourceLines, FitsInt n
  start : FitsInt d.tokenizedFileContextStart

namespace Tokenization

theorem mem_occurrences_attach {s : Streams} {d : UnifiedDatapoint} {o : TokenizedOccurrence}
    (member : o ∈ (s.attach d).occurrences) : ∃ p ∈ d.occurrences, ∃ tokens ∈ s.messages,
      o = ⟨p.message, p.line - s.startLine, p.character, tokenTexts tokens⟩ := by
  obtain ⟨o, attached, rfl⟩ := List.mem_map.1 member
  have parted : d.occurrences.zipWith (fun o tokens => o.withTokens (tokenTexts tokens))
      s.messages = _ := List.map_uncurry_zip_eq_zipWith.symm
  rw [UnifiedDatapoint.withTokens, parted] at attached
  obtain ⟨⟨p, tokens⟩, paired, rfl⟩ := List.mem_map.1 attached
  obtain ⟨listed, also⟩ := List.of_mem_zip paired
  exact ⟨p, listed, tokens, also, rfl⟩

theorem storable_attach {s : Streams} {d : UnifiedDatapoint} (h : d.Storable)
    (fits : (s.attach d).RebasedFits) : (s.attach d).Storable where
  numberFileLines := h.numberFileLines
  requiredLinesStart := h.requiredLinesStart
  requiredLinesEnd := h.requiredLinesEnd
  occurrences o member := by
    refine ⟨fits.occurrences o member, ?_⟩
    obtain ⟨p, listed, tokens, -, rfl⟩ := mem_occurrences_attach member
    exact (h.occurrences p listed).character
  edit := h.edit.shift fits.edit
  fileContextStart := h.fileContextStart
  tokenizedFileContextStart := fits.start

theorem storable_tokenizeDatapoint {d : UnifiedDatapoint} (h : d.Storable) {source : String}
    {settings : Settings} {dp : TokenizedDatapoint .window}
    (tokenized : tokenizeDatapoint d source settings = .ok dp) (fits : dp.RebasedFits) :
    dp.Storable := by
  obtain ⟨s, -, attached⟩ := except_bind_eq_ok.1 tokenized
  cases attached
  exact storable_attach h fits

end Tokenization

end FixCorpus
