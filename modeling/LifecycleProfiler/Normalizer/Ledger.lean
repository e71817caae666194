import LifecycleProfiler.Normalizer.Acceptance

/-! # Complete ledgers

What it means that no data row of a process is missing, the check of
`_validate_profile_ledgers` as a decision procedure for it, and the base
stream, for which the normalizer never runs that check. -/

namespace LifecycleProfiler.Normalizer
open Python Protocol

/-- A summary that reports no loss and counts the given data rows. -/
structure Reconciles (categories : List String) (summary : Dict) (data : List Dict) : Prop where
  drained : summary.get "close_outcome" = .str "drained"
  droppedData : (summary.get "dropped_data_count").num? = some 0
  droppedControl : (summary.get "dropped_control_count").num? = some 0
  writerFailures : (summary.get "writer_failure_count").num? = some 0
  attempted : (summary.get "attempted_data_count").num? = some (data.length : Rat)
  written : ∀ category ∈ categories,
    (summary.get s!"written_{category}_count").num? = some ((ofType category data).length : Rat)

/-- A process with one reconciling summary whose data rows carry the sequences
`0, …, attempted - 1`, each once. -/
structure LedgerComplete (summaryType : String) (categories : List String) (rows : List Dict)
    (processUuid : String) : Prop where
  summary : ∃ summary, ofType summaryType (ofProcess processUuid rows) = [summary] ∧
    Reconciles categories summary (dataRows categories processUuid rows)
  sequences : ((dataRows categories processUuid rows).map fun row =>
    (row.get "record_seq").num?).Perm (rangeNums (dataRows categories processUuid rows).length)

theorem reconciles_iff {categories : List String} {summary : Dict} {data : List Dict} :
    Reconciles categories summary data ↔
      ((summary.has "close_outcome" "drained" && summary.hasNum "dropped_data_count" 0 &&
        summary.hasNum "dropped_control_count" 0 && summary.hasNum "writer_failure_count" 0 &&
        summary.hasNum "attempted_data_count" data.length) = true) ∧
      ∀ category ∈ categories,
        summary.hasNum s!"written_{category}_count" (ofType category data).length = true := by
  simp only [Bool.and_eq_true, Dict.has_iff, Dict.hasNum_iff, Int.cast_zero, Int.cast_natCast]
  constructor
  · rintro ⟨h₁, h₂, h₃, h₄, h₅, h₆⟩
    exact ⟨⟨⟨⟨⟨h₁, h₂⟩, h₃⟩, h₄⟩, h₅⟩, h₆⟩
  · rintro ⟨⟨⟨⟨⟨h₁, h₂⟩, h₃⟩, h₄⟩, h₅⟩, h₆⟩
    exact ⟨h₁, h₂, h₃, h₄, h₅, h₆⟩

/-- **The ledger check decides completeness.** -/
theorem validateLedger_eq_ok {summaryType : String} {categories : List String} {rows : List Dict}
    {processUuid : String} :
    validateLedger summaryType categories rows processUuid = .ok () ↔
      LedgerComplete summaryType categories rows processUuid := by
  constructor
  · intro h
    unfold validateLedger at h
    split at h
    · rename_i summary hs
      simp only [bind_eq_ok, exists_unit, raiseIf_eq_ok, Bool.not_eq_false', forEach_eq_ok] at h
      obtain ⟨hcounts, sorted, hsorted, hrange, hwritten⟩ := h
      refine ⟨⟨summary, hs, reconciles_iff.mpr ⟨hcounts, hwritten⟩⟩, ?_⟩
      simpa [Function.comp_def] using sorted_eqRange_iff.mp ⟨sorted, hsorted, hrange⟩
    · cases h
  · rintro ⟨⟨summary, hs, hcounts⟩, hseq⟩
    obtain ⟨hcounts, hwritten⟩ := reconciles_iff.mp hcounts
    have hvalues : (((dataRows categories processUuid rows).map (·.get "record_seq")).map
        Value.num?).Perm (rangeNums (dataRows categories processUuid rows).length) := by
      simpa [Function.comp_def] using hseq
    obtain ⟨sorted, hsorted, hrange⟩ := sorted_eqRange_iff.mpr hvalues
    unfold validateLedger
    rw [hs]
    simp only [hcounts, hsorted, hrange, Bool.not_true, raiseIf_false, ok_bind, forEach_eq_ok,
      raiseIf_eq_ok, Bool.not_eq_false']
    exact hwritten

/-- The profile ledgers of an accepted episode are complete. -/
theorem EpisodeAccepted.profileComplete {sha256 : Bytes → String} {baseRows profileRows : List Dict}
    {expected : ExpectedKVRecoveryEpisode} {h2d : NormalizedH2DRecovery} {data : List Dict}
    {chain : Chain} {submit done : Dict}
    (h : EpisodeAccepted sha256 baseRows profileRows expected h2d data chain submit done) :
    ∀ u ∈ expected.processUuids,
      LedgerComplete "profile_summary" profileCategories profileRows u :=
  fun u hu => validateLedger_eq_ok.mp (forEach_eq_ok.mp h.ledgers u hu)

/-! ## The base stream -/

def baseCategories : List String := ["event", "edge"]

/-- No base evidence of the process is missing: its ledger is complete and its
summary counts the loss intervals present. -/
structure BaseComplete (rows : List Dict) (processUuid : String) : Prop where
  ledger : LedgerComplete "process_summary" baseCategories rows processUuid
  losses : ∀ summary ∈ ofType "process_summary" (ofProcess processUuid rows),
    (summary.get "written_loss_interval_count").num? =
      some ((ofType "loss_interval" (ofProcess processUuid rows)).length : Rat)

/-- Rows without a loss interval have none for any process. -/
theorem no_loss_of_process {rows : List Dict} (u : String)
    (h : rows.any (·.has "record_type" "loss_interval") = false) :
    ofType "loss_interval" (ofProcess u rows) = [] := by
  rw [ofType, List.filter_eq_nil_iff]
  intro row hrow
  rw [List.any_eq_false] at h
  exact h row (List.mem_of_mem_filter hrow)

/-- **When an accepted episode rests on complete base shards**: exactly when
the base rows of each expected process pass the ledger check that the
normalizer applies to the profile rows alone, and no summary counts a written
loss interval. -/
theorem base_complete_iff {sha256 : Bytes → String} {baseRows profileRows : List Dict}
    {expected : ExpectedKVRecoveryEpisode} {complete : Bool} {episode : NormalizedKVRecoveryEpisode}
    (h : normalizeKvRecoveryEpisode sha256 baseRows profileRows expected complete = .ok episode) :
    (∀ u ∈ expected.processUuids, BaseComplete baseRows u) ↔
      ∀ u ∈ expected.processUuids,
        validateLedger "process_summary" baseCategories baseRows u = .ok () ∧
        ∀ summary ∈ ofType "process_summary" (ofProcess u baseRows),
          summary.hasNum "written_loss_interval_count" 0 = true := by
  obtain ⟨h2d, -, -, -, -, hh2d, -, -⟩ := normalizeKvRecoveryEpisode_eq_ok.mp h
  obtain ⟨-, bridge, hbridge⟩ := normalizeH2dRecovery_eq_ok.mp hh2d
  have hnone := fun u => no_loss_of_process u hbridge.noLoss
  refine forall₂_congr fun u _ => ?_
  rw [validateLedger_eq_ok]
  constructor
  · rintro ⟨hledger, hlosses⟩
    refine ⟨hledger, fun summary hs => Dict.hasNum_iff.mpr ?_⟩
    simpa [hnone u] using hlosses summary hs
  · rintro ⟨hledger, hlosses⟩
    refine ⟨hledger, fun summary hs => ?_⟩
    simpa [hnone u] using Dict.hasNum_iff.mp (hlosses summary hs)

/-- The base rows of a sink that dropped one control record: its summary alone
says so. -/
def leakyBase : List Dict :=
  Sample.baseEvidence ++ [Sample.baseSummary 10 7 1 Sample.baseDigest]

theorem leakyBase_accepted :
    normalizeKvRecoveryEpisode Sample.sha256 leakyBase
      (Sample.profileShard Sample.succeeded Sample.profileDigest) Sample.expected true =
      .ok Sample.episode := by
  decide +kernel

/-- An episode is accepted although its base shard reports a dropped record. -/
theorem accepted_with_incomplete_base :
    normalizeKvRecoveryEpisode Sample.sha256 leakyBase
      (Sample.profileShard Sample.succeeded Sample.profileDigest) Sample.expected true =
      .ok Sample.episode ∧
    Sample.process ∈ Sample.expected.processUuids ∧ ¬ BaseComplete leakyBase Sample.process :=
  ⟨leakyBase_accepted, by decide, fun h =>
    absurd (validateLedger_eq_ok.mpr h.ledger) (by decide +kernel)⟩

theorem base_complete_iff_leakyBase :
    (∀ u ∈ Sample.expected.processUuids, BaseComplete leakyBase u) ↔
      ∀ u ∈ Sample.expected.processUuids,
        validateLedger "process_summary" baseCategories leakyBase u = .ok () ∧
        ∀ summary ∈ ofType "process_summary" (ofProcess u leakyBase),
          summary.hasNum "written_loss_interval_count" 0 = true :=
  base_complete_iff leakyBase_accepted

end LifecycleProfiler.Normalizer
