import LifecycleProfiler.Blind.Gates
import Mathlib.Algebra.BigOperators.Ring.List

/-! # Locking what the scorer returns

`timed_score_case` and the question whether `write_locked_method_result` takes
its payload. The two encode the same rules; they differ in what a candidate
without causal evidence is. -/

namespace LifecycleProfiler.Blind
open Python Protocol General

/-- The clock readings of a timed run, in nanoseconds of `perf_counter_ns` and
microseconds of the wall clock, and the `datetime` functions they go through.
`perf_counter_ns` does not go backwards; `isoformat` renders a time in UTC as a
short text that `fromisoformat` reads back. -/
structure Timing where
  startedAt : Int
  endedAt : Int
  startedNs : Int
  endedNs : Int
  isoformat : Int → String
  fromisoformat : String → Option Moment
  monotonic : startedNs ≤ endedNs
  startedAt_bounded : isBoundedText (isoformat startedAt) 128 = true
  endedAt_bounded : isBoundedText (isoformat endedAt) 128 = true
  startedAt_read : fromisoformat (isoformat startedAt) = some ⟨startedAt, true⟩
  endedAt_read : fromisoformat (isoformat endedAt) = some ⟨endedAt, true⟩

/-- A float of the payload, with the text it is written as. -/
def floatValue (render : ℚ → String) (q : ℚ) : Value := .float q (render q)

/-- `asdict` of a score. -/
def CandidateScore.fields (render : ℚ → String) (score : CandidateScore) : Dict :=
  [("candidate_id", .str score.candidateId),
    ("paired_deltas_ms", .list (score.pairedDeltasMs.map (floatValue render))),
    ("median_delta_ms", floatValue render score.medianDeltaMs),
    ("iqr_delta_ms", floatValue render score.iqrDeltaMs),
    ("bootstrap_ci95_ms", .list [floatValue render score.bootstrapCi95Ms.1,
      floatValue render score.bootstrapCi95Ms.2]),
    ("positive_delta_share", floatValue render score.positiveDeltaShare),
    ("top1_selection_frequency", floatValue render score.top1SelectionFrequency),
    ("span_count", .int score.spanCount), ("owners", .list (score.owners.map .str)),
    ("edge_kinds", .list (score.edgeKinds.map .str)),
    ("traceloom_link_count", .int score.traceloomLinkCount)]

def CandidateScore.value (render : ℚ → String) (score : CandidateScore) : Value :=
  .dict (score.fields render)

/-- `_is_none`-able text of the payload. -/
def counterfactualValue : Option (String × String) → Value
  | none => .none
  | some (candidate, constraint) =>
    .dict [("candidate_id", .str candidate), ("constraint", .str constraint)]

/-- `asdict(result)` and the timing fields. -/
def AttributionResult.payload (render : ℚ → String) (timing : Timing) (method : String)
    (r : AttributionResult) : Dict :=
  let elapsedMs : ℚ := (timing.endedNs - timing.startedNs) / 1000000
  [("schema", .str r.schema), ("case_id", .str r.caseId), ("method", .str method),
   ("m0_status", .str r.m0Status), ("top1", optStr r.top1), ("top3", .list (r.top3.map .str)),
   ("candidates", .list (r.candidates.map (CandidateScore.value render))),
   ("dominance_score", floatValue render r.dominanceScore),
   ("confidence_score", floatValue render r.confidenceScore),
   ("unexplained_residual_share", floatValue render r.unexplainedResidualShare),
   ("insufficient_evidence_floor_ms", floatValue render r.insufficientEvidenceFloorMs),
   ("bootstrap_seed", .int r.bootstrapSeed), ("bootstrap_resamples", .int r.bootstrapResamples),
   ("abstained", .bool r.abstained), ("abstain_reasons", .list (r.abstainReasons.map .str)),
   ("proposed_counterfactual", counterfactualValue r.proposedCounterfactual),
   ("input_complete", .bool r.inputComplete),
   ("input_event_loss_count", .int r.inputEventLossCount),
   ("started_at", .str (timing.isoformat timing.startedAt)),
   ("ended_at", .str (timing.isoformat timing.endedAt)),
   ("time_to_localize_ms", floatValue render elapsedMs),
   ("automated_wall_clock_ms", floatValue render elapsedMs)]

/-- `timed_score_case` -/
def timedScoreCase (env : Environment) (timing : Timing) (render : ℚ → String) (bundle : Value)
    (method : String) (candidateIds : List String) (floor : ℚ) : Except PyError Dict := do
  raiseIf (method ≠ "full_lifecycle_dag")
    "the automated DAG scorer may only label full_lifecycle_dag"
  validateScorerInputs candidateIds floor
  let bundle ← validateCaseBundle env.recursionDepth bundle candidateIds
  let result ← scoreValidatedCase env bundle candidateIds floor
  return result.payload render timing method

/-! ## Reading back what was written -/

section Reading
variable {render : ℚ → String}

theorem readNumbers_floats (qs : List ℚ) (message : String) :
    readNumbers (.list (qs.map (floatValue render))) message = .ok qs := by
  have hall : List.Forall₂ (fun item q => require (finiteNumber item) message = .ok q)
      (qs.map (floatValue render)) qs := by
    rw [List.forall₂_map_left_iff, List.forall₂_same]
    exact fun q _ => rfl
  rw [readNumbers, asList, require, ok_bind]
  exact mapM_of_forall₂ hall

theorem readTexts_strs {texts : List String} {limit : Nat} {invalid duplicated : String}
    (hbounded : ∀ s ∈ texts, isBoundedText s limit = true) (hnodup : texts.Nodup) :
    readTexts (.list (texts.map .str)) limit invalid duplicated = .ok texts := by
  have hall : List.Forall₂ (fun item s => require (boundedText limit item) invalid = .ok s)
      (texts.map .str) texts := by
    rw [List.forall₂_map_left_iff, List.forall₂_same]
    intro s hs
    rw [boundedText, if_pos (hbounded s hs), require]
  rw [readTexts, asList, require, ok_bind, mapM_of_forall₂ hall, ok_bind]
  simp [hnodup]

theorem readShare_float {place key : String} {record : Dict} {q : ℚ}
    (hget : record.get key = floatValue render q) (h : 0 ≤ q ∧ q ≤ 1) :
    readShare place record key = .ok q := by
  rw [readShare, hget, floatValue, finiteNumber, require, ok_bind, raiseIf, if_neg]
  · rfl
  · simpa using h

theorem natural_nat (n : Nat) : natural (.int n) = some n := by
  simp [natural, strictInt]

/-- What the reader of a score asks, besides its evidence. -/
structure CandidateScore.Valid (allowed : List String) (score : CandidateScore) : Prop where
  bounded : isBoundedText score.candidateId 128 = true
  allowed : score.candidateId ∈ allowed
  deltas : 5 ≤ score.pairedDeltasMs.length
  interval : score.bootstrapCi95Ms.1 ≤ score.bootstrapCi95Ms.2
  median_pos : 0 < score.medianDeltaMs
  median_eq : score.medianDeltaMs = median score.pairedDeltasMs
  iqr_nonneg : 0 ≤ score.iqrDeltaMs
  iqr_eq : score.iqrDeltaMs = iqr score.pairedDeltasMs
  share : 0 ≤ score.positiveDeltaShare ∧ score.positiveDeltaShare ≤ 1
  frequency : 0 ≤ score.top1SelectionFrequency ∧ score.top1SelectionFrequency ≤ 1
  spans : score.spanCount ≠ 0
  owners : score.owners ≠ []
  owners_bounded : ∀ s ∈ score.owners, isBoundedText s 128 = true
  owners_nodup : score.owners.Nodup
  kinds : ∀ s ∈ score.edgeKinds, s ∈ causalEdgeKinds
  kinds_nodup : score.edgeKinds.Nodup

theorem isClose_self (q : ℚ) : isClose q q = true := by
  simp [isClose]

theorem causalEdgeKinds_bounded : ∀ s ∈ causalEdgeKinds, isBoundedText s 128 = true := by
  decide +kernel

/-- The score has causal or ownership evidence. -/
def CandidateScore.HasEvidence (score : CandidateScore) : Prop :=
  (∃ kind ∈ score.edgeKinds, kind ≠ "precedes") ∨ score.traceloomLinkCount ≠ 0

/-- A valid score is accepted exactly with its evidence. -/
theorem readCandidateScore_value {allowed : List String} {index : Nat} {score out : CandidateScore}
    (h : score.Valid allowed) : readCandidateScore allowed index (score.value render) = .ok out ↔
      score.HasEvidence ∧ score = out := by
  have hkeys : ∀ place, exactKeys (score.fields render) scoreKeys [] place = .ok () := fun _ => rfl
  have hid : (score.fields render).get "candidate_id" = .str score.candidateId := rfl
  have hdeltas : (score.fields render).get "paired_deltas_ms" =
      .list (score.pairedDeltasMs.map (floatValue render)) := rfl
  have hmedian : (score.fields render).get "median_delta_ms" =
      floatValue render score.medianDeltaMs := rfl
  have hiqr : (score.fields render).get "iqr_delta_ms" = floatValue render score.iqrDeltaMs := rfl
  have hinterval : (score.fields render).get "bootstrap_ci95_ms" = .list
      ([score.bootstrapCi95Ms.1, score.bootstrapCi95Ms.2].map (floatValue render)) := rfl
  have hshare : (score.fields render).get "positive_delta_share" =
      floatValue render score.positiveDeltaShare := rfl
  have hfrequency : (score.fields render).get "top1_selection_frequency" =
      floatValue render score.top1SelectionFrequency := rfl
  have hspans : (score.fields render).get "span_count" = .int score.spanCount := rfl
  have howners : (score.fields render).get "owners" = .list (score.owners.map .str) := rfl
  have hkinds : (score.fields render).get "edge_kinds" = .list (score.edgeKinds.map .str) := rfl
  have hlinks : (score.fields render).get "traceloom_link_count" =
      .int score.traceloomLinkCount := rfl
  have hread : ∀ message, readInterval (.list
      ([score.bootstrapCi95Ms.1, score.bootstrapCi95Ms.2].map (floatValue render))) message =
      .ok score.bootstrapCi95Ms := by
    intro message
    rw [readInterval, readNumbers_floats, ok_bind, asInterval, require, ok_bind, raiseIf, if_neg]
    · rfl
    · simpa using h.interval
  have hfinite : ∀ q, finiteNumber (floatValue render q) = some q := fun _ => rfl
  have hevidence : (!(score.edgeKinds.any (· ≠ "precedes")) &&
    decide (score.traceloomLinkCount = 0)) =
      false ↔ score.HasEvidence := by
    by_cases hany : ∃ kind ∈ score.edgeKinds, kind ≠ "precedes"
    · have htrue : score.edgeKinds.any (· ≠ "precedes") = true := by simpa using hany
      rw [htrue]
      exact ⟨fun _ => .inl hany, fun _ => rfl⟩
    · have hfalse : score.edgeKinds.any (· ≠ "precedes") = false := by simpa using hany
      rw [hfalse, Bool.not_false, Bool.true_and, decide_eq_false_iff_not]
      exact ⟨.inr, fun h => h.resolve_left hany⟩
  unfold readCandidateScore
  dsimp only
  simp only [CandidateScore.value, asMapping, require, ok_bind, hkeys, hid, boundedText, h.bounded,
    if_true, List.contains_iff_mem.mpr h.allowed, Bool.not_true, raiseIf_false, hdeltas,
    readNumbers_floats, hinterval, hread, hmedian, hiqr, hfinite,
    readShare_float hshare h.share, readShare_float hfrequency h.frequency, hspans, hlinks,
    natural_nat, howners, hkinds, readTexts_strs h.owners_bounded h.owners_nodup,
    readTexts_strs (fun s hs => causalEdgeKinds_bounded s (h.kinds s hs)) h.kinds_nodup]
  simp only [bind_eq_ok, exists_unit, raiseIf_eq_ok, pure_eq_ok, hevidence]
  have hsupported : (score.edgeKinds.any fun kind => !causalEdgeKinds.contains kind) = false := by
    simpa using h.kinds
  constructor
  · rintro ⟨-, -, -, -, -, -, -, -, hlinked, heq⟩
    exact ⟨hlinked, heq⟩
  · rintro ⟨hlinked, heq⟩
    refine ⟨by simpa using h.deltas, by simpa using h.median_pos, by simpa using h.iqr_nonneg,
      by simp [h.median_eq, isClose_self], by simp [h.iqr_eq, isClose_self], by simpa using h.spans,
      by simpa using h.owners, hsupported, hlinked, heq⟩

theorem readEach_values {allowed : List String} {scores : List CandidateScore}
    (h : ∀ score ∈ scores, score.Valid allowed) {done out : List CandidateScore} :
    readCandidateScores allowed done (scores.map (CandidateScore.value render)) = .ok out ↔
      (∀ score ∈ scores, score.HasEvidence) ∧ done ++ scores = out := by
  induction scores generalizing done with
  | nil => simp [readCandidateScores, readEach]
  | cons score rest ih =>
    have hrest := fun s hs => h s (List.mem_cons_of_mem _ hs)
    have hhead := h score List.mem_cons_self
    rw [List.map_cons, readCandidateScores, readEach, bind_eq_ok]
    constructor
    · rintro ⟨read, hread, htail⟩
      obtain ⟨hevidence, rfl⟩ := (readCandidateScore_value hhead).mp hread
      obtain ⟨hall, rfl⟩ := (ih hrest).mp htail
      exact ⟨List.forall_mem_cons.mpr ⟨hevidence, hall⟩, by rw [List.append_assoc]; rfl⟩
    · rintro ⟨hall, rfl⟩
      obtain ⟨hevidence, hall⟩ := List.forall_mem_cons.mp hall
      refine ⟨score, (readCandidateScore_value hhead).mpr ⟨hevidence, rfl⟩,
        (ih hrest).mpr ⟨hall, ?_⟩⟩
      rw [List.append_assoc]
      rfl

/-- What the reader of a result asks of the fields of a scored result. -/
structure AttributionResult.Valid (candidateIds : List String) (r : AttributionResult) : Prop where
  schema : r.schema = resultSchema
  caseId : isBoundedText r.caseId 64 = true
  m0Status : r.m0Status = "NOT_M0_PROVEN"
  scores : ∀ score ∈ r.candidates, score.Valid (measurable candidateIds)
  nodup : (r.candidates.map (·.candidateId)).Nodup
  deltas : ∃ n, ∀ score ∈ r.candidates, score.pairedDeltasMs.length = n
  top1 : r.top1 = if r.abstained then none else (r.candidates.map (·.candidateId)).head?
  decided : r.abstained = false → r.candidates ≠ []
  top3 : r.top3 = (r.candidates.map (·.candidateId)).take 3
  counterfactual : r.proposedCounterfactual = r.top1.map (·, counterfactualConstraint)
  reasons : r.abstained = !r.abstainReasons.isEmpty
  reasons_bounded : ∀ reason ∈ r.abstainReasons, isBoundedText reason 128 = true
  reasons_nodup : r.abstainReasons.Nodup
  dominance : 0 ≤ r.dominanceScore ∧ r.dominanceScore ≤ 1
  residual : r.unexplainedResidualShare = 1 - r.dominanceScore
  confidence : 0 ≤ r.confidenceScore ∧ r.confidenceScore ≤ r.dominanceScore
  shares : r.candidates ≠ [] → (r.candidates.map (·.positiveDeltaShare)).sum = 1
  top_share : ∀ top ∈ r.candidates.head?, top.positiveDeltaShare = r.dominanceScore
  no_share : r.candidates = [] → r.dominanceScore = 0
  floor : 0 ≤ r.insufficientEvidenceFloorMs
  seed : r.bootstrapSeed = Blind.bootstrapSeed
  resamples : r.bootstrapResamples = Blind.bootstrapResamples
  losses : r.inputEventLossCount ≠ 0 → r.inputComplete = false

theorem readCandidateId_str {allowed : List String} {candidate message : String}
    (hbounded : isBoundedText candidate 128 = true) (hallowed : candidate ∈ allowed) :
    readCandidateId allowed (.str candidate) message = .ok candidate := by
  rw [readCandidateId, boundedText, if_pos hbounded, require, ok_bind, raiseIf, if_neg]
  · rfl
  · simpa using hallowed

theorem readTop3_strs {allowed ids : List String}
    (h : ∀ id ∈ ids, isBoundedText id 128 = true ∧ id ∈ allowed) (hnodup : ids.Nodup)
    (hlength : ids.length ≤ 3) : readTop3 allowed (.list (ids.map .str)) = .ok ids := by
  have hall : List.Forall₂ (fun item id => readCandidateId allowed item
      "method_result.top3 is invalid" = .ok id) (ids.map .str) ids := by
    rw [List.forall₂_map_left_iff, List.forall₂_same]
    exact fun id hid => readCandidateId_str (h id hid).1 (h id hid).2
  rw [readTop3, asList, require, ok_bind, mapM_of_forall₂ hall]
  simp [hnodup, hlength]

theorem validateShares_valid {candidateIds : List String} {r : AttributionResult}
    (h : r.Valid candidateIds) :
    validateShares r.dominanceScore r.confidenceScore r.unexplainedResidualShare r.candidates =
      .ok () := by
  have hsum : isClose (r.dominanceScore + r.unexplainedResidualShare) 1 = true := by
    rw [h.residual, add_sub_cancel, isClose_self]
  have hconfidence : ¬r.dominanceScore + 1 / 1000000000000 < r.confidenceScore := by
    rw [not_lt]
    exact h.confidence.2.trans (le_add_of_nonneg_right (by norm_num))
  simp only [validateShares, bind_eq_ok, exists_unit, raiseIf_eq_ok, hsum, Bool.not_true,
    decide_eq_false_iff_not, hconfidence, not_false_eq_true, true_and]
  cases heq : r.candidates with
  | nil => simp [h.no_share heq, h.residual]
  | cons top rest =>
    have hshares := h.shares (by simp [heq])
    have htop := h.top_share top (by simp [heq])
    rw [heq] at hshares
    simp only [bind_eq_ok, exists_unit, raiseIf_eq_ok, hshares, htop, isClose_self, Bool.not_true,
      and_self]

theorem readCounterfactual_valid {candidateIds : List String} {r : AttributionResult}
    (h : r.Valid candidateIds) (hbounded : ∀ id ∈ r.top1, isBoundedText id 128 = true) :
    readCounterfactual (counterfactualValue r.proposedCounterfactual) (optStr r.top1) r.abstained =
      .ok r.top1 := by
  rw [h.counterfactual]
  cases htop : r.top1 with
  | none =>
    have habstained : r.abstained = true := by
      by_contra hne
      rw [Bool.not_eq_true] at hne
      have hhead := h.top1
      rw [htop, hne] at hhead
      simp [h.decided hne] at hhead
    rw [habstained]
    rfl
  | some id =>
    have habstained : r.abstained = false := by
      by_contra hne
      rw [Bool.not_eq_false] at hne
      have hhead := h.top1
      rw [htop, hne] at hhead
      cases hhead
    have hkeys : exactKeys [("candidate_id", Value.str id),
        ("constraint", .str counterfactualConstraint)] ["candidate_id", "constraint"] []
        "method_result.proposed_counterfactual" = .ok () := rfl
    have hget : Dict.get [("candidate_id", Value.str id),
        ("constraint", .str counterfactualConstraint)] "candidate_id" = .str id := rfl
    have hhas : Dict.has [("candidate_id", Value.str id),
        ("constraint", .str counterfactualConstraint)] "constraint" counterfactualConstraint =
        true := rfl
    have heq : (Value.str id).pyEq (.str id) = true := Value.pyEq_str.mpr rfl
    rw [habstained, Option.map_some, counterfactualValue, readCounterfactual, if_neg nofun]
    dsimp only
    rw [asMapping, require, ok_bind, hkeys, ok_bind, hget, optStr, heq, hhas, boundedText,
      if_pos (hbounded id htop)]
    rfl

theorem readTop1_valid {candidateIds : List String} {r : AttributionResult}
    (h : r.Valid candidateIds) :
    readTop1 (measurable candidateIds) (optStr r.top1) = .ok r.top1 ∧
      ∀ id ∈ r.top1, isBoundedText id 128 = true := by
  cases htop : r.top1 with
  | none => exact ⟨rfl, nofun⟩
  | some id =>
    have hhead := h.top1
    rw [htop] at hhead
    have hmem : id ∈ r.candidates.map (·.candidateId) := by
      split at hhead
      · cases hhead
      · exact List.mem_of_mem_head? hhead.symm
    obtain ⟨score, hscore, rfl⟩ := List.mem_map.mp hmem
    have hvalid := h.scores score hscore
    refine ⟨?_, fun id hid => (Option.mem_some_iff.mp hid) ▸ hvalid.bounded⟩
    rw [optStr, readTop1, if_neg nofun, readCandidateId_str hvalid.bounded hvalid.allowed]
    rfl

/-- The times are read back, and accepted when they are in order. -/
theorem validateTimes_payload {timing : Timing} {method : String} {r : AttributionResult} :
    validateTimes timing.fromisoformat (r.payload render timing method) = .ok () ↔
      timing.startedAt ≤ timing.endedAt := by
  have helapsed : ¬((timing.endedNs - timing.startedNs : ℚ) / 1000000 < 0) := by
    have hle : (timing.startedNs : ℚ) ≤ timing.endedNs := by exact_mod_cast timing.monotonic
    rw [not_lt]
    exact div_nonneg (sub_nonneg.mpr hle) (by norm_num)
  have hstarted : (r.payload render timing method).get "started_at" =
      .str (timing.isoformat timing.startedAt) := rfl
  have hended : (r.payload render timing method).get "ended_at" =
      .str (timing.isoformat timing.endedAt) := rfl
  have hlocalize : (r.payload render timing method).get "time_to_localize_ms" =
      floatValue render ((timing.endedNs - timing.startedNs) / 1000000) := rfl
  have hclock : (r.payload render timing method).get "automated_wall_clock_ms" =
      floatValue render ((timing.endedNs - timing.startedNs) / 1000000) := rfl
  have hfinite : ∀ q, finiteNumber (floatValue render q) = some q := fun _ => rfl
  unfold validateTimes
  simp only [forEach, hstarted, hended, hlocalize, hclock, hfinite, boundedText,
    timing.startedAt_bounded, timing.endedAt_bounded, if_true, require, ok_bind, helapsed,
    decide_false, raiseIf_false, timing.startedAt_read, timing.endedAt_read, raiseIf_eq_ok,
    Bool.not_true, Bool.false_or, decide_eq_false_iff_not, not_lt]

/-- The fields of a written result, as the reader finds them. -/
structure Written (render : ℚ → String) (timing : Timing) (r : AttributionResult)
    (payload : Dict) : Prop where
  keys : exactKeys payload resultKeys [] "method_result" = .ok ()
  schema : payload.get "schema" = .str r.schema
  caseId : payload.get "case_id" = .str r.caseId
  method : payload.get "method" = .str "full_lifecycle_dag"
  m0Status : payload.get "m0_status" = .str r.m0Status
  top1 : payload.get "top1" = optStr r.top1
  top3 : payload.get "top3" = .list (r.top3.map .str)
  candidates : payload.get "candidates" = .list (r.candidates.map (CandidateScore.value render))
  dominance : payload.get "dominance_score" = floatValue render r.dominanceScore
  confidence : payload.get "confidence_score" = floatValue render r.confidenceScore
  residual : payload.get "unexplained_residual_share" =
    floatValue render r.unexplainedResidualShare
  floor : payload.get "insufficient_evidence_floor_ms" =
    floatValue render r.insufficientEvidenceFloorMs
  seed : payload.get "bootstrap_seed" = .int r.bootstrapSeed
  resamples : payload.get "bootstrap_resamples" = .int r.bootstrapResamples
  abstained : payload.get "abstained" = .bool r.abstained
  reasons : payload.get "abstain_reasons" = .list (r.abstainReasons.map .str)
  counterfactual : payload.get "proposed_counterfactual" =
    counterfactualValue r.proposedCounterfactual
  complete : payload.get "input_complete" = .bool r.inputComplete
  losses : payload.get "input_event_loss_count" = .int r.inputEventLossCount

theorem written_payload (timing : Timing) (r : AttributionResult) :
    Written render timing r (r.payload render timing "full_lifecycle_dag") :=
  ⟨rfl, rfl, rfl, rfl, rfl, rfl, rfl, rfl, rfl, rfl, rfl, rfl, rfl, rfl, rfl, rfl, rfl, rfl, rfl⟩

/-- A valid result is accepted exactly when all its scores have evidence and its
times are in order. -/
theorem readMethodResult_payload {timing : Timing} {candidateIds : List String}
    {r : AttributionResult} (h : r.Valid candidateIds)
    (hvocabulary : validVocabulary candidateIds = true) :
    (∃ out, readMethodResult timing.fromisoformat (r.payload render timing "full_lifecycle_dag")
      candidateIds = .ok out) ↔
      (∀ score ∈ r.candidates, score.HasEvidence) ∧ timing.startedAt ≤ timing.endedAt := by
  have hw : Written render timing r (r.payload render timing "full_lifecycle_dag") :=
    written_payload timing r
  have htimes : validateTimes timing.fromisoformat (r.payload render timing "full_lifecycle_dag") =
      .ok () ↔ timing.startedAt ≤ timing.endedAt := validateTimes_payload
  generalize r.payload render timing "full_lifecycle_dag" = payload at hw htimes ⊢
  obtain ⟨htop1, hbounded⟩ := readTop1_valid h
  have hids : ∀ id ∈ r.candidates.map (·.candidateId),
      isBoundedText id 128 = true ∧ id ∈ measurable candidateIds := by
    intro id hid
    obtain ⟨score, hscore, rfl⟩ := List.mem_map.mp hid
    exact ⟨(h.scores score hscore).bounded, (h.scores score hscore).allowed⟩
  have htop3 : readTop3 (measurable candidateIds) (.list (r.top3.map .str)) = .ok r.top3 := by
    rw [h.top3]
    exact readTop3_strs (fun id hid => hids id (List.mem_of_mem_take hid))
      (h.nodup.sublist (List.take_sublist 3 _)) (List.length_take_le 3 _)
  have hfinite : ∀ q, finiteNumber (floatValue render q) = some q := fun _ => rfl
  have hmethod : boundedText 128 (.str "full_lifecycle_dag") = some "full_lifecycle_dag" := by
    decide +kernel
  have hview : viewNames.contains "full_lifecycle_dag" = true := by simp [viewNames]
  have hschema : payload.has "schema" resultSchema = true :=
    Dict.has_iff.mpr (hw.schema.trans (congrArg Value.str h.schema))
  have hm0 : payload.has "m0_status" "NOT_M0_PROVEN" = true :=
    Dict.has_iff.mpr (hw.m0Status.trans (congrArg Value.str h.m0Status))
  have hbool : ∀ b, asBool (.bool b) = some b := fun _ => rfl
  have hseed : (Value.int r.bootstrapSeed).pyEq (.int bootstrapSeed) = true := by
    rw [h.seed]
    decide
  have hresamples : (Value.int r.bootstrapResamples).pyEq (.int bootstrapResamples) = true := by
    rw [h.resamples]
    decide
  have hcase : boundedText 64 (.str r.caseId) = some r.caseId := by
    rw [boundedText, if_pos h.caseId]
  simp only [validVocabulary, Bool.and_eq_true, Bool.not_eq_true'] at hvocabulary
  obtain ⟨⟨hnonempty, hall⟩, hnodup⟩ := hvocabulary
  have hscores := @readEach_values render (measurable candidateIds) r.candidates h.scores []
  unfold readMethodResult
  simp only [hw.keys, ok_bind, hschema, Bool.not_true, raiseIf_false, hw.caseId, hcase, require,
    hw.method, hmethod, hview, hm0, hnonempty, hall, Bool.or_self, hnodup, hw.top1, htop1, hw.top3,
    htop3, hw.candidates, asList, hw.abstained, hbool,
    readShare_float hw.dominance h.dominance,
    readShare_float hw.confidence ⟨h.confidence.1, h.confidence.2.trans h.dominance.2⟩,
    hw.floor, hfinite, hw.seed, hseed, hw.resamples, hresamples, hw.reasons,
    readTexts_strs h.reasons_bounded h.reasons_nodup, hw.counterfactual,
    readCounterfactual_valid h hbounded, hw.complete, hw.losses, natural_nat]
  constructor
  · rintro ⟨out, hout⟩
    simp only [bind_eq_ok, exists_unit, raiseIf_eq_ok] at hout
    obtain ⟨scores, hread, -, -, -, -, -, -, residual, -, -, -, -, -, htime, -⟩ := hout
    exact ⟨(hscores.mp hread).1, htimes.mp htime⟩
  · rintro ⟨hevidence, hle⟩
    have hread := hscores.mpr ⟨hevidence, rfl⟩
    have hcounts : ¬1 < (r.candidates.map fun score =>
      score.pairedDeltasMs.length).dedup.length := by
      obtain ⟨n, hn⟩ := h.deltas
      have hsub : (r.candidates.map fun score => score.pairedDeltasMs.length).dedup ⊆ [n] := by
        intro m hm
        obtain ⟨score, hscore, rfl⟩ := List.mem_map.mp (List.mem_dedup.mp hm)
        exact List.mem_singleton.mpr (hn score hscore)
      exact not_lt.mpr ((List.nodup_dedup _).length_le_of_subset hsub)
    have hresidual : 0 ≤ r.unexplainedResidualShare ∧ r.unexplainedResidualShare ≤ 1 := by
      rw [h.residual]
      constructor <;> linarith [h.dominance.1, h.dominance.2]
    have hdecision : (r.abstained && r.top1.isSome) = false ∧
      (!r.abstained && r.top1.isNone) = false ∧
        (!r.abstained && decide (¬r.top1 = (r.candidates.map (·.candidateId)).head?)) = false := by
      have hhead := h.top1
      cases habstained : r.abstained with
      | true =>
        rw [habstained, if_pos rfl] at hhead
        simp [hhead]
      | false =>
        rw [habstained, if_neg (by simp)] at hhead
        refine ⟨rfl, ?_, by simp [hhead]⟩
        rw [hhead]
        simp [h.decided habstained]
    have hlosses : (decide (r.inputEventLossCount ≠ 0) && r.inputComplete) = false := by
      by_cases hzero : r.inputEventLossCount = 0
      · simp [hzero]
      · simp [h.losses hzero]
    have hreasons : decide (¬r.abstained = !r.abstainReasons.isEmpty) = false := by
      rw [decide_eq_false_iff_not, not_not]
      exact h.reasons
    rw [hread, ok_bind, List.nil_append]
    simp only [h.nodup, decide_true, Bool.not_true, raiseIf_false, ok_bind, ← h.top3, ne_eq,
      not_true_eq_false, decide_false, hcounts, hdecision.1, hdecision.2.1, hdecision.2.2, hreasons,
      readShare_float hw.residual hresidual, validateShares_valid h, not_lt.mpr h.floor, hlosses,
      htimes.mpr hle]
    exact ⟨_, rfl⟩

end Reading

/-! ## The evidence of a candidate -/

/-- What a packet holds of the spans added to it, each with its observation. -/
structure Collected (entries : List (Observation × LifecycleSpan)) (packet : Packet) : Prop where
  spanIds : packet.spanIds ≠ [] ↔ entries ≠ []
  owners : ∀ w, w ∈ packet.owners ↔ ∃ e ∈ entries, e.2.owner = w
  kinds : ∀ k, k ∈ packet.edgeKinds ↔ ∃ e ∈ entries, k ∈ incidentKinds e.1 e.2.spanId
  links : packet.traceloomLinkCount ≠ 0 ↔ ∃ e ∈ entries, supportedLinks e.1 e.2.spanId ≠ 0
  owners_nodup : packet.owners.Nodup
  kinds_nodup : packet.edgeKinds.Nodup

theorem collected_nil : Collected [] {} :=
  ⟨by simp, by simp, by simp, by simp, List.nodup_nil, List.nodup_nil⟩

theorem exists_left_of_forall₂ {α β : Type} {R : α → β → Prop} {xs : List α} {ys : List β}
    (h : List.Forall₂ R xs ys) {y : β} (hy : y ∈ ys) : ∃ x ∈ xs, R x y := by
  induction h with
  | nil => cases hy
  | @cons a b _ _ hab _ ih =>
    rcases List.mem_cons.mp hy with rfl | hy
    · exact ⟨a, List.mem_cons_self, hab⟩
    · obtain ⟨x, hx, hR⟩ := ih hy
      exact ⟨x, List.mem_cons_of_mem _ hx, hR⟩

theorem exists_mem_snoc {α : Type} {xs : List α} {x : α} {P : α → Prop} :
    (∃ e ∈ xs ++ [x], P e) ↔ (∃ e ∈ xs, P e) ∨ P x := by
  simp [or_and_right, exists_or]

theorem Collected.add {entries : List (Observation × LifecycleSpan)} {packet : Packet}
    (h : Collected entries packet) (o : Observation) (span : LifecycleSpan) :
    Collected (entries ++ [(o, span)]) (packet.add o span) := by
  refine ⟨?_, fun w => ?_, fun k => ?_, ?_, ?_, ?_⟩
  · have hmem : o.runId ++ "\x00" ++ span.spanId ∈ (packet.add o span).spanIds :=
      List.mem_insert_self
    exact ⟨fun _ => by simp, fun _ => List.ne_nil_of_mem hmem⟩
  · rw [exists_mem_snoc, ← h.owners, Packet.add, List.mem_insert_iff, or_comm]
    exact or_congr_right eq_comm
  · rw [exists_mem_snoc, ← h.kinds, Packet.add, List.mem_union_iff, or_comm]
  · have hcount : (packet.add o span).traceloomLinkCount =
        packet.traceloomLinkCount + supportedLinks o span.spanId := rfl
    rw [exists_mem_snoc, ← h.links, hcount]
    dsimp only
    omega
  · exact h.owners_nodup.insert
  · exact h.kinds_nodup.union _

/-- The spans of a candidate, each with its observation. -/
def entriesOf (os : List Observation) (candidate : String) : List (Observation × LifecycleSpan) :=
  os.flatMap fun o =>
    (o.lifecycleSpans.filter fun span => span.candidateId = candidate).map fun span => (o, span)

/-- The evidence of a candidate is gathered span by span: what the empty packet
has and each added span keeps, its packet has of all its spans. -/
theorem candidateEvidence_induction {P : List (Observation × LifecycleSpan) → Packet → Prop}
    (hnil : P [] {})
    (hadd : ∀ {entries packet}, P entries packet → ∀ (o : Observation) (span : LifecycleSpan),
      P (entries ++ [(o, span)]) (packet.add o span))
    (pairs : List MatchedPair) (candidate : String) :
    P (entriesOf (observations pairs) candidate) (candidateEvidence pairs candidate) := by
  have hspans : ∀ (o : Observation) (spans : List LifecycleSpan) {entries packet},
      P entries packet →
      P (entries ++ spans.map fun span => (o, span)) (spans.foldl (Packet.add o) packet) := by
    intro o spans
    induction spans with
    | nil =>
      intro entries packet h
      simpa using h
    | cons span rest ih =>
      intro entries packet h
      have hrest := ih (hadd h o span)
      rwa [List.append_assoc] at hrest
  have hfold : ∀ (os : List Observation) {entries packet}, P entries packet →
      P (entries ++ entriesOf os candidate) (os.foldl (fun packet o =>
        (o.lifecycleSpans.filter fun span => span.candidateId = candidate).foldl (Packet.add o)
          packet) packet) := by
    intro os
    induction os with
    | nil =>
      intro entries packet h
      simpa [entriesOf] using h
    | cons o rest ih =>
      intro entries packet h
      have hrest := ih (hspans o
        (o.lifecycleSpans.filter fun span => span.candidateId = candidate) h)
      rwa [List.append_assoc] at hrest
  exact hfold (observations pairs) hnil

theorem collected_candidateEvidence (pairs : List MatchedPair) (candidate : String) :
    Collected (entriesOf (observations pairs) candidate) (candidateEvidence pairs candidate) :=
  candidateEvidence_induction collected_nil Collected.add pairs candidate

theorem mem_entriesOf {os : List Observation} {candidate : String} {o : Observation}
    {span : LifecycleSpan} : (o, span) ∈ entriesOf os candidate ↔
      o ∈ os ∧ span ∈ o.lifecycleSpans ∧ span.candidateId = candidate := by
  simp only [entriesOf, List.mem_flatMap, List.mem_map, List.mem_filter, decide_eq_true_eq,
    Prod.mk.injEq]
  constructor
  · rintro ⟨o', ho, span', ⟨hspan, hcandidate⟩, rfl, rfl⟩
    exact ⟨ho, hspan, hcandidate⟩
  · rintro ⟨ho, hspan, hcandidate⟩
    exact ⟨o, ho, span, ⟨hspan, hcandidate⟩, rfl, rfl⟩

/-- Some span of the candidate, in either arm of some pair, has an edge of a
causal kind or a supported link. -/
def Linked (bundle : CaseBundle) (candidate : String) : Prop :=
  ∃ o ∈ observations bundle.pairs, ∃ span ∈ o.lifecycleSpans,
    span.candidateId = candidate ∧ isLinked o span = true

theorem hasEvidence_candidateScore {env : Environment} {bundle : CaseBundle}
    {candidates : List String} {candidate : String} :
    (candidateScore env bundle.pairs candidates candidate).HasEvidence ↔
      Linked bundle candidate := by
  have h := collected_candidateEvidence bundle.pairs candidate
  have hkinds : ∀ k, k ∈ (candidateScore env bundle.pairs candidates candidate).edgeKinds ↔
      k ∈ (candidateEvidence bundle.pairs candidate).edgeKinds := fun k =>
    (List.perm_insertionSort _ _).mem_iff
  have hlinks : (candidateScore env bundle.pairs candidates candidate).traceloomLinkCount =
      (candidateEvidence bundle.pairs candidate).traceloomLinkCount := rfl
  rw [CandidateScore.HasEvidence, hlinks, h.links]
  simp only [hkinds, h.kinds]
  constructor
  · rintro (⟨k, ⟨⟨o, span⟩, hmem, hk⟩, hne⟩ | ⟨⟨o, span⟩, hmem, hne⟩)
    · obtain ⟨ho, hspan, hcandidate⟩ := mem_entriesOf.mp hmem
      refine ⟨o, ho, span, hspan, hcandidate, ?_⟩
      rw [isLinked, Bool.or_eq_true]
      exact .inl (List.any_eq_true.mpr ⟨k, hk, decide_eq_true hne⟩)
    · obtain ⟨ho, hspan, hcandidate⟩ := mem_entriesOf.mp hmem
      refine ⟨o, ho, span, hspan, hcandidate, ?_⟩
      rw [isLinked, Bool.or_eq_true]
      exact .inr (decide_eq_true (Nat.pos_of_ne_zero hne))
  · rintro ⟨o, ho, span, hspan, hcandidate, hlinked⟩
    have hmem := mem_entriesOf.mpr ⟨ho, hspan, hcandidate⟩
    rw [isLinked, Bool.or_eq_true] at hlinked
    rcases hlinked with hany | hcount
    · obtain ⟨k, hk, hne⟩ := List.any_eq_true.mp hany
      exact .inl ⟨k, ⟨(o, span), hmem, hk⟩, of_decide_eq_true hne⟩
    · exact .inr ⟨(o, span), hmem, (of_decide_eq_true hcount).ne'⟩

/-! ## What validation leaves -/

/-- The facts about an accepted observation that scoring relies on. -/
structure Observation.Sound (o : Observation) : Prop where
  owners : ∀ span ∈ o.lifecycleSpans, isBoundedText span.owner 128 = true
  accounted : ∀ span ∈ o.lifecycleSpans, 0 ≤ span.accountedDurationMs
  kinds : ∀ edge ∈ o.lifecycleEdges, edge.kind ∈ causalEdgeKinds

structure CaseBundle.Sound (bundle : CaseBundle) : Prop where
  caseId : isBoundedText bundle.caseId 64 = true
  length : 5 ≤ bundle.pairs.length
  observations : ∀ o ∈ observations bundle.pairs, o.Sound

theorem bounded_of_readText {place : String} {record : Dict} {key s : String} {limit : Nat}
    (h : readText place record key limit = .ok s) : isBoundedText s limit = true :=
  (boundedText_eq_some (require_eq_ok.mp h)).2

theorem mem_of_readMember {value : Value} {roster : List String} {message s : String}
    (h : readMember value roster message = .ok s) : s ∈ roster := by
  simp only [readMember, bind_eq_ok, exists_unit, raiseIf_eq_ok, Bool.not_eq_false'] at h
  obtain ⟨_, hset, rfl, h⟩ := h
  obtain ⟨t, ht, rfl⟩ := inSet_eq_true.mp hset
  rw [Except.ok.injEq] at h
  exact h ▸ ht

theorem sound_of_readSpan {candidates : List String} {events : List NormalizedEvent}
    {place : String} {done : List LifecycleSpan} {value : Value} {span : LifecycleSpan}
    (h : readSpan candidates events place done value = .ok span) :
    isBoundedText span.owner 128 = true ∧ 0 ≤ span.accountedDurationMs := by
  simp only [readSpan, bind_eq_ok, exists_unit, raiseIf_eq_ok, require_eq_ok, pure_eq_ok,
    Bool.or_eq_false_iff, decide_eq_false_iff_not, not_lt] at h
  obtain ⟨_, -, -, _, -, -, _, -, _, -, _, -, -, _, -, owner, howner, _, -, _, -, _, -, _, -, -, q,
    -, ⟨hq, -⟩, -, -, rfl⟩ := h
  exact ⟨bounded_of_readText howner, hq⟩

theorem kind_of_readEdge {spans : List LifecycleSpan} {place : String}
    {done : List LifecycleEdge} {value : Value} {edge : LifecycleEdge}
    (h : readEdge spans place done value = .ok edge) : edge.kind ∈ causalEdgeKinds := by
  simp only [readEdge, bind_eq_ok, exists_unit, raiseIf_eq_ok, require_eq_ok, pure_eq_ok] at h
  obtain ⟨_, -, -, _, -, _, -, kind, hkind, -, -, -, rfl⟩ := h
  exact mem_of_readMember hkind

theorem sound_of_readObservation {depth : Nat} {candidates runIds : List String} {place : String}
    {value : Value} {o : Observation}
    (h : readObservation depth candidates runIds place value = .ok o) : o.Sound := by
  simp only [readObservation, bind_eq_ok, exists_unit, raiseIf_eq_ok, require_eq_ok, pure_eq_ok]
    at h
  obtain ⟨_, -, -, _, -, -, _, -, _, -, _, -, _, -, _, -, _, -, _, -, _, -, -, events, -, spans,
    hspans, edges, hedges, -, -, _, -, -, rfl⟩ := h
  have hsound := readEach_forall (fun _ _ _ _ h => sound_of_readSpan h) hspans (by simp)
  exact ⟨fun span hspan => (hsound span hspan).1, fun span hspan => (hsound span hspan).2,
    readEach_forall (fun _ _ _ _ h => kind_of_readEdge h) hedges (by simp)⟩

theorem sound_of_readPair {depth : Nat} {candidates : List String} {place : String}
    {done : List MatchedPair} {value : Value} {pair : MatchedPair}
    (h : readPair depth candidates place done value = .ok pair) :
    pair.baseline.Sound ∧ pair.treatment.Sound := by
  simp only [readPair, bind_eq_ok, exists_unit, raiseIf_eq_ok, require_eq_ok, pure_eq_ok] at h
  obtain ⟨_, -, -, _, -, -, _, -, _, -, baseline, hbaseline, treatment, htreatment, -, -, rfl⟩ := h
  exact ⟨sound_of_readObservation hbaseline, sound_of_readObservation htreatment⟩

theorem length_readEach {α : Type} {body : Nat → List α → Value → Except PyError α} :
    ∀ {values : List Value} {done out : List α}, readEach body done values = .ok out →
      out.length = done.length + values.length
  | [], done, out, h => by
    rw [readEach, Except.ok.injEq] at h
    rw [← h, List.length_nil, Nat.add_zero]
  | value :: rest, done, out, h => by
    rw [readEach, bind_eq_ok] at h
    obtain ⟨record, -, hrest⟩ := h
    have hlength := length_readEach hrest
    rw [List.length_append, List.length_singleton] at hlength
    rw [List.length_cons]
    omega

theorem sound_of_validateCaseBundle {depth : Nat} {value : Value} {candidateIds : List String}
    {bundle : CaseBundle} (h : validateCaseBundle depth value candidateIds = .ok bundle) :
    bundle.Sound := by
  simp only [validateCaseBundle, bind_eq_ok, exists_unit, raiseIf_eq_ok, require_eq_ok, pure_eq_ok,
    Bool.or_eq_false_iff, decide_eq_false_iff_not, not_lt] at h
  obtain ⟨-, -, -, record, -, -, -, caseId, hcase, -, items, -, ⟨hfive, -⟩, _, -, -, pairs, hpairs,
    rfl⟩ := h
  refine ⟨(boundedText_eq_some hcase).2, ?_, fun o ho => ?_⟩
  · rw [length_readEach hpairs]
    exact hfive.trans (Nat.le_add_left _ _)
  · have hsound := readEach_forall (fun _ _ _ _ h => sound_of_readPair h) hpairs (by simp)
    obtain ⟨pair, hpair, ho⟩ := List.mem_flatMap.mp ho
    rcases List.mem_cons.mp ho with rfl | ho
    · exact (hsound pair hpair).1
    · exact List.mem_singleton.mp ho ▸ (hsound pair hpair).2

/-! ## What the scorer returns -/

section Scored
variable {env : Environment} {bundle : CaseBundle} {candidateIds : List String} {floor : ℚ}

theorem candidateTotal_nonneg {o : Observation} (h : o.Sound) (candidate : String) :
    0 ≤ candidateTotal o.lifecycleSpans candidate := by
  refine List.sum_nonneg fun q hq => ?_
  obtain ⟨span, hspan, rfl⟩ := List.mem_map.mp hq
  exact h.accounted span (List.mem_of_mem_filter hspan)

theorem mem_observations {pairs : List MatchedPair} {pair : MatchedPair} (h : pair ∈ pairs) :
    pair.baseline ∈ observations pairs ∧ pair.treatment ∈ observations pairs :=
  ⟨List.mem_flatMap.mpr ⟨pair, h, List.mem_cons_self⟩,
    List.mem_flatMap.mpr ⟨pair, h, List.mem_cons_of_mem _ List.mem_cons_self⟩⟩

theorem length_pairDeltas (candidate : String) :
    (pairDeltas bundle.pairs candidate).length = bundle.pairs.length := List.length_map _

theorem pairDeltas_ne_nil (h : bundle.Sound) (candidate : String) :
    pairDeltas bundle.pairs candidate ≠ [] := by
  rw [← List.length_pos_iff, length_pairDeltas]
  exact Nat.lt_of_lt_of_le (by decide) h.length

/-- A candidate with a positive median has a span in a treatment arm. -/
theorem entries_ne_nil (h : bundle.Sound) {candidate : String}
    (hpos : 0 < medians bundle candidate) :
    entriesOf (observations bundle.pairs) candidate ≠ [] := by
  obtain ⟨delta, hdelta, hgain⟩ := exists_pos_of_median_pos (pairDeltas_ne_nil h candidate) hpos
  obtain ⟨pair, hpair, rfl⟩ := List.mem_map.mp hdelta
  obtain ⟨hbaseline, htreatment⟩ := mem_observations hpair
  have hbase := candidateTotal_nonneg (h.observations _ hbaseline) candidate
  have hspans : (pair.treatment.lifecycleSpans.filter
      fun span => span.candidateId = candidate) ≠ [] := by
    intro hnone
    have hzero : candidateTotal pair.treatment.lifecycleSpans candidate = 0 := by
      rw [candidateTotal, hnone]
      rfl
    rw [hzero] at hgain
    linarith
  obtain ⟨span, hspan⟩ := List.exists_mem_of_ne_nil _ hspans
  obtain ⟨hmem, hcandidate⟩ := List.mem_filter.mp hspan
  exact List.ne_nil_of_mem (mem_entriesOf.mpr ⟨htreatment, hmem, of_decide_eq_true hcandidate⟩)

theorem median_le_positiveTotal {value : String → ℚ} {candidates : List String} {candidate : String}
    (h : candidate ∈ candidates) : value candidate ≤ positiveTotal value candidates := by
  have hnonneg : ∀ q ∈ candidates.map fun c => max 0 (value c), (0 : ℚ) ≤ q := by
    intro q hq
    obtain ⟨c, -, rfl⟩ := List.mem_map.mp hq
    exact le_max_left 0 _
  exact (le_max_right 0 (value candidate)).trans
    (List.single_le_sum hnonneg _ (List.mem_map_of_mem h))

theorem percentileInterval_le {values : List ℚ} (h : values ≠ []) :
    (percentileInterval values).1 ≤ (percentileInterval values).2 :=
  nearestRank_mono (by norm_num) (by norm_num) h

theorem iqr_nonneg {values : List ℚ} (h : values ≠ []) : 0 ≤ iqr values :=
  sub_nonneg.mpr (nearestRank_mono (by norm_num) (by norm_num) h)

theorem valid_candidateScore (h : bundle.Sound) (hvocabulary : validVocabulary candidateIds = true)
    {candidate : String}
    (hranked : candidate ∈ rankedIds (medians bundle) (measurable candidateIds)) :
    (candidateScore env bundle.pairs (measurable candidateIds) candidate).Valid
      (measurable candidateIds) := by
  obtain ⟨hmem, hpos⟩ := mem_rankedIds.mp hranked
  have hvalues := pairDeltas_ne_nil h candidate
  have hentries := entries_ne_nil h hpos
  have hcollected := collected_candidateEvidence bundle.pairs candidate
  have hsorted : ∀ (texts : List String) (w : String),
      w ∈ texts.insertionSort (· ≤ ·) ↔ w ∈ texts := fun _ _ =>
    (List.perm_insertionSort _ _).mem_iff
  have htotal : medians bundle candidate ≤
      positiveTotal (medians bundle) (measurable candidateIds) := median_le_positiveTotal hmem
  simp only [validVocabulary, Bool.and_eq_true] at hvocabulary
  refine {
    bounded := List.all_eq_true.mp hvocabulary.1.2 _ (List.mem_of_mem_filter hmem)
    allowed := hmem
    deltas := ?_
    interval := percentileInterval_le ?_
    median_pos := hpos
    median_eq := rfl
    iqr_nonneg := iqr_nonneg hvalues
    iqr_eq := rfl
    share := ?_
    frequency := ?_
    spans := ?_
    owners := ?_
    owners_bounded := fun w hw => ?_
    owners_nodup := (List.perm_insertionSort _ _).nodup_iff.mpr hcollected.owners_nodup
    kinds := fun k hk => ?_
    kinds_nodup := (List.perm_insertionSort _ _).nodup_iff.mpr hcollected.kinds_nodup }
  · exact h.length.trans (length_pairDeltas candidate).ge
  · simp [bootstrapMedians, bootstrapResamples]
  · exact ⟨div_nonneg hpos.le (hpos.le.trans htotal),
      div_le_one_of_le₀ htotal (hpos.le.trans htotal)⟩
  · have hcount : top1Count env.draws (pairDeltas bundle.pairs)
      (measurable candidateIds) candidate ≤
        bootstrapResamples := List.countP_le_length.trans (List.length_range).le
    refine ⟨div_nonneg (Nat.cast_nonneg _) (Nat.cast_nonneg _), ?_⟩
    exact div_le_one_of_le₀ (Nat.cast_le.mpr hcount) (Nat.cast_nonneg _)
  · have hspans := hcollected.spanIds.mpr hentries
    exact (List.length_pos_iff.mpr hspans).ne'
  · obtain ⟨e, he⟩ := List.exists_mem_of_ne_nil _ hentries
    have howner := (hcollected.owners e.2.owner).mpr ⟨e, he, rfl⟩
    exact List.ne_nil_of_mem ((hsorted _ _).mpr howner)
  · obtain ⟨⟨o, span⟩, he, rfl⟩ := (hcollected.owners w).mp ((hsorted _ _).mp hw)
    obtain ⟨ho, hspan, -⟩ := mem_entriesOf.mp he
    exact (h.observations o ho).owners span hspan
  · obtain ⟨⟨o, span⟩, he, hkind⟩ := (hcollected.kinds k).mp ((hsorted _ _).mp hk)
    obtain ⟨ho, -, -⟩ := mem_entriesOf.mp he
    obtain ⟨edge, hedge, rfl⟩ := List.mem_map.mp (List.mem_dedup.mp hkind)
    exact (h.observations o ho).kinds edge (List.mem_of_mem_filter hedge)

/-- Every reason to abstain. -/
def reasonNames : List String :=
  ["incomplete_identity", "event_loss", "clock_ambiguity", "unmatched_configuration",
   "unsupported_lifecycle_span", "unsupported_normalized_event",
   "unsupported_or_ambiguous_traceloom_link", "traceloom_evidence_not_verified",
   "traceloom_resolution_failure", "traceloom_device_occurrence_missing",
   "traceloom_device_occurrence_mismatch", "traceloom_device_cost_mismatch",
   "unlinked_lifecycle_span", "below_insufficient_evidence_floor", "no_positive_candidate_delta",
   "no_single_root_cause", "excess_unexplained_residual",
   "top_candidate_bootstrap_ci_crosses_zero"]

theorem reasonNames_bounded : ∀ reason ∈ reasonNames, isBoundedText reason 128 = true := by
  decide +kernel

theorem given_subset {bad : Bool} {name : String} (h : name ∈ reasonNames) :
    (if bad then [name] else []) ⊆ reasonNames := by
  split
  · exact List.cons_subset.mpr ⟨h, List.nil_subset _⟩
  · exact List.nil_subset _

theorem resolvedReasons_subset {o : Observation} {row : ResolvedLink} {reasons : List String}
    (h : resolvedReasons o row = .ok reasons) : reasons ⊆ reasonNames := by
  simp only [resolvedReasons, bind_eq_ok, require_eq_ok] at h
  obtain ⟨span, -, h⟩ := h
  have hlineage : (if row.hasLineage then [] else ["traceloom_resolution_failure"]) ⊆
      reasonNames := by
    split
    · exact List.nil_subset _
    · simp [reasonNames]
  split at h
  · rw [pure_eq_ok] at h
    exact h ▸ hlineage
  · split at h
    · rw [pure_eq_ok] at h
      exact h ▸ List.append_subset.mpr ⟨hlineage, by simp [reasonNames]⟩
    · rw [pure_eq_ok] at h
      rw [← h, List.append_subset, List.append_subset]
      exact ⟨⟨hlineage, given_subset (by simp [reasonNames])⟩, given_subset (by simp [reasonNames])⟩

theorem verifyTraceloomEvidence_subset {o : Observation} {reasons : List String}
    (h : verifyTraceloomEvidence env o = .ok reasons) : reasons ⊆ reasonNames := by
  unfold verifyTraceloomEvidence at h
  split at h
  · cases h
    exact List.nil_subset _
  · split at h
    · cases h
      simp [reasonNames]
    · split at h
      · cases h
        simp [reasonNames]
      · split at h
        · cases h
          simp [reasonNames]
        · simp only [bind_eq_ok, pure_eq_ok] at h
          obtain ⟨rows, hrows, rfl⟩ := h
          intro reason hreason
          obtain ⟨found, hfound, hreason⟩ := List.mem_flatten.mp hreason
          have hall := forall₂_of_mapM hrows
          obtain ⟨row, -, hrow⟩ := exists_left_of_forall₂ hall hfound
          exact resolvedReasons_subset hrow hreason

theorem observationReasons_subset {o : Observation} {reasons : List String}
    (h : observationReasons env o = .ok reasons) : reasons ⊆ reasonNames := by
  simp only [observationReasons, bind_eq_ok, pure_eq_ok] at h
  obtain ⟨verified, hverified, rfl⟩ := h
  have hverified := verifyTraceloomEvidence_subset hverified
  simp only [List.append_subset]
  refine ⟨⟨⟨⟨⟨⟨⟨⟨?_, ?_⟩, ?_⟩, ?_⟩, ?_⟩, ?_⟩, ?_⟩, hverified⟩, ?_⟩
  all_goals exact given_subset (by simp [reasonNames])

theorem evidenceReasons_subset {evidence : List String}
    (h : evidenceReasons env bundle.pairs = .ok evidence) : evidence ⊆ reasonNames := by
  simp only [evidenceReasons, bind_eq_ok, pure_eq_ok] at h
  obtain ⟨found, hfound, rfl⟩ := h
  intro reason hreason
  obtain ⟨reasons, hmem, hreason⟩ := List.mem_flatten.mp (List.mem_dedup.mp hreason)
  obtain ⟨o, -, ho⟩ := exists_left_of_forall₂ (forall₂_of_mapM hfound) hmem
  exact observationReasons_subset ho hreason

theorem gateReasons_subset {value : String → ℚ} {candidates : List String}
    {scores : List CandidateScore} : gateReasons value candidates floor scores ⊆ reasonNames := by
  simp only [gateReasons, List.append_subset]
  refine ⟨⟨⟨⟨?_, ?_⟩, ?_⟩, ?_⟩, ?_⟩
  all_goals exact given_subset (by simp [reasonNames])

/-- A loss is a reason to abstain. -/
theorem lossCount_ne_zero {evidence : List String}
    (h : evidenceReasons env bundle.pairs = .ok evidence) (hloss : lossCount bundle.pairs ≠ 0) :
    evidence.isEmpty = false := by
  rw [List.isEmpty_eq_false_iff]
  rintro rfl
  exact hloss (lossCount_eq_zero h)

theorem rankedIds_nodup (h : candidateIds.Nodup) :
    (rankedIds (medians bundle) (measurable candidateIds)).Nodup :=
  (ranked_perm.nodup_iff.mpr (h.filter _)).filter _

/-- The share of the first candidate, or none. -/
theorem dominance_eq {value : String → ℚ} {candidates : List String} :
    (∀ top ∈ (rankedIds value candidates).head?,
      dominance value candidates = value top / positiveTotal value candidates) ∧
    (rankedIds value candidates = [] → dominance value candidates = 0) := by
  constructor
  · intro top htop
    have hmem := mem_rankedIds.mp (List.mem_of_mem_head? htop)
    have htotal := hmem.2.trans_le (median_le_positiveTotal hmem.1)
    unfold dominance
    rw [Option.mem_def.mp htop]
    dsimp only
    rw [if_pos htotal.ne', max_eq_right hmem.2.le]
  · intro hnone
    unfold dominance
    rw [hnone]
    rfl

theorem residual_eq {value : String → ℚ} {candidates : List String} :
    residual value candidates = 1 - dominance value candidates := by
  unfold residual
  split
  · rfl
  · next hzero =>
    rw [not_not, positiveTotal_eq] at hzero
    have hnone : rankedIds value candidates = [] := by
      by_contra hne
      obtain ⟨top, htop⟩ := List.exists_mem_of_ne_nil _ hne
      have hmem := mem_rankedIds.mp htop
      have hle : value top ≤ positiveTotal value candidates := median_le_positiveTotal hmem.1
      rw [positiveTotal_eq, hzero] at hle
      exact absurd hmem.2 (not_lt.mpr hle)
    rw [dominance_eq.2 hnone, sub_zero]

/-- The shares of the ranking add up to one. -/
theorem sum_shares {r : AttributionResult}
    (hscore : scoreValidatedCase env bundle candidateIds floor = .ok r) (hne : r.candidates ≠ []) :
    (r.candidates.map (·.positiveDeltaShare)).sum = 1 := by
  rw [scored_candidates hscore] at hne ⊢
  have hranked : rankedIds (medians bundle) (measurable candidateIds) ≠ [] := by simpa using hne
  obtain ⟨top, htop⟩ := List.exists_mem_of_ne_nil _ hranked
  have hmem := mem_rankedIds.mp htop
  have htotal : 0 < positiveTotal (medians bundle) (measurable candidateIds) :=
    hmem.2.trans_le (median_le_positiveTotal hmem.1)
  have hshares : (rankedIds (medians bundle) (measurable candidateIds)).map
      ((·.positiveDeltaShare) ∘ candidateScore env bundle.pairs (measurable candidateIds)) =
      (rankedIds (medians bundle) (measurable candidateIds)).map fun c =>
        medians bundle c * (positiveTotal (medians bundle) (measurable candidateIds))⁻¹ := by
    refine List.map_congr_left fun c _ => ?_
    rw [← div_eq_mul_inv]
    rfl
  rw [List.map_map, hshares, List.sum_map_mul_right, ← positiveTotal_eq, mul_inv_cancel₀ htotal.ne']

theorem valid_of_scored {r : AttributionResult} (h : bundle.Sound)
    (hinputs : validateScorerInputs candidateIds floor = .ok ())
    (hscore : scoreValidatedCase env bundle candidateIds floor = .ok r) : r.Valid candidateIds := by
  simp only [validateScorerInputs, bind_eq_ok, exists_unit, raiseIf_eq_ok, Bool.or_eq_false_iff,
    Bool.not_eq_false', decide_eq_false_iff_not, not_lt] at hinputs
  obtain ⟨⟨⟨hvocabulary, -⟩, -⟩, hfloor⟩ := hinputs
  have hids : candidateIds.Nodup := by
    simp only [validVocabulary, Bool.and_eq_true, decide_eq_true_eq] at hvocabulary
    exact hvocabulary.2
  have hcandidates := scored_candidates hscore
  have hnames : r.candidates.map (·.candidateId) =
      rankedIds (medians bundle) (measurable candidateIds) := by
    rw [hcandidates, List.map_map]
    exact List.map_id _
  have hshares := sum_shares hscore
  have hempty : r.candidates = [] ↔ rankedIds (medians bundle) (measurable candidateIds) = [] := by
    rw [← hnames, List.map_eq_nil_iff]
  have hdecided := decided_iff hscore
  simp only [scoreValidatedCase, bind_eq_ok, pure_eq_ok] at hscore
  obtain ⟨evidence, hevidence, heq⟩ := hscore
  have hvalue : r.dominanceScore = dominance (medians bundle) (measurable candidateIds) := by
    rw [← heq]
  have hdominance : 0 ≤ r.dominanceScore ∧ r.dominanceScore ≤ 1 := by
    rw [hvalue]
    cases hranked : (rankedIds (medians bundle) (measurable candidateIds)).head? with
    | none =>
      rw [dominance_eq.2 (List.head?_eq_none_iff.mp hranked)]
      norm_num
    | some top =>
      have hmem := List.mem_of_mem_head? (Option.mem_def.mpr hranked)
      rw [dominance_eq.1 top hranked]
      have hvalid : (candidateScore env bundle.pairs (measurable candidateIds) top).Valid _ :=
        valid_candidateScore h hvocabulary hmem
      exact hvalid.share
  have hscores : ∀ score ∈ r.candidates, score.Valid (measurable candidateIds) := by
    intro score hmem
    rw [hcandidates] at hmem
    obtain ⟨candidate, hranked, rfl⟩ := List.mem_map.mp hmem
    exact valid_candidateScore h hvocabulary hranked
  have hreasons : r.abstainReasons = (evidence ++ gateReasons (medians bundle)
      (measurable candidateIds) floor r.candidates).dedup.insertionSort (· ≤ ·) := by
    rw [hcandidates, ← heq]
  have habstained : r.abstained = !(evidence ++ gateReasons (medians bundle)
      (measurable candidateIds) floor r.candidates).dedup.isEmpty := by
    rw [hcandidates, ← heq]
  have hconfidence : r.confidenceScore =
      min r.dominanceScore ((r.candidates.head?.map (·.top1SelectionFrequency)).getD 0) := by
    rw [hcandidates, ← heq]
  refine {
    schema := by rw [← heq]
    caseId := by rw [← heq]; exact h.caseId
    m0Status := by rw [← heq]
    scores := hscores
    nodup := hnames ▸ rankedIds_nodup hids
    deltas := ⟨bundle.pairs.length, fun score hmem => ?_⟩
    top1 := by rw [hnames, ← heq]
    decided := fun hopen hnone => ?_
    top3 := by rw [hnames, ← heq]
    counterfactual := ?_
    reasons := ?_
    reasons_bounded := fun reason hreason => ?_
    reasons_nodup := ?_
    dominance := hdominance
    residual := by rw [← heq]; exact residual_eq
    confidence := ?_
    shares := hshares
    top_share := fun top htop => ?_
    no_share := fun hnone => ?_
    floor := by rw [← heq]; exact hfloor
    seed := by rw [← heq]
    resamples := by rw [← heq]
    losses := fun hloss => ?_ }
  · rw [hcandidates] at hmem
    obtain ⟨candidate, -, rfl⟩ := List.mem_map.mp hmem
    exact length_pairDeltas candidate
  · exact (gateReasons_eq_nil.mp (hdecided.mp hopen).2).2.1 (hempty.mp hnone)
  · rw [← heq]
    dsimp only
    split <;> rfl
  · rw [hreasons, habstained, Bool.not_inj_iff, Bool.eq_iff_iff, List.isEmpty_iff, List.isEmpty_iff,
      ← List.length_eq_zero_iff, ← List.length_eq_zero_iff,
      (List.perm_insertionSort (· ≤ ·) _).length_eq]
  · rw [hreasons, (List.perm_insertionSort _ _).mem_iff, List.mem_dedup] at hreason
    exact reasonNames_bounded _ ((List.append_subset.mpr
      ⟨evidenceReasons_subset hevidence, gateReasons_subset⟩) hreason)
  · rw [hreasons, (List.perm_insertionSort _ _).nodup_iff]
    exact List.nodup_dedup _
  · rw [hconfidence]
    refine ⟨le_min hdominance.1 ?_, min_le_left _ _⟩
    cases htop : r.candidates.head? with
    | none => exact le_refl _
    | some top => exact (hscores top (List.mem_of_mem_head? (Option.mem_def.mpr htop))).frequency.1
  · rw [hcandidates, List.head?_map, Option.mem_def, Option.map_eq_some_iff] at htop
    obtain ⟨candidate, hcandidate, rfl⟩ := htop
    exact (hvalue.trans (dominance_eq.1 candidate hcandidate)).symm
  · exact hvalue.trans (dominance_eq.2 (hempty.mp hnone))
  · rw [← heq] at hloss ⊢
    exact lossCount_ne_zero hevidence hloss

/-- What the checks on a scored payload come to. -/
theorem locked_iff {env : Environment} {timing : Timing} {render : ℚ → String} {value : Value}
    {method : String} {candidateIds : List String} {floor : ℚ} {bundle : CaseBundle}
    {payload : Dict}
    (hbundle : validateCaseBundle env.recursionDepth value candidateIds = .ok bundle)
    (hpayload : timedScoreCase env timing render value method candidateIds floor = .ok payload) :
    writeLockedMethodResult timing.fromisoformat none payload candidateIds = .ok payload ↔
      (∀ candidate ∈ measurable candidateIds, 0 < medians bundle candidate →
        Linked bundle candidate) ∧ timing.startedAt ≤ timing.endedAt := by
  simp only [timedScoreCase, bind_eq_ok, exists_unit, raiseIf_eq_ok, pure_eq_ok, hbundle,
    Except.ok.injEq, exists_eq_left', decide_eq_false_iff_not, not_not] at hpayload
  obtain ⟨rfl, hinputs, r, hscore, rfl⟩ := hpayload
  have hvalid := valid_of_scored (sound_of_validateCaseBundle hbundle) hinputs hscore
  have hvocabulary : validVocabulary candidateIds = true := by
    simp only [validateScorerInputs, bind_eq_ok, exists_unit, raiseIf_eq_ok, Bool.or_eq_false_iff,
      Bool.not_eq_false'] at hinputs
    exact hinputs.1.1.1
  have hwritten : writeLockedMethodResult timing.fromisoformat none
      (r.payload render timing "full_lifecycle_dag") candidateIds =
      .ok (r.payload render timing "full_lifecycle_dag") ↔
      ∃ out, readMethodResult timing.fromisoformat (r.payload render timing "full_lifecycle_dag")
        candidateIds = .ok out := by
    unfold writeLockedMethodResult
    rw [bind_eq_ok]
    exact exists_congr fun out => and_iff_left rfl
  rw [hwritten, readMethodResult_payload hvalid hvocabulary, scored_candidates hscore]
  refine and_congr_left fun _ => ?_
  simp only [List.forall_mem_map, hasEvidence_candidateScore, mem_rankedIds, and_imp]

/-- **Exactly when a scored payload can be locked.** What the scorer returns for a
valid bundle passes the checks of `write_locked_method_result` if and only if
every candidate with a positive median has a linked span and the wall clock did
not go back during the run. -/
theorem timed_score_case_locked (env : Environment) (timing : Timing) (render : ℚ → String)
    (value : Value) (method : String) (candidateIds : List String) (floor : ℚ)
    (bundle : CaseBundle) (payload : Dict)
    (hbundle : validateCaseBundle env.recursionDepth value candidateIds = .ok bundle)
    (hpayload : timedScoreCase env timing render value method candidateIds floor = .ok payload) :
    writeLockedMethodResult timing.fromisoformat none payload candidateIds = .ok payload ↔
      (∀ candidate ∈ measurable candidateIds, 0 < medians bundle candidate →
        Linked bundle candidate) ∧ timing.startedAt ≤ timing.endedAt :=
  locked_iff hbundle hpayload

end Scored

/-! ## A case without causal evidence -/

namespace Sample

def identityFields : Dict :=
  [("trace_id", .str "trace-0"), ("engine_lifecycle_id", .str "trace-0:e:0"),
   ("recovery_epoch", .int 0), ("request_id", .str "request-0"), ("clock_domain", .str "host"),
   ("evidence_source", .str "runtime"), ("support_state", .str "supported_exact")]

def eventValue (eventId : String) (timestampNs : Int) : Value :=
  .dict ([("event_id", .str eventId), ("scope", .str "engine_sample"),
    ("component", .str "engine_core"), ("event_name", .str "scheduled"),
    ("timestamp_ns", .int timestampNs)] ++ identityFields)

def spanValue (spanId endEventId : String) (endNs : Int) (accounted : ℚ) : Value :=
  .dict ([("span_id", .str spanId), ("start_event_id", .str "event-0"),
    ("end_event_id", .str endEventId), ("candidate_id", .str "queue_or_admission"),
    ("owner", .str "scheduler"), ("start_ns", .int 0), ("end_ns", .int endNs),
    ("accounted_duration_ms", number accounted)] ++ identityFields)

def edgeValue (edge : LifecycleEdge) : Value :=
  .dict [("source_span_id", .str edge.sourceSpanId), ("target_span_id", .str edge.targetSpanId),
    ("kind", .str edge.kind)]

def observationValue (runId : String) (accounted : ℚ) (edges : List LifecycleEdge) : Value :=
  .dict [("run_id", .str runId), ("configuration_id", .str "configuration-0"),
    ("clock_model_id", .str "clock-0"),
    ("metrics", .dict [("ttft_ms", .int 1), ("tpot_ms", .int 1), ("latency_ms", .int 1),
      ("throughput_rps", .int 1), ("error_count", .int 0)]),
    ("evidence_status", .dict [("identity_complete", .bool true), ("event_loss_count", .int 0),
      ("clock_ambiguous", .bool false), ("configuration_matched", .bool true)]),
    ("normalized_events", .list [eventValue "event-0" 0, eventValue "event-1" 10000000]),
    ("lifecycle_spans", .list [spanValue "span-0" "event-1" 10000000 accounted,
      spanValue "span-1" "event-0" 0 0]),
    ("lifecycle_edges", .list (edges.map edgeValue)), ("traceloom_links", .list [])]

def pairValue (index order : String) (edges : List LifecycleEdge) : Value :=
  .dict [("pair_id", .str ("pair-" ++ index)), ("order", .str order),
    ("matching", .dict [("workload_id", .str "workload-0"), ("request_order_id", .str "order-0"),
      ("prompt_tokens", .int 8), ("output_tokens", .int 8), ("concurrency", .int 1),
      ("batch_shape", .list [.int 1])]),
    ("baseline", observationValue ("baseline-" ++ index) 0 edges),
    ("treatment", observationValue ("treatment-" ++ index) 10 edges)]

/-- The JSON object of the case with the given edges. -/
def bundleValue (edges : List LifecycleEdge) : Value :=
  .dict [("schema", .str caseSchema), ("case_id", .str "case-0"),
    ("pairs", .list [pairValue "0" "AB" edges, pairValue "1" "BA" edges, pairValue "2" "AB" edges,
      pairValue "3" "BA" edges, pairValue "4" "AB" edges])]

/-- A run whose clocks stand still. -/
def timing : Timing where
  startedAt := 1787788800000000
  endedAt := 1787788800000000
  startedNs := 0
  endedNs := 0
  isoformat _ := startedAt
  fromisoformat := fromisoformat
  monotonic := le_refl _
  startedAt_bounded := by decide +kernel
  endedAt_bounded := by decide +kernel
  startedAt_read := if_pos rfl
  endedAt_read := if_pos rfl

def render (_ : ℚ) : String := ""

/-- The case is valid, and so is what is asked of it. -/
def accepts (edges : List LifecycleEdge) (holds : CaseBundle → Bool) : Bool :=
  match validateCaseBundle env.recursionDepth (bundleValue edges) candidateIds with
  | .ok bundle => (evidenceReasons env bundle.pairs).isOk && holds bundle
  | .error _ => false

end Sample

instance (bundle : CaseBundle) (candidate : String) : Decidable (Linked bundle candidate) :=
  inferInstanceAs (Decidable (∃ o ∈ observations bundle.pairs, ∃ span ∈ o.lifecycleSpans,
    span.candidateId = candidate ∧ isLinked o span = true))

/-- The scorer returns a payload for an accepted sample case. -/
theorem exists_scored_sample {edges : List LifecycleEdge} {holds : CaseBundle → Bool}
    (h : Sample.accepts edges holds = true) :
    ∃ bundle payload, validateCaseBundle Sample.env.recursionDepth (Sample.bundleValue edges)
      Sample.candidateIds = .ok bundle ∧ holds bundle = true ∧
      timedScoreCase Sample.env Sample.timing Sample.render (Sample.bundleValue edges)
        "full_lifecycle_dag" Sample.candidateIds 5 = .ok payload := by
  unfold Sample.accepts at h
  split at h
  · next bundle hbundle =>
    rw [Bool.and_eq_true] at h
    cases hevidence : evidenceReasons Sample.env bundle.pairs with
    | error e => rw [hevidence] at h; exact absurd h.1 (by simp [Except.isOk, Except.toBool])
    | ok evidence =>
      have hscored : ∃ r, scoreValidatedCase Sample.env bundle Sample.candidateIds 5 = .ok r :=
        exists_scored hevidence
      obtain ⟨r, hr⟩ := hscored
      have hinputs : validateScorerInputs Sample.candidateIds 5 = .ok () := by
        simp only [validateScorerInputs, bind_eq_ok, exists_unit, raiseIf_eq_ok]
        exact ⟨by decide +kernel, by norm_num⟩
      refine ⟨bundle, r.payload Sample.render Sample.timing "full_lifecycle_dag", hbundle, h.2, ?_⟩
      rw [timedScoreCase, raiseIf, if_neg (by simp)]
      rw [ok_bind, hinputs, ok_bind, hbundle, ok_bind, hr]
      rfl
  · cases h

theorem sample_linked : Sample.accepts Sample.handoff (fun bundle =>
    (measurable Sample.candidateIds).all fun candidate =>
      !decide (0 < medians bundle candidate) || decide (Linked bundle candidate)) = true := by
  decide +kernel

theorem sample_unlinked : Sample.accepts [] (fun bundle =>
    (measurable Sample.candidateIds).any fun candidate =>
      decide (0 < medians bundle candidate) && !decide (Linked bundle candidate)) = true := by
  decide +kernel

theorem timed_score_case_locked_sample : ∃ payload,
    writeLockedMethodResult Sample.timing.fromisoformat none payload Sample.candidateIds =
      .ok payload := by
  obtain ⟨bundle, payload, hbundle, hlinked, hpayload⟩ := exists_scored_sample sample_linked
  refine ⟨payload, (timed_score_case_locked _ _ _ _ _ _ _ _ _ hbundle hpayload).mpr
    ⟨fun candidate hmem hpos => ?_, le_refl _⟩⟩
  have h := List.all_eq_true.mp hlinked candidate hmem
  rw [decide_eq_true hpos] at h
  exact of_decide_eq_true h

/-- The scorer's result for a valid case, and its rejection. -/
theorem scored_result_rejected :
    ¬ ∀ (env : Environment) (timing : Timing) (render : ℚ → String) (value : Value)
      (method : String) (candidateIds : List String) (floor : ℚ) (bundle : CaseBundle)
      (payload : Dict),
      validateCaseBundle env.recursionDepth value candidateIds = .ok bundle →
      timedScoreCase env timing render value method candidateIds floor = .ok payload →
      writeLockedMethodResult timing.fromisoformat none payload candidateIds = .ok payload := by
  intro h
  obtain ⟨bundle, payload, hbundle, hunlinked, hpayload⟩ := exists_scored_sample sample_unlinked
  obtain ⟨candidate, hmem, hcandidate⟩ := List.any_eq_true.mp hunlinked
  rw [Bool.and_eq_true, decide_eq_true_eq, Bool.not_eq_true', decide_eq_false_iff_not] at hcandidate
  have hlinked := ((locked_iff hbundle hpayload).mp (h _ _ _ _ _ _ _ _ _ hbundle hpayload)).1
  exact hcandidate.2 (hlinked candidate hmem hcandidate.1)

end LifecycleProfiler.Blind
