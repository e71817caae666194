import LifecycleProfiler.Blind.Scorer

/-! # Locked method results

`write_locked_method_result`: the checks a diagnosis result passes before its
file is created. What the reader returns are the fields it has checked. -/

namespace LifecycleProfiler.Blind
open Python Protocol General

def viewNames : List String :=
  ["aggregate_metrics", "flat_stage_timers", "raw_normalized_events",
   "lifecycle_spans_without_causal_ranking", "full_lifecycle_dag"]

def resultKeys : List String :=
  ["schema", "case_id", "method", "m0_status", "top1", "top3", "candidates", "dominance_score",
   "confidence_score", "unexplained_residual_share", "insufficient_evidence_floor_ms",
   "bootstrap_seed", "bootstrap_resamples", "abstained", "abstain_reasons",
   "proposed_counterfactual", "input_complete", "input_event_loss_count", "started_at",
   "ended_at", "time_to_localize_ms", "automated_wall_clock_ms"]

def scoreKeys : List String :=
  ["candidate_id", "paired_deltas_ms", "median_delta_ms", "iqr_delta_ms", "bootstrap_ci95_ms",
   "positive_delta_share", "top1_selection_frequency", "span_count", "owners", "edge_kinds",
   "traceloom_link_count"]

/-- What `datetime.fromisoformat` returns: a point in time, in microseconds, and
whether it has a timezone. -/
structure Moment where
  instant : Int
  aware : Bool

/-- The fields of an accepted method result. -/
structure MethodResult where
  caseId : String
  method : String
  top1 : Option String
  top3 : List String
  candidates : List CandidateScore
  dominanceScore : ℚ
  confidenceScore : ℚ
  unexplainedResidualShare : ℚ
  insufficientEvidenceFloorMs : ℚ
  abstained : Bool
  abstainReasons : List String
  counterfactual : Option String
  inputComplete : Bool
  inputEventLossCount : Nat

/-- `math.isclose(a, b, abs_tol=1e-9)` -/
def isClose (a b : ℚ) : Bool := |a - b| ≤ max (1 / 1000000000 * max |a| |b|) (1 / 1000000000)

def readShare (place : String) (record : Dict) (key : String) : Except PyError ℚ := do
  let message := s!"{place}.{key} must be in [0, 1]"
  let share ← require (finiteNumber (record.get key)) message
  raiseIf (share < 0 || 1 < share) message
  return share

def readNumbers (value : Value) (message : String) : Except PyError (List ℚ) := do
  let items ← require (asList value) message
  items.mapM fun item => require (finiteNumber item) message

def asInterval : List ℚ → Option (ℚ × ℚ)
  | [lower, upper] => some (lower, upper)
  | _ => none

def readInterval (value : Value) (message : String) : Except PyError (ℚ × ℚ) := do
  let numbers ← readNumbers value message
  let interval ← require (asInterval numbers) message
  raiseIf (interval.2 < interval.1) message
  return interval

/-- A list of distinct bounded texts. -/
def readTexts (value : Value) (limit : Nat) (invalid duplicated : String) :
    Except PyError (List String) := do
  let items ← require (asList value) invalid
  let texts ← items.mapM fun item => require (boundedText limit item) invalid
  raiseIf (!(decide texts.Nodup)) duplicated
  return texts

/-- `_validate_candidate_score` -/
def readCandidateScore (allowed : List String) (index : Nat) (value : Value) :
    Except PyError CandidateScore := do
  let place := s!"method_result.candidates[{index}]"
  let score ← require (asMapping value) s!"{place} must be an object"
  exactKeys score scoreKeys [] place
  let outside := s!"{place}.candidate_id is outside the vocabulary"
  let candidateId ← require (boundedText 128 (score.get "candidate_id")) outside
  raiseIf (!(allowed.contains candidateId)) outside
  let invalid := s!"{place}.paired_deltas_ms is invalid"
  let deltas ← readNumbers (score.get "paired_deltas_ms") invalid
  raiseIf (deltas.length < 5) invalid
  let interval ← readInterval (score.get "bootstrap_ci95_ms")
    s!"{place}.bootstrap_ci95_ms is invalid"
  let medianDelta ← require (finiteNumber (score.get "median_delta_ms"))
    s!"{place}.median_delta_ms must be finite"
  let iqrDelta ← require (finiteNumber (score.get "iqr_delta_ms"))
    s!"{place}.iqr_delta_ms must be finite"
  raiseIf (medianDelta ≤ 0) s!"{place}.median_delta_ms must be positive"
  raiseIf (iqrDelta < 0) s!"{place}.iqr_delta_ms must be non-negative"
  raiseIf (!isClose medianDelta (median deltas)) s!"{place}.median_delta_ms does not match deltas"
  raiseIf (!isClose iqrDelta (iqr deltas)) s!"{place}.iqr_delta_ms does not match deltas"
  let share ← readShare place score "positive_delta_share"
  let frequency ← readShare place score "top1_selection_frequency"
  let count := fun key =>
    require (natural (score.get key)) s!"{place}.{key} must be non-negative integer"
  let spanCount ← count "span_count"
  let linkCount ← count "traceloom_link_count"
  raiseIf (spanCount = 0) s!"{place}.span_count must be positive"
  let texts := fun key =>
    readTexts (score.get key) 128 s!"{place}.{key} is invalid" s!"{place}.{key} contains duplicates"
  let owners ← texts "owners"
  let edgeKinds ← texts "edge_kinds"
  raiseIf owners.isEmpty s!"{place}.owners must not be empty"
  raiseIf (edgeKinds.any fun kind => !(causalEdgeKinds.contains kind))
    s!"{place}.edge_kinds is unsupported"
  raiseIf (!(edgeKinds.any (· ≠ "precedes")) && linkCount = 0)
    s!"{place} lacks causal or ownership evidence"
  return {
    candidateId := candidateId
    pairedDeltasMs := deltas
    medianDeltaMs := medianDelta
    iqrDeltaMs := iqrDelta
    bootstrapCi95Ms := interval
    positiveDeltaShare := share
    top1SelectionFrequency := frequency
    spanCount := spanCount
    owners := owners
    edgeKinds := edgeKinds
    traceloomLinkCount := linkCount }

def readCandidateScores (allowed : List String) : List CandidateScore → List Value →
    Except PyError (List CandidateScore) :=
  readEach fun index _ value => readCandidateScore allowed index value

/-- A candidate the result may name. -/
def readCandidateId (allowed : List String) (value : Value) (message : String) :
    Except PyError String := do
  let candidate ← require (boundedText 128 value) message
  raiseIf (!(allowed.contains candidate)) message
  return candidate

def readTop1 (allowed : List String) (value : Value) : Except PyError (Option String) :=
  if value.isNone then .ok none
  else do
    let candidate ← readCandidateId allowed value
      "method_result.top1 is outside the candidate vocabulary"
    return some candidate

def readTop3 (allowed : List String) (value : Value) : Except PyError (List String) := do
  let message := "method_result.top3 is invalid"
  let items ← require (asList value) message
  raiseIf (3 < items.length) message
  let top3 ← items.mapM fun item => readCandidateId allowed item message
  raiseIf (!(decide top3.Nodup)) message
  return top3

/-- `started_at` and `ended_at` are in order and have a timezone. -/
def validateTimes (fromisoformat : String → Option Moment) (payload : Dict) :
    Except PyError Unit := do
  let text := fun key => require (boundedText 128 (payload.get key))
    s!"method_result.{key} must be bounded"
  let startedText ← text "started_at"
  let endedText ← text "ended_at"
  forEach (fun key => do
    let message := s!"method_result.{key} must be non-negative"
    let value ← require (finiteNumber (payload.get key)) message
    raiseIf (value < 0) message) ["time_to_localize_ms", "automated_wall_clock_ms"]
  let message := "method result timestamps must be ISO-8601"
  let startedAt ← require (fromisoformat startedText) message
  let endedAt ← require (fromisoformat endedText) message
  raiseIf (!startedAt.aware || !endedAt.aware || endedAt.instant < startedAt.instant)
    "method result timestamps are unordered or lack timezone"

/-- The shares of a result agree with each other and with its candidates. -/
def validateShares (dominance confidence residual : ℚ) (candidates : List CandidateScore) :
    Except PyError Unit := do
  raiseIf (!isClose (dominance + residual) 1)
    "method_result dominance and residual shares must sum to one"
  raiseIf (dominance + 1 / 1000000000000 < confidence)
    "method_result confidence cannot exceed dominance"
  match candidates with
  | top :: _ =>
    raiseIf (!isClose (candidates.map (·.positiveDeltaShare)).sum 1)
      "method_result candidate shares must sum to one"
    raiseIf (!isClose top.positiveDeltaShare dominance)
      "method_result dominance must equal the top candidate share"
  | [] =>
    raiseIf (dominance ≠ 0 || residual ≠ 1)
      "method_result without candidates must have zero dominance"

/-- The counterfactual names the decision, and only a decision has one. -/
def readCounterfactual (value : Value) (top1 : Value) (abstained : Bool) :
    Except PyError (Option String) :=
  if value.isNone then do
    raiseIf (!abstained) "a non-abstained result requires a rank-one counterfactual"
    return none
  else do
    let record ← require (asMapping value) "method_result.proposed_counterfactual"
    exactKeys record ["candidate_id", "constraint"] [] "method_result.proposed_counterfactual"
    let message := "method_result counterfactual is inconsistent"
    raiseIf (!((record.get "candidate_id").pyEq top1) ||
      !(record.has "constraint" counterfactualConstraint)) message
    raiseIf abstained "an abstained result cannot propose a counterfactual"
    let candidate ← require (boundedText 128 (record.get "candidate_id")) message
    return some candidate

/-- The validation part of `write_locked_method_result`. -/
def readMethodResult (fromisoformat : String → Option Moment) (payload : Dict)
    (candidateIds : List String) : Except PyError MethodResult := do
  exactKeys payload resultKeys [] "method_result"
  raiseIf (!(payload.has "schema" resultSchema)) s!"method result schema must be {resultSchema}"
  let caseId ← require (boundedText 64 (payload.get "case_id"))
    "method_result.case_id must be bounded"
  let method ← require (boundedText 128 (payload.get "method"))
    "method result names an unknown comparison method"
  raiseIf (!(viewNames.contains method)) "method result names an unknown comparison method"
  raiseIf (!(payload.has "m0_status" "NOT_M0_PROVEN"))
    "development result must remain NOT_M0_PROVEN"
  raiseIf (candidateIds.isEmpty || !(candidateIds.all (isBoundedText · 128)))
    "method result candidate vocabulary is invalid"
  raiseIf (!(decide candidateIds.Nodup)) "method result candidate vocabulary is duplicated"
  let measurable := measurable candidateIds
  let top1 ← readTop1 measurable (payload.get "top1")
  let top3 ← readTop3 measurable (payload.get "top3")
  let scoreItems ← require (asList (payload.get "candidates"))
    "method_result.candidates must be a list"
  let candidates ← readCandidateScores measurable [] scoreItems
  raiseIf (!(decide (candidates.map (·.candidateId)).Nodup))
    "method_result.candidates contains duplicate ids"
  raiseIf ((candidates.map (·.candidateId)).take 3 ≠ top3)
    "method_result.top3 must match ranked candidates"
  raiseIf (1 < (candidates.map fun score => score.pairedDeltasMs.length).dedup.length)
    "method_result candidates must use the same matched-pair count"
  let abstained ← require (asBool (payload.get "abstained"))
    "method_result.abstained must be boolean"
  raiseIf (abstained && top1.isSome) "an abstained result cannot publish a top1 decision"
  raiseIf (!abstained && top1.isNone) "a non-abstained result requires top1"
  raiseIf (!abstained && top1 ≠ (candidates.map (·.candidateId)).head?)
    "method_result.top1 must match the first candidate"
  let dominance ← readShare "method_result" payload "dominance_score"
  let confidence ← readShare "method_result" payload "confidence_score"
  let residual ← readShare "method_result" payload "unexplained_residual_share"
  validateShares dominance confidence residual candidates
  let negative := "method_result.insufficient_evidence_floor_ms must be non-negative"
  let floor ← require (finiteNumber (payload.get "insufficient_evidence_floor_ms")) negative
  raiseIf (floor < 0) negative
  raiseIf (!((payload.get "bootstrap_seed").pyEq (.int bootstrapSeed)))
    "method_result.bootstrap_seed changed"
  raiseIf (!((payload.get "bootstrap_resamples").pyEq (.int bootstrapResamples)))
    "method_result.bootstrap_resamples changed"
  let reasons ← readTexts (payload.get "abstain_reasons") 128
    "method_result.abstain_reasons is invalid" "method_result.abstain_reasons contains duplicates"
  raiseIf (abstained ≠ !reasons.isEmpty)
    "method_result abstention and reasons must be mutually consistent"
  let counterfactual ← readCounterfactual (payload.get "proposed_counterfactual")
    (payload.get "top1") abstained
  let inputComplete ← require (asBool (payload.get "input_complete"))
    "method_result.input_complete must be boolean"
  let lossCount ← require (natural (payload.get "input_event_loss_count"))
    "method_result.input_event_loss_count must be a non-negative integer"
  raiseIf (lossCount ≠ 0 && inputComplete) "a lossy method result cannot claim complete input"
  validateTimes fromisoformat payload
  return {
    caseId := caseId
    method := method
    top1 := top1
    top3 := top3
    candidates := candidates
    dominanceScore := dominance
    confidenceScore := confidence
    unexplainedResidualShare := residual
    insufficientEvidenceFloorMs := floor
    abstained := abstained
    abstainReasons := reasons
    counterfactual := counterfactual
    inputComplete := inputComplete
    inputEventLossCount := lossCount }

/-- `write_locked_method_result` on a path with the given content: what the file
then holds. -/
def writeLockedMethodResult (fromisoformat : String → Option Moment) (content : Option Dict)
    (payload : Dict) (candidateIds : List String) : Except PyError Dict := do
  let _ ← readMethodResult fromisoformat payload candidateIds
  match content with
  | some _ => throw (.osError "File exists")
  | none => return payload

end LifecycleProfiler.Blind
