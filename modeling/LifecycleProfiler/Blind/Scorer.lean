import LifecycleProfiler.Blind.Bundle
import LifecycleProfiler.General.OrderStatistics

/-! # The attribution scorer

`_score_validated_case` and `timed_score_case` in exact arithmetic. What the
scorer obtains from outside is in `Environment`: the pseudo-random draws, the
TraceLoom resolver and the clocks. -/

namespace LifecycleProfiler.Blind
open Python Protocol General

def resultSchema : String := "request-lifecycle-blind-result/v1"
def bootstrapSeed : Int := 2026082701
def bootstrapResamples : Nat := 10000
def minAbsoluteFloorMs : ℚ := 5
def minDominanceShare : ℚ := 3 / 5
def maxResidualShare : ℚ := 2 / 5

/-- One row `resolve_explicit_links` returns: the link's span, and what the
database says about it. -/
structure ResolvedLink where
  spanId : String
  resolved : Bool
  hasLineage : Bool
  treeOccurrence : Option Dict

/-- `random.Random(seed)`: the draw of each position of each resample. -/
structure Draws where
  randrange : (n resample position : Nat) → Nat
  randrange_lt : ∀ n resample position, 0 < n → randrange n resample position < n

/-- What the scorer reads besides the bundle. A resolution that fails with an
adapter error has no rows. -/
structure Environment where
  recursionDepth : Nat
  draws : Draws
  databases : Option (List (String × String))
  resolve : String → List TraceloomLink → Option (List ResolvedLink)

structure CandidateScore where
  candidateId : String
  pairedDeltasMs : List ℚ
  medianDeltaMs : ℚ
  iqrDeltaMs : ℚ
  bootstrapCi95Ms : ℚ × ℚ
  positiveDeltaShare : ℚ
  top1SelectionFrequency : ℚ
  spanCount : Nat
  owners : List String
  edgeKinds : List String
  traceloomLinkCount : Nat

structure AttributionResult where
  schema : String
  caseId : String
  m0Status : String
  top1 : Option String
  top3 : List String
  candidates : List CandidateScore
  dominanceScore : ℚ
  confidenceScore : ℚ
  unexplainedResidualShare : ℚ
  insufficientEvidenceFloorMs : ℚ
  bootstrapSeed : Int
  bootstrapResamples : Nat
  abstained : Bool
  abstainReasons : List String
  proposedCounterfactual : Option (String × String)
  inputComplete : Bool
  inputEventLossCount : Nat

/-! ## Evidence -/

/-- `math.ceil` ranks over the sorted values. -/
def iqr (values : List ℚ) : ℚ :=
  let ordered := ascending values
  nearestRank ordered (3 / 4) - nearestRank ordered (1 / 4)

def percentileInterval (values : List ℚ) : ℚ × ℚ :=
  let ordered := ascending values
  (nearestRank ordered (1 / 40), nearestRank ordered (39 / 40))

/-- `_candidate_totals(spans).get(candidate, 0.0)` -/
def candidateTotal (spans : List LifecycleSpan) (candidate : String) : ℚ :=
  ((spans.filter fun span => span.candidateId = candidate).map (·.accountedDurationMs)).sum

/-- The deltas of a candidate, one for each pair. -/
def pairDeltas (pairs : List MatchedPair) (candidate : String) : List ℚ :=
  pairs.map fun pair =>
    candidateTotal pair.treatment.lifecycleSpans candidate -
      candidateTotal pair.baseline.lifecycleSpans candidate

/-- Both arms of every pair, in scoring order. -/
def observations (pairs : List MatchedPair) : List Observation :=
  pairs.flatMap fun pair => [pair.baseline, pair.treatment]

/-- The kinds of the edges at a span, as a set. -/
def incidentKinds (o : Observation) (spanId : String) : List String :=
  ((o.lifecycleEdges.filter fun edge =>
    edge.sourceSpanId = spanId || edge.targetSpanId = spanId).map (·.kind)).dedup

def supportedLinks (o : Observation) (spanId : String) : Nat :=
  o.traceloomLinks.countP fun link => isSupported link.supportState && link.spanId = spanId

/-- The span has an edge of a causal kind or a supported link. -/
def isLinked (o : Observation) (span : LifecycleSpan) : Bool :=
  (incidentKinds o span.spanId).any (· ≠ "precedes") || 0 < supportedLinks o span.spanId

/-- What is collected about a candidate. -/
structure Packet where
  spanIds : List String := []
  owners : List String := []
  edgeKinds : List String := []
  traceloomLinkCount : Nat := 0

def Packet.add (o : Observation) (packet : Packet) (span : LifecycleSpan) : Packet where
  spanIds := packet.spanIds.insert (o.runId ++ "\x00" ++ span.spanId)
  owners := packet.owners.insert span.owner
  edgeKinds := incidentKinds o span.spanId ∪ packet.edgeKinds
  traceloomLinkCount := packet.traceloomLinkCount + supportedLinks o span.spanId

/-- `_collect_candidate_evidence` for one candidate over all observations. The
span ids of an observation are distinct, so its spans are the items of the
source's dictionary. -/
def candidateEvidence (pairs : List MatchedPair) (candidate : String) : Packet :=
  (observations pairs).foldl (fun packet o =>
    (o.lifecycleSpans.filter fun span => span.candidateId = candidate).foldl (Packet.add o) packet)
    {}

/-- The reasons one resolved row adds. -/
def resolvedReasons (o : Observation) (row : ResolvedLink) : Except PyError (List String) := do
  let span ← require (o.lifecycleSpans.find? fun span => span.spanId = row.spanId) row.spanId
  let lineage := if row.hasLineage then [] else ["traceloom_resolution_failure"]
  if !span.identity.isDevice then return lineage
  else match row.treeOccurrence with
    | none => return lineage ++ ["traceloom_device_occurrence_missing"]
    | some occurrence =>
      let mismatch := !((occurrence.get "start_ns").pyEq (.int span.startNs)) ||
        !((occurrence.get "end_ns").pyEq (.int span.endNs))
      let cost := match finiteNumber (occurrence.get "total_us") with
        | none => true
        | some totalUs =>
          totalUs < 0 || totalUs / 1000 + 1 / 1000000000 < span.accountedDurationMs
      return lineage ++ (if mismatch then ["traceloom_device_occurrence_mismatch"] else []) ++
        (if cost then ["traceloom_device_cost_mismatch"] else [])

/-- `_verify_traceloom_evidence` -/
def verifyTraceloomEvidence (env : Environment) (o : Observation) :
    Except PyError (List String) :=
  if o.traceloomLinks.isEmpty then .ok []
  else match env.databases.bind (·.lookup o.runId) with
    | none => .ok ["traceloom_evidence_not_verified"]
    | some database =>
      match env.resolve database o.traceloomLinks with
      | none => .ok ["traceloom_resolution_failure"]
      | some rows =>
        if rows.length ≠ o.traceloomLinks.length || rows.any (!·.resolved) then
          .ok ["unsupported_or_ambiguous_traceloom_link"]
        else do
          let reasons ← rows.mapM (resolvedReasons o)
          return reasons.flatten

/-- The evidence reasons an observation gives. -/
def observationReasons (env : Environment) (o : Observation) : Except PyError (List String) := do
  let status := o.evidenceStatus
  let given := fun (bad : Bool) (reason : String) => if bad then [reason] else []
  let verified ← verifyTraceloomEvidence env o
  return given (!status.identityComplete) "incomplete_identity" ++
    given (status.eventLossCount ≠ 0) "event_loss" ++
    given status.clockAmbiguous "clock_ambiguity" ++
    given (!status.configurationMatched) "unmatched_configuration" ++
    given (o.lifecycleSpans.any fun span => !isSupported span.supportState)
      "unsupported_lifecycle_span" ++
    given (o.normalizedEvents.any fun event => !isSupported event.supportState)
      "unsupported_normalized_event" ++
    given (o.traceloomLinks.any fun link => !isSupported link.supportState)
      "unsupported_or_ambiguous_traceloom_link" ++
    verified ++
    given (o.lifecycleSpans.any fun span => !isLinked o span) "unlinked_lifecycle_span"

/-- `evidence_reasons`, a set. -/
def evidenceReasons (env : Environment) (pairs : List MatchedPair) :
    Except PyError (List String) := do
  let reasons ← (observations pairs).mapM (observationReasons env)
  return reasons.flatten.dedup

def lossCount (pairs : List MatchedPair) : Nat :=
  ((observations pairs).map fun o => o.evidenceStatus.eventLossCount).sum

/-! ## The bootstrap -/

/-- The deltas of one resample. -/
def resampled (draws : Draws) (resample : Nat) (values : List ℚ) : List ℚ :=
  (List.range values.length).map fun position =>
    values.getD (draws.randrange values.length resample position) 0

/-- `_bootstrap(...)["medians"][candidate]` -/
def bootstrapMedians (draws : Draws) (values : List ℚ) : List ℚ :=
  (List.range bootstrapResamples).map fun resample => median (resampled draws resample values)

/-- `(-value, item)` comes first. -/
def ranksBefore (value : String → ℚ) (a b : String) : Prop :=
  value b < value a ∨ value a = value b ∧ a ≤ b

instance (value : String → ℚ) : DecidableRel (ranksBefore value) := fun a b =>
  inferInstanceAs (Decidable (value b < value a ∨ value a = value b ∧ a ≤ b))

/-- `sorted(candidates, key=lambda item: (-value[item], item))` -/
def ranked (value : String → ℚ) (candidates : List String) : List String :=
  candidates.insertionSort (ranksBefore value)

/-- `_bootstrap(...)["top1_counts"][candidate]` -/
def top1Count (draws : Draws) (deltas : String → List ℚ) (candidates : List String)
    (candidate : String) : Nat :=
  (List.range bootstrapResamples).countP fun resample =>
    let value := fun c => median (resampled draws resample (deltas c))
    (ranked value candidates).head? = some candidate && 0 < value candidate

/-! ## Scoring -/

/-- `_validate_scorer_inputs`, the abstention candidate included. -/
def validateScorerInputs (candidateIds : List String) (floor : ℚ) : Except PyError Unit := do
  raiseIf (!validVocabulary candidateIds || !(candidateIds.contains abstentionCandidate) ||
    candidateIds.length = 1)
    ("candidate_ids must be a unique bounded vocabulary with measurable " ++
      "candidates and the abstention candidate")
  raiseIf (floor < 0) "insufficient_evidence_floor_ms must be finite and non-negative"

def measurable (candidateIds : List String) : List String :=
  candidateIds.filter (· ≠ abstentionCandidate)

/-- `positive_total` -/
def positiveTotal (medians : String → ℚ) (candidates : List String) : ℚ :=
  (candidates.map fun candidate => max 0 (medians candidate)).sum

/-- `ranked_ids` -/
def rankedIds (medians : String → ℚ) (candidates : List String) : List String :=
  (ranked medians candidates).filter fun candidate => 0 < medians candidate

def dominance (medians : String → ℚ) (candidates : List String) : ℚ :=
  let total := positiveTotal medians candidates
  match (rankedIds medians candidates).head? with
  | some top => if total ≠ 0 then max 0 (medians top) / total else 0
  | none => 0

def residual (medians : String → ℚ) (candidates : List String) : ℚ :=
  if positiveTotal medians candidates ≠ 0 then 1 - dominance medians candidates else 1

def candidateScore (env : Environment) (pairs : List MatchedPair) (candidates : List String)
    (candidate : String) : CandidateScore :=
  let deltas := pairDeltas pairs
  let values := deltas candidate
  let packet := candidateEvidence pairs candidate
  { candidateId := candidate
    pairedDeltasMs := values
    medianDeltaMs := median values
    iqrDeltaMs := iqr values
    bootstrapCi95Ms := percentileInterval (bootstrapMedians env.draws values)
    positiveDeltaShare := median values / positiveTotal (fun c => median (deltas c)) candidates
    top1SelectionFrequency := top1Count env.draws deltas candidates candidate / bootstrapResamples
    spanCount := packet.spanIds.length
    owners := packet.owners.insertionSort (· ≤ ·)
    edgeKinds := packet.edgeKinds.insertionSort (· ≤ ·)
    traceloomLinkCount := packet.traceloomLinkCount }

/-- The reasons to abstain besides the evidence reasons. -/
def gateReasons (medians : String → ℚ) (candidates : List String) (floor : ℚ)
    (scores : List CandidateScore) : List String :=
  let given := fun (bad : Bool) (reason : String) => if bad then [reason] else []
  given (positiveTotal medians candidates < floor) "below_insufficient_evidence_floor" ++
    given (rankedIds medians candidates).isEmpty "no_positive_candidate_delta" ++
    given (dominance medians candidates < minDominanceShare) "no_single_root_cause" ++
    given (maxResidualShare + 1 / 1000000000000 < residual medians candidates)
      "excess_unexplained_residual" ++
    given (scores.head?.any fun score =>
        score.bootstrapCi95Ms.1 ≤ 0 && 0 ≤ score.bootstrapCi95Ms.2)
      "top_candidate_bootstrap_ci_crosses_zero"

def counterfactualConstraint : String := "change_only_predicted_mechanism"

/-- `_score_validated_case` -/
def scoreValidatedCase (env : Environment) (bundle : CaseBundle) (candidateIds : List String)
    (floor : ℚ) : Except PyError AttributionResult := do
  let candidates := measurable candidateIds
  let evidence ← evidenceReasons env bundle.pairs
  let medians := fun candidate => median (pairDeltas bundle.pairs candidate)
  let rankedIds := rankedIds medians candidates
  let top := rankedIds.head?
  let scores := rankedIds.map (candidateScore env bundle.pairs candidates)
  let reasons := (evidence ++ gateReasons medians candidates floor scores).dedup
  let abstained := !reasons.isEmpty
  let selectionFrequency := (scores.head?.map (·.top1SelectionFrequency)).getD 0
  return {
    schema := resultSchema
    caseId := bundle.caseId
    m0Status := "NOT_M0_PROVEN"
    top1 := if abstained then none else top
    top3 := rankedIds.take 3
    candidates := scores
    dominanceScore := dominance medians candidates
    confidenceScore := min (dominance medians candidates) selectionFrequency
    unexplainedResidualShare := residual medians candidates
    insufficientEvidenceFloorMs := floor
    bootstrapSeed := bootstrapSeed
    bootstrapResamples := bootstrapResamples
    abstained := abstained
    abstainReasons := reasons.insertionSort (· ≤ ·)
    proposedCounterfactual :=
      if abstained then none else top.map fun candidate => (candidate, counterfactualConstraint)
    inputComplete := evidence.isEmpty
    inputEventLossCount := lossCount bundle.pairs }

/-- `score_case` with the fixed seed and resample count. -/
def scoreCase (env : Environment) (bundle : Value) (candidateIds : List String) (floor : ℚ) :
    Except PyError AttributionResult := do
  validateScorerInputs candidateIds floor
  let bundle ← validateCaseBundle env.recursionDepth bundle candidateIds
  scoreValidatedCase env bundle candidateIds floor

end LifecycleProfiler.Blind
