import LifecycleProfiler.Blind.Locked
import Mathlib.Algebra.Order.BigOperators.Group.List
import Mathlib.Data.List.Dedup

/-! # The frozen gates

What a decision has to meet, what the scorer's decisions meet, and what the
checks on a locked result leave open. -/

namespace LifecycleProfiler.Blind
open Python Protocol General

/-- The gates of a decision, over its scores and what it says about its input. -/
structure Gates (dominance residual floor : ℚ) (candidates : List CandidateScore)
    (complete : Bool) (losses : Nat) : Prop where
  dominance_ge : minDominanceShare ≤ dominance
  residual_le : residual ≤ maxResidualShare
  floor_le : floor ≤ (candidates.map (·.medianDeltaMs)).sum
  interval : ∀ top ∈ candidates.head?, ¬(top.bootstrapCi95Ms.1 ≤ 0 ∧ 0 ≤ top.bootstrapCi95Ms.2)
  ordered : candidates.Pairwise fun a b => b.medianDeltaMs ≤ a.medianDeltaMs
  shares : ∀ score ∈ candidates, score.positiveDeltaShare =
    score.medianDeltaMs / (candidates.map (·.medianDeltaMs)).sum
  input_complete : complete = true
  lossless : losses = 0

def MethodResult.Gates (r : MethodResult) : Prop :=
  Blind.Gates r.dominanceScore r.unexplainedResidualShare r.insufficientEvidenceFloorMs
    r.candidates r.inputComplete r.inputEventLossCount

def AttributionResult.Gates (r : AttributionResult) : Prop :=
  Blind.Gates r.dominanceScore r.unexplainedResidualShare r.insufficientEvidenceFloorMs
    r.candidates r.inputComplete r.inputEventLossCount

/-! ## What the checks on a result give -/

/-- The checks on one candidate of a result. -/
structure CandidateScore.Consistent (score : CandidateScore) : Prop where
  deltas : 5 ≤ score.pairedDeltasMs.length
  interval : score.bootstrapCi95Ms.1 ≤ score.bootstrapCi95Ms.2
  median_pos : 0 < score.medianDeltaMs
  median_close : isClose score.medianDeltaMs (median score.pairedDeltasMs) = true
  iqr_close : isClose score.iqrDeltaMs (iqr score.pairedDeltasMs) = true
  share : 0 ≤ score.positiveDeltaShare ∧ score.positiveDeltaShare ≤ 1
  frequency : 0 ≤ score.top1SelectionFrequency ∧ score.top1SelectionFrequency ≤ 1
  owners : score.owners ≠ []
  linked : (score.edgeKinds.any (· ≠ "precedes")) = true ∨ score.traceloomLinkCount ≠ 0

/-- The checks on a result that publishes a decision. -/
structure MethodResult.Consistent (r : MethodResult) : Prop where
  scores : ∀ score ∈ r.candidates, score.Consistent
  decision : ∃ top rest, r.candidates = top :: rest ∧ r.top1 = some top.candidateId ∧
    isClose top.positiveDeltaShare r.dominanceScore = true
  counterfactual : r.counterfactual = r.top1
  shares_sum : isClose (r.candidates.map (·.positiveDeltaShare)).sum 1 = true
  dominance : 0 ≤ r.dominanceScore ∧ r.dominanceScore ≤ 1
  residual : isClose (r.dominanceScore + r.unexplainedResidualShare) 1 = true
  confidence : r.confidenceScore ≤ r.dominanceScore + 1 / 1000000000000
  floor : 0 ≤ r.insufficientEvidenceFloorMs
  no_reasons : r.abstainReasons = []
  losses : r.inputEventLossCount ≠ 0 → r.inputComplete = false

theorem readShare_bounds {place key : String} {record : Dict} {share : ℚ}
    (h : readShare place record key = .ok share) : 0 ≤ share ∧ share ≤ 1 := by
  simp only [readShare, bind_eq_ok, require_eq_ok, raiseIf_eq_ok, exists_unit, pure_eq_ok,
    Bool.or_eq_false_iff, decide_eq_false_iff_not, not_lt] at h
  obtain ⟨q, -, hbounds, rfl⟩ := h
  exact hbounds

theorem readInterval_le {value : Value} {message : String} {interval : ℚ × ℚ}
    (h : readInterval value message = .ok interval) : interval.1 ≤ interval.2 := by
  simp only [readInterval, bind_eq_ok, require_eq_ok, raiseIf_eq_ok, exists_unit, pure_eq_ok,
    decide_eq_false_iff_not, not_lt] at h
  obtain ⟨_, -, q, -, hle, rfl⟩ := h
  exact hle

theorem consistent_of_readCandidateScore {allowed : List String} {index : Nat} {value : Value}
    {score : CandidateScore} (h : readCandidateScore allowed index value = .ok score) :
    score.Consistent := by
  simp only [readCandidateScore, bind_eq_ok, exists_unit, raiseIf_eq_ok, require_eq_ok,
    pure_eq_ok] at h
  obtain ⟨_, -, -, _, -, -, deltas, -, hdeltas, interval, hinterval, medianDelta, -, iqrDelta, -,
    hmedian, -, hclose, hiqr, share, hshare, frequency, hfrequency, spanCount, -, linkCount, -, -,
    owners, -, edgeKinds, -, howners, -, hlinked, rfl⟩ := h
  refine ⟨?_, readInterval_le hinterval, ?_, by simpa using hclose, by simpa using hiqr,
    readShare_bounds hshare, readShare_bounds hfrequency, ?_, ?_⟩
  · simpa using hdeltas
  · simpa using hmedian
  · simpa using howners
  · dsimp only
    by_cases hany : edgeKinds.any (· ≠ "precedes") = true
    · exact .inl hany
    · refine .inr fun hzero => ?_
      rw [Bool.not_eq_true] at hany
      rw [hany, hzero] at hlinked
      cases hlinked

theorem boundedText_eq_some {limit : Nat} {value : Value} {s : String}
    (h : boundedText limit value = some s) : value = .str s ∧ isBoundedText s limit = true := by
  cases value with
  | str t =>
    rw [boundedText] at h
    split at h
    · next hbounded =>
      rw [Option.some.injEq] at h
      exact ⟨by rw [h], h ▸ hbounded⟩
    · cases h
  | _ => cases h

/-- The counterfactual of a decision is about its candidate. -/
theorem readCounterfactual_eq {value top1 : Value} {allowed : List String} {candidate : String}
    {counterfactual : Option String} (h : readCounterfactual value top1 false = .ok counterfactual)
    (htop : readTop1 allowed top1 = .ok (some candidate)) : counterfactual = some candidate := by
  have htext : top1 = .str candidate := by
    unfold readTop1 at htop
    split at htop
    · cases htop
    · simp only [readCandidateId, bind_eq_ok, exists_unit, raiseIf_eq_ok, require_eq_ok, pure_eq_ok,
        Option.some.injEq] at htop
      obtain ⟨_, ⟨_, hbounded, -, rfl⟩, rfl⟩ := htop
      exact (boundedText_eq_some hbounded).1
  unfold readCounterfactual at h
  split at h
  · simp at h
  · simp only [bind_eq_ok, exists_unit, raiseIf_eq_ok, require_eq_ok, pure_eq_ok,
      Bool.or_eq_false_iff, Bool.not_eq_false'] at h
    obtain ⟨record, -, -, ⟨heq, -⟩, -, name, hname, rfl⟩ := h
    rw [htext, Value.pyEq_str] at heq
    rw [heq] at hname
    have hsame := (boundedText_eq_some hname).1
    rw [Value.str.injEq] at hsame
    rw [hsame]

theorem consistent_of_readMethodResult {fromisoformat : String → Option Moment} {payload : Dict}
    {candidateIds : List String} {r : MethodResult}
    (h : readMethodResult fromisoformat payload candidateIds = .ok r)
    (hdecided : r.abstained = false) :
    r.Consistent := by
  simp only [readMethodResult, bind_eq_ok, exists_unit, raiseIf_eq_ok, require_eq_ok,
    pure_eq_ok] at h
  obtain ⟨-, -, caseId, -, method, -, -, -, -, -, top1, htop1, top3, -, items, -, candidates,
    hcandidates, -, -, -, abstained, -, -, hdecision, hfirst, dominance, hdominance, confidence, -,
    residual, -, hshares, floor, -, hfloor, -, -, reasons, -, hreasons, counterfactual, hcounter,
    complete, -, losses, -, hlosses, -, rfl⟩ := h
  dsimp only at hdecided
  subst hdecided
  simp only [Bool.not_false, Bool.true_and] at hdecision hfirst
  have hscores : ∀ score ∈ candidates, score.Consistent :=
    readEach_forall (fun _ _ _ _ h => consistent_of_readCandidateScore h) hcandidates (by simp)
  cases candidates with
  | nil => simp_all
  | cons top rest =>
    simp only [validateShares, bind_eq_ok, exists_unit, raiseIf_eq_ok, Bool.not_eq_false',
      decide_eq_false_iff_not, not_lt] at hshares
    obtain ⟨hsum, hconfidence, hall, htop⟩ := hshares
    have heq : top1 = some top.candidateId := by simpa using hfirst
    refine ⟨hscores, ⟨top, rest, rfl, heq, htop⟩, ?_, hall, readShare_bounds hdominance, hsum,
      hconfidence, by simpa using hfloor, by simpa using hreasons, ?_⟩
    · rw [heq] at htop1 ⊢
      exact readCounterfactual_eq hcounter htop1
    · intro hne
      simpa [hne] using hlosses

/-! ## What the scorer's decisions meet -/

section Ranking
variable {value : String → ℚ} {candidates : List String}

instance : Std.Total (ranksBefore value) where
  total a b := by
    unfold ranksBefore
    rcases lt_trichotomy (value a) (value b) with hlt | heq | hlt
    · exact .inr (.inl hlt)
    · rcases String.le_total a b with hab | hab
      · exact .inl (.inr ⟨heq, hab⟩)
      · exact .inr (.inr ⟨heq.symm, hab⟩)
    · exact .inl (.inl hlt)

instance : IsTrans String (ranksBefore value) where
  trans a b c := by
    rintro (hab | ⟨hab, hnames⟩) (hbc | ⟨hbc, hnames'⟩)
    · exact .inl (hbc.trans hab)
    · exact .inl (hbc ▸ hab)
    · exact .inl (hab ▸ hbc)
    · exact .inr ⟨hab.trans hbc, String.le_trans hnames hnames'⟩

theorem ranked_perm : (ranked value candidates).Perm candidates := List.perm_insertionSort _ _

theorem ranked_pairwise : (ranked value candidates).Pairwise (ranksBefore value) :=
  List.pairwise_insertionSort _ _

theorem mem_rankedIds {candidate : String} :
    candidate ∈ rankedIds value candidates ↔ candidate ∈ candidates ∧ 0 < value candidate := by
  rw [rankedIds, List.mem_filter, decide_eq_true_eq, ranked_perm.mem_iff]

/-- The ranking is in non-increasing order. -/
theorem rankedIds_pairwise :
    (rankedIds value candidates).Pairwise fun a b => value b ≤ value a := by
  refine (ranked_pairwise.sublist List.filter_sublist).imp ?_
  rintro a b (hlt | ⟨heq, -⟩)
  · exact hlt.le
  · exact heq.ge

theorem sum_filter_pos (l : List String) :
    ((l.filter fun c => 0 < value c).map value).sum = (l.map fun c => max 0 (value c)).sum := by
  induction l with
  | nil => rfl
  | cons c rest ih =>
    rw [List.map_cons, List.sum_cons, ← ih]
    by_cases hpos : 0 < value c
    · rw [List.filter_cons_of_pos (by simpa using hpos), List.map_cons, List.sum_cons,
        max_eq_right hpos.le]
    · rw [List.filter_cons_of_neg (by simpa using hpos), max_eq_left (not_lt.mp hpos), zero_add]

/-- The total of the positive medians is the total over the ranking. -/
theorem positiveTotal_eq :
    positiveTotal value candidates = ((rankedIds value candidates).map value).sum := by
  rw [rankedIds, sum_filter_pos, positiveTotal]
  exact (ranked_perm.symm.map _).sum_eq

end Ranking

section Decisions
variable {env : Environment} {bundle : CaseBundle} {candidateIds : List String} {floor : ℚ}

theorem given_eq_nil {bad : Bool} {reason : String} :
    (if bad then [reason] else []) = [] ↔ bad = false := by
  cases bad <;> simp

/-- A bundle without evidence reasons reports no loss. -/
theorem lossCount_eq_zero (h : evidenceReasons env bundle.pairs = .ok []) :
    lossCount bundle.pairs = 0 := by
  simp only [evidenceReasons, bind_eq_ok, pure_eq_ok] at h
  obtain ⟨reasons, hreasons, hnone⟩ := h
  rw [List.dedup_eq_nil, List.flatten_eq_nil_iff] at hnone
  have hzero : ∀ o ∈ observations bundle.pairs, o.evidenceStatus.eventLossCount = 0 := by
    intro o ho
    obtain ⟨given, hgiven, ho⟩ := exists_of_mapM hreasons ho
    simp only [observationReasons, bind_eq_ok, pure_eq_ok, hnone given hgiven,
      List.append_eq_nil_iff] at ho
    obtain ⟨_, -, ⟨⟨⟨⟨⟨⟨⟨-, hloss⟩, -⟩, -⟩, -⟩, -⟩, -⟩, -⟩, -⟩ := ho
    by_contra hne
    rw [if_pos (by simpa using hne)] at hloss
    cases hloss
  rw [lossCount, List.sum_eq_zero_iff]
  intro n hn
  obtain ⟨o, ho, rfl⟩ := List.mem_map.mp hn
  exact hzero o ho

/-- The medians of a bundle. -/
abbrev medians (bundle : CaseBundle) (candidate : String) : ℚ :=
  median (pairDeltas bundle.pairs candidate)

theorem gateReasons_eq_nil {value : String → ℚ} {candidates : List String}
    {scores : List CandidateScore} : gateReasons value candidates floor scores = [] ↔
      floor ≤ positiveTotal value candidates ∧ rankedIds value candidates ≠ [] ∧
        minDominanceShare ≤ dominance value candidates ∧
        residual value candidates ≤ maxResidualShare + 1 / 1000000000000 ∧
        ∀ top ∈ scores.head?, ¬(top.bootstrapCi95Ms.1 ≤ 0 ∧ 0 ≤ top.bootstrapCi95Ms.2) := by
  simp only [gateReasons, List.append_eq_nil_iff, given_eq_nil, decide_eq_false_iff_not, not_lt,
    and_assoc, ← List.isEmpty_eq_false_iff]
  refine and_congr_right fun _ => and_congr_right fun _ => and_congr_right fun _ =>
    and_congr_right fun _ => ?_
  cases scores with
  | nil => simp
  | cons top rest => simp

/-- The scores are those of the ranking. -/
theorem scored_candidates {r : AttributionResult}
    (h : scoreValidatedCase env bundle candidateIds floor = .ok r) :
    r.candidates = (rankedIds (medians bundle) (measurable candidateIds)).map
      (candidateScore env bundle.pairs (measurable candidateIds)) := by
  simp only [scoreValidatedCase, bind_eq_ok, pure_eq_ok] at h
  obtain ⟨_, -, rfl⟩ := h
  rfl

/-- A bundle whose evidence can be verified is scored. -/
theorem exists_scored {evidence : List String}
    (h : evidenceReasons env bundle.pairs = .ok evidence) :
    ∃ r, scoreValidatedCase env bundle candidateIds floor = .ok r := by
  rw [scoreValidatedCase, h, ok_bind]
  exact ⟨_, rfl⟩

/-- A case is decided when its evidence is clean and every gate is open. -/
theorem decided_iff {r : AttributionResult}
    (h : scoreValidatedCase env bundle candidateIds floor = .ok r) :
    r.abstained = false ↔ evidenceReasons env bundle.pairs = .ok [] ∧
      gateReasons (medians bundle) (measurable candidateIds) floor r.candidates = [] := by
  simp only [scoreValidatedCase, bind_eq_ok, pure_eq_ok] at h
  obtain ⟨evidence, hevidence, rfl⟩ := h
  dsimp only
  rw [Bool.not_eq_false', List.isEmpty_iff, List.dedup_eq_nil, List.append_eq_nil_iff, hevidence,
    Except.ok.injEq]

theorem gates_of_scoreValidatedCase {r : AttributionResult}
    (h : scoreValidatedCase env bundle candidateIds floor = .ok r)
    (hdecided : r.abstained = false) :
    r.Gates := by
  obtain ⟨hevidence, hgates⟩ := (decided_iff h).mp hdecided
  obtain ⟨hfloor, -, hdominance, hresidual, hinterval⟩ := gateReasons_eq_nil.mp hgates
  simp only [scoreValidatedCase, bind_eq_ok, pure_eq_ok] at h
  obtain ⟨evidence, heq, rfl⟩ := h
  rw [hevidence, Except.ok.injEq] at heq
  subst heq
  have hsum : ((rankedIds (medians bundle) (measurable candidateIds)).map
      (candidateScore env bundle.pairs (measurable candidateIds))).map (·.medianDeltaMs) =
      (rankedIds (medians bundle) (measurable candidateIds)).map (medians bundle) := by
    rw [List.map_map]
    rfl
  refine ⟨hdominance, ?_, ?_, hinterval, ?_, ?_, rfl, lossCount_eq_zero hevidence⟩
  · dsimp only
    unfold residual at hresidual ⊢
    unfold minDominanceShare at hdominance
    unfold maxResidualShare at hresidual ⊢
    split
    · linarith
    · next hzero =>
      rw [if_neg hzero] at hresidual
      norm_num at hresidual
  · dsimp only
    rw [hsum, ← positiveTotal_eq]
    exact hfloor
  · dsimp only
    rw [List.pairwise_map]
    exact rankedIds_pairwise
  · intro score hscore
    obtain ⟨candidate, -, rfl⟩ := List.mem_map.mp hscore
    dsimp only
    rw [hsum, ← positiveTotal_eq]
    rfl

end Decisions

/-! ## A sample without spread -/

theorem mem_resampled {draws : Draws} {resample : Nat} {values : List ℚ} {x : ℚ}
    (h : x ∈ resampled draws resample values) : x ∈ values := by
  unfold resampled at h
  obtain ⟨position, hposition, rfl⟩ := List.mem_map.mp h
  have hlt := draws.randrange_lt values.length resample position
    (Nat.zero_lt_of_lt (List.mem_range.mp hposition))
  rw [List.getD_eq_getElem _ _ hlt]
  exact List.getElem_mem _

theorem resampled_ne_nil {draws : Draws} {resample : Nat} {values : List ℚ} (h : values ≠ []) :
    resampled draws resample values ≠ [] := by
  simpa [resampled] using h

/-- Every resample of equal deltas has their value as its median. -/
theorem percentileInterval_of_const {draws : Draws} {values : List ℚ} {b : ℚ} (hne : values ≠ [])
    (h : ∀ x ∈ values, x = b) : percentileInterval (bootstrapMedians draws values) = (b, b) := by
  have hmedians : bootstrapMedians draws values ≠ [] := by
    simp [bootstrapMedians, bootstrapResamples]
  have hall : ∀ x ∈ bootstrapMedians draws values, x = b := by
    intro x hx
    obtain ⟨resample, -, rfl⟩ := List.mem_map.mp hx
    exact median_eq (resampled_ne_nil hne) fun y hy => h y (mem_resampled hy)
  unfold percentileInterval
  dsimp only
  rw [hall _ (nearestRank_mem (by norm_num) hmedians),
    hall _ (nearestRank_mem (by norm_num) hmedians)]

/-! ## Locked results -/

/-- **What a locked decision is known to satisfy.** The checks before the file is
created make the fields of a decision consistent with each other; the gates are
the scorer's, and every decision it makes meets all of them. -/
theorem locked_decision_checked :
    (∀ (fromisoformat : String → Option Moment) (content : Option Dict) (payload : Dict)
      (candidateIds : List String) (file : Dict),
      writeLockedMethodResult fromisoformat content payload candidateIds = .ok file →
        ∃ r, readMethodResult fromisoformat payload candidateIds = .ok r ∧
          (r.abstained = false → r.Consistent)) ∧
    (∀ (env : Environment) (bundle : CaseBundle) (candidateIds : List String) (floor : ℚ)
      (r : AttributionResult), scoreValidatedCase env bundle candidateIds floor = .ok r →
        r.abstained = false → r.Gates) := by
  refine ⟨fun fromisoformat content payload candidateIds file h => ?_,
    fun env bundle candidateIds floor r => gates_of_scoreValidatedCase⟩
  unfold writeLockedMethodResult at h
  obtain ⟨r, hr, -⟩ := bind_eq_ok.mp h
  exact ⟨r, hr, consistent_of_readMethodResult hr⟩

namespace Sample

def candidateIds : List String := ["queue_or_admission", "scheduler_dispatch", abstentionCandidate]

def identity : SpanIdentity := ⟨⟨"trace-0", "trace-0:e:0", 0, "request-0"⟩, "host", none, none⟩

def event (eventId : String) (timestampNs : Nat) : NormalizedEvent :=
  ⟨eventId, identity, "engine_sample", "engine_core", "scheduled", timestampNs, "runtime",
    "supported_exact"⟩

def span (spanId endEventId : String) (endNs : Int) (accounted : ℚ) : LifecycleSpan :=
  ⟨spanId, "event-0", endEventId, "queue_or_admission", identity, "scheduler", "runtime",
    "supported_exact", 0, endNs, accounted⟩

/-- Two spans of one request, linked by the given edges. -/
def observation (runId : String) (accounted : ℚ) (edges : List LifecycleEdge) : Observation where
  runId := runId
  configurationId := "configuration-0"
  clockModelId := "clock-0"
  metrics := ⟨[("ttft_ms", 1), ("tpot_ms", 1), ("latency_ms", 1), ("throughput_rps", 1),
    ("error_count", 0)], 0⟩
  evidenceStatus := ⟨true, 0, false, true⟩
  normalizedEvents := [event "event-0" 0, event "event-1" 10000000]
  lifecycleSpans := [span "span-0" "event-1" 10000000 accounted, span "span-1" "event-0" 0 0]
  lifecycleEdges := edges
  traceloomLinks := []

def pair (index order : String) (edges : List LifecycleEdge) : MatchedPair where
  pairId := "pair-" ++ index
  order := order
  matching := ⟨"workload-0", "order-0", 8, 8, 1, [1]⟩
  baseline := observation ("baseline-" ++ index) 0 edges
  treatment := observation ("treatment-" ++ index) 10 edges

/-- Five pairs whose treatment waits 10 ms longer in the queue. -/
def bundle (edges : List LifecycleEdge) : CaseBundle where
  caseId := "case-0"
  pairs := [pair "0" "AB" edges, pair "1" "BA" edges, pair "2" "AB" edges, pair "3" "BA" edges,
    pair "4" "AB" edges]

def handoff : List LifecycleEdge := [⟨"span-0", "span-1", "request_handoff"⟩]

def env : Environment where
  recursionDepth := 990
  draws := ⟨fun _ _ _ => 0, fun _ _ _ h => h⟩
  databases := none
  resolve := fun _ _ => none

def startedAt : String := "2026-08-27T00:00:00+00:00"

/-- `datetime.fromisoformat` on the one text it is given. -/
def fromisoformat (text : String) : Option Moment :=
  if text = startedAt then some ⟨1787788800000000, true⟩ else none

def number (q : ℚ) : Value := .float q ""

def scoreValue (candidateId : String) (medianDelta : ℚ) : Value :=
  .dict [("candidate_id", .str candidateId),
    ("paired_deltas_ms", .list (List.replicate 5 (number medianDelta))),
    ("median_delta_ms", number medianDelta), ("iqr_delta_ms", number 0),
    ("bootstrap_ci95_ms", .list [number (-1), number 1]),
    ("positive_delta_share", number (1 / 2)), ("top1_selection_frequency", number (1 / 2)),
    ("span_count", .int 1), ("owners", .list [.str "scheduler"]),
    ("edge_kinds", .list [.str "request_handoff"]), ("traceloom_link_count", .int 0)]

/-- A decision between two candidates of equal shares, below its floor, in the
wrong order and over lossy input. -/
def undecidedPayload : Dict :=
  [("schema", .str resultSchema), ("case_id", .str "case-0"), ("method", .str "aggregate_metrics"),
   ("m0_status", .str "NOT_M0_PROVEN"), ("top1", .str "queue_or_admission"),
   ("top3", .list [.str "queue_or_admission", .str "scheduler_dispatch"]),
   ("candidates", .list [scoreValue "queue_or_admission" 1, scoreValue "scheduler_dispatch" 2]),
   ("dominance_score", number (1 / 2)), ("confidence_score", number (1 / 2)),
   ("unexplained_residual_share", number (1 / 2)),
   ("insufficient_evidence_floor_ms", number 100), ("bootstrap_seed", .int bootstrapSeed),
   ("bootstrap_resamples", .int bootstrapResamples), ("abstained", .bool false),
   ("abstain_reasons", .list []),
   ("proposed_counterfactual", .dict [("candidate_id", .str "queue_or_admission"),
     ("constraint", .str counterfactualConstraint)]),
   ("input_complete", .bool false), ("input_event_loss_count", .int 3),
   ("started_at", .str startedAt), ("ended_at", .str startedAt),
   ("time_to_localize_ms", number 1), ("automated_wall_clock_ms", number 1)]

end Sample

theorem sample_evidence :
    evidenceReasons Sample.env (Sample.bundle Sample.handoff).pairs = .ok [] := rfl

/-- The sample case is decided, up to the floor its deltas reach. -/
theorem sample_decided {floor : ℚ} (hfloor : floor ≤ 10) :
    ∃ r, scoreValidatedCase Sample.env (Sample.bundle Sample.handoff) Sample.candidateIds floor =
      .ok r ∧ r.abstained = false := by
  have htotal : positiveTotal (medians (Sample.bundle Sample.handoff))
      (measurable Sample.candidateIds) = 10 := by decide +kernel
  obtain ⟨r, hscore⟩ := exists_scored sample_evidence
  refine ⟨r, hscore, (decided_iff hscore).mpr ⟨sample_evidence, gateReasons_eq_nil.mpr ?_⟩⟩
  refine ⟨htotal.symm ▸ hfloor, by decide +kernel, by decide +kernel, by decide +kernel, ?_⟩
  have hranked : rankedIds (medians (Sample.bundle Sample.handoff))
      (measurable Sample.candidateIds) = ["queue_or_admission"] := by decide +kernel
  intro top htop
  rw [scored_candidates hscore, hranked, List.map_singleton, List.head?_singleton,
    Option.mem_some_iff] at htop
  subst htop
  have hconst : percentileInterval (bootstrapMedians Sample.env.draws
      (pairDeltas (Sample.bundle Sample.handoff).pairs "queue_or_admission")) = (10, 10) :=
    percentileInterval_of_const (by decide +kernel) (by decide +kernel)
  simp only [candidateScore, hconst]
  norm_num

theorem readMethodResult_undecided :
    ∃ r, readMethodResult Sample.fromisoformat Sample.undecidedPayload Sample.candidateIds = .ok r ∧
      r.abstained = false ∧ r.dominanceScore = 1 / 2 := by
  have h : (match readMethodResult Sample.fromisoformat Sample.undecidedPayload
      Sample.candidateIds with
    | .ok r => decide (r.abstained = false ∧ r.dominanceScore = 1 / 2)
    | .error _ => false) = true := by decide +kernel
  split at h
  · next r hr => exact ⟨r, hr, by simpa using h⟩
  · cases h

theorem locked_decision_checked_sample :
    (∃ r, readMethodResult Sample.fromisoformat Sample.undecidedPayload Sample.candidateIds =
      .ok r ∧
      (r.abstained = false → r.Consistent)) ∧
    ∃ r : AttributionResult, scoreValidatedCase Sample.env (Sample.bundle Sample.handoff)
      Sample.candidateIds 5 = .ok r ∧ r.Gates := by
  have h := locked_decision_checked
  obtain ⟨r, hr, hdecided⟩ := sample_decided (show (5 : ℚ) ≤ 10 by norm_num)
  have hfile : writeLockedMethodResult Sample.fromisoformat none Sample.undecidedPayload
      Sample.candidateIds = .ok Sample.undecidedPayload := by
    obtain ⟨r, hr, -⟩ := readMethodResult_undecided
    unfold writeLockedMethodResult
    rw [hr]
    rfl
  exact ⟨h.1 _ _ _ _ _ hfile, r, hr, h.2 _ _ _ _ _ hr hdecided⟩

/-- A decision below the dominance gate can be locked. -/
theorem undecided_result_locked :
    ¬ ∀ (fromisoformat : String → Option Moment) (payload : Dict) (candidateIds : List String)
      (r : MethodResult), readMethodResult fromisoformat payload candidateIds = .ok r →
        r.abstained = false → r.Gates := by
  intro h
  obtain ⟨r, hr, hdecided, hdominance⟩ := readMethodResult_undecided
  have hgate := (h _ _ _ r hr hdecided).dominance_ge
  rw [hdominance] at hgate
  norm_num [minDominanceShare] at hgate

end LifecycleProfiler.Blind
