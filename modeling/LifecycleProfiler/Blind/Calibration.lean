import LifecycleProfiler.Blind.Gates
import Mathlib.Algebra.BigOperators.Ring.List
import Mathlib.Algebra.Order.BigOperators.Group.Finset

/-! # The noise floor

`build_calibration_report` and `calibrate_noise_floor`, and what a floor
calibrated on null pairs says about a case with the deltas of those pairs. -/

namespace LifecycleProfiler.Blind
open Python Protocol General

def calibrationPairKeys : List String :=
  ["pair_id", "order", "workload_id", "configuration_id", "arm_a", "arm_b"]
def armKeys : List String :=
  ["run_id", "intervention", "evidence_valid", "request_count", "candidate_totals_ms",
   "error_count"]
def expectedOrder : List String := ["AB", "BA", "AB", "BA", "AB"]

structure Arm where
  runId : String
  requestCount : Nat
  candidateTotalsMs : List (String × ℚ)

structure NullPair where
  pairId : String
  workloadId : String
  configurationId : String
  armA : Arm
  armB : Arm

/-- The parts of the report that depend on the pairs. -/
structure CalibrationReport where
  pairs : List NullPair
  totalPositiveMatchedDeltasMs : List ℚ
  nullDeltaP95Ms : ℚ
  insufficientEvidenceFloorMs : ℚ

/-! ## Validation -/

/-- `_bounded_text` of the calibration: any text up to the limit. -/
def plainText (limit : Nat) : Value → Option String
  | .str s => if 0 < s.length ∧ s.length ≤ limit then some s else none
  | _ => none

def readPlainText (place : String) (record : Dict) (key : String) (limit : Nat) :
    Except PyError String :=
  require (plainText limit (record.get key)) s!"{place}.{key} must be bounded text"

/-- `_exact_keys` of the calibration: exactly the expected keys. -/
def expectKeys (record : Dict) (expected : List String) (place : String) : Except PyError Unit :=
  let missing := expected.filter fun key => !(record.keys.contains key)
  let unknown := record.keys.filter fun key => !(expected.contains key)
  raiseIf (missing ≠ [] || unknown ≠ [])
    (place ++ " keys differ: missing=" ++ renderKeys missing ++ ", unknown=" ++ renderKeys unknown)

/-- One duration of `candidate_totals_ms`. -/
def readTotal (place : String) (item : String × Value) : Except PyError (String × ℚ) := do
  let candidate ← require (plainText 128 (.str item.1))
    s!"{place}.candidate_totals_ms key must be bounded text"
  let message := place ++ ".candidate_totals_ms['" ++ candidate ++
    "'] must be finite and non-negative"
  let duration ← require (finiteNumber item.2) message
  raiseIf (duration < 0) message
  return (candidate, duration)

/-- `_validate_arm` -/
def readArm (place : String) (runIds : List String) (value : Value) : Except PyError Arm := do
  let record ← require (asMapping value) s!"{place} must be an object"
  expectKeys record armKeys place
  let runId ← readPlainText place record "run_id" 64
  raiseIf (runIds.contains runId) s!"{place}.run_id must be unique"
  raiseIf (!(record.has "intervention" "none")) s!"{place} must be no-intervention"
  raiseIf (asBool (record.get "evidence_valid") ≠ some true) s!"{place} evidence must be valid"
  let requestCount ← require (positive (record.get "request_count"))
    s!"{place}.request_count must be positive"
  raiseIf (strictInt (record.get "error_count") ≠ some 0) s!"{place}.error_count must be zero"
  let message := s!"{place}.candidate_totals_ms must be a nonempty object"
  let totals ← require (asMapping (record.get "candidate_totals_ms")) message
  raiseIf totals.isEmpty message
  let candidateTotalsMs ← totals.mapM (readTotal place)
  return ⟨runId, requestCount, candidateTotalsMs⟩

/-- The candidates of an arm, as a set in sorted order. -/
def Arm.candidates (arm : Arm) : List String :=
  (arm.candidateTotalsMs.map Prod.fst).dedup.insertionSort (· ≤ ·)

def nullRunIds (done : List NullPair) : List String :=
  done.flatMap fun pair => [pair.armA.runId, pair.armB.runId]

def readNullPair (place : String) (done : List NullPair) (value : Value) :
    Except PyError NullPair := do
  let record ← require (asMapping value) s!"{place} must be an object"
  expectKeys record calibrationPairKeys place
  let pairId ← readPlainText place record "pair_id" 64
  raiseIf (done.any fun pair => pair.pairId = pairId) s!"{place}.pair_id must be unique"
  raiseIf (!(record.has "order" (expectedOrder.getD done.length "")))
    "calibration order must alternate AB/BA"
  let workloadId ← readPlainText place record "workload_id" 128
  let configurationId ← readPlainText place record "configuration_id" 128
  raiseIf (done.head?.any fun first =>
      workloadId ≠ first.workloadId || configurationId ≠ first.configurationId)
    "all calibration pairs must use the same workload and configuration"
  let armA ← readArm s!"{place}.arm_a" (nullRunIds done) (record.get "arm_a")
  let armB ← readArm s!"{place}.arm_b" (nullRunIds done ++ [armA.runId]) (record.get "arm_b")
  raiseIf (armA.requestCount ≠ armB.requestCount) s!"{place} has unmatched request counts"
  raiseIf (done.head?.any fun first => armA.requestCount ≠ first.armA.requestCount)
    "all calibration pairs must use the same request count"
  raiseIf (armA.candidates ≠ armB.candidates) s!"{place} has unmatched candidates"
  raiseIf (done.head?.any fun first => armA.candidates ≠ first.armA.candidates)
    "all calibration pairs must use the same candidate set"
  return ⟨pairId, workloadId, configurationId, armA, armB⟩

/-! ## The floor -/

/-- `candidate_deltas[candidate]`; a candidate no arm has is not delayed. -/
def NullPair.delta (pair : NullPair) (candidate : String) : ℚ :=
  (pair.armB.candidateTotalsMs.lookup candidate).getD 0 -
    (pair.armA.candidateTotalsMs.lookup candidate).getD 0

/-- `total_positive`: the abstention bucket is not a candidate. -/
def NullPair.totalPositive (pair : NullPair) : ℚ :=
  ((pair.armA.candidates.filter (· ≠ abstentionCandidate)).map fun candidate =>
    max 0 (pair.delta candidate)).sum

/-- `calibrate_noise_floor`: the percentile and the floor. -/
def calibrateNoiseFloor (deltas : List ℚ) : Except PyError (ℚ × ℚ) := do
  raiseIf (deltas.length ≠ 5) "formal calibration requires exactly five matched null pairs"
  let values := ascending (deltas.map fun value => |value|)
  let rank := max 1 ⌈(19 / 20 : ℚ) * values.length⌉₊
  let nullP95 := values.getD (rank - 1) 0
  return (nullP95, max minAbsoluteFloorMs nullP95)

def buildCalibrationReport (items : List Value) : Except PyError CalibrationReport := do
  raiseIf (items.length ≠ 5) "calibration requires exactly five pairs"
  let pairs ← readEach (fun i => readNullPair s!"pairs[{i}]") [] items
  let deltas := pairs.map NullPair.totalPositive
  let (nullP95, floor) ← calibrateNoiseFloor deltas
  return ⟨pairs, deltas, nullP95, floor⟩

/-! ## What the floor covers -/

variable {items : List Value} {report : CalibrationReport}

/-- An accepted report has five pairs whose arms have the same candidates, and
its floor is the largest total of a pair, or the absolute minimum. -/
structure CalibrationReport.Accepted (report : CalibrationReport) : Prop where
  length : report.pairs.length = 5
  candidates : ∀ pair ∈ report.pairs, pair.armA.candidates = pair.armB.candidates
  total_le : ∀ pair ∈ report.pairs, pair.totalPositive ≤ report.insufficientEvidenceFloorMs
  floor_ge : minAbsoluteFloorMs ≤ report.insufficientEvidenceFloorMs

theorem NullPair.totalPositive_nonneg (pair : NullPair) : 0 ≤ pair.totalPositive := by
  refine List.sum_nonneg fun q hq => ?_
  obtain ⟨candidate, -, rfl⟩ := List.mem_map.mp hq
  exact le_max_left 0 _

theorem candidates_of_readNullPair {place : String} {done : List NullPair} {value : Value}
    {pair : NullPair} (h : readNullPair place done value = .ok pair) :
    pair.armA.candidates = pair.armB.candidates := by
  simp only [readNullPair, bind_eq_ok, exists_unit, raiseIf_eq_ok, require_eq_ok, pure_eq_ok] at h
  obtain ⟨_, -, -, pairId, -, -, -, workloadId, -, configurationId, -, -, armA, -, armB, -, -, -,
    hsame, -, rfl⟩ := h
  simpa using hsame

/-- The nearest rank of the 95th percentile of five values is the last. -/
theorem le_of_calibrateNoiseFloor {deltas : List ℚ} {nullP95 floor : ℚ}
    (h : calibrateNoiseFloor deltas = .ok (nullP95, floor)) :
    deltas.length = 5 ∧ (∀ x ∈ deltas, |x| ≤ nullP95) ∧ floor = max minAbsoluteFloorMs nullP95 := by
  simp only [calibrateNoiseFloor, bind_eq_ok, exists_unit, raiseIf_eq_ok, pure_eq_ok,
    Prod.mk.injEq] at h
  obtain ⟨hlength, rfl, rfl⟩ := h
  have hfive : deltas.length = 5 := by simpa using hlength
  have hvalues : (ascending (deltas.map fun value => |value|)).length = 5 := by
    rw [length_ascending, List.length_map, hfive]
  have hrank : max 1 ⌈(19 / 20 : ℚ) * ((5 : ℕ) : ℚ)⌉₊ - 1 = 4 := by
    norm_num [Nat.ceil_eq_iff]
  refine ⟨hfive, fun x hx => ?_, rfl⟩
  rw [hvalues, hrank, List.getD_eq_getElem _ _ (by omega)]
  obtain ⟨i, hi, heq⟩ := List.mem_iff_getElem.mp
    (mem_ascending.mpr (List.mem_map_of_mem (f := fun value => |value|) hx))
  rw [← heq]
  exact getElem_ascending_le (by omega) (by omega)

theorem accepted_of_build (h : buildCalibrationReport items = .ok report) : report.Accepted := by
  simp only [buildCalibrationReport, bind_eq_ok, exists_unit, raiseIf_eq_ok, pure_eq_ok] at h
  obtain ⟨-, pairs, hpairs, ⟨nullP95, floor⟩, hfloor, rfl⟩ := h
  obtain ⟨hlength, hle, rfl⟩ := le_of_calibrateNoiseFloor hfloor
  refine ⟨by simpa using hlength,
    readEach_forall (fun _ _ _ _ h => candidates_of_readNullPair h) hpairs (by simp),
    fun pair hpair => ?_, le_max_left _ _⟩
  have habs := hle _ (List.mem_map_of_mem hpair)
  rw [abs_of_nonneg pair.totalPositive_nonneg] at habs
  exact habs.trans (le_max_right _ _)

/-- The pairs of a case have the deltas of the null pairs. -/
def SameDeltas (report : CalibrationReport) (bundle : CaseBundle) (candidateIds : List String) :
    Prop :=
  ∀ candidate ∈ measurable candidateIds,
    pairDeltas bundle.pairs candidate = report.pairs.map (·.delta candidate)

theorem Arm.mem_candidates {arm : Arm} {candidate : String} :
    candidate ∈ arm.candidates ↔ candidate ∈ arm.candidateTotalsMs.map Prod.fst := by
  rw [Arm.candidates, (List.perm_insertionSort _ _).mem_iff, List.mem_dedup]

theorem Arm.candidates_nodup (arm : Arm) : arm.candidates.Nodup :=
  (List.perm_insertionSort _ _).nodup_iff.mpr (List.nodup_dedup _)

theorem Arm.lookup_eq_none {arm : Arm} {candidate : String} (h : candidate ∉ arm.candidates) :
    arm.candidateTotalsMs.lookup candidate = none := by
  rw [Arm.mem_candidates] at h
  rw [List.lookup_eq_none_iff]
  intro item hitem
  rw [bne_iff_ne]
  rintro rfl
  exact h (List.mem_map_of_mem hitem)

theorem NullPair.delta_eq_zero {pair : NullPair} (h : pair.armA.candidates = pair.armB.candidates)
    {candidate : String} (hnot : candidate ∉ pair.armA.candidates) : pair.delta candidate = 0 := by
  rw [NullPair.delta, Arm.lookup_eq_none hnot, Arm.lookup_eq_none (h ▸ hnot), sub_self]

/-- What the measurable candidates gain in a pair is within its total. -/
theorem NullPair.sum_le_totalPositive {pair : NullPair}
    (h : pair.armA.candidates = pair.armB.candidates) {candidates : List String}
    (hnodup : candidates.Nodup) (hmeasurable : abstentionCandidate ∉ candidates) :
    (candidates.map fun candidate => max 0 (pair.delta candidate)).sum ≤ pair.totalPositive := by
  have hown := (pair.armA.candidates_nodup).filter (fun c => decide (c ≠ abstentionCandidate))
  rw [NullPair.totalPositive, ← List.sum_toFinset _ hnodup, ← List.sum_toFinset _ hown]
  have hzero : ∀ c ∈ candidates.toFinset, max 0 (pair.delta c) ≠ 0 → c ∈ pair.armA.candidates := by
    intro c _ hne
    by_contra hnot
    rw [NullPair.delta_eq_zero h hnot, max_self] at hne
    exact hne rfl
  rw [← Finset.sum_filter_of_ne hzero]
  refine Finset.sum_le_sum_of_subset_of_nonneg (fun c hc => ?_) fun c _ _ => le_max_left 0 _
  obtain ⟨hmem, hkept⟩ := Finset.mem_filter.mp hc
  rw [List.mem_toFinset] at hmem ⊢
  refine List.mem_filter.mpr ⟨hkept, decide_eq_true ?_⟩
  rintro rfl
  exact hmeasurable hmem

/-! ## The floor against the medians -/

section Covered
variable {env : Environment} {bundle : CaseBundle} {candidateIds : List String}

theorem measurable_nodup (h : candidateIds.Nodup) : (measurable candidateIds).Nodup := h.filter _

theorem not_mem_measurable : abstentionCandidate ∉ measurable candidateIds := by
  simp [measurable]

/-- A candidate's delta in a pair is within the pair's total. -/
theorem delta_le_totalPositive {pair : NullPair}
    (h : pair.armA.candidates = pair.armB.candidates) {candidate : String}
    (hcandidate : candidate ∈ measurable candidateIds) :
      pair.delta candidate ≤ pair.totalPositive := by
  have hne : abstentionCandidate ≠ candidate := by
    rintro rfl
    exact not_mem_measurable hcandidate
  have hsum := NullPair.sum_le_totalPositive h (List.nodup_singleton candidate)
    (by simpa using hne)
  rw [List.map_singleton, List.sum_singleton] at hsum
  exact (le_max_right _ _).trans hsum

theorem sum_map_comm {α β : Type} (f : α → β → ℚ) (xs : List α) (ys : List β) :
    (xs.map fun x => (ys.map (f x)).sum).sum = (ys.map fun y => (xs.map (f · y)).sum).sum := by
  induction xs with
  | nil => simp
  | cons x rest ih => simp only [List.map_cons, List.sum_cons, ih, List.sum_map_add]

/-- Three of the five pairs pay for each median, so the medians exceed the floor
by two thirds at most. -/
theorem positiveTotal_le (hreport : report.Accepted) (hnodup : candidateIds.Nodup)
    (hsame : SameDeltas report bundle candidateIds) :
    3 * positiveTotal (medians bundle) (measurable candidateIds) ≤
      5 * report.insufficientEvidenceFloorMs := by
  have hhalf : ∀ c ∈ measurable candidateIds,
      3 * max 0 (medians bundle c) ≤ (report.pairs.map fun pair => max 0 (pair.delta c)).sum := by
    intro c hc
    have hlength : (pairDeltas bundle.pairs c).length = 5 := by
      rw [hsame c hc, List.length_map, hreport.length]
    have hodd : (pairDeltas bundle.pairs c).length % 2 = 1 := by rw [hlength]
    have hle := half_mul_median_le_sum hodd
    rw [hlength, hsame c hc, List.map_map] at hle
    rw [medians, hsame c hc]
    exact_mod_cast hle
  calc 3 * positiveTotal (medians bundle) (measurable candidateIds)
      = ((measurable candidateIds).map fun c => 3 * max 0 (medians bundle c)).sum := by
        rw [positiveTotal, List.sum_map_mul_left]
    _ ≤ ((measurable candidateIds).map fun c =>
          (report.pairs.map fun pair => max 0 (pair.delta c)).sum).sum :=
        List.sum_le_sum hhalf
    _ = (report.pairs.map fun pair =>
          ((measurable candidateIds).map fun c => max 0 (pair.delta c)).sum).sum :=
        sum_map_comm (fun c pair => max 0 (NullPair.delta pair c)) _ _
    _ ≤ (report.pairs.map fun _ => report.insufficientEvidenceFloorMs).sum :=
        List.sum_le_sum fun pair hpair =>
          (NullPair.sum_le_totalPositive (hreport.candidates pair hpair) (measurable_nodup hnodup)
            not_mem_measurable).trans (hreport.total_le pair hpair)
    _ = 5 * report.insufficientEvidenceFloorMs := by
        rw [List.map_const', List.sum_replicate, hreport.length, nsmul_eq_mul]
        norm_num

/-- Noise with one positive median is within the floor, and reaches it only where
most pairs do. -/
theorem positiveTotal_le_of_single (hreport : report.Accepted) (hnodup : candidateIds.Nodup)
    (hsame : SameDeltas report bundle candidateIds)
    (hsingle : ∀ a ∈ measurable candidateIds, ∀ b ∈ measurable candidateIds,
      0 < medians bundle a → 0 < medians bundle b → a = b) :
    positiveTotal (medians bundle) (measurable candidateIds) ≤ report.insufficientEvidenceFloorMs ∧
      (positiveTotal (medians bundle) (measurable candidateIds) =
          report.insufficientEvidenceFloorMs →
        3 ≤ report.pairs.countP fun pair =>
          pair.totalPositive = report.insufficientEvidenceFloorMs) := by
  have hpos : 0 < report.insufficientEvidenceFloorMs :=
    lt_of_lt_of_le (by norm_num [minAbsoluteFloorMs]) hreport.floor_ge
  have hranked : (rankedIds (medians bundle) (measurable candidateIds)).Nodup :=
    (ranked_perm.nodup_iff.mpr (measurable_nodup hnodup)).filter _
  rw [positiveTotal_eq]
  cases hids : rankedIds (medians bundle) (measurable candidateIds) with
  | nil => exact ⟨hpos.le, fun heq => absurd heq hpos.ne⟩
  | cons c rest =>
    have hmem : ∀ a ∈ c :: rest, a ∈ measurable candidateIds ∧ 0 < medians bundle a := fun a ha =>
      mem_rankedIds.mp (hids ▸ ha)
    obtain ⟨hc, hmedian⟩ := hmem c List.mem_cons_self
    have hrest : rest = [] := by
      rw [List.eq_nil_iff_forall_not_mem]
      intro a ha
      obtain ⟨hac, hapos⟩ := hmem a (List.mem_cons_of_mem _ ha)
      rw [hids, List.nodup_cons] at hranked
      exact hranked.1 (hsingle a hac c hc hapos hmedian ▸ ha)
    rw [hrest, List.map_singleton, List.sum_singleton]
    have hlength : (pairDeltas bundle.pairs c).length = 5 := by
      rw [hsame c hc, List.length_map, hreport.length]
    have hodd : (pairDeltas bundle.pairs c).length % 2 = 1 := by rw [hlength]
    have hcount := half_lt_countP_of_le_median hodd (le_refl (medians bundle c))
    rw [hlength, hsame c hc, List.countP_map] at hcount
    have hreach : ∀ pair ∈ report.pairs, medians bundle c ≤ pair.delta c →
        medians bundle c ≤ pair.totalPositive := fun pair hpair hle =>
      hle.trans (delta_le_totalPositive (hreport.candidates pair hpair) hc)
    constructor
    · obtain ⟨pair, hpair, hle⟩ := List.countP_pos_iff.mp (Nat.zero_lt_of_lt hcount)
      exact (hreach pair hpair (by simpa using hle)).trans (hreport.total_le pair hpair)
    · intro heq
      refine le_trans hcount (List.countP_mono_left fun pair hpair hle => ?_)
      have hge := hreach pair hpair (by simpa using hle)
      rw [heq] at hge
      exact decide_eq_true (le_antisymm (hreport.total_le pair hpair) hge)

/-- **Calibrated noise is promoted only at the floor or above it.** A case with
clean evidence and the deltas of the null pairs is decided exactly when its
positive medians reach the floor, the first candidate dominates and its interval
excludes zero. The medians exceed the floor by at most two thirds, and where only
one of them is positive they reach it only if three of the five null pairs do. -/
theorem calibrated_noise {r : AttributionResult}
    (hreport : buildCalibrationReport items = .ok report)
    (hinputs : validateScorerInputs candidateIds report.insufficientEvidenceFloorMs = .ok ())
    (hscore : scoreValidatedCase env bundle candidateIds report.insufficientEvidenceFloorMs = .ok r)
    (hclean : evidenceReasons env bundle.pairs = .ok [])
    (hsame : SameDeltas report bundle candidateIds) :
    (r.abstained = false ↔
      report.insufficientEvidenceFloorMs ≤
          positiveTotal (medians bundle) (measurable candidateIds) ∧
        minDominanceShare ≤ dominance (medians bundle) (measurable candidateIds) ∧
        ∀ top ∈ r.candidates.head?,
          ¬(top.bootstrapCi95Ms.1 ≤ 0 ∧ 0 ≤ top.bootstrapCi95Ms.2)) ∧
    3 * positiveTotal (medians bundle) (measurable candidateIds) ≤
      5 * report.insufficientEvidenceFloorMs ∧
    ((∀ a ∈ measurable candidateIds, ∀ b ∈ measurable candidateIds,
        0 < medians bundle a → 0 < medians bundle b → a = b) →
      r.abstained = false →
        3 ≤ report.pairs.countP fun pair =>
          pair.totalPositive = report.insufficientEvidenceFloorMs) := by
  have haccepted := accepted_of_build hreport
  have hnodup : candidateIds.Nodup := by
    simp only [validateScorerInputs, bind_eq_ok, exists_unit, raiseIf_eq_ok, validVocabulary,
      Bool.or_eq_false_iff, Bool.not_eq_false', Bool.and_eq_true, decide_eq_true_eq] at hinputs
    exact hinputs.1.1.1.2
  have hpos : 0 < report.insufficientEvidenceFloorMs :=
    lt_of_lt_of_le (by norm_num [minAbsoluteFloorMs]) haccepted.floor_ge
  have hiff := decided_iff hscore
  rw [gateReasons_eq_nil] at hiff
  refine ⟨?_, positiveTotal_le haccepted hnodup hsame, fun hsingle hdecided => ?_⟩
  · rw [hiff]
    constructor
    · rintro ⟨-, hfloor, -, hdominance, -, hinterval⟩
      exact ⟨hfloor, hdominance, hinterval⟩
    · rintro ⟨hfloor, hdominance, hinterval⟩
      have htotal := hpos.trans_le hfloor
      refine ⟨hclean, hfloor, ?_, hdominance, ?_, hinterval⟩
      · intro hnone
        rw [positiveTotal_eq, hnone] at htotal
        exact lt_irrefl _ htotal
      · rw [residual, if_pos htotal.ne']
        unfold minDominanceShare at hdominance
        unfold maxResidualShare
        linarith
  · obtain ⟨hle, hreach⟩ := positiveTotal_le_of_single haccepted hnodup hsame hsingle
    exact hreach (le_antisymm hle (hiff.mp hdecided).2.1)

end Covered

namespace Sample

def armValue (runId : String) (ms : ℚ) : Value :=
  .dict [("run_id", .str runId), ("intervention", .str "none"), ("evidence_valid", .bool true),
    ("request_count", .int 8), ("candidate_totals_ms", .dict [("queue_or_admission", number ms)]),
    ("error_count", .int 0)]

def nullPairValue (index order : String) : Value :=
  .dict [("pair_id", .str ("null-" ++ index)), ("order", .str order),
    ("workload_id", .str "workload-0"), ("configuration_id", .str "configuration-0"),
    ("arm_a", armValue ("null-a-" ++ index) 0), ("arm_b", armValue ("null-b-" ++ index) 10)]

/-- Five null pairs whose second arm waits 10 ms longer in the queue. -/
def nullPairs : List Value :=
  [nullPairValue "0" "AB", nullPairValue "1" "BA", nullPairValue "2" "AB", nullPairValue "3" "BA",
   nullPairValue "4" "AB"]

end Sample

theorem sample_report : ∃ report, buildCalibrationReport Sample.nullPairs = .ok report ∧
    report.insufficientEvidenceFloorMs = 10 ∧
    SameDeltas report (Sample.bundle Sample.handoff) Sample.candidateIds := by
  have h : (match buildCalibrationReport Sample.nullPairs with
    | .ok report => decide (report.insufficientEvidenceFloorMs = 10 ∧
        ∀ candidate ∈ measurable Sample.candidateIds,
          pairDeltas (Sample.bundle Sample.handoff).pairs candidate =
            report.pairs.map (·.delta candidate))
    | .error _ => false) = true := by decide +kernel
  split at h
  · next report hreport =>
    have hreport' := of_decide_eq_true h
    exact ⟨report, hreport, hreport'⟩
  · cases h

theorem calibrated_noise_sample : ∃ (report : CalibrationReport) (r : AttributionResult),
    buildCalibrationReport Sample.nullPairs = .ok report ∧ r.abstained = false ∧
      3 * positiveTotal (medians (Sample.bundle Sample.handoff)) (measurable Sample.candidateIds) ≤
        5 * report.insufficientEvidenceFloorMs := by
  obtain ⟨report, hreport, hfloor, hsame⟩ := sample_report
  obtain ⟨r, hscore, hdecided⟩ := sample_decided (le_of_eq hfloor)
  exact ⟨report, r, hreport, hdecided,
    (calibrated_noise hreport (by rw [hfloor]; decide +kernel) hscore sample_evidence hsame).2.1⟩

/-- The deltas of every pair are the floor, which the medians reach. -/
theorem constant_noise_promoted :
    ¬ ∀ (items : List Value) (report : CalibrationReport) (env : Environment) (bundle : CaseBundle)
      (candidateIds : List String) (r : AttributionResult),
      buildCalibrationReport items = .ok report →
      validateScorerInputs candidateIds report.insufficientEvidenceFloorMs = .ok () →
      scoreValidatedCase env bundle candidateIds report.insufficientEvidenceFloorMs = .ok r →
      evidenceReasons env bundle.pairs = .ok [] → SameDeltas report bundle candidateIds →
        r.abstained = true := by
  intro h
  obtain ⟨report, hreport, hfloor, hsame⟩ := sample_report
  obtain ⟨r, hscore, hdecided⟩ := sample_decided (le_of_eq hfloor)
  have habstained := h _ report _ _ _ r hreport (by rw [hfloor]; decide +kernel) hscore
    sample_evidence hsame
  rw [hdecided] at habstained
  cases habstained

end LifecycleProfiler.Blind
