import LifecycleProfiler.Protocol.Base
import LifecycleProfiler.Python.Ordering

/-! # Blind case bundles

`validate_case_bundle`: the closed diagnosis bundle, read from JSON into the
records the scorer works on. Each reader is the validator of its record; what
it returns are the fields it has checked. -/

namespace LifecycleProfiler.Blind
open Python Protocol

def caseSchema : String := "request-lifecycle-blind-case/v1"
def abstentionCandidate : String := "insufficient_evidence_or_multi_cause"

def topLevelKeys : List String := ["schema", "case_id", "pairs"]
def pairKeys : List String := ["pair_id", "order", "matching", "baseline", "treatment"]
def matchingKeys : List String :=
  ["workload_id", "request_order_id", "prompt_tokens", "output_tokens", "concurrency",
   "batch_shape"]
def observationKeys : List String :=
  ["run_id", "configuration_id", "clock_model_id", "metrics", "evidence_status",
   "normalized_events", "lifecycle_spans", "lifecycle_edges", "traceloom_links"]
def normalizedEventKeys : List String :=
  ["event_id", "trace_id", "engine_lifecycle_id", "recovery_epoch", "request_id", "scope",
   "component", "event_name", "timestamp_ns", "clock_domain", "evidence_source", "support_state",
   "batch_id", "step_id"]
def metricKeys : List String :=
  ["ttft_ms", "tpot_ms", "latency_ms", "throughput_rps", "error_count"]
def evidenceKeys : List String :=
  ["identity_complete", "event_loss_count", "clock_ambiguous", "configuration_matched"]
def spanKeys : List String :=
  ["span_id", "start_event_id", "end_event_id", "candidate_id", "trace_id", "engine_lifecycle_id",
   "recovery_epoch", "request_id", "owner", "clock_domain", "evidence_source", "support_state",
   "start_ns", "end_ns", "accounted_duration_ms", "batch_id", "step_id"]
def edgeKeys : List String := ["source_span_id", "target_span_id", "kind"]
/-- The identities a supported link may name. -/
def traceIdentityKeys : List String :=
  ["tree_id", "event_id", "runtime_relation_id", "runtime_call_id", "device_work_id",
   "sync_action_id", "graph_event_id", "graph_envelope_id"]
def optionalLinkKeys : List String :=
  ["batch_id", "step_id", "tree_id", "node_id", "occurrence_idx", "anchor_id", "event_id",
   "runtime_relation_id", "runtime_call_id", "device_work_id", "sync_action_id", "graph_event_id",
   "graph_envelope_id", "reason"]
def linkKeys : List String :=
  ["span_id", "trace_id", "engine_lifecycle_id", "recovery_epoch", "request_id", "link_kind",
   "owner", "clock_domain", "evidence_source", "support_state"] ++ optionalLinkKeys
def linkKinds : List String :=
  ["request_handoff", "batch_membership", "execution_support", "resource_owner"]
def causalEdgeKinds : List String := linkKinds ++ ["precedes"]
def supportedStates : List String := ["supported_exact", "supported_deterministic"]
def forbiddenKeys : List String :=
  ["oracle", "ground_truth", "fault_name", "fault_manifest", "injected_pressure",
   "intervention_assignment", "salt", "answer"]
def forbiddenCaseTokens : List String := ["fault", "oracle", "token", "queue", "prefill", "decode"]

/-! ## Readers -/

/-- `_bounded_text` -/
def isBoundedText (s : String) (limit : Nat) : Bool :=
  0 < s.length && s.length ≤ limit && !(s.toList.contains '\x00')

def boundedText (limit : Nat) : Value → Option String
  | .str s => if isBoundedText s limit then some s else none
  | _ => none

/-- `_finite_number`: a `bool` is not a number here. -/
def finiteNumber : Value → Option ℚ
  | .int n => some n
  | .float q _ => some q
  | _ => none

/-- An `int` that is not a `bool`. -/
def strictInt : Value → Option Int
  | .int n => some n
  | _ => none

def natural (v : Value) : Option Nat := do
  let n ← strictInt v
  if 0 ≤ n then some n.toNat else none

def positive (v : Value) : Option Nat := do
  let n ← natural v
  if 0 < n then some n else none

def asBool : Value → Option Bool
  | .bool b => some b
  | _ => none

def asMapping : Value → Option Dict
  | .dict d => some d
  | _ => none

def asList : Value → Option (List Value)
  | .list xs => some xs
  | _ => none

/-- The value, or `raise CaseValidationError(message)`. -/
def require {α : Type} (value : Option α) (message : String) : Except PyError α :=
  match value with
  | some a => .ok a
  | none => .error (.valueError message)

/-- `text.lower()`, as far as a comparison with ASCII text can tell: besides the
ASCII capitals, two characters have a lower case with ASCII letters. -/
def lower (text : String) : List Char :=
  text.toList.flatMap fun c =>
    if c = '\u212a' then ['k'] else if c = '\u0130' then ['i', '\u0307'] else [c.toLower]

/-- `part in text.lower()` -/
def lowerContains (text part : String) : Bool := part.toList <:+: lower text

/-- `sorted(keys)` as an f-string renders it. -/
def renderKeys (keys : List String) : String :=
  "[" ++ ", ".intercalate ((keys.insertionSort (· ≤ ·)).map fun key => "'" ++ key ++ "'") ++ "]"

/-- `_exact_keys` -/
def exactKeys (value : Dict) (allowed optional : List String) (place : String) :
    Except PyError Unit := do
  let unknown := value.keys.filter fun key => !(allowed.contains key)
  let missing := allowed.filter fun key => !(optional.contains key) && !(value.keys.contains key)
  raiseIf (unknown ≠ []) (place ++ " contains unknown keys: " ++ renderKeys unknown)
  raiseIf (missing ≠ []) (place ++ " is missing keys: " ++ renderKeys missing)

@[simp] theorem require_eq_ok {α : Type} {value : Option α} {message : String} {a : α} :
    require value message = .ok a ↔ value = some a := by
  cases value <;> simp [require]

def readText (place : String) (record : Dict) (key : String) (limit : Nat) :
    Except PyError String :=
  require (boundedText limit (record.get key)) s!"{place}.{key} must be bounded"

/-- A text that may be absent. -/
def readOptionalText (place : String) (record : Dict) (key : String) (limit : Nat) :
    Except PyError (Option String) :=
  match record.lookup key with
  | none => .ok none
  | some value => do
    let text ← require (boundedText limit value) s!"{place}.{key} must be bounded"
    return some text

def readNatural (place : String) (record : Dict) (key : String) : Except PyError Nat :=
  require (natural (record.get key)) s!"{place}.{key} must be non-negative integer"

def readBool (place : String) (record : Dict) (key : String) : Except PyError Bool :=
  require (asBool (record.get key)) s!"{place}.{key} must be boolean"

/-- A text that must be in a set. -/
def readMember (value : Value) (roster : List String) (message : String) :
    Except PyError String := do
  raiseIf (!(← inSet value roster)) message
  match value with
  | .str s => .ok s
  | _ => .error (.valueError message)

/-- `for index, value in enumerate(values)`: read each value after those before
it. -/
def readEach {α : Type} (body : Nat → List α → Value → Except PyError α) :
    List α → List Value → Except PyError (List α)
  | done, [] => .ok done
  | done, value :: rest => do
    let record ← body done.length done value
    readEach body (done ++ [record]) rest

/-- What every read record satisfies, all records of a loop satisfy. -/
theorem readEach_forall {α : Type} {body : Nat → List α → Value → Except PyError α}
    {P : α → Prop} (h : ∀ i done value x, body i done value = .ok x → P x) :
    ∀ {values : List Value} {done out : List α}, readEach body done values = .ok out →
      (∀ x ∈ done, P x) → ∀ x ∈ out, P x
  | [], done, out, hread, hdone => by
    rw [readEach, Except.ok.injEq] at hread
    exact hread ▸ hdone
  | value :: rest, done, out, hread, hdone => by
    rw [readEach, bind_eq_ok] at hread
    obtain ⟨record, hrecord, hrest⟩ := hread
    refine readEach_forall h hrest fun x hx => ?_
    rcases List.mem_append.mp hx with hx | hx
    · exact hdone x hx
    · exact List.mem_singleton.mp hx ▸ h _ _ _ _ hrecord

mutual
/-- `_reject_forbidden_keys` -/
def rejectForbiddenKeys (path : String) : Value → Except PyError Unit
  | .dict kvs => rejectForbiddenMembers path kvs
  | .list xs => rejectForbiddenItems path 0 xs
  | _ => .ok ()

def rejectForbiddenMembers (path : String) : List (String × Value) → Except PyError Unit
  | [] => .ok ()
  | (key, child) :: rest => do
    raiseIf (forbiddenKeys.any fun word => lower key = word.toList)
      s!"{path}.{key} is answer-bearing and forbidden"
    rejectForbiddenKeys s!"{path}.{key}" child
    rejectForbiddenMembers path rest

def rejectForbiddenItems (path : String) (index : Nat) : List Value → Except PyError Unit
  | [] => .ok ()
  | child :: rest => do
    rejectForbiddenKeys s!"{path}[{index}]" child
    rejectForbiddenItems path (index + 1) rest
end

/-! ## Records -/

structure RequestIdentity where
  traceId : String
  engineLifecycleId : String
  recoveryEpoch : Nat
  requestId : String
  deriving DecidableEq

/-- The fields in which a span agrees with its boundary events. -/
structure SpanIdentity where
  request : RequestIdentity
  clockDomain : String
  batchId : Option String
  stepId : Option String
  deriving DecidableEq

structure NormalizedEvent where
  eventId : String
  identity : SpanIdentity
  scope : String
  component : String
  eventName : String
  timestampNs : Nat
  evidenceSource : String
  supportState : String

structure LifecycleSpan where
  spanId : String
  startEventId : String
  endEventId : String
  candidateId : String
  identity : SpanIdentity
  owner : String
  evidenceSource : String
  supportState : String
  startNs : Int
  endNs : Int
  accountedDurationMs : ℚ
  deriving DecidableEq

structure LifecycleEdge where
  sourceSpanId : String
  targetSpanId : String
  kind : String
  deriving DecidableEq

/-- A link with the mapping it was read from, which the resolver receives. -/
structure TraceloomLink where
  spanId : String
  linkKind : String
  identity : SpanIdentity
  owner : String
  supportState : String
  fields : Dict

structure Metrics where
  values : List (String × ℚ)
  errorCount : Int

structure EvidenceStatus where
  identityComplete : Bool
  eventLossCount : Nat
  clockAmbiguous : Bool
  configurationMatched : Bool

structure Observation where
  runId : String
  configurationId : String
  clockModelId : String
  metrics : Metrics
  evidenceStatus : EvidenceStatus
  normalizedEvents : List NormalizedEvent
  lifecycleSpans : List LifecycleSpan
  lifecycleEdges : List LifecycleEdge
  traceloomLinks : List TraceloomLink

structure Matching where
  workloadId : String
  requestOrderId : String
  promptTokens : Nat
  outputTokens : Nat
  concurrency : Nat
  batchShape : List Nat

structure MatchedPair where
  pairId : String
  order : String
  matching : Matching
  baseline : Observation
  treatment : Observation

structure CaseBundle where
  caseId : String
  pairs : List MatchedPair

/-- The record takes part in device work. -/
def SpanIdentity.isDevice (identity : SpanIdentity) : Bool :=
  lowerContains identity.clockDomain "device"

def isSupported (state : String) : Bool := supportedStates.contains state

/-! ## Validation -/

def readMatching (place : String) (value : Value) : Except PyError Matching := do
  let record ← require (asMapping value) s!"{place} must be an object"
  exactKeys record matchingKeys [] place
  let workloadId ← readText place record "workload_id" 128
  let requestOrderId ← readText place record "request_order_id" 128
  let count := fun key =>
    require (positive (record.get key)) s!"{place}.{key} must be a positive integer"
  let promptTokens ← count "prompt_tokens"
  let outputTokens ← count "output_tokens"
  let concurrency ← count "concurrency"
  let message := s!"{place}.batch_shape must contain 1-16 positive integers"
  let items ← require (asList (record.get "batch_shape")) message
  raiseIf (items.isEmpty || 16 < items.length) message
  let batchShape ← items.mapM fun item => require (positive item) message
  return ⟨workloadId, requestOrderId, promptTokens, outputTokens, concurrency, batchShape⟩

def readMetrics (place : String) (value : Value) : Except PyError Metrics := do
  let record ← require (asMapping value) s!"{place}.metrics must be an object"
  exactKeys record metricKeys [] s!"{place}.metrics"
  let values ← record.mapM fun (key, value) => do
    let message := s!"{place}.metrics.{key} must be non-negative"
    let metric ← require (finiteNumber value) message
    raiseIf (metric < 0) message
    return (key, metric)
  let errorCount ← require (strictInt (record.get "error_count"))
    s!"{place}.metrics.error_count must be an integer"
  return ⟨values, errorCount⟩

def readEvidenceStatus (place : String) (value : Value) : Except PyError EvidenceStatus := do
  let place := s!"{place}.evidence_status"
  let record ← require (asMapping value) s!"{place} must be an object"
  exactKeys record evidenceKeys [] place
  let identityComplete ← readBool place record "identity_complete"
  let clockAmbiguous ← readBool place record "clock_ambiguous"
  let configurationMatched ← readBool place record "configuration_matched"
  let eventLossCount ← readNatural place record "event_loss_count"
  return ⟨identityComplete, eventLossCount, clockAmbiguous, configurationMatched⟩

/-- The identity fields events, spans and links share. -/
def readIdentity (place : String) (record : Dict) (optionalLimit : Nat) :
    Except PyError SpanIdentity := do
  let traceId ← readText place record "trace_id" 128
  let engineLifecycleId ← readText place record "engine_lifecycle_id" 128
  let requestId ← readText place record "request_id" 128
  let clockDomain ← readText place record "clock_domain" 128
  let batchId ← readOptionalText place record "batch_id" optionalLimit
  let stepId ← readOptionalText place record "step_id" optionalLimit
  let recoveryEpoch ← readNatural place record "recovery_epoch"
  return ⟨⟨traceId, engineLifecycleId, recoveryEpoch, requestId⟩, clockDomain, batchId, stepId⟩

def readEvent (place : String) (done : List NormalizedEvent) (value : Value) :
    Except PyError NormalizedEvent := do
  let record ← require (asMapping value) s!"{place} must be an object"
  exactKeys record normalizedEventKeys ["batch_id", "step_id"] place
  let message := s!"{place}.event_id must be bounded and unique"
  let eventId ← require (boundedText 96 (record.get "event_id")) message
  raiseIf (done.any fun event => event.eventId = eventId) message
  let identity ← readIdentity place record 128
  let evidenceSource ← readText place record "evidence_source" 128
  let supportState ← readText place record "support_state" 128
  let scope ← readMember (record.get "scope") scopes s!"{place}.scope is not a runtime scope"
  let component ← readMember (record.get "component") components
    s!"{place}.component is not a runtime component"
  let eventName ← readMember (record.get "event_name") eventNames
    s!"{place}.event_name is not a runtime event"
  raiseIf (componentByScopeEvent scope eventName ≠ some component)
    s!"{place} has a component/event/scope ownership mismatch"
  let timestampNs ← readNatural place record "timestamp_ns"
  return ⟨eventId, identity, scope, component, eventName, timestampNs, evidenceSource, supportState⟩

/-- The event a span field refers to. -/
def findEvent (events : List NormalizedEvent) : Value → Option NormalizedEvent
  | .str eventId => events.find? fun event => event.eventId = eventId
  | _ => none

def readSpan (candidates : List String) (events : List NormalizedEvent) (place : String)
    (done : List LifecycleSpan) (value : Value) : Except PyError LifecycleSpan := do
  let record ← require (asMapping value) s!"{place} must be an object"
  exactKeys record spanKeys ["batch_id", "step_id"] place
  let message := s!"{place}.span_id must be bounded and unique"
  let spanId ← require (boundedText 96 (record.get "span_id")) message
  raiseIf (done.any fun span => span.spanId = spanId) message
  let unknown := s!"{place} references an unknown normalized event"
  let startEvent ← require (findEvent events (record.get "start_event_id")) unknown
  let endEvent ← require (findEvent events (record.get "end_event_id")) unknown
  let message := s!"{place}.candidate_id is not a measurable candidate"
  let candidateId ← readMember (record.get "candidate_id") candidates message
  raiseIf (candidateId = abstentionCandidate) message
  let identity ← readIdentity place record 128
  let owner ← readText place record "owner" 128
  let evidenceSource ← readText place record "evidence_source" 128
  let supportState ← readText place record "support_state" 128
  let interval := s!"{place} has invalid interval"
  let startNs ← require (strictInt (record.get "start_ns")) interval
  let endNs ← require (strictInt (record.get "end_ns")) interval
  raiseIf (endNs < startNs) interval
  let exceeds := s!"{place}.accounted_duration_ms exceeds its interval"
  let accounted ← require (finiteNumber (record.get "accounted_duration_ms")) exceeds
  let duration : ℚ := (endNs - startNs) / 1000000
  raiseIf (accounted < 0 || duration + 1 / 1000000000 < accounted) exceeds
  raiseIf (startEvent.identity ≠ identity || endEvent.identity ≠ identity)
    s!"{place} identity does not match its boundary events"
  raiseIf ((startEvent.timestampNs : Int) ≠ startNs || (endEvent.timestampNs : Int) ≠ endNs)
    s!"{place} timestamps do not match its boundary events"
  return ⟨spanId, startEvent.eventId, endEvent.eventId, candidateId, identity, owner,
    evidenceSource, supportState, startNs, endNs, accounted⟩

/-- The span a field refers to. -/
def findSpan (spans : List LifecycleSpan) : Value → Option LifecycleSpan
  | .str spanId => spans.find? fun span => span.spanId = spanId
  | _ => none

def readEdge (spans : List LifecycleSpan) (place : String) (done : List LifecycleEdge)
    (value : Value) : Except PyError LifecycleEdge := do
  let record ← require (asMapping value) s!"{place} must be an object"
  exactKeys record edgeKeys [] place
  let unknown := s!"{place} references an unknown span"
  let source ← require (findSpan spans (record.get "source_span_id")) unknown
  let target ← require (findSpan spans (record.get "target_span_id")) unknown
  let kind ← readMember (record.get "kind") causalEdgeKinds s!"{place}.kind is unsupported"
  let edge : LifecycleEdge := ⟨source.spanId, target.spanId, kind⟩
  raiseIf (done.contains edge) s!"{place} duplicates an existing edge"
  raiseIf (source.identity.request ≠ target.identity.request)
    s!"{place} crosses request/lifecycle identity"
  raiseIf (kind = "precedes" && target.startNs < source.endNs)
    s!"{place} violates temporal precedence"
  return edge

/-- The successors of a span, in edge order. -/
def successors (edges : List LifecycleEdge) (spanId : String) : List String :=
  (edges.filter fun edge => edge.sourceSpanId = spanId).map (·.targetSpanId)

/-- `visit`: the spans visited, after a depth-first search from a span. `depth`
is what is left of the interpreter's recursion limit. -/
def visit (edges : List LifecycleEdge) (place : String) :
    Nat → List String → List String → String → Except PyError (List String)
  | 0, _, _, _ => .error (.overflowError "maximum recursion depth exceeded")
  | depth + 1, visiting, visited, spanId =>
    if visiting.contains spanId then
      .error (.valueError s!"{place}.lifecycle_edges contain a cycle")
    else if visited.contains spanId then .ok visited
    else do
      let visited ← (successors edges spanId).foldlM
        (fun visited target => visit edges place depth (spanId :: visiting) visited target) visited
      return spanId :: visited

def validateAcyclicEdges (depth : Nat) (edges : List LifecycleEdge) (spanIds : List String)
    (place : String) : Except PyError Unit := do
  let _ ← spanIds.foldlM (fun visited spanId => visit edges place depth [] visited spanId) []

/-- Add an interval to the union of those that start before it: what the closed
part measures, and the part still open. -/
def extendUnion (union : Int × Int × Int) (interval : Int × Int) : Int × Int × Int :=
  let (unionNs, currentStart, currentEnd) := union
  if interval.1 ≤ currentEnd then (unionNs, currentStart, max currentEnd interval.2)
  else (unionNs + (currentEnd - currentStart), interval.1, interval.2)

/-- The measure of the union of intervals. -/
def unionMeasure (intervals : List (Int × Int)) : Int :=
  match intervals.insertionSort fun a b => a.1 < b.1 ∨ a.1 = b.1 ∧ a.2 ≤ b.2 with
  | [] => 0
  | first :: rest =>
    let (unionNs, currentStart, currentEnd) := rest.foldl extendUnion (0, first.1, first.2)
    unionNs + (currentEnd - currentStart)

/-- The group whose spans may not be charged twice. -/
def accountingKey (span : LifecycleSpan) : RequestIdentity × String :=
  (span.identity.request, span.identity.clockDomain)

def validateOverlapAccounting (spans : List LifecycleSpan) (place : String) :
    Except PyError Unit :=
  forEach (fun key => do
    let group := spans.filter fun span => accountingKey span = key
    let unionNs := unionMeasure (group.map fun span => (span.startNs, span.endNs))
    let accountedMs := (group.map (·.accountedDurationMs)).sum
    raiseIf ((unionNs : ℚ) / 1000000 + 1 / 1000000000 < accountedMs)
      s!"{place}.lifecycle_spans double-charge overlapping evidence")
    (spans.map accountingKey).dedup

/-- The fields that tell two links apart. -/
def linkIdentity (record : Dict) : List Value :=
  ["span_id", "link_kind", "tree_id", "node_id", "occurrence_idx", "anchor_id", "event_id",
    "runtime_relation_id", "runtime_call_id", "device_work_id", "sync_action_id",
    "graph_event_id", "graph_envelope_id"].map record.get

/-- The further texts a link may carry. -/
def optionalLinkTexts : List String := optionalLinkKeys.filter (· ≠ "occurrence_idx")

/-- What a link needs for its support state. -/
def validateLinkSupport (place : String) (record : Dict) (span : LifecycleSpan)
    (supportState : String) : Except PyError Unit :=
  let present := fun key => !(record.get key).isNone
  if isSupported supportState then do
    raiseIf (!(traceIdentityKeys.any present)) s!"{place} lacks an applicable TraceLoom identity"
    raiseIf (span.identity.isDevice &&
      !(["tree_id", "node_id", "occurrence_idx", "anchor_id"].all present))
      s!"{place} lacks the required device drill-down chain"
    raiseIf (span.identity.isDevice &&
      (span.identity.batchId.isNone || span.identity.stepId.isNone))
      s!"{place} device evidence lacks batch/step identity"
  else
    raiseIf (boundedText 256 (record.get "reason")).isNone
      s!"{place}.reason is required for residual evidence"

def readLink (spans : List LifecycleSpan) (place : String) (done : List TraceloomLink)
    (value : Value) : Except PyError TraceloomLink := do
  let record ← require (asMapping value) s!"{place} must be an object"
  exactKeys record linkKeys optionalLinkKeys place
  let linkKind ← readMember (record.get "link_kind") linkKinds
    s!"{place}.link_kind is unsupported"
  raiseIf (!(record.has "evidence_source" "traceloom_sqlite"))
    s!"{place}.evidence_source must be traceloom_sqlite"
  let span ← require (findSpan spans (record.get "span_id"))
    s!"{place} references an unknown span"
  let identity ← readIdentity place record 256
  let owner ← readText place record "owner" 128
  let supportState ← readText place record "support_state" 128
  forEach (fun key => do let _ ← readOptionalText place record key 256) optionalLinkTexts
  raiseIf ((record.lookup "occurrence_idx").any fun index => (natural index).isNone)
    s!"{place}.occurrence_idx must be non-negative integer"
  raiseIf (identity ≠ span.identity || owner ≠ span.owner)
    s!"{place} identity does not match its lifecycle span"
  raiseIf (done.any fun link => Value.pyEqList (linkIdentity link.fields) (linkIdentity record))
    s!"{place} duplicates an existing link"
  validateLinkSupport place record span supportState
  return ⟨span.spanId, linkKind, identity, owner, supportState, record⟩

/-- A list of the observation, within the record capacity. -/
def readCollection (place : String) (record : Dict) (key : String) :
    Except PyError (List Value) := do
  let items ← require (asList (record.get key))
    s!"{place} events, spans, edges, and links must be lists"
  raiseIf (dataCapacityRecords < items.length) s!"{place}.{key} exceeds repository record capacity"
  return items

/-- `_validate_observation` -/
def readObservation (depth : Nat) (candidates : List String) (runIds : List String)
    (place : String) (value : Value) : Except PyError Observation := do
  let record ← require (asMapping value) s!"{place} must be an object"
  exactKeys record observationKeys [] place
  let message := s!"{place}.run_id must be bounded and unique"
  let runId ← require (boundedText 64 (record.get "run_id")) message
  raiseIf (runIds.contains runId) message
  let configurationId ← readText place record "configuration_id" 128
  let clockModelId ← readText place record "clock_model_id" 128
  let metrics ← readMetrics place (record.get "metrics")
  let evidenceStatus ← readEvidenceStatus place (record.get "evidence_status")
  let eventItems ← readCollection place record "normalized_events"
  let spanItems ← readCollection place record "lifecycle_spans"
  let edgeItems ← readCollection place record "lifecycle_edges"
  let linkItems ← readCollection place record "traceloom_links"
  raiseIf (eventItems.isEmpty || spanItems.isEmpty)
    s!"{place} must contain normalized events and lifecycle spans"
  let events ← readEach (fun i => readEvent s!"{place}.normalized_events[{i}]") [] eventItems
  let spans ← readEach (fun i => readSpan candidates events s!"{place}.lifecycle_spans[{i}]") []
    spanItems
  let edges ← readEach (fun i => readEdge spans s!"{place}.lifecycle_edges[{i}]") [] edgeItems
  validateAcyclicEdges depth edges (spans.map (·.spanId)) place
  validateOverlapAccounting spans place
  let links ← readEach (fun i => readLink spans s!"{place}.traceloom_links[{i}]") [] linkItems
  raiseIf (spans.any fun span => span.identity.isDevice &&
      !(links.any fun link => isSupported link.supportState && link.spanId = span.spanId))
    (place ++ " has a device-backed span without an explicit TraceLoom drill-down link")
  return ⟨runId, configurationId, clockModelId, metrics, evidenceStatus, events, spans,
    edges, links⟩

/-- The runs of the pairs read so far. -/
def runIdsOf (pairs : List MatchedPair) : List String :=
  pairs.flatMap fun pair => [pair.baseline.runId, pair.treatment.runId]

def readPair (depth : Nat) (candidates : List String) (place : String) (done : List MatchedPair)
    (value : Value) : Except PyError MatchedPair := do
  let record ← require (asMapping value) s!"{place} must be an object"
  exactKeys record pairKeys [] place
  let message := s!"{place}.pair_id must be bounded and unique"
  let pairId ← require (boundedText 64 (record.get "pair_id")) message
  raiseIf (done.any fun pair => pair.pairId = pairId) message
  let order ← readMember (record.get "order") ["AB", "BA"] s!"{place}.order must be AB or BA"
  let matching ← readMatching s!"{place}.matching" (record.get "matching")
  let baseline ← readObservation depth candidates (runIdsOf done) s!"{place}.baseline"
    (record.get "baseline")
  let treatment ← readObservation depth candidates (runIdsOf done ++ [baseline.runId])
    s!"{place}.treatment" (record.get "treatment")
  raiseIf (baseline.configurationId ≠ treatment.configurationId)
    s!"{place} has unmatched configuration_id"
  raiseIf (baseline.clockModelId ≠ treatment.clockModelId) s!"{place} has unmatched clock_model_id"
  return ⟨pairId, order, matching, baseline, treatment⟩

/-- The orders of a list of pairs alternate. -/
def alternating : List String → Bool
  | left :: right :: rest => left ≠ right && alternating (right :: rest)
  | _ => true

/-- The vocabulary is non-empty, bounded and without repetition. -/
def validVocabulary (candidateIds : List String) : Bool :=
  !candidateIds.isEmpty && candidateIds.all (isBoundedText · 128) && candidateIds.Nodup

/-- `validate_case_bundle` -/
def validateCaseBundle (depth : Nat) (bundle : Value) (candidateIds : List String) :
    Except PyError CaseBundle := do
  raiseIf (candidateIds.isEmpty || !(candidateIds.all (isBoundedText · 128)))
    "candidate vocabulary is invalid"
  raiseIf (!(decide candidateIds.Nodup)) "candidate vocabulary ids must be unique"
  rejectForbiddenKeys "bundle" bundle
  let record ← require (asMapping bundle) "bundle must be an object"
  exactKeys record topLevelKeys [] "bundle"
  raiseIf (!(record.has "schema" caseSchema)) s!"schema must be {caseSchema}"
  let caseId ← require (boundedText 64 (record.get "case_id"))
    "case_id must be a non-empty string of at most 64 characters"
  raiseIf (forbiddenCaseTokens.any (lowerContains caseId)) "case_id must be semantically neutral"
  let capacity := "a pilot case must contain 5-4096 matched pairs"
  let items ← require (asList (record.get "pairs")) capacity
  raiseIf (items.length < 5 || dataCapacityRecords < items.length) capacity
  let message := "matched pair order must alternate AB/BA"
  let orders ← (items.filterMap asMapping).mapM fun pair =>
    readMember (pair.get "order") ["AB", "BA"] message
  raiseIf (!alternating orders) message
  let pairs ← readEach (fun i => readPair depth candidateIds s!"pairs[{i}]") [] items
  return ⟨caseId, pairs⟩

end LifecycleProfiler.Blind
