import LifecycleProfiler.Python.Ordering
import LifecycleProfiler.Protocol.Profile

/-! # The recovery normalizer

`normalize_h2d_recovery` and `normalize_kv_recovery_episode`: rows parsed from
the base and profile shards of a run, an exact expectation, and the checks
that lead to a normalized episode. Each function is split where the source
moves on to another part of the evidence. `sha256` is
`hashlib.sha256(content).hexdigest()`. -/

namespace LifecycleProfiler.Normalizer
open Python Protocol

structure ExpectedH2DRecovery where
  traceId : String
  engineLifecycleId : String
  recoveryEpoch : Int
  transferId : String
  blockSetId : String
  preemptedEventId : String
  admissionStartedEventId : String

structure NormalizedH2DRecovery where
  startEventId : String
  doneEventId : String
  durationNs : Nat
  bytesMoved : Nat
  edgeIds : String × String × String
  deriving DecidableEq, Repr

/-- The joins of one seven-stage episode. The roster of processes is nonempty
and free of repetition, and every pinned identifier is canonical. -/
structure ExpectedKVRecoveryEpisode where
  h2d : ExpectedH2DRecovery
  runId : String
  runtimeRequestId : String
  resumedEventId : String
  firstComputeBaseEventId : String
  computeKind : String
  requeueReasons : List String
  processUuids : List String
  runId_hex : isHex 32 runId = true
  resumedEventId_canonical : isEventId resumedEventId = true
  firstComputeBaseEventId_canonical : isEventId firstComputeBaseEventId = true
  computeKind_known : computeKind = "prefill" ∨ computeKind = "decode"
  processUuids_ne_nil : processUuids ≠ []
  processUuids_nodup : processUuids.Nodup
  processUuids_hex : ∀ u ∈ processUuids, isHex 32 u = true

structure NormalizedKVRecoveryEpisode where
  h2d : NormalizedH2DRecovery
  profileEventIds : List String
  requeueCount : Nat
  deriving DecidableEq, Repr

def asStr : Value → Option String
  | .str s => some s
  | _ => none

/-- `isinstance(v, Mapping)` with the mapping. -/
def asDict : Value → Option Dict
  | .dict d => some d
  | _ => none

def ofType (recordType : String) (rows : List Dict) : List Dict :=
  rows.filter fun row => row.has "record_type" recordType

/-! ## The H2D bridge -/

/-- The event rows, whose identifiers must be texts and pairwise different. -/
def eventIndex (rows : List Dict) : Except PyError (List Dict) := do
  let eventRows := ofType "event" rows
  let ids := eventRows.filterMap fun row => asStr (row.get "event_id")
  raiseIf (ids.dedup.length != eventRows.length) "base event IDs are missing or duplicated"
  return eventRows

/-- `events.get(event_id)` -/
def findEvent (events : List Dict) (eventId : String) : Option Dict :=
  events.find? fun row => row.has "event_id" eventId

/-- The row an expected identifier names, under the expected event name. -/
def requireEndpoint (events : List Dict) (eventId eventName : String) : Except PyError Dict :=
  match findEvent events eventId with
  | some row =>
    if row.has "event_name" eventName then .ok row
    else .error (.valueError s!"exact {eventName} endpoint is missing")
  | none => .error (.valueError s!"exact {eventName} endpoint is missing")

def checkEndpointIdentity (expected : ExpectedH2DRecovery) (preempted admission : Dict) :
    Except PyError Unit :=
  raiseIf (!(preempted.has "trace_id" expected.traceId &&
      admission.has "trace_id" expected.traceId &&
      preempted.has "lifecycle_id" expected.engineLifecycleId &&
      admission.has "lifecycle_id" expected.engineLifecycleId &&
      preempted.hasNum "preemption_epoch" (expected.recoveryEpoch - 1) &&
      admission.hasNum "preemption_epoch" expected.recoveryEpoch))
    "base recovery endpoint identity drifted"

def metadataOf (row : Dict) : Option Dict := asDict (row.get "metadata")

/-- Whether the metadata is a mapping naming the transfer. -/
def namesTransfer (transferId : String) (row : Dict) : Bool :=
  (metadataOf row).any fun metadata => metadata.has "transfer_id" transferId

/-- Every communication event of the trace belongs to the expected transfer. -/
def checkCommunicationRoster (expected : ExpectedH2DRecovery) (events : List Dict) :
    Except PyError Unit := do
  let rows ← filterOk (fun row =>
    if row.has "trace_id" expected.traceId then
      inSet (row.get "event_name") ["communication_started", "communication_done"]
    else .ok false) events
  raiseIf (rows.any fun row => !((metadataOf row).any fun metadata =>
    metadata.has "operation" "h2d_restore" && metadata.has "transfer_id" expected.transferId))
    "closed H2D base roster contains another operation"

def checkCommunicationIdentity (expected : ExpectedH2DRecovery) (row : Dict) :
    Except PyError Unit :=
  raiseIf (!(row.has "trace_id" expected.traceId &&
      row.has "lifecycle_id" expected.engineLifecycleId &&
      row.hasNum "preemption_epoch" expected.recoveryEpoch &&
      ((metadataOf row).any fun metadata =>
        metadata.has "block_set_id" expected.blockSetId &&
        metadata.has "operation" "h2d_restore" &&
        metadata.has "communication_mapping" kvRecoveryCommunicationMode)))
    "H2D communication identity drifted"

/-- The one start and the one end of the expected transfer. -/
def communicationPair (expected : ExpectedH2DRecovery) (events : List Dict) :
    Except PyError (Dict × Dict) := do
  let candidates := events.filter (namesTransfer expected.transferId)
  match candidates.filter (·.has "event_name" "communication_started"),
      candidates.filter (·.has "event_name" "communication_done") with
  | [start], [done] =>
    checkCommunicationIdentity expected start
    checkCommunicationIdentity expected done
    return (start, done)
  | _, _ => .error (.valueError "H2D communication pair is missing or duplicated")

def requireStrId (row : Dict) : Except PyError String :=
  match row.get "event_id" with
  | .str s => .ok s
  | _ => .error (.typeError "communication event ID is invalid")

/-- The duration and the bytes of the pair, once its order is checked. -/
def measureCommunication (preempted admission start done : Dict) :
    Except PyError (Nat × Nat) := do
  raiseIf (!(start.get "start_span_id").pyEq (done.get "end_span_id"))
    "communication span endpoints differ"
  match asUint uint64Max (start.get "timestamp_ns"), asUint uint64Max (done.get "timestamp_ns") with
  | some startNs, some doneNs =>
    raiseIf (doneNs ≤ startNs) "communication duration is not strictly positive"
    match asUint uint64Max (preempted.get "timestamp_ns"),
        asUint uint64Max (admission.get "timestamp_ns") with
    | some preemptedNs, some admissionNs =>
      raiseIf (startNs < preemptedNs || admissionNs < doneNs)
        "H2D endpoints are not causally ordered"
      match (metadataOf done).bind fun metadata => asUint uint64Max
        (metadata.get "bytes_moved") with
      | some bytesMoved =>
        raiseIf (bytesMoved < 1) "communication bytes are not positive"
        return (doneNs - startNs, bytesMoved)
      | none => .error (.valueError "communication bytes are not positive")
    | _, _ => .error (.valueError "H2D endpoints are not causally ordered")
  | _, _ => .error (.valueError "communication duration is not strictly positive")

/-- The identity of a required edge: trace, endpoints, kind and evidence. -/
structure ExpectedEdge where
  traceId : String
  fromEventId : String
  toEventId : String
  edgeKind : String
  evidenceSource : String

def ExpectedEdge.accepts (expected : ExpectedEdge) (edge : Dict) : Bool :=
  edge.has "trace_id" expected.traceId && edge.has "from_event_id" expected.fromEventId &&
    edge.has "to_event_id" expected.toEventId && edge.has "edge_kind" expected.edgeKind &&
    edge.has "evidence_source" expected.evidenceSource

/-- The three edges of the bridge. -/
def preemptedEdge (expected : ExpectedH2DRecovery) (startId : String) : ExpectedEdge :=
  ⟨expected.traceId, expected.preemptedEventId, startId, "data_dependency", kvRecoveryH2dEvidence⟩

def transferEdge (expected : ExpectedH2DRecovery) (startId doneId : String) : ExpectedEdge :=
  ⟨expected.traceId, startId, doneId, "program_order", "instrumented_execution_context"⟩

def admissionEdge (expected : ExpectedH2DRecovery) (doneId : String) : ExpectedEdge :=
  ⟨expected.traceId, doneId, expected.admissionStartedEventId, "data_dependency",
    kvRecoveryH2dEvidence⟩

def requireEdge (edges : List Dict) (expected : ExpectedEdge) : Except PyError String :=
  match edges.filter expected.accepts with
  | [edge] =>
    match edge.get "edge_id" with
    | .str s => .ok s
    | _ => .error (.valueError "required H2D edge is missing or duplicated")
  | _ => .error (.valueError "required H2D edge is missing or duplicated")

/-- Whether an edge joins two events of the bridge as recovery evidence, or
joins the two ends of the transfer. -/
def isRelevantEdge (relevantIds : List String) (startId doneId : String) (edge : Dict) :
    Except PyError Bool := do
  if ← inSet (edge.get "from_event_id") relevantIds then
    if ← inSet (edge.get "to_event_id") relevantIds then
      return edge.has "evidence_source" kvRecoveryH2dEvidence ||
        (edge.has "from_event_id" startId && edge.has "to_event_id" doneId)
    else return false
  else return false

/-- Whether an edge is recovery evidence of the trace. -/
def isMappedEdge (expected : ExpectedH2DRecovery) (edge : Dict) : Bool :=
  edge.has "trace_id" expected.traceId && edge.has "evidence_source" kvRecoveryH2dEvidence

def edgeRoster (expected : ExpectedH2DRecovery) (edges : List Dict) (startId doneId : String) :
    Except PyError (String × String × String) := do
  let first ← requireEdge edges (preemptedEdge expected startId)
  let second ← requireEdge edges (transferEdge expected startId doneId)
  let third ← requireEdge edges (admissionEdge expected doneId)
  let relevantIds := [expected.preemptedEventId, startId, doneId, expected.admissionStartedEventId]
  let relevant ← filterOk (isRelevantEdge relevantIds startId doneId) edges
  raiseIf (relevant.length != 3) "H2D edge roster contains an extra or duplicate edge"
  raiseIf ((edges.filter (isMappedEdge expected)).length != 2)
    "H2D specialty edge roster is not exact"
  return (first, second, third)

def normalizeH2dRecovery (rows : List Dict) (expected : ExpectedH2DRecovery)
    (profileEvidenceComplete : Bool) : Except PyError NormalizedH2DRecovery := do
  raiseIf (!profileEvidenceComplete) "profile evidence contains loss"
  raiseIf (rows.any (·.has "record_type" "loss_interval")) "base evidence contains loss"
  let events ← eventIndex rows
  let preempted ← requireEndpoint events expected.preemptedEventId "preempted"
  let admission ← requireEndpoint events expected.admissionStartedEventId "admission_started"
  checkEndpointIdentity expected preempted admission
  checkCommunicationRoster expected events
  let (start, done) ← communicationPair expected events
  let startId ← requireStrId start
  let doneId ← requireStrId done
  let (durationNs, bytesMoved) ← measureCommunication preempted admission start done
  let edgeIds ← edgeRoster expected (ofType "edge" rows) startId doneId
  return ⟨startId, doneId, durationNs, bytesMoved, edgeIds⟩

/-! ## Rosters, digests and ledgers -/

def validateProcessRoster (rows : List Dict) (recordType : String)
    (expectedProcesses : List String) : Except PyError Unit := do
  let observed := (ofType recordType rows).map (·.get "process_uuid")
  raiseIf (observed.length != expectedProcesses.length) s!"{recordType} process roster differs"
  forEach (fun v => do
    let known ← inSet v expectedProcesses
    raiseIf (!known) s!"{recordType} process roster differs") observed
  raiseIf (!expectedProcesses.all fun u => observed.any (·.pyEq (.str u)))
    s!"{recordType} process roster differs"

def ofProcess (processUuid : String) (rows : List Dict) : List Dict :=
  rows.filter fun row => row.has "process_uuid" processUuid

/-- The bytes a shard digest covers: every row but the summary, in order. -/
def contentOf (encoder : Dict → Except PyError Bytes) : List Dict → Except PyError Bytes
  | [] => .ok []
  | row :: rest => do
    let line ← encoder row
    let tail ← contentOf encoder rest
    return line ++ tail

/-- The rows of a process a digest covers. -/
def digestedRows (summaryType processUuid : String) (rows : List Dict) : List Dict :=
  (ofProcess processUuid rows).filter fun row => !row.has "record_type" summaryType

def validateShardContentDigest (sha256 : Bytes → String) (rows : List Dict)
    (summaryType : String) (encoder : Dict → Except PyError Bytes) (processUuid : String) :
    Except PyError Unit :=
  match ofType summaryType (ofProcess processUuid rows) with
  | [summary] => do
    let content ← contentOf encoder (digestedRows summaryType processUuid rows)
    raiseIf (!summary.has "content_sha256" (sha256 content))
      s!"{summaryType} content digest differs"
  | _ => .error (.valueError s!"{summaryType} process roster differs")

def validateShardContentDigests (sha256 : Bytes → String) (rows : List Dict)
    (expectedProcesses : List String) (summaryType : String)
    (encoder : Dict → Except PyError Bytes) : Except PyError Unit :=
  forEach (validateShardContentDigest sha256 rows summaryType encoder) expectedProcesses

/-- Whether the record type is one of the given categories. -/
def isCategory (categories : List String) (row : Dict) : Bool :=
  isOneOf (row.get "record_type") categories

/-- The data rows of a process. -/
def dataRows (categories : List String) (processUuid : String) (rows : List Dict) : List Dict :=
  rows.filter fun row => row.has "process_uuid" processUuid && isCategory categories row

/-- One process ledger: a drained summary without loss or failure, whose
counts are those of the rows present and whose sequences leave no gap. -/
def validateLedger (summaryType : String) (categories : List String) (rows : List Dict)
    (processUuid : String) : Except PyError Unit := do
  let data := dataRows categories processUuid rows
  match ofType summaryType (ofProcess processUuid rows) with
  | [summary] => do
    raiseIf (!(summary.has "close_outcome" "drained" && summary.hasNum "dropped_data_count" 0 &&
      summary.hasNum "dropped_control_count" 0 && summary.hasNum "writer_failure_count" 0 &&
      summary.hasNum "attempted_data_count" data.length))
      "profile process ledger is incomplete"
    let seqs ← sortedByKey id (data.map (·.get "record_seq"))
    raiseIf (!eqRange seqs data.length) "profile process ledger is incomplete"
    forEach (fun category =>
      raiseIf (!summary.hasNum s!"written_{category}_count" (ofType category data).length)
        "profile summary category count differs") categories
  | _ => .error (.valueError "AssertionError")

def profileCategories : List String :=
  ["block_set_chunk", "wait_set_chunk", "transfer_event", "recovery_event"]

def validateProfileLedgers (rows : List Dict) (expectedProcesses : List String) :
    Except PyError Unit :=
  forEach (validateLedger "profile_summary" profileCategories rows) expectedProcesses

/-! ## The seven-stage chain -/

def requireRecordIds (profileData : List Dict) : Except PyError Unit := do
  raiseIf (profileData.any fun row => !(row.get "record_id").isStr)
    "profile record IDs are missing or duplicated"
  raiseIf (!allDistinct Value.pyEq (profileData.map (·.get "record_id")))
    "profile record IDs are missing or duplicated"

def episodeId (expected : ExpectedH2DRecovery) : String :=
  s!"{expected.engineLifecycleId}:k:{expected.recoveryEpoch}"

/-- Whether a row carries the identity of the episode. -/
def inEpisode (expected : ExpectedKVRecoveryEpisode) (row : Dict) : Bool :=
  row.has "run_id" expected.runId && row.has "trace_id" expected.h2d.traceId &&
    row.has "engine_lifecycle_id" expected.h2d.engineLifecycleId &&
    row.has "runtime_request_id" expected.runtimeRequestId &&
    row.hasNum "recovery_epoch" expected.h2d.recoveryEpoch &&
    row.has "episode_id" (episodeId expected.h2d)

def isMilestone (expected : ExpectedKVRecoveryEpisode) (row : Dict) : Bool :=
  row.has "record_type" "recovery_event" && inEpisode expected row

def uniqueStages : List String :=
  ["preempt", "restore_start", "restore_done", "scheduler_wakeup", "admission",
   "first_prefill_or_decode"]

/-- The rows of a stage, in row order. -/
def atStage (stage : String) (milestones : List Dict) : List Dict :=
  milestones.filter fun row => row.has "stage" stage

def requireStage (stage : String) (milestones : List Dict) : Except PyError Dict :=
  match atStage stage milestones with
  | [row] => .ok row
  | _ => .error (.valueError "unique recovery stage is missing or duplicated")

/-- The milestones of an episode, by role. -/
structure Chain where
  preempt : Dict
  restoreStart : Dict
  restoreDone : Dict
  wakeup : Dict
  requeues : List Dict
  admission : Dict
  firstCompute : Dict

def Chain.rows (chain : Chain) : List Dict :=
  [chain.preempt, chain.restoreStart, chain.restoreDone, chain.wakeup] ++ chain.requeues ++
    [chain.admission, chain.firstCompute]

def sortedRequeues (milestones : List Dict) (requeueReasons : List String) :
    Except PyError (List Dict) := do
  let requeues ← sortedByKey (·.get "occurrence") (atStage "requeue" milestones)
  raiseIf (!eqRange (requeues.map (·.get "occurrence")) requeues.length)
    "requeue occurrence sequence is not contiguous"
  raiseIf (!Value.pyEqList (requeues.map (·.get "requeue_reason")) (requeueReasons.map .str))
    "requeue reasons differ from the exact expectation"
  return requeues

def episodeChain (milestones : List Dict) (requeueReasons : List String) :
    Except PyError Chain := do
  forEach (fun row =>
    if (row.get "stage").isStr then .ok ()
    else .error (.typeError "recovery event stage is missing")) milestones
  let preempt ← requireStage "preempt" milestones
  let restoreStart ← requireStage "restore_start" milestones
  let restoreDone ← requireStage "restore_done" milestones
  let wakeup ← requireStage "scheduler_wakeup" milestones
  let admission ← requireStage "admission" milestones
  let firstCompute ← requireStage "first_prefill_or_decode" milestones
  raiseIf (milestones.any fun row => !isOneOf (row.get "stage") ("requeue" :: uniqueStages))
    "recovery episode contains an unknown stage"
  let requeues ← sortedRequeues milestones requeueReasons
  return ⟨preempt, restoreStart, restoreDone, wakeup, requeues, admission, firstCompute⟩

/-- The walk along the chain: each row names the previous one, and time does
not run backwards. -/
def walkChain : Value → Nat → List Dict → Except PyError Unit
  | _, _, [] => .ok ()
  | previousId, previousNs, row :: rest => do
    raiseIf (!(row.get "from_profile_event_id").pyEq previousId)
      "profile predecessor chain is broken"
    match asUint uint64Max (row.get "timestamp_ns") with
    | some timestampNs =>
      raiseIf (timestampNs < previousNs) "profile stage timestamps are inverted"
      walkChain (row.get "record_id") timestampNs rest
    | none => .error (.valueError "profile stage timestamps are inverted")

def checkAssociations (expected : ExpectedKVRecoveryEpisode) (h2d : NormalizedH2DRecovery)
    (chain : Chain) : Except PyError Unit := do
  raiseIf (!chain.preempt.has "base_event_id" expected.h2d.preemptedEventId)
    "profile preempt base association differs"
  raiseIf (!chain.restoreStart.has "base_event_id" h2d.startEventId)
    "restore_start base association differs"
  raiseIf (!chain.restoreDone.has "base_event_id" h2d.doneEventId)
    "restore_done base association differs"
  raiseIf (!(chain.wakeup.get "base_event_id").isNone ||
      chain.requeues.any fun row => !(row.get "base_event_id").isNone)
    "profile-only stage contains a base association"
  raiseIf (!(chain.admission.has "base_event_id" expected.resumedEventId &&
      chain.admission.has "base_admission_started_event_id" expected.h2d.admissionStartedEventId))
    "admission base associations differ"
  raiseIf (!(chain.firstCompute.has "base_event_id" expected.firstComputeBaseEventId &&
      chain.firstCompute.has "compute_kind" expected.computeKind &&
      chain.firstCompute.has "child_observation_kind" "worker_model_forward_entry" &&
      chain.firstCompute.has "base_association_kind" "phase_child_observation" &&
      chain.firstCompute.has "base_association_evidence" "instrumented_execution_context"))
    "first compute child association differs"

/-- A later base phase: the named event, in the lifecycle and epoch of the
episode. -/
def checkLaterPhase (expected : ExpectedKVRecoveryEpisode) (baseRows : List Dict)
    (eventId eventName : String) : Except PyError Unit :=
  raiseIf (!((findEvent (ofType "event" baseRows) eventId).any fun event =>
      event.has "event_name" eventName && event.has "trace_id" expected.h2d.traceId &&
      event.has "lifecycle_id" expected.h2d.engineLifecycleId &&
      event.hasNum "preemption_epoch" expected.h2d.recoveryEpoch))
    "later base phase association is missing or drifted"

/-! ## The transfer and its blocks -/

def isTransferRow (expected : ExpectedH2DRecovery) (row : Dict) : Bool :=
  row.has "record_type" "transfer_event" && row.has "transfer_id" expected.transferId

/-- The submit and the done row of the transfer, in this order. -/
def transferPair (expected : ExpectedH2DRecovery) (profileData : List Dict) :
    Except PyError (Dict × Dict) :=
  match profileData.filter (isTransferRow expected) with
  | [submit, done] =>
    if submit.has "transfer_phase" "submit" && done.has "transfer_phase" "done" then
      .ok (submit, done)
    else .error (.valueError "profile transfer pair is missing, reordered, or duplicated")
  | _ => .error (.valueError "profile transfer pair is missing, reordered, or duplicated")

def checkTransferEvidence (expected : ExpectedH2DRecovery) (h2d : NormalizedH2DRecovery)
    (chain : Chain) (submit done : Dict) : Except PyError Unit := do
  raiseIf (!((submit.get "timestamp_ns").pyEq (chain.restoreStart.get "timestamp_ns") &&
      (done.get "timestamp_ns").pyEq (chain.restoreDone.get "timestamp_ns") &&
      done.hasNum "bytes_moved" h2d.bytesMoved))
    "restore milestones differ from transfer evidence"
  forEach (fun row => raiseIf (!(row.has "transfer_id" expected.transferId &&
      row.has "block_set_id" expected.blockSetId &&
      (row.has "stage" "restore_start" || row.hasNum "bytes_moved" h2d.bytesMoved)))
    "recovery stage transfer identity drifted") chain.rows.tail
  raiseIf (!(chain.restoreStart.get "bytes_moved").isNone) "restore_start must not report bytes"

def isBlockChunk (expected : ExpectedH2DRecovery) (row : Dict) : Bool :=
  row.has "record_type" "block_set_chunk" && row.has "block_set_id" expected.blockSetId &&
    row.has "episode_id" (episodeId expected)

/-- The elements of `row.get("blocks", ())`. -/
def blocksOf (row : Dict) : Except PyError (List Value) :=
  match row.lookup "blocks" with
  | some blocks => iterate blocks
  | none => .ok []

def concatBlocks : List Dict → Except PyError (List Value)
  | [] => .ok []
  | row :: rest => do
    let head ← blocksOf row
    let tail ← concatBlocks rest
    return head ++ tail

/-- `(row.get("group_index"), row.get("logical_ordinal"))` as set elements. -/
def blockCoordinate (block : Value) : Except PyError (Value × Value) :=
  match block with
  | .dict d =>
    if (Dict.get d "group_index").hashable && (Dict.get d "logical_ordinal").hashable then
      .ok (Dict.get d "group_index", Dict.get d "logical_ordinal")
    else .error (.typeError "unhashable type")
  | _ => .error (.attributeError "object has no attribute 'get'")

def blockLogicalId (block : Value) : Except PyError Value :=
  match block with
  | .dict d =>
    if (Dict.get d "logical_block_id").hashable then .ok (Dict.get d "logical_block_id")
    else .error (.typeError "unhashable type")
  | _ => .error (.attributeError "object has no attribute 'get'")

/-- `{f(x) for x in xs}` before its repetitions are dropped. -/
def collect {α β : Type} (f : α → Except PyError β) : List α → Except PyError (List β)
  | [] => .ok []
  | x :: xs => do
    let head ← f x
    let tail ← collect f xs
    return head :: tail

def checkBlockSet (expected : ExpectedH2DRecovery) (profileData : List Dict) :
    Except PyError Unit := do
  let chunks := profileData.filter (isBlockChunk expected)
  raiseIf chunks.isEmpty "logical recovery block set is missing"
  let chunks ← sortedByKey (·.get "chunk_index") chunks
  raiseIf (!eqRange (chunks.map (·.get "chunk_index")) chunks.length)
    "block chunks are not contiguous"
  raiseIf (chunks.any fun row => !row.hasNum "chunk_count" chunks.length)
    "block chunk count differs"
  let blocks ← concatBlocks chunks
  raiseIf (blocks.isEmpty || chunks.any fun row => !row.hasNum "total_block_count" blocks.length)
    "logical recovery block rows are incomplete or duplicated"
  let coordinates ← collect blockCoordinate blocks
  raiseIf (!allDistinct (fun p q => p.1.pyEq q.1 && p.2.pyEq q.2) coordinates)
    "logical recovery block rows are incomplete or duplicated"
  let logicalIds ← collect blockLogicalId blocks
  raiseIf (!allDistinct Value.pyEq logicalIds)
    "logical recovery block rows are incomplete or duplicated"

def isProfileData (row : Dict) : Except PyError Bool :=
  inSet (row.get "record_type") profileCategories

def normalizeKvRecoveryEpisode (sha256 : Bytes → String) (baseRows profileRows : List Dict)
    (expected : ExpectedKVRecoveryEpisode) (profileEvidenceComplete : Bool) :
    Except PyError NormalizedKVRecoveryEpisode := do
  let h2d ← normalizeH2dRecovery baseRows expected.h2d profileEvidenceComplete
  let processes := expected.processUuids
  validateProcessRoster baseRows "process_start" processes
  validateProcessRoster baseRows "process_summary" processes
  validateProcessRoster profileRows "profile_start" processes
  validateProcessRoster profileRows "profile_summary" processes
  validateShardContentDigests sha256 baseRows processes "process_summary" canonicalJsonLine
  validateShardContentDigests sha256 profileRows processes "profile_summary" profileRecordLine
  raiseIf (profileRows.any (·.has "record_type" "loss_interval")) "profile evidence contains loss"
  validateProfileLedgers profileRows processes
  let profileData ← filterOk isProfileData profileRows
  requireRecordIds profileData
  let chain ← episodeChain (profileData.filter (isMilestone expected)) expected.requeueReasons
  walkChain .none 0 chain.rows
  checkAssociations expected h2d chain
  checkLaterPhase expected baseRows expected.resumedEventId "resumed"
  checkLaterPhase expected baseRows expected.firstComputeBaseEventId
    s!"{expected.computeKind}_started"
  let (submit, done) ← transferPair expected.h2d profileData
  checkTransferEvidence expected.h2d h2d chain submit done
  checkBlockSet expected.h2d profileData
  return ⟨h2d, chain.rows.filterMap fun row => asStr (row.get "record_id"), chain.requeues.length⟩

end LifecycleProfiler.Normalizer
