import LifecycleProfiler.Runtime.Scheduler

/-! # The worker adapter

`KVRecoveryWorkerEvidenceAdapter` over the hooks. A transfer waits in `pending`
from its submission to its end. -/

namespace LifecycleProfiler.Runtime
open Python Protocol

/-- A transfer attempt of the runtime. -/
structure TransferAttempt where
  transferId : String
  connectorJobId : Int
  context : TransferContext
  deriving DecidableEq

/-- `_WorkerPending` -/
structure WorkerPending where
  attempt : TransferAttempt
  submitTimestampNs : Int
  startEventId : Option String
  spanId : Option String
  restoreStartProfileRecordId : Option String

structure Worker where
  runId : String
  sha256 : Bytes → String
  hooks : Hooks
  sinkOpen : Bool := true
  pending : Mapping String WorkerPending := []
  closed : Bool := false

namespace Worker

def withHooks (w : Worker) (hooks : Hooks) : Worker := { w with hooks := hooks }

def drop (w : Worker) : Worker := w.withHooks (dropProfile w.sinkOpen w.hooks)

def write (w : Worker) (recordType : ProfileRecordType) (timestampNs : Int) (fields : Dict) :
    Option String × Worker :=
  let (recordId, hooks) := writeProfile w.sinkOpen recordType timestampNs fields w.hooks
  (recordId, w.withHooks hooks)

/-- The fields of a request, from the identity the runtime carries. -/
def requestFieldsOf (identity : TransferIdentity) : RequestFields :=
  ⟨identity.traceId, identity.engineLifecycleId, identity.runtimeRequestId, identity.recoveryEpoch,
    identity.episodeId⟩

/-- `_communication_metadata` -/
def communicationMetadata (attempt : TransferAttempt) : Dict :=
  [("operation", .str "h2d_restore"), ("direction", .str "h2d"),
   ("transfer_id", .str attempt.transferId), ("block_set_id", .str attempt.context.blockSetId),
   ("recovery_profile", .str profileId),
   ("communication_mapping", .str kvRecoveryCommunicationMode), ("rank", .int 0)]

def communicationDraft (attempt : TransferAttempt) (eventName : String) (timestampNs : Int)
    (metadata : Dict) : EventDraft :=
  let identity := attempt.context.identity
  { traceId := identity.traceId
    lifecycleId := identity.engineLifecycleId
    parentLifecycleId := some s!"{identity.traceId}:r"
    scope := "engine_sample"
    component := "external_evidence"
    eventName := eventName
    timestampNs := .int timestampNs
    preemptionEpoch := .int (identity.recoveryEpoch.getD 0)
    sampleIndex := .int 0
    metadata := some metadata }

def transferRow (attempt : TransferAttempt) (phase : String) : TransferEvent where
  request := requestFieldsOf attempt.context.identity
  transferId := attempt.transferId
  connectorJobId := attempt.connectorJobId
  operation := attempt.context.operation
  blockSetId := attempt.context.blockSetId
  transferPhase := phase

/-! ## Submission -/

/-- `communication_started` and the edge from the preemption. -/
def emitStarted (attempt : TransferAttempt) (timestampNs : Int) : Emit (String × String) := do
  let spanId ← newSpanId
  let draft := communicationDraft attempt "communication_started" timestampNs
    (communicationMetadata attempt)
  let ref ← emitEvent { draft with startSpanId := some spanId }
  match attempt.context.identity.basePreemptedEventId with
  | none => return (ref.recordId, spanId)
  | some preempted =>
    let _ ← emitEdge ⟨attempt.context.identity.traceId, preempted, ref.recordId, "data_dependency",
      kvRecoveryH2dEvidence⟩
    return (ref.recordId, spanId)

def restoreStartRow (attempt : TransferAttempt) (startEventId : Option String)
    (preemptId : String) : RecoveryEvent where
  request := requestFieldsOf attempt.context.identity
  stage := "restore_start"
  baseEventId := startEventId
  fromProfileEventId := some preemptId
  transferId := some attempt.transferId
  blockSetId := some attempt.context.blockSetId

def submitPending (w : Worker) (attempt : TransferAttempt) (timestampNs : Int)
    (started : Option (String × String)) (restoreStartId : Option String) : Worker :=
  let entry : WorkerPending :=
    { attempt := attempt
      submitTimestampNs := timestampNs
      startEventId := started.map (·.1)
      spanId := started.map (·.2)
      restoreStartProfileRecordId := restoreStartId }
  { w with pending := w.pending.set attempt.transferId entry }

/-- The rows of a submitted transfer, after its base event. -/
def recordSubmitted (w : Worker) (attempt : TransferAttempt) (timestampNs : Int)
    (started : Option (String × String)) : Worker :=
  match w.write .transferEvent timestampNs (transferRow attempt "submit").fields with
  | (none, w) => w
  | (some _, w) =>
    match attempt.context.identity.preemptProfileRecordId with
    | none => w.submitPending attempt timestampNs started none
    | some preemptId =>
      if attempt.context.operation = "h2d_restore" then
        match w.write .recoveryEvent timestampNs
            (restoreStartRow attempt (started.map (·.1)) preemptId).fields with
        | (none, w) => w
        | (some restoreStartId, w) =>
          w.submitPending attempt timestampNs started (some restoreStartId)
      else w.submitPending attempt timestampNs started none

def transferSubmitted (w : Worker) (attempt : TransferAttempt) (timestampNs : Int) : Worker :=
  if w.closed then w
  else if attempt.context.operation = "h2d_restore" then
    match emitStarted attempt timestampNs w.hooks with
    | (none, hooks) => (w.withHooks hooks).drop
    | (some started, hooks) =>
      (w.withHooks hooks).recordSubmitted attempt timestampNs (some started)
  else w.recordSubmitted attempt timestampNs none

/-! ## Completion -/

/-- `communication_done` and the edge from the start of the transfer. -/
def emitDone (attempt : TransferAttempt) (pending : WorkerPending) (timestampNs bytesMoved : Int) :
    Emit String := do
  let spanId ← Emit.orNone pending.spanId
  let startEventId ← Emit.orNone pending.startEventId
  let draft := communicationDraft attempt "communication_done" timestampNs
    (communicationMetadata attempt ++ [("bytes_moved", .int bytesMoved)])
  let ref ← emitEvent { draft with endSpanId := some spanId }
  let _ ← emitEdge ⟨attempt.context.identity.traceId, startEventId, ref.recordId, "program_order",
    "instrumented_execution_context"⟩
  return ref.recordId

def doneRow (attempt : TransferAttempt) (bytesMoved : Int) (deviceDurationNs : Option Int) :
    TransferEvent :=
  { transferRow attempt "done" with
    bytesMoved := some bytesMoved
    deviceDurationNs := deviceDurationNs
    success := some true }

def restoreDoneRow (attempt : TransferAttempt) (doneEventId : Option String)
    (restoreStartId : String) (bytesMoved : Int) : RecoveryEvent where
  request := requestFieldsOf attempt.context.identity
  stage := "restore_done"
  baseEventId := doneEventId
  fromProfileEventId := some restoreStartId
  transferId := some attempt.transferId
  blockSetId := some attempt.context.blockSetId
  bytesMoved := some bytesMoved

def receiptOf (w : Worker) (attempt : TransferAttempt) (doneEventId restoreDoneId : String)
    (timestampNs bytesMoved : Int) : H2DReceipt where
  connectorJobId := attempt.connectorJobId
  transferId := attempt.transferId
  identity := attempt.context.identity
  blockSetId := attempt.context.blockSetId
  processUuid := w.hooks.processUuid
  clockDomainId := w.hooks.clockDomainId
  communicationDoneEventId := doneEventId
  restoreDoneProfileRecordId := restoreDoneId
  timestampNs := timestampNs
  bytesMoved := bytesMoved

/-- The rows of a completed transfer, after its base event, and the receipt. -/
def recordCompleted (w : Worker) (attempt : TransferAttempt) (pending : WorkerPending)
    (timestampNs bytesMoved : Int) (deviceDurationNs : Option Int) (doneEventId : Option String)
    (constructed : Bool) : Worker × Option H2DReceipt :=
  match w.write .transferEvent timestampNs (doneRow attempt bytesMoved deviceDurationNs).fields with
  | (none, w) => (w, none)
  | (some _, w) =>
    if attempt.context.operation = "d2h_preserve" then (w, none)
    else match pending.restoreStartProfileRecordId with
      | none => (w, none)
      | some restoreStartId =>
        match w.write .recoveryEvent timestampNs
            (restoreDoneRow attempt doneEventId restoreStartId bytesMoved).fields, doneEventId with
        | (some restoreDoneId, w), some doneEventId =>
          if constructed then
            (w, some (w.receiptOf attempt doneEventId restoreDoneId timestampNs bytesMoved))
          else (w.drop, none)
        | (_, w), _ => (w, none)

/-- The report fits the pending transfer. -/
def completes (pending : WorkerPending) (attempt : TransferAttempt)
    (submitTimestampNs timestampNs : Int) (success : Bool) : Bool :=
  pending.attempt = attempt && pending.submitTimestampNs = submitTimestampNs && success &&
    submitTimestampNs < timestampNs

/-- `constructed`: the receipt type of the ABI did not raise. -/
def transferCompleted (w : Worker) (attempt : TransferAttempt) (submitTimestampNs timestampNs : Int)
    (success : Bool) (bytesMoved deviceDurationNs : Option Int) (constructed : Bool) :
    Worker × Option H2DReceipt :=
  if w.closed then (w, none)
  else
    let given := w.pending.get attempt.transferId
    let w := { w with pending := w.pending.pop attempt.transferId }
    match given, bytesMoved with
    | some pending, some bytesMoved =>
      if !completes pending attempt submitTimestampNs timestampNs success || bytesMoved ≤ 0 then
        (w.drop, none)
      else if attempt.context.operation = "h2d_restore" then
        match emitDone attempt pending timestampNs bytesMoved w.hooks with
        | (none, hooks) => ((w.withHooks hooks).drop, none)
        | (some doneEventId, hooks) =>
          (w.withHooks hooks).recordCompleted attempt pending timestampNs bytesMoved
            deviceDurationNs
            (some doneEventId) constructed
      else w.recordCompleted attempt pending timestampNs bytesMoved deviceDurationNs
        none constructed
    | _, _ => (w.drop, none)

def cancelledRow (attempt : TransferAttempt) : TransferEvent :=
  { transferRow attempt "done" with
    success := some false
    failureCode := some "cancelled" }

def transferInvalidated (w : Worker) (attempt : TransferAttempt) (timestampNs : Int) : Worker :=
  if w.closed then w
  else
    (({ w with pending := w.pending.pop attempt.transferId } : Worker).write
      .transferEvent timestampNs
      (cancelledRow attempt).fields).2

/-! ## Waiting and computing -/

def waitSetId (w : Worker) (transferIds : List String) : String :=
  w.sha256 (utf8 profileId ++ 0 :: utf8 w.runId ++ 0 :: utf8 w.hooks.processUuid ++
    0 :: utf8 (String.join (transferIds.map (· ++ "\n"))))

def waitSetChunks (w : Worker) (transferIds : List String) : List WaitSetChunk :=
  let count := (transferIds.length + 63) / 64
  (List.range count).map fun index =>
    { waitSetId := w.waitSetId transferIds
      chunkIndex := index
      chunkCount := count
      totalTransferCount := transferIds.length
      transferIds := (transferIds.drop (index * 64)).take 64 }

/-- Write the chunks in order, up to the first one that is not accepted. -/
def writeChunks (w : Worker) (timestampNs : Int) : List WaitSetChunk → Worker
  | [] => w
  | chunk :: rest =>
    match w.write .waitSetChunk timestampNs chunk.fields with
    | (none, w) => w
    | (some _, w) => w.writeChunks timestampNs rest

/-- `wait_completed`, which raises before its first row when the IDs are not ASCII. -/
def waitCompleted (w : Worker) (transferIds : List String) (entryTimestampNs : Int) : Worker :=
  if w.closed || !((transferIds.flatMap utf8).all (· < 128)) then w
  else w.writeChunks entryTimestampNs (w.waitSetChunks transferIds)

def firstComputeRow (context : ComputeContext) : RecoveryEvent where
  request := requestFieldsOf context.identity
  stage := "first_prefill_or_decode"
  baseEventId := some context.basePhaseStartEventId
  fromProfileEventId := some context.admissionProfileRecordId
  transferId := some context.transferId
  blockSetId := some context.blockSetId
  bytesMoved := some context.bytesMoved
  computeKind := some context.computeKind
  childObservationKind := some "worker_model_forward_entry"
  baseAssociationKind := some "phase_child_observation"
  baseAssociationEvidence := some "instrumented_execution_context"
  requestStatusBefore := some "RUNNING"
  requestStatusAfter := some "RUNNING"

def firstCompute (w : Worker) (context : ComputeContext) (timestampNs : Int) : Worker :=
  if context.identity.recoveryEpoch.isNone ||
      (context.computeKind ≠ "prefill" && context.computeKind ≠ "decode") ||
      !isEventId context.basePhaseStartEventId then w.drop
  else (w.write .recoveryEvent timestampNs (firstComputeRow context).fields).2

/-! ## Endings -/

/-- The sink takes nothing more. -/
def sinkCloses (w : Worker) : Worker :=
  { w with hooks := { w.hooks with answers := fun _ => none }, sinkOpen := false }

/-- `intact` is what `evidence_complete` says of the control records and the writer. -/
def close (w : Worker) (openAttempts : List TransferAttempt) (evidenceDisabled intact : Bool) :
    Worker :=
  if w.closed then w
  else
    let w := openAttempts.foldl (fun w _ => drop w) { w with closed := true }
    let w := if evidenceDisabled && evidenceComplete intact w.hooks then w.drop else w
    { w with pending := [] }

def closeForWorkerFailure (w : Worker) (evidenceDisabled intact : Bool) : Worker :=
  (w.close [] evidenceDisabled intact).sinkCloses

end Worker

/-! ## Runs -/

/-- A callback of the adapter, with what it reads from outside, or the closing
of the sink by another of its owners. -/
inductive WorkerCallback where
  | transferSubmitted (attempt : TransferAttempt) (timestampNs : Int)
  | transferNotSubmitted (attempt : TransferAttempt)
  | transferCompleted (attempt : TransferAttempt) (submitTimestampNs timestampNs : Int)
      (success : Bool) (bytesMoved deviceDurationNs : Option Int) (constructed : Bool)
  | transferCapacityExhausted
  | evidenceFailure
  | h2dReceiptCapacityExhausted
  | transferInvalidated (attempt : TransferAttempt) (timestampNs : Int)
  | waitCompleted (transferIds : List String) (entryTimestampNs : Int)
  | firstCompute (context : ComputeContext) (timestampNs : Int)
  | close (openAttempts : List TransferAttempt) (evidenceDisabled intact : Bool)
  | closeForWorkerFailure (evidenceDisabled intact : Bool)
  | sinkCloses

def Worker.callback (w : Worker) : WorkerCallback → Worker
  | .transferSubmitted attempt now => w.transferSubmitted attempt now
  | .transferNotSubmitted _ => w
  | .transferCompleted attempt submitted now success bytes duration constructed =>
    (w.transferCompleted attempt submitted now success bytes duration constructed).1
  | .transferCapacityExhausted => w.drop
  | .evidenceFailure => w.drop
  | .h2dReceiptCapacityExhausted => w.drop
  | .transferInvalidated attempt now => w.transferInvalidated attempt now
  | .waitCompleted transferIds now => w.waitCompleted transferIds now
  | .firstCompute context now => w.firstCompute context now
  | .close openAttempts disabled intact => w.close openAttempts disabled intact
  | .closeForWorkerFailure disabled intact => w.closeForWorkerFailure disabled intact
  | .sinkCloses => w.sinkCloses

/-- A fresh adapter over an open sink. -/
def Worker.start (runId : String) (sha256 : Bytes → String) (hooks : Hooks) : Worker :=
  { runId := runId, sha256 := sha256, hooks := hooks }

end LifecycleProfiler.Runtime
