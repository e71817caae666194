import LifecycleProfiler.Runtime.Profile
import Mathlib.Data.List.MinMax

/-! # The scheduler adapter

`KVRecoverySchedulerAdapter` over the bridge and the profile stream. A callback
takes what it reads from outside as arguments: the clock, which may fail, and
whether the constructors of the runtime ABI succeed. -/

namespace LifecycleProfiler.Runtime
open Python Protocol

/-! ## The records of the runtime ABI -/

/-- `identity_type` -/
structure TransferIdentity where
  runId : String
  traceId : String
  engineLifecycleId : String
  runtimeRequestId : String
  recoveryEpoch : Option Int
  episodeId : Option String
  basePreemptedEventId : Option String
  preemptProfileRecordId : Option String
  deriving DecidableEq

/-- `transfer_context_type` -/
structure TransferContext where
  identity : TransferIdentity
  operation : String
  blockSetId : String
  logicalBlocks : List LogicalBlock
  deriving DecidableEq

/-- `receipt_type`; the rank is 0 of 1. -/
structure H2DReceipt where
  connectorJobId : Int
  transferId : String
  identity : TransferIdentity
  blockSetId : String
  processUuid : String
  clockDomainId : String
  communicationDoneEventId : String
  restoreDoneProfileRecordId : String
  timestampNs : Int
  bytesMoved : Int
  deriving DecidableEq

/-- `compute_context_type` -/
structure ComputeContext where
  identity : TransferIdentity
  transferId : String
  blockSetId : String
  bytesMoved : Int
  admissionProfileRecordId : String
  computeKind : String
  basePhaseStartEventId : String

/-! ## State -/

structure SchedulerEpisode where
  identity : RequestLifecycleIdentity
  recoveryEpoch : Int
  preemptedEvent : BaseEventRef
  preemptProfileRecordId : Option String := none
  context : Option TransferContext := none
  receipt : Option H2DReceipt := none
  admissionStartedEvent : Option BaseEventRef := none
  wakeupProfileRecordId : Option String := none
  predecessorProfileRecordId : Option String := none
  requeueOccurrence : Nat := 0
  admissionProfileRecordId : Option String := none

/-- The receipt is the one the episode waits for. -/
def SchedulerEpisode.awaits (episode : SchedulerEpisode) (receipt : H2DReceipt) : Bool :=
  match episode.context with
  | none => false
  | some context => episode.receipt.isNone && receipt.identity = context.identity &&
      receipt.blockSetId = context.blockSetId &&
      receipt.identity.recoveryEpoch = some episode.recoveryEpoch

/-- The adapter. `retired` is history that no method reads: the keys of the
episodes that left the table after their `preempt` row was written. -/
structure Scheduler where
  runId : String
  sha256 : Bytes → String
  bridge : Bridge
  sinkOpen : Bool := true
  episodes : Mapping (String × Int) SchedulerEpisode := []
  closed : Bool := false
  retired : List (String × Int) := []

/-- `_MAX_BLOCK_ROWS_PER_CHUNK_BYTE_BUDGET` -/
def maxBlockRowsPerChunkByteBudget : Nat := 32

namespace Scheduler

def withHooks (s : Scheduler) (hooks : Hooks) : Scheduler :=
  { s with bridge := { s.bridge with hooks := hooks } }

def drop (s : Scheduler) : Scheduler := s.withHooks (dropProfile s.sinkOpen s.bridge.hooks)

def write (s : Scheduler) (recordType : ProfileRecordType) (timestampNs : Int) (fields : Dict) :
    Option String × Scheduler :=
  let (recordId, hooks) := writeProfile s.sinkOpen recordType timestampNs fields s.bridge.hooks
  (recordId, s.withHooks hooks)

def setEpisode (s : Scheduler) (episode : SchedulerEpisode) (rid : String) (epoch : Int) :
    Scheduler :=
  { s with episodes := s.episodes.set (rid, epoch) episode }

/-- Take episodes out of the table. -/
def forget (s : Scheduler) (leaves : (String × Int) × SchedulerEpisode → Bool) : Scheduler :=
  { s with
    episodes := s.episodes.filter fun item => !leaves item
    retired := s.retired ++ (s.episodes.filter fun item =>
      leaves item && item.2.preemptProfileRecordId.isSome).map (·.1) }

/-- `self._episodes.pop(key, None)` -/
def popEpisode (s : Scheduler) (rid : String) (epoch : Int) : Scheduler :=
  s.forget fun item => item.1 = (rid, epoch)

def episodeId (identity : RequestLifecycleIdentity) (epoch : Int) : String :=
  s!"{identity.engineLifecycleId}:k:{epoch}"

/-- The request fields of the rows of an episode. -/
def requestOf (identity lifecycle : RequestLifecycleIdentity) (epoch : Int) : RequestFields :=
  ⟨identity.traceId, identity.engineLifecycleId, identity.runtimeRequestId, some epoch,
    some (episodeId lifecycle epoch)⟩

/-! ## Registration and scheduling -/

def requestStarted (s : Scheduler) (rid : String) (clock : Option Int) : Scheduler :=
  if s.closed then s
  else match clock with
    | none => s.drop
    | some now =>
      let (bridge, registered) := s.bridge.registerRuntimeRequest s.sha256 s.runId rid now
      let s := { s with bridge := bridge }
      if registered then s else s.drop

def requestScheduled (s : Scheduler) (rid computeKind : String) (scheduled total cached : Int)
    (clock : Option Int) : Scheduler :=
  if s.closed then s
  else match clock with
    | none => s.drop
    | some now =>
      let (bridge, emitted) :=
        s.bridge.emitRuntimeScheduled rid now computeKind scheduled total cached
      let s := { s with bridge := bridge }
      if emitted then s else s.drop

/-! ## Preemption -/

/-- The base event of the preemption, emitted unless it is already there. -/
def basePreemption (s : Scheduler) (rid : String) (epoch : Int) (clock : Option Int) :
    Scheduler × Option BaseEventRef :=
  match s.bridge.requestIdentity rid, s.bridge.preemptedEvent rid epoch, clock with
  | some _, none, some now =>
    let (bridge, event) := s.bridge.emitRuntimePreempted rid epoch now
    ({ s with bridge := bridge }, event)
  | _, event, _ => (s, event)

/-- Forget the episodes of a request that have no row yet. -/
def supersede (s : Scheduler) (rid : String) : Scheduler :=
  s.forget fun item => item.1.1 = rid && item.2.preemptProfileRecordId.isNone

def requestPreempted (s : Scheduler) (rid : String) (epoch : Int) (clock : Option Int) :
    Scheduler × Option String :=
  if s.closed || epoch < 1 then (s, none)
  else
    let identity := s.bridge.requestIdentity rid
    let (s, event) := s.basePreemption rid epoch clock
    match identity, event with
    | some identity, some event =>
      if (s.episodes.get (rid, epoch)).isSome then (s.drop.popEpisode rid epoch, none)
      else
        ((s.supersede rid).setEpisode
          { identity := identity, recoveryEpoch := epoch, preemptedEvent := event } rid epoch,
          some event.eventId)
    | _, _ => (s.drop.popEpisode rid epoch, none)

/-! ## The transfer context -/

/-- The order of the recovery epochs, so that the newest one computes. -/
local instance epochOrder : Preorder ℤ := Int.instLinearOrder.toPreorder

/-- The newest episode of a request. -/
def newestEpisode (s : Scheduler) (rid : String) : Option SchedulerEpisode :=
  ((s.episodes.filter fun item => item.1.1 = rid).map (·.2)).argmax (·.recoveryEpoch)

def preemptRow (base : RequestLifecycleIdentity) (episode : SchedulerEpisode) : RecoveryEvent where
  request := requestOf episode.identity base episode.recoveryEpoch
  stage := "preempt"
  baseEventId := some episode.preemptedEvent.eventId
  requestStatusBefore := some "RUNNING"
  requestStatusAfter := some "PREEMPTED"

/-- Write the `preempt` row of an episode that has no context. -/
def beginEpisode (s : Scheduler) (base : RequestLifecycleIdentity) (rid : String)
    (episode : SchedulerEpisode) : Scheduler × Option SchedulerEpisode :=
  if episode.context.isSome then (s.drop, none)
  else match s.write .recoveryEvent episode.preemptedEvent.timestampNs
      (preemptRow base episode).fields with
    | (none, s) => (s.popEpisode rid episode.recoveryEpoch, none)
    | (some profileId, s) =>
      let episode := { episode with preemptProfileRecordId := some profileId }
      (s.setEpisode episode rid episode.recoveryEpoch, some episode)

/-- The episode a transfer belongs to, if any, or `None` for a refused one. -/
def associate (s : Scheduler) (base : RequestLifecycleIdentity) (rid operation : String) :
    Scheduler × Option (Option SchedulerEpisode) :=
  if operation = "h2d_restore" then
    match s.newestEpisode rid with
    | none => (s, some none)
    | some episode =>
      match s.beginEpisode base rid episode with
      | (s, none) => (s, none)
      | (s, some episode) => (s, some (some episode))
  else if operation = "d2h_preserve" then (s, some none)
  else (s.drop, none)

def logicalBlockId (s : Scheduler) (base : RequestLifecycleIdentity) (coordinate : Int × Int) :
    String :=
  firstChars 32 (s.sha256 (utf8 s.runId ++ 0 :: utf8 base.engineLifecycleId ++
    0 :: utf8 s!"{coordinate.1}:{coordinate.2}"))

def transferIdentity (s : Scheduler) (base : RequestLifecycleIdentity) (rid : String)
    (episode : Option SchedulerEpisode) : TransferIdentity where
  runId := s.runId
  traceId := base.traceId
  engineLifecycleId := base.engineLifecycleId
  runtimeRequestId := rid
  recoveryEpoch := episode.map (·.recoveryEpoch)
  episodeId := episode.map fun episode => episodeId base episode.recoveryEpoch
  basePreemptedEventId := episode.map fun episode => episode.preemptedEvent.eventId
  preemptProfileRecordId := episode.bind (·.preemptProfileRecordId)

/-- The chunks of a block set. -/
def blockSetChunks (base : RequestLifecycleIdentity) (context : TransferContext) :
    List BlockSetChunk :=
  let size := maxBlockRowsPerChunkByteBudget
  let total := context.logicalBlocks.length
  let count := (total + size - 1) / size
  (List.range count).map fun index =>
    { request := ⟨base.traceId, base.engineLifecycleId, base.runtimeRequestId,
        context.identity.recoveryEpoch, context.identity.episodeId⟩
      blockSetId := context.blockSetId
      chunkIndex := index
      chunkCount := count
      totalBlockCount := total
      blocks := (context.logicalBlocks.drop (index * size)).take size }

/-- Write the chunks in order, up to the first one that is not accepted. -/
def writeChunks (s : Scheduler) (now : Int) : List BlockSetChunk → Scheduler × Bool
  | [] => (s, true)
  | chunk :: rest =>
    match s.write .blockSetChunk now chunk.fields with
    | (none, s) => (s, false)
    | (some _, s) => s.writeChunks now rest

/-- `blockSetId` is the ID `canonical_block_set_id` computes, or `none` where a
constructor of the ABI raises. -/
def prepareTransferContext (s : Scheduler) (rid operation : String) (coordinates : List (Int × Int))
    (blockSetId : Option String) (clock : Option Int) : Scheduler × Option TransferContext :=
  if s.closed || coordinates.isEmpty then (s, none)
  else match s.bridge.requestIdentity rid with
    | none => (s.drop, none)
    | some base =>
      match s.associate base rid operation with
      | (s, none) => (s, none)
      | (s, some episode) =>
        match blockSetId, clock with
        | some blockSetId, some now =>
          let context : TransferContext :=
            { identity := s.transferIdentity base rid episode
              operation := operation
              blockSetId := blockSetId
              logicalBlocks := coordinates.map fun coordinate =>
                ⟨coordinate.1, coordinate.2, s.logicalBlockId base coordinate⟩ }
          match s.writeChunks now (blockSetChunks base context) with
          | (s, false) => (s, none)
          | (s, true) =>
            match episode with
            | some episode =>
              (s.setEpisode { episode with context := some context } rid episode.recoveryEpoch,
                some context)
            | none => (s, some context)
        | _, _ => (s.drop, none)

/-! ## Receipts -/

def consumeReceipt (s : Scheduler) (receipt : H2DReceipt) : Scheduler :=
  match receipt.identity.recoveryEpoch with
  | none => s
  | some epoch =>
    match s.episodes.get (receipt.identity.runtimeRequestId, epoch) with
    | none => s.drop
    | some episode =>
      if episode.awaits receipt then
        s.setEpisode { episode with receipt := some receipt }
          receipt.identity.runtimeRequestId epoch
      else s.drop

def consumeH2dReceipts (s : Scheduler) (receipts : List H2DReceipt)
    (receiptCapacityExhausted : Bool) : Scheduler :=
  if s.closed then s
  else receipts.foldl consumeReceipt (if receiptCapacityExhausted then s.drop else s)

/-! ## Admission -/

/-- A row of an episode that has its receipt. -/
def receiptRow (episode : SchedulerEpisode) (receipt : H2DReceipt) (stage : String) :
    RecoveryEvent where
  request := requestOf episode.identity episode.identity episode.recoveryEpoch
  stage := stage
  transferId := some receipt.transferId
  blockSetId := some receipt.blockSetId
  bytesMoved := some receipt.bytesMoved

def wakeupRow (episode : SchedulerEpisode) (receipt : H2DReceipt) : RecoveryEvent :=
  { receiptRow episode receipt "scheduler_wakeup" with
    fromProfileEventId := some receipt.restoreDoneProfileRecordId
    requestStatusBefore := some "WAITING_FOR_REMOTE_KVS"
    requestStatusAfter := some "PREEMPTED" }

/-- The base event of the admission, emitted unless it is already there. -/
def baseAdmission (s : Scheduler) (rid : String) (epoch now : Int) :
    Scheduler × Option BaseEventRef :=
  match s.bridge.admissionStartedEvent rid epoch with
  | some event => (s, some event)
  | none =>
    let (bridge, event) := s.bridge.emitAdmissionStarted rid epoch now
    ({ s with bridge := bridge }, event)

def requestAdmissionStarted (s : Scheduler) (rid : String) (epoch : Int) (clock : Option Int) :
    Scheduler :=
  match s.episodes.get (rid, epoch), clock with
  | some episode, some now =>
    match episode.receipt with
    | none => s
    | some receipt =>
      if s.closed || epoch ≠ episode.recoveryEpoch || episode.admissionStartedEvent.isSome then s
      else match s.baseAdmission rid epoch now with
        | (s, none) => s.drop
        | (s, some event) =>
          if (asUint uint64Max (.int now)).isNone || event.timestampNs < now then s.drop
          else match s.write .recoveryEvent now (wakeupRow episode receipt).fields with
            | (none, s) => s
            | (some profileId, s) =>
              s.setEpisode { episode with
                admissionStartedEvent := some event
                wakeupProfileRecordId := some profileId
                predecessorProfileRecordId := some profileId } rid epoch
  | _, _ => s

def requeueRow (episode : SchedulerEpisode) (receipt : H2DReceipt) (predecessor reason : String) :
    RecoveryEvent :=
  { receiptRow episode receipt "requeue" with
    occurrence := episode.requeueOccurrence
    fromProfileEventId := some predecessor
    requeueReason := some reason
    requestStatusBefore := some "PREEMPTED"
    requestStatusAfter := some "PREEMPTED" }

def requestRequeued (s : Scheduler) (rid : String) (epoch : Int) (reason : String)
    (clock : Option Int) : Scheduler :=
  match s.episodes.get (rid, epoch) with
  | none => s
  | some episode =>
    match episode.receipt, episode.predecessorProfileRecordId with
    | some receipt, some predecessor =>
      if s.closed || episode.wakeupProfileRecordId.isNone ||
          episode.admissionProfileRecordId.isSome || epoch ≠ episode.recoveryEpoch then s
      else match clock with
        | none => s.drop
        | some now =>
          match s.write .recoveryEvent now
            (requeueRow episode receipt predecessor reason).fields with
          | (none, s) => s
          | (some profileId, s) =>
            s.setEpisode { episode with
              predecessorProfileRecordId := some profileId
              requeueOccurrence := episode.requeueOccurrence + 1 } rid epoch
    | _, _ => s

def admissionRow (episode : SchedulerEpisode) (receipt : H2DReceipt)
    (resumed admissionStarted : BaseEventRef) (predecessor : String) : RecoveryEvent :=
  { receiptRow episode receipt "admission" with
    baseEventId := some resumed.eventId
    baseAdmissionStartedEventId := some admissionStarted.eventId
    fromProfileEventId := some predecessor
    requestStatusBefore := some "PREEMPTED"
    requestStatusAfter := some "RUNNING" }

/-- The base event of the resumption, emitted unless it is already there. -/
def baseResumption (s : Scheduler) (rid : String) (epoch total cached : Int) (clock : Option Int) :
    Scheduler × Option BaseEventRef :=
  match s.bridge.resumedEvent rid epoch, clock with
  | some event, _ => (s, some event)
  | none, none => (s, none)
  | none, some now =>
    let (bridge, event) := s.bridge.emitRuntimeResumed rid epoch now total cached
    ({ s with bridge := bridge }, event)

/-- The edge from the end of the transfer to the admission. -/
def transferEdge (episode : SchedulerEpisode) (receipt : H2DReceipt)
    (admissionStarted : BaseEventRef) : EdgeDraft :=
  ⟨episode.identity.traceId, receipt.communicationDoneEventId, admissionStarted.eventId,
    "data_dependency", kvRecoveryH2dEvidence⟩

/-- The first computation of an admitted request, and its context. -/
def computeContext (s : Scheduler) (rid : String) (epoch : Int) (computeKind : String)
    (receipt : H2DReceipt) (resumed : BaseEventRef) (profileId : String) (clock : Option Int)
    (constructed : Bool) : Scheduler × Option ComputeContext :=
  match clock with
  | none => (s, none)
  | some now =>
    match s.bridge.emitFirstCompute rid epoch (max resumed.timestampNs now) computeKind with
    | (bridge, none) => ({ s with bridge := bridge }, none)
    | (bridge, some event) =>
      ({ s with bridge := bridge },
        if constructed then
          some ⟨receipt.identity, receipt.transferId, receipt.blockSetId, receipt.bytesMoved,
            profileId, computeKind, event.eventId⟩
        else none)

/-- The admission of an episode whose wakeup is recorded. -/
def recordAdmission (s : Scheduler) (rid : String) (epoch : Int) (computeKind : String)
    (episode : SchedulerEpisode) (receipt : H2DReceipt) (admissionStarted resumed : BaseEventRef)
    (predecessor : String) (clock : Option Int) (constructed : Bool) :
    Scheduler × Option ComputeContext :=
  match emitEdge (transferEdge episode receipt admissionStarted) s.bridge.hooks with
  | (none, hooks) => ((s.withHooks hooks).drop, none)
  | (some _, hooks) =>
    match (s.withHooks hooks).write .recoveryEvent resumed.timestampNs
        (admissionRow episode receipt resumed admissionStarted predecessor).fields with
    | (none, s) => (s, none)
    | (some profileId, s) =>
      let s := s.setEpisode { episode with admissionProfileRecordId := some profileId } rid epoch
      match s.computeContext rid epoch computeKind receipt resumed profileId clock constructed with
      | (s, none) => (s.drop, none)
      | (s, some context) => (s.popEpisode rid epoch, some context)

def requestAdmitted (s : Scheduler) (rid : String) (epoch : Int) (computeKind : String)
    (total cached : Int) (resumeClock computeClock : Option Int) (constructed : Bool) :
    Scheduler × Option ComputeContext :=
  match s.episodes.get (rid, epoch) with
  | none => (s, none)
  | some episode =>
    match episode.receipt, episode.admissionStartedEvent, episode.predecessorProfileRecordId with
    | some receipt, some admissionStarted, some predecessor =>
      if s.closed || episode.wakeupProfileRecordId.isNone ||
          episode.admissionProfileRecordId.isSome || epoch ≠ episode.recoveryEpoch ||
          (computeKind ≠ "prefill" && computeKind ≠ "decode") then (s, none)
      else match s.baseResumption rid epoch total cached resumeClock with
        | (s, none) => (s.drop, none)
        | (s, some resumed) =>
          if resumed.timestampNs < admissionStarted.timestampNs then (s.drop, none)
          else s.recordAdmission rid epoch computeKind episode receipt admissionStarted
            resumed predecessor
            computeClock constructed
    | _, _, _ => (s, none)

/-! ## Endings -/

/-- Give up an episode: a loss, once its `preempt` row is written. -/
def abandon (s : Scheduler) (episode : SchedulerEpisode) : Scheduler :=
  if episode.preemptProfileRecordId.isSome then s.drop else s

def requestTerminal (s : Scheduler) (rid cause : String) (generated : Int) (clock : Option Int) :
    Scheduler :=
  let given := (s.episodes.filter fun item => item.1.1 = rid).map (·.2)
  let s := (given.foldl abandon s).forget fun item => item.1.1 = rid
  match clock with
  | none => s.drop
  | some now =>
    match s.bridge.emitRuntimeTerminal rid cause now generated with
    | (bridge, none) => { s with bridge := bridge }.drop
    | (bridge, some _) => { s with bridge := bridge }

def reset (s : Scheduler) : Scheduler :=
  ((s.episodes.map (·.2)).foldl abandon s).forget fun _ => true

/-- The sink takes nothing more. -/
def sinkCloses (s : Scheduler) : Scheduler :=
  { s.withHooks { s.bridge.hooks with answers := fun _ => none } with sinkOpen := false }

def close (s : Scheduler) : Scheduler :=
  if s.closed then s else { s.reset with closed := true }.sinkCloses

end Scheduler

/-! ## Runs -/

/-- A callback of the adapter, with what it reads from outside, or the closing
of the sink by another of its owners. -/
inductive SchedulerCallback where
  | requestStarted (rid : String) (clock : Option Int)
  | requestScheduled (rid computeKind : String) (scheduled total cached : Int) (clock : Option Int)
  | requestPreempted (rid : String) (epoch : Int) (clock : Option Int)
  | prepareTransferContext (rid operation : String) (coordinates : List (Int × Int))
      (blockSetId : Option String) (clock : Option Int)
  | consumeH2dReceipts (receipts : List H2DReceipt) (receiptCapacityExhausted : Bool)
  | requestAdmissionStarted (rid : String) (epoch : Int) (clock : Option Int)
  | requestRequeued (rid : String) (epoch : Int) (reason : String) (clock : Option Int)
  | requestAdmitted (rid : String) (epoch : Int) (computeKind : String) (total cached : Int)
      (resumeClock computeClock : Option Int) (constructed : Bool)
  | requestTerminal (rid cause : String) (generated : Int) (clock : Option Int)
  | reset
  | close
  | sinkCloses

def Scheduler.callback (s : Scheduler) : SchedulerCallback → Scheduler
  | .requestStarted rid clock => s.requestStarted rid clock
  | .requestScheduled rid kind scheduled total cached clock =>
    s.requestScheduled rid kind scheduled total cached clock
  | .requestPreempted rid epoch clock => (s.requestPreempted rid epoch clock).1
  | .prepareTransferContext rid operation coordinates blockSetId clock =>
    (s.prepareTransferContext rid operation coordinates blockSetId clock).1
  | .consumeH2dReceipts receipts exhausted => s.consumeH2dReceipts receipts exhausted
  | .requestAdmissionStarted rid epoch clock => s.requestAdmissionStarted rid epoch clock
  | .requestRequeued rid epoch reason clock => s.requestRequeued rid epoch reason clock
  | .requestAdmitted rid epoch kind total cached resumeClock computeClock constructed =>
    (s.requestAdmitted rid epoch kind total cached resumeClock computeClock constructed).1
  | .requestTerminal rid cause generated clock => s.requestTerminal rid cause generated clock
  | .reset => s.reset
  | .close => s.close
  | .sinkCloses => s.sinkCloses

/-- A fresh adapter over an open sink that nothing was written to. -/
def Scheduler.start (runId : String) (sha256 : Bytes → String) (hooks : Hooks) (capacity : Nat) :
    Scheduler :=
  { runId := runId, sha256 := sha256, bridge := Bridge.start hooks capacity }

end LifecycleProfiler.Runtime
