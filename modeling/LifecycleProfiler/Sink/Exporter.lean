import LifecycleProfiler.Protocol.Profile
import LifecycleProfiler.Python.Mapping

/-! # The bounded exporter

The state of `JsonlTraceSink` that its condition guards: one shared queue, the
batch in flight, and for each stream its budgets, its open loss interval and
its counters. Every definition below is what one lock scope does. -/

namespace LifecycleProfiler.Sink
open Python Protocol

/-- The base trace and the recovery profile share one writer. -/
inductive StreamId where
  | base
  | profile
  deriving DecidableEq, Repr

/-- `record_type` of a queued record. -/
inductive RecordType where
  | event
  | edge
  | data (recordType : ProfileRecordType)
  | lossInterval
  deriving DecidableEq, Repr

/-- The data categories of a stream. -/
def isDataOf : StreamId → RecordType → Bool
  | .base, .event => true
  | .base, .edge => true
  | .profile, .data _ => true
  | _, _ => false

/-- `_QueuedRecord`, with the record its bytes encode. -/
structure Queued where
  record : Dict
  raw : Bytes
  recordType : RecordType
  recordSeq : Option Nat
  reserved : Bool
  observedTimestampNs : Option Nat
  stream : StreamId

/-- Equality of the fields of `_QueuedRecord`. -/
def Queued.same (a b : Queued) : Bool :=
  a.raw == b.raw && a.recordType == b.recordType && a.recordSeq == b.recordSeq &&
    a.reserved == b.reserved && a.observedTimestampNs == b.observedTimestampNs &&
    a.stream == b.stream

@[simp] theorem Queued.same_self (q : Queued) : q.same q = true := by simp [same]

def Queued.isData (q : Queued) : Bool := isDataOf q.stream q.recordType

/-- `_OpenLoss` and `_OpenProfileLoss`. -/
structure OpenLoss where
  reason : LossReason
  firstRecordSeq : Nat
  lastRecordSeq : Nat
  counts : RecordType → Nat
  firstTimestampNs : Nat
  lastTimestampNs : Nat

/-- The budgets and counters of one stream. -/
structure Ledger where
  queuedBytes : Int := 0
  ordinaryQueued : Int := 0
  reservedQueued : Int := 0
  nextRecordSeq : Nat := 0
  nextLossIntervalSeq : Nat := 0
  openLoss : Option OpenLoss := none
  attempted : Nat := 0
  written : RecordType → Nat := fun _ => 0
  droppedData : Nat := 0
  droppedControl : Nat := 0
  writerFailures : Nat := 0
  /-- What the content hash has been updated with. -/
  hashed : Bytes := []

/-- The values the constructor fixes. `sha256` gives the hexadecimal digest. -/
structure Config where
  processUuid : String
  clockDomainId : String
  provenance : RuntimeProvenance
  communicationMode : String
  profileConfig : Option KVRecoveryProfileConfig
  usesNativeWrite : Bool
  sha256 : Bytes → String

structure Exporter where
  queue : List Queued := []
  inflight : List Queued := []
  ledger : StreamId → Ledger := fun _ => {}
  nextSpanSeq : Nat := 0
  diagnosticCounts : Mapping String Nat := []
  pendingDiagnostics : List String := []
  loggedDiagnostics : List String := []
  closing : Bool := false
  closed : Bool := false
  writerFailed : Bool := false

namespace Exporter

def modify (x : Exporter) (stream : StreamId) (f : Ledger → Ledger) : Exporter :=
  { x with ledger := fun s => if s = stream then f (x.ledger s) else x.ledger s }

/-! ## Diagnostics -/

def diagnosticReasons : List String :=
  ["init_failure", "schema_incompatible", "serialization_failure", "queue_overflow",
   "writer_failure", "close_timeout", "clock_domain_unavailable", "terminal_conflict",
   "invalid_metadata", "unsupported_mode"]

/-- `_count_diagnostic_locked` -/
def countDiagnostic (x : Exporter) (reason : String) : Exporter :=
  let reason := if reason ∈ diagnosticReasons then reason else "schema_incompatible"
  { x with
    diagnosticCounts := x.diagnosticCounts.set reason ((x.diagnosticCounts.get reason).getD 0 + 1)
    pendingDiagnostics :=
      if reason ∈ x.loggedDiagnostics ∨ reason ∈ x.pendingDiagnostics then x.pendingDiagnostics
      else x.pendingDiagnostics ++ [reason] }

/-- `_take_pending_diagnostics_locked`, in the fixed order of the reasons. -/
def takePendingDiagnostics (x : Exporter) : Exporter × List String :=
  let reasons := diagnosticReasons.filter (· ∈ x.pendingDiagnostics)
  ({ x with
      pendingDiagnostics := x.pendingDiagnostics.filter (· ∉ reasons)
      loggedDiagnostics := x.loggedDiagnostics ++ reasons }, reasons)

/-! ## Admission -/

/-- `_can_enqueue_locked` -/
def canEnqueue (x : Exporter) (raw : Bytes) (reserved : Bool) (stream : StreamId) : Bool :=
  !(x.writerFailed || x.closing || x.closed) &&
    (x.ledger stream).queuedBytes + raw.length ≤ maxQueuedBytes &&
    if reserved then (x.ledger stream).reservedQueued < reservedCapacityRecords
    else (x.ledger stream).ordinaryQueued < dataCapacityRecords

/-- `_enqueue_locked` -/
def enqueue (x : Exporter) (q : Queued) : Option Exporter :=
  if !x.canEnqueue q.raw q.reserved q.stream then none
  else
    some ({ x with queue := x.queue ++ [q] }.modify q.stream fun l => { l with
      queuedBytes := l.queuedBytes + q.raw.length
      reservedQueued := if q.reserved then l.reservedQueued + 1 else l.reservedQueued
      ordinaryQueued := if q.reserved then l.ordinaryQueued else l.ordinaryQueued + 1 })

def dropControl (x : Exporter) (stream : StreamId) : Exporter :=
  x.modify stream fun l => { l with droppedControl := l.droppedControl + 1 }

/-- The loss interval record of a stream and its line. -/
def lossRecord (cfg : Config) (stream : StreamId) (lossSeq : Nat) (loss : OpenLoss) :
    Except PyError (Dict × Bytes) :=
  match stream with
  | .base => do
    let record ← buildLossIntervalRecord cfg.processUuid lossSeq loss.reason loss.firstRecordSeq
      loss.lastRecordSeq (loss.counts .event) (loss.counts .edge) loss.firstTimestampNs
      loss.lastTimestampNs
    return (record, ← canonicalJsonLine record)
  | .profile => do
    let record ← buildProfileLossIntervalRecord cfg.processUuid lossSeq loss.reason
      loss.firstRecordSeq loss.lastRecordSeq (fun t => loss.counts (.data t))
      loss.firstTimestampNs loss.lastTimestampNs
    return (record, ← profileRecordLine record)

/-- The queued form of a loss interval. -/
def lossControl (stream : StreamId) (record : Dict) (raw : Bytes) : Queued where
  record := record
  raw := raw
  recordType := .lossInterval
  recordSeq := none
  reserved := true
  observedTimestampNs := none
  stream := stream

/-- `_seal_loss_locked` and `_seal_profile_loss_locked` -/
def sealLoss (cfg : Config) (x : Exporter) (stream : StreamId) : Exporter :=
  match (x.ledger stream).openLoss with
  | none => x
  | some current =>
    let lossSeq := (x.ledger stream).nextLossIntervalSeq
    let x := x.modify stream fun l => { l with
      nextLossIntervalSeq := lossSeq + 1, openLoss := none }
    match lossRecord cfg stream lossSeq current with
    | .error _ => x.dropControl stream
    | .ok (record, raw) => (x.enqueue (lossControl stream record raw)).getD (x.dropControl stream)

/-- A record that joins no open interval opens one of its own. -/
def newLoss (recordSeq : Nat) (recordType : RecordType) (reason : LossReason) (observedNs : Nat) :
    OpenLoss where
  reason := reason
  firstRecordSeq := recordSeq
  lastRecordSeq := recordSeq
  counts := fun t => if t = recordType then 1 else 0
  firstTimestampNs := observedNs
  lastTimestampNs := observedNs

/-- One more lost record at the end of the open interval. -/
def OpenLoss.extend (loss : OpenLoss) (recordSeq : Nat) (recordType : RecordType)
    (observedNs : Nat) : OpenLoss :=
  { loss with
    lastRecordSeq := recordSeq
    counts := fun t => if t = recordType then loss.counts t + 1 else loss.counts t
    lastTimestampNs := observedNs }

/-- `_note_drop_locked` and `_note_profile_drop_locked` -/
def noteDrop (cfg : Config) (x : Exporter) (stream : StreamId) (recordSeq : Nat)
    (recordType : RecordType) (reason : LossReason) (observedNs : Nat) : Exporter :=
  let x := (x.modify stream fun l => { l with droppedData := l.droppedData + 1 }).countDiagnostic
    reason.wire
  match (x.ledger stream).openLoss.filter fun current =>
      current.reason = reason ∧ recordSeq = current.lastRecordSeq + 1 with
  | some current =>
    x.modify stream fun l => { l with
      openLoss := some (OpenLoss.extend current recordSeq recordType observedNs) }
  | none =>
    (x.sealLoss cfg stream).modify stream fun l => { l with
      openLoss := some (newLoss recordSeq recordType reason observedNs) }

/-- `_allocate_record_seq_locked` and `_allocate_profile_record_seq_locked` -/
def allocate (x : Exporter) (stream : StreamId) : Exporter :=
  x.modify stream fun l => { l with
    nextRecordSeq := l.nextRecordSeq + 1, attempted := l.attempted + 1 }

/-- Admit an encoded record behind the losses before it, or lose it. -/
def admitOrLose {ρ : Type} (cfg : Config) (x : Exporter) (q : Queued) (recordSeq observedNs : Nat)
    (reference : ρ) : Exporter × Option ρ :=
  if !x.canEnqueue q.raw q.reserved q.stream then
    (x.noteDrop cfg q.stream recordSeq q.recordType .queueOverflow observedNs, none)
  else
    let x := x.sealLoss cfg q.stream
    match x.enqueue q with
    | none => (x.noteDrop cfg q.stream recordSeq q.recordType .queueOverflow observedNs, none)
    | some x => (x, some reference)

/-- The part the three write methods share: what happens to a record whose
sequence number and observation time are fixed. -/
def writeRecord {ρ : Type} (cfg : Config) (x : Exporter) (stream : StreamId) (recordSeq : Nat)
    (recordType : RecordType) (reserved : Bool) (observedNs : Nat)
    (encoded : Except PyError (Dict × Bytes × ρ)) : Exporter × Option ρ :=
  if x.writerFailed then
    (x.noteDrop cfg stream recordSeq recordType .writerFailure observedNs, none)
  else
    match encoded with
    | .error _ =>
      (x.noteDrop cfg stream recordSeq recordType .serializationFailure observedNs, none)
    | .ok (record, raw, reference) =>
      x.admitOrLose cfg ⟨record, raw, recordType, some recordSeq, reserved, some observedNs, stream⟩
        recordSeq observedNs reference

/-! ## Producer calls

`clock` is what the clock function returns, `none` when it raises, and
`monotonicNs` the reading of the monotonic clock the sink falls back to. -/

/-- `_producer_clock_or_drop_locked` around the write of a base record. -/
def writeBase {ρ : Type} (cfg : Config) (x : Exporter) (recordType : RecordType) (reserved : Bool)
    (clock : Option Value) (monotonicNs : Nat)
    (encode : Nat → Nat → Except PyError (Dict × Bytes × ρ)) : Exporter × Option ρ :=
  if x.closed then (x, none)
  else if x.closing then (x.countDiagnostic "schema_incompatible", none)
  else
    let recordSeq := (x.ledger .base).nextRecordSeq
    let x := x.allocate .base
    match clock.bind (asUint uint64Max) with
    | none =>
      ((x.countDiagnostic "clock_domain_unavailable").noteDrop cfg .base recordSeq recordType
        .serializationFailure monotonicNs, none)
    | some observedNs =>
      x.writeRecord cfg .base recordSeq recordType reserved observedNs (encode recordSeq observedNs)

/-- The event record of a draft, its line and its reference. -/
def encodeEvent (cfg : Config) (draft : EventDraft) (recordSeq observedNs : Nat) :
    Except PyError (Dict × Bytes × RecordRef) := do
  let (record, reference) ← buildEventRecord draft cfg.processUuid cfg.clockDomainId recordSeq
    (.int observedNs) cfg.communicationMode
  return (record, ← canonicalJsonLine record, reference)

def encodeEdge (cfg : Config) (draft : EdgeDraft) (recordSeq : Nat) :
    Except PyError (Dict × Bytes × RecordRef) := do
  let (record, reference) ← buildEdgeRecord draft cfg.processUuid recordSeq cfg.communicationMode
  return (record, ← canonicalJsonLine record, reference)

def encodeProfile (cfg : Config) (config : KVRecoveryProfileConfig)
    (recordType : ProfileRecordType) (recordSeq timestampNs : Nat) (fields : Dict) :
    Except PyError (Dict × Bytes × ProfileRecordRef) := do
  let (record, reference) ← buildProfileDataRecord recordType cfg.processUuid recordSeq timestampNs
    cfg.clockDomainId config fields
  return (record, ← profileRecordLine record, reference)

/-- `write_event` -/
def writeEvent (cfg : Config) (x : Exporter) (draft : EventDraft) (clock : Option Value)
    (monotonicNs : Nat) : Exporter × Option RecordRef :=
  x.writeBase cfg .event (draft.eventName ∈ terminalEvents) clock monotonicNs
    (encodeEvent cfg draft)

/-- `write_edge` -/
def writeEdge (cfg : Config) (x : Exporter) (draft : EdgeDraft) (clock : Option Value)
    (monotonicNs : Nat) : Exporter × Option RecordRef :=
  x.writeBase cfg .edge false clock monotonicNs fun recordSeq _ => encodeEdge cfg draft recordSeq

/-- `_profile_fallback_timestamp_locked` -/
def profileFallbackTimestamp (clock : Option Value) (monotonicNs : Nat) : Nat :=
  (clock.bind (asUint uint64Max)).getD monotonicNs

/-- `write_kv_recovery_profile`. An exhausted sequence raises before anything
changes. -/
def writeKvRecoveryProfile (cfg : Config) (x : Exporter) (recordType : ProfileRecordType)
    (timestampNs : Value) (fields : Dict) (clock : Option Value) (monotonicNs : Nat) :
    Exporter × Option ProfileRecordRef :=
  if x.closed then (x, none)
  else match cfg.profileConfig with
    | none => (x.countDiagnostic "schema_incompatible", none)
    | some config =>
      if x.closing then (x.countDiagnostic "schema_incompatible", none)
      else if uint64Max < (x.ledger .profile).nextRecordSeq then (x, none)
      else
        let recordSeq := (x.ledger .profile).nextRecordSeq
        let x := x.allocate .profile
        match asUint uint64Max timestampNs with
        | none =>
          (x.noteDrop cfg .profile recordSeq (.data recordType) .serializationFailure
            (profileFallbackTimestamp clock monotonicNs), none)
        | some observedNs =>
          x.writeRecord cfg .profile recordSeq (.data recordType) false observedNs
            (encodeProfile cfg config recordType recordSeq observedNs fields)

/-- `drop_kv_recovery_profile` -/
def dropKvRecoveryProfile (cfg : Config) (x : Exporter) (recordType : ProfileRecordType)
    (timestampNs : Value) (reason : LossReason) (clock : Option Value) (monotonicNs : Nat) :
    Exporter × Option Nat :=
  if x.closed ∨ x.closing ∨ cfg.profileConfig.isNone then (x, none)
  else if uint64Max < (x.ledger .profile).nextRecordSeq then (x, none)
  else
    let recordSeq := (x.ledger .profile).nextRecordSeq
    let observedNs := (asUint uint64Max timestampNs).getD
      (profileFallbackTimestamp clock monotonicNs)
    ((x.allocate .profile).noteDrop cfg .profile recordSeq (.data recordType) reason observedNs,
      some recordSeq)

/-- `new_span_id` -/
def newSpanId (cfg : Config) (x : Exporter) : Exporter × Option String :=
  if x.closed ∨ x.closing then (x, none)
  else ({ x with nextSpanSeq := x.nextSpanSeq + 1 },
    some (scopedId cfg.processUuid "s" x.nextSpanSeq))

/-- `defer_diagnostic` -/
def deferDiagnostic (x : Exporter) (reason : String) : Exporter :=
  if x.closed ∨ x.closing then x else x.countDiagnostic reason

/-! ## The writer's side -/

/-- The records that fit in a batch holding some already, and the others. -/
def splitBatch (records bytes : Nat) : List Queued → List Queued × List Queued
  | [] => ([], [])
  | q :: rest =>
    if maxBatchRecords ≤ records ∨ (0 < records ∧ maxBatchBytes < bytes + q.raw.length) then
      ([], q :: rest)
    else
      let (batch, left) := splitBatch (records + 1) (bytes + q.raw.length) rest
      (q :: batch, left)

/-- `_take_batch_locked`, and the batch becomes the one in flight. -/
def takeBatch (x : Exporter) : Exporter × List Queued :=
  let (batch, left) := splitBatch 0 0 x.queue
  ({ x with queue := left, inflight := batch }, batch)

/-- Nothing is queued or in flight any more. -/
def clearPending (x : Exporter) : Exporter :=
  { x with
    queue := []
    inflight := []
    ledger := fun s => { x.ledger s with
      queuedBytes := 0, ordinaryQueued := 0, reservedQueued := 0 } }

/-- `_account_unwritten_queued_locked` -/
def accountUnwritten (x : Exporter) (q : Queued) : Exporter :=
  if q.isData then x.modify q.stream fun l => { l with droppedData := l.droppedData + 1 }
  else x.dropControl q.stream

/-- Account for everything queued or in flight, then forget it. -/
def dropPending (x : Exporter) : Exporter :=
  ((x.inflight ++ x.queue).foldl accountUnwritten x).clearPending

/-- `_mark_writer_failure_locked` -/
def markWriterFailure (x : Exporter) : Exporter :=
  let x := { x with
    ledger := fun s => { x.ledger s with writerFailures := (x.ledger s).writerFailures + 1 }
    writerFailed := true }
  (x.countDiagnostic "writer_failure").dropPending

/-- `_record_written` of a writer that is not abandoned. -/
def recordWritten (x : Exporter) (q : Queued) : Exporter :=
  match x.inflight with
  | [] => x.markWriterFailure
  | first :: rest =>
    if !first.same q then x.markWriterFailure
    else
      { x with inflight := rest }.modify q.stream fun l => { l with
        queuedBytes := l.queuedBytes - q.raw.length
        reservedQueued := if q.reserved then l.reservedQueued - 1 else l.reservedQueued
        ordinaryQueued := if q.reserved then l.ordinaryQueued else l.ordinaryQueued - 1
        hashed := l.hashed ++ q.raw
        written := fun t =>
          if t = q.recordType ∧ (q.isData = true ∨ t = RecordType.lossInterval) then l.written t + 1
          else l.written t }

def writtenData (stream : StreamId) (l : Ledger) : Nat :=
  match stream with
  | .base => l.written .event + l.written .edge
  | .profile => totalCount fun t => l.written (.data t)

/-- One stream's part of `_counts_reconcile`. -/
def reconciles (x : Exporter) (stream : StreamId) : Bool :=
  (x.ledger stream).attempted = writtenData stream (x.ledger stream) + (x.ledger stream).droppedData

/-- `_counts_reconcile` -/
def countsReconcile (cfg : Config) (x : Exporter) : Bool :=
  x.reconciles .base && (cfg.profileConfig.isNone || x.reconciles .profile)

/-! ## Timeouts -/

/-- `_force_timeout_accounting_locked` -/
def forceTimeoutAccounting (x : Exporter) (alreadyTimeout : Bool) : Exporter :=
  let x := x.dropPending
  if alreadyTimeout then x else { x with writerFailed := true }.countDiagnostic "close_timeout"

/-- The pending data of a stream, cut where the sequence numbers jump. -/
def consecutiveGroups (group : List Queued) : List Queued → List (List Queued)
  | [] => if group.isEmpty then [] else [group]
  | q :: rest =>
    if (group.getLast?.bind (·.recordSeq)).any fun last => q.recordSeq.any (· != last + 1) then
      group :: consecutiveGroups [q] rest
    else consecutiveGroups (group ++ [q]) rest

/-- `_timeout_loss_control_locked` and `_timeout_profile_loss_control_locked` -/
def timeoutLossControl (cfg : Config) (x : Exporter) (stream : StreamId) (group : List Queued)
    (observedNs : Nat) : Exporter × Option Queued :=
  let lossSeq := (x.ledger stream).nextLossIntervalSeq
  let x := x.modify stream fun l => { l with
    droppedData := l.droppedData + group.length, nextLossIntervalSeq := lossSeq + 1 }
  let loss : OpenLoss :=
    { reason := .closeTimeout
      firstRecordSeq := (group.head?.bind (·.recordSeq)).getD 0
      lastRecordSeq := (group.getLast?.bind (·.recordSeq)).getD 0
      counts := fun t => group.countP fun q => q.recordType = t
      firstTimestampNs := observedNs
      lastTimestampNs := observedNs }
  match lossRecord cfg stream lossSeq loss with
  | .error _ => (x.dropControl stream, none)
  | .ok (record, raw) => (x, some (lossControl stream record raw))

/-- The controls a timeout keeps, within the reserved budget of each stream. -/
structure Admitted where
  x : Exporter
  controls : List Queued := []
  bytes : StreamId → Nat := fun _ => 0
  counts : StreamId → Nat := fun _ => 0

/-- `admit_control` -/
def Admitted.admitControl (a : Admitted) (q : Queued) : Admitted :=
  if reservedCapacityRecords ≤ a.counts q.stream ∨
      maxQueuedBytes < a.bytes q.stream + q.raw.length then
    { a with x := a.x.dropControl q.stream }
  else
    { a with
      controls := a.controls ++ [q]
      bytes := fun s => if s = q.stream then a.bytes s + q.raw.length else a.bytes s
      counts := fun s => if s = q.stream then a.counts s + 1 else a.counts s }

/-- One group of lost data becomes one control, if its record can be built. -/
def Admitted.admitGroup (cfg : Config) (stream : StreamId) (observedNs : Nat) (a : Admitted)
    (group : List Queued) : Admitted :=
  match timeoutLossControl cfg a.x stream group observedNs with
  | (x, none) => { a with x := x }
  | (x, some control) => { a with x := x }.admitControl control

/-- The pending loss intervals first, then what the pending data becomes. -/
def timeoutAdmission (cfg : Config) (x : Exporter) (observedNs : Nat) : Admitted :=
  let pending := x.inflight ++ x.queue
  let existing := pending.filter fun q => q.recordType = .lossInterval
  let data := fun stream => pending.filter fun q => q.stream = stream && q.isData
  let unknown := pending.filter fun q => !(q.recordType = .lossInterval || q.isData)
  let x := (unknown.foldl (fun x q => x.dropControl q.stream) x).clearPending
  let a := existing.foldl Admitted.admitControl { x := x }
  let a := (consecutiveGroups [] (data .base)).foldl (Admitted.admitGroup cfg .base observedNs) a
  (consecutiveGroups [] (data .profile)).foldl (Admitted.admitGroup cfg .profile observedNs) a

/-- The admitted controls are in flight, within their own budgets. -/
def Admitted.inflight (a : Admitted) : Exporter :=
  let x := a.x.countDiagnostic "close_timeout"
  { x with
    inflight := a.controls
    ledger := fun s => { x.ledger s with reservedQueued := a.counts s, queuedBytes := a.bytes s } }

/-- `_prepare_timeout_controls_locked` -/
def prepareTimeoutControls (cfg : Config) (x : Exporter) (observedNs : Nat) :
    Exporter × List Queued :=
  let a := x.timeoutAdmission cfg observedNs
  (a.inflight, a.controls)

/-- The controls in flight when the deadline passes are dropped. -/
def expireControls (x : Exporter) : Exporter :=
  let x := x.inflight.foldl (fun x q => x.dropControl q.stream) x
  { x with
    inflight := []
    ledger := fun s => { x.ledger s with queuedBytes := 0, reservedQueued := 0 } }

/-! ## Reserved controls of the writer -/

/-- The first lock scope of `_write_reserved_control_via_in_writer`. -/
def reserveControl (x : Exporter) (stream : StreamId) (raw : Bytes) : Exporter × Bool :=
  if reservedCapacityRecords ≤ (x.ledger stream).reservedQueued ∨
      maxQueuedBytes < (x.ledger stream).queuedBytes + raw.length then
    (x.dropControl stream, false)
  else
    (x.modify stream fun l => { l with
      reservedQueued := l.reservedQueued + 1, queuedBytes := l.queuedBytes + raw.length }, true)

/-- Its last lock scope. -/
def releaseControl (x : Exporter) (stream : StreamId) (raw : Bytes) : Exporter :=
  x.modify stream fun l => { l with
    reservedQueued := if 0 < l.reservedQueued then l.reservedQueued - 1 else l.reservedQueued
    queuedBytes := max 0 (l.queuedBytes - raw.length) }

/-- The summary record of a stream and its line. -/
def summaryRecord (cfg : Config) (x : Exporter) (stream : StreamId) (endedNs : Value)
    (closeOutcome : CloseOutcome) : Except PyError (Dict × Bytes) :=
  let l := x.ledger stream
  match stream with
  | .base => do
    let record ← buildProcessSummaryRecord cfg.processUuid endedNs l.attempted (l.written .event)
      (l.written .edge) (l.written .lossInterval) l.droppedData l.droppedControl l.writerFailures
      closeOutcome (cfg.sha256 l.hashed)
    return (record, ← canonicalJsonLine record)
  | .profile => do
    let record ← buildProfileSummaryRecord cfg.processUuid endedNs l.attempted
      (fun t => l.written (.data t)) (l.written .lossInterval) l.droppedData l.droppedControl
      l.writerFailures closeOutcome (cfg.sha256 l.hashed)
    return (record, ← profileRecordLine record)

end Exporter
end LifecycleProfiler.Sink
