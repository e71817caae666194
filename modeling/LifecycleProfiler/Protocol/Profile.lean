import LifecycleProfiler.Protocol.Base

/-! # The KV-recovery profile records

`kv_recovery_profile_protocol`: the closed field rosters of the four data
record types, and the start, `loss_interval` and summary records of a profile
shard. -/

namespace LifecycleProfiler.Protocol
open Python

def profileId : String := "rlp.kv-recovery/v1alpha1"

def maxProfileDataRecords : Nat := 4096
def maxProfileRecordBytes : Nat := 4096
def maxLogicalBlocksPerBlockSet : Nat := 4096
def maxBlockRowsPerChunk : Nat := 64
def maxTransferRecordsPerLifecycle : Nat := 4096
def maxTransferIdsPerWaitSet : Nat := 4096
def maxWaitSetRowsPerChunk : Nat := 64
def maxWaitSetsPerProcessShard : Nat := 64
def maxRequeueObservationsPerEpisode : Nat := 64
def maxRuntimeRequestIdBytes : Nat := 128

def profileLimits : Dict :=
  [("data_capacity_records", .int dataCapacityRecords),
   ("reserved_capacity_records", .int reservedCapacityRecords),
   ("max_record_bytes", .int maxProfileRecordBytes),
   ("max_queued_bytes", .int maxQueuedBytes),
   ("max_batch_records", .int maxBatchRecords),
   ("max_batch_bytes", .int maxBatchBytes),
   ("write_interval_ms", .int writeIntervalMs),
   ("close_timeout_ms", .int closeTimeoutMs),
   ("max_metadata_bytes", .int maxMetadataBytes),
   ("max_logical_blocks_per_block_set", .int maxLogicalBlocksPerBlockSet),
   ("max_block_rows_per_chunk", .int maxBlockRowsPerChunk),
   ("max_transfer_records_per_lifecycle", .int maxTransferRecordsPerLifecycle),
   ("max_transfer_ids_per_wait_set", .int maxTransferIdsPerWaitSet),
   ("max_wait_set_rows_per_chunk", .int maxWaitSetRowsPerChunk),
   ("max_wait_sets_per_process_shard", .int maxWaitSetsPerProcessShard),
   ("max_requeue_observations_per_episode", .int maxRequeueObservationsPerEpisode),
   ("max_runtime_request_id_bytes", .int maxRuntimeRequestIdBytes),
   ("shard_ownership", .str "one_process_one_append_only_profile_shard")]

/-- The four data record types of a profile shard. -/
inductive ProfileRecordType where
  | blockSetChunk
  | waitSetChunk
  | transferEvent
  | recoveryEvent
  deriving DecidableEq, Repr

def ProfileRecordType.wire : ProfileRecordType → String
  | .blockSetChunk => "block_set_chunk"
  | .waitSetChunk => "wait_set_chunk"
  | .transferEvent => "transfer_event"
  | .recoveryEvent => "recovery_event"

/-- A profile configuration: everything but the run is pinned by its checks. -/
structure KVRecoveryProfileConfig where
  runId : String
  runId_hex : isHex 32 runId = true

def implementationFamily : String := "runtime_core_offloading_connector"
def connectorName : String := "OffloadingConnector"
def specName : String := "TieringOffloadingSpec"

structure ProfileRecordRef where
  recordType : ProfileRecordType
  recordSeq : Nat
  recordId : String
  timestampNs : Nat
  record : Dict

/-! ## Field checks -/

def requireStrictUint (value : Value) (maximum : Nat) (fieldName : String) :
    Except PyError Nat :=
  match asUint maximum value with
  | some n => .ok n
  | none => .error (.valueError s!"{fieldName} is outside its unsigned integer domain")

def checkUint (value : Value) (maximum : Nat) (fieldName : String) : Except PyError Unit :=
  raiseIf (asUint maximum value).isNone s!"{fieldName} is outside its unsigned integer domain"

def checkHex (value : String) (length : Nat) (fieldName : String) : Except PyError Unit :=
  raiseIf (!isHex length value) s!"{fieldName} must be {length} lowercase hexadecimal chars"

def requireAscii (value : Value) (fieldName : String) (minimum maximum : Nat) :
    Except PyError Unit :=
  raiseIf (match value with
    | .str s => !(isPrintableAscii s && minimum ≤ s.utf8ByteSize && s.utf8ByteSize ≤ maximum)
    | _ => true) s!"{fieldName} must be bounded printable ASCII"

def requireHex (value : Value) (length : Nat) (fieldName : String) : Except PyError String :=
  match value with
  | .str s =>
    if isHex length s then .ok s
    else .error (.valueError s!"{fieldName} must be {length} lowercase hexadecimal chars")
  | _ => .error (.valueError s!"{fieldName} must be {length} lowercase hexadecimal chars")

theorem requireStrictUint_eq_ok {v : Value} {maximum n : Nat} {name : String} :
    requireStrictUint v maximum name = .ok n ↔ v = .int n ∧ n ≤ maximum := by
  rw [← asUint_eq_some, requireStrictUint]
  cases asUint maximum v <;> simp

theorem requireHex_eq_ok {v : Value} {length : Nat} {name s : String} :
    requireHex v length name = .ok s ↔ v = .str s ∧ isHex length s = true := by
  cases v with
  | str t =>
    rw [requireHex]
    split
    · rename_i ht
      rw [Except.ok.injEq, Value.str.injEq]
      exact ⟨fun he => ⟨he, he ▸ ht⟩, fun h => h.1⟩
    · rename_i ht
      constructor
      · intro h
        cases h
      · rintro ⟨he, hs⟩
        cases he
        exact absurd hs ht
  | _ => simp [requireHex]

/-- The nullable identifier checks, by the pattern of the identifier. -/
def requireNullableId (matchesPattern : String → Bool) (value : Value) (message : String) :
    Except PyError Unit :=
  match value with
  | .none => .ok ()
  | .str s => raiseIf (!matchesPattern s) message
  | _ => .error (.valueError message)

def requireNullableEventId (value : Value) (fieldName : String) : Except PyError Unit :=
  requireNullableId isEventId value s!"{fieldName} must be a canonical base event ID"

def requireNullableProfileRecordId (value : Value) (fieldName : String) : Except PyError Unit :=
  requireNullableId isProfileRecordId value s!"{fieldName} must be a canonical profile record ID"

def requireExactFields (fields : Dict) (required : List String) (recordType : String) :
    Except PyError Unit :=
  raiseIf (!hasExactKeys fields required) s!"{recordType} fields differ from the closed roster"

/-- `_bounded_line` and `profile_record_line`. -/
def profileRecordLine (record : Dict) : Except PyError Bytes := do
  let raw ← canonicalJsonLine record
  raiseIf (maxProfileRecordBytes < raw.length) "profile record exceeds max_record_bytes"
  return raw

def requestFields : List String :=
  ["trace_id", "engine_lifecycle_id", "runtime_request_id", "request_id_kind", "sample_index",
   "recovery_epoch", "episode_id"]

def blockFields : List String :=
  ["block_set_id", "chunk_index", "chunk_count", "total_block_count", "blocks"]

def waitFields : List String :=
  ["operation", "wait_set_id", "chunk_index", "chunk_count", "total_transfer_count",
   "transfer_ids"]

def transferFields : List String :=
  ["transfer_id", "connector_job_id", "rank", "world_size", "operation", "direction",
   "src_medium", "dst_medium", "block_set_id", "transfer_phase", "bytes_moved",
   "device_duration_ns", "success", "failure_code"]

def recoveryFields : List String :=
  ["stage", "occurrence", "base_event_id", "base_admission_started_event_id",
   "from_profile_event_id", "transfer_id", "block_set_id", "bytes_moved", "requeue_reason",
   "compute_kind", "child_observation_kind", "base_association_kind",
   "base_association_evidence", "request_status_before", "request_status_after"]

/-- The closed roster of a record type. -/
def requiredFields : ProfileRecordType → List String
  | .waitSetChunk => waitFields
  | .blockSetChunk => requestFields ++ blockFields
  | .transferEvent => requestFields ++ transferFields
  | .recoveryEvent => requestFields ++ recoveryFields

def validateRequestFields (fields : Dict) : Except PyError Unit := do
  let traceId ← requireHex (fields.get "trace_id") 32 "trace_id"
  let sampleIndex ← requireStrictUint (fields.get "sample_index") uint32Max "sample_index"
  raiseIf (sampleIndex != 0) "profile v1alpha1 requires sample_index=0"
  raiseIf (!(fields.get "engine_lifecycle_id").pyEq (.str s!"{traceId}:e:0"))
    "engine_lifecycle_id does not match trace/sample"
  requireAscii (fields.get "runtime_request_id") "runtime_request_id" 1 maxRuntimeRequestIdBytes
  raiseIf (!(fields.get "request_id_kind").pyEq (.str "engine_internal"))
    "request_id_kind must be engine_internal"
  if (fields.get "recovery_epoch").isNone then
    raiseIf (!(fields.get "episode_id").isNone)
      "episode_id must be null when recovery_epoch is null"
  else
    let epoch ← requireStrictUint (fields.get "recovery_epoch") uint32Max "recovery_epoch"
    raiseIf (epoch < 1) "recovery_epoch must be positive"
    let lifecycleId := formatted (fields.get "engine_lifecycle_id")
    raiseIf (!(fields.get "episode_id").pyEq (.str s!"{lifecycleId}:k:{epoch}"))
      "episode_id does not match lifecycle/epoch"

def validateChunk (index count total : Value) (field : String) : Except PyError Nat := do
  let index ← requireStrictUint index uint32Max "chunk_index"
  let count ← requireStrictUint count uint32Max "chunk_count"
  let total ← requireStrictUint total uint32Max field
  raiseIf (count < 1 || count ≤ index || total < 1) "chunk identity/count is invalid"
  return total

/-- `(a, b) <= (c, d)` on pairs. -/
def pairLe (p q : Nat × Nat) : Bool := p.1 < q.1 || (p.1 == q.1 && p.2 ≤ q.2)

/-- A block row as a mapping of its three closed fields. -/
def blockRow : Value → Except PyError Dict
  | .dict kvs =>
    if hasExactKeys kvs ["group_index", "logical_ordinal", "logical_block_id"] then .ok kvs
    else .error (.valueError "block row differs from the closed roster")
  | _ => .error (.valueError "block row differs from the closed roster")

/-- The loop over the block rows, with the previous coordinate and the
logical identifiers seen so far. -/
def validateBlockRows : Option (Nat × Nat) → List String → List Value → Except PyError Unit
  | _, _, [] => .ok ()
  | previous, seen, block :: rest => do
    let row ← blockRow block
    let group ← requireStrictUint (row.get "group_index") uint32Max "group_index"
    let ordinal ← requireStrictUint (row.get "logical_ordinal") uint64Max "logical_ordinal"
    let logicalId ← requireHex (row.get "logical_block_id") 32 "logical_block_id"
    raiseIf (previous.any fun p => pairLe (group, ordinal) p)
      "block rows are not strictly canonical"
    raiseIf (seen.contains logicalId) "logical_block_id is duplicated"
    validateBlockRows (some (group, ordinal)) (logicalId :: seen) rest

def validateBlockFields (fields : Dict) : Except PyError Unit := do
  let _ ← requireHex (fields.get "block_set_id") 64 "block_set_id"
  let total ← validateChunk (fields.get "chunk_index") (fields.get "chunk_count")
    (fields.get "total_block_count") "total_block_count"
  raiseIf (maxLogicalBlocksPerBlockSet < total) "block set exceeds its frozen bound"
  match fields.get "blocks" with
  | .list blocks =>
    raiseIf (!(1 ≤ blocks.length && blocks.length ≤ 64))
      "blocks must be a nonempty bounded array"
    validateBlockRows none [] blocks
  | _ => .error (.valueError "blocks must be a nonempty bounded array")

def waitMember : Value → Except PyError String
  | .str s =>
    if isTransferId s then .ok s
    else .error (.valueError "wait member is not a canonical transfer_id")
  | _ => .error (.valueError "wait member is not a canonical transfer_id")

def validateWaitMembers (processUuid : String) : Option String → List Value → Except PyError Unit
  | _, [] => .ok ()
  | previous, member :: rest => do
    let transferId ← waitMember member
    raiseIf (!startsWith transferId s!"{processUuid}:t:")
      "wait member belongs to another process"
    raiseIf (previous.any fun p => decide (transferId ≤ p))
      "wait members are not strictly sorted and unique"
    validateWaitMembers processUuid (some transferId) rest

def validateWaitFields (fields : Dict) (processUuid : String) : Except PyError Unit := do
  raiseIf (!(fields.get "operation").pyEq (.str "transfer_wait"))
    "wait operation must be transfer_wait"
  let _ ← requireHex (fields.get "wait_set_id") 64 "wait_set_id"
  let total ← validateChunk (fields.get "chunk_index") (fields.get "chunk_count")
    (fields.get "total_transfer_count") "total_transfer_count"
  raiseIf (maxTransferIdsPerWaitSet < total) "wait set exceeds its frozen bound"
  match fields.get "transfer_ids" with
  | .list members =>
    raiseIf (!(1 ≤ members.length && members.length ≤ 64))
      "transfer_ids must be a nonempty bounded array"
    validateWaitMembers processUuid none members
  | _ => .error (.valueError "transfer_ids must be a nonempty bounded array")

def failureCodes : List String :=
  ["submit_rejected", "transfer_failed", "cancelled", "timeout", "size_unavailable",
   "unclassified"]

/-- The result of a `done` row: a failed completion constrains its failure
code only. -/
def validateDoneResult (fields : Dict) : Except PyError Unit :=
  match fields.get "success" with
  | .bool true => do
    let bytesMoved ← requireStrictUint (fields.get "bytes_moved") uint64Max "bytes_moved"
    raiseIf (bytesMoved < 1 || !(fields.get "failure_code").isNone)
      "successful done requires positive bytes and no failure"
  | .bool false =>
    raiseIf (!isOneOf (fields.get "failure_code") failureCodes)
      "failed done requires a closed failure_code"
  | _ => .error (.valueError "done success must be Boolean")

def validateTransferDone (fields : Dict) : Except PyError Unit := do
  validateDoneResult fields
  let duration := fields.get "device_duration_ns"
  raiseIf (!duration.isNone && (match asUint uint64Max duration with
    | some n => n < 1
    | none => true)) "device_duration_ns must be null or positive uint64"

def validateTransferId (processUuid : String) : Value → Except PyError Unit
  | .str transferId => do
    raiseIf (!isTransferId transferId) "transfer_id is not canonical"
    raiseIf (!startsWith transferId s!"{processUuid}:t:") "transfer_id belongs to another process"
  | _ => .error (.valueError "transfer_id is not canonical")

def validateTransferPhase (fields : Dict) : Except PyError Unit :=
  let phase := fields.get "transfer_phase"
  if phase.pyEq (.str "submit") then
    raiseIf (["bytes_moved", "device_duration_ns", "success", "failure_code"].any
      fun name => !(fields.get name).isNone) "submit fields must retain their null wire values"
  else if phase.pyEq (.str "done") then
    validateTransferDone fields
  else
    raiseIf true "transfer_phase is not submit|done"

def validateTransferFields (fields : Dict) (processUuid : String) : Except PyError Unit := do
  validateTransferId processUuid (fields.get "transfer_id")
  let _ ← requireStrictUint (fields.get "connector_job_id") uint64Max "connector_job_id"
  raiseIf (!(fields.get "rank").pyEq (.int 0) || !(fields.get "world_size").pyEq (.int 1))
    "profile v1alpha1 transfer requires rank 0/world 1"
  let operation := fields.get "operation"
  raiseIf (!isOneOf operation ["d2h_preserve", "h2d_restore"])
    "transfer operation is not in the closed roster"
  let expected := if operation.pyEq (.str "d2h_preserve") then ("d2h", "device_hbm", "host_cpu")
    else ("h2d", "host_cpu", "device_hbm")
  raiseIf (!((fields.get "direction").pyEq (.str expected.1) &&
    (fields.get "src_medium").pyEq (.str expected.2.1) &&
    (fields.get "dst_medium").pyEq (.str expected.2.2)))
    "transfer direction/media do not match the operation"
  let _ ← requireHex (fields.get "block_set_id") 64 "block_set_id"
  validateTransferPhase fields

def recoveryStages : List String :=
  ["preempt", "restore_start", "restore_done", "scheduler_wakeup", "requeue", "admission",
   "first_prefill_or_decode"]

def baseStages : List String :=
  ["preempt", "restore_start", "restore_done", "admission", "first_prefill_or_decode"]

def requeueReasons : List String :=
  ["lora_capacity", "prefill_throttled", "token_budget", "encoder_budget", "block_capacity",
   "unclassified"]

/-- The links of a recovery stage: its base events and its predecessor. -/
def validateRecoveryLinks (fields : Dict) : Except PyError Unit := do
  let stage := fields.get "stage"
  requireNullableEventId (fields.get "base_event_id") "base_event_id"
  requireNullableEventId (fields.get "base_admission_started_event_id")
    "base_admission_started_event_id"
  requireNullableProfileRecordId (fields.get "from_profile_event_id") "from_profile_event_id"
  if isOneOf stage baseStages then
    raiseIf (fields.get "base_event_id").isNone "stage requires an exact base_event_id"
  else
    raiseIf (!(fields.get "base_event_id").isNone) "profile-only stage forbids base_event_id"
  if stage.pyEq (.str "preempt") then
    raiseIf (!(fields.get "from_profile_event_id").isNone)
      "preempt starts the profile predecessor chain"
  else
    raiseIf (fields.get "from_profile_event_id").isNone
      "non-preempt stage requires from_profile_event_id"
  raiseIf (stage.pyEq (.str "admission") ==
    (fields.get "base_admission_started_event_id").isNone)
    "base admission ID is required only for admission"

/-- The transfer identity of a recovery stage. -/
def validateRecoveryTransfer (fields : Dict) : Except PyError Unit := do
  let stage := fields.get "stage"
  if stage.pyEq (.str "preempt") then
    raiseIf (["transfer_id", "block_set_id", "bytes_moved"].any
      fun name => !(fields.get name).isNone) "preempt precedes transfer identity"
  else
    raiseIf (match fields.get "transfer_id" with
      | .str s => !isTransferId s
      | _ => true) "recovery stage requires a canonical transfer_id"
    let _ ← requireHex (fields.get "block_set_id") 64 "block_set_id"
    if stage.pyEq (.str "restore_start") then
      raiseIf (!(fields.get "bytes_moved").isNone) "restore_start bytes_moved must be null"
    else
      let moved ← requireStrictUint (fields.get "bytes_moved") uint64Max "bytes_moved"
      raiseIf (moved < 1) "post-restore stage requires positive bytes_moved"

/-- The fields only a requeue or the first compute carries. -/
def validateRecoveryDetail (fields : Dict) : Except PyError Unit := do
  let stage := fields.get "stage"
  if stage.pyEq (.str "requeue") then
    raiseIf (!isOneOf (fields.get "requeue_reason") requeueReasons)
      "requeue_reason is not in the closed roster"
  else
    raiseIf (!(fields.get "requeue_reason").isNone) "requeue_reason is required only for requeue"
  if stage.pyEq (.str "first_prefill_or_decode") then
    raiseIf (!isOneOf (fields.get "compute_kind") ["prefill", "decode"] ||
      !(fields.get "child_observation_kind").pyEq (.str "worker_model_forward_entry") ||
      !(fields.get "base_association_kind").pyEq (.str "phase_child_observation") ||
      !(fields.get "base_association_evidence").pyEq (.str "instrumented_execution_context"))
      "first compute child association is incomplete"
  else
    raiseIf (["compute_kind", "child_observation_kind", "base_association_kind",
      "base_association_evidence"].any fun name => !(fields.get name).isNone)
      "compute child fields are required only at first compute"
  forEach (fun name =>
    if (fields.get name).isNone then .ok () else requireAscii (fields.get name) name 1 64)
    ["request_status_before", "request_status_after"]

def validateRecoveryFields (fields : Dict) : Except PyError Unit := do
  let stage := fields.get "stage"
  raiseIf (!isOneOf stage recoveryStages) "recovery stage is not in the seven-stage roster"
  let occurrence ← requireStrictUint (fields.get "occurrence") uint32Max "occurrence"
  if stage.pyEq (.str "requeue") then
    raiseIf (maxRequeueObservationsPerEpisode ≤ occurrence)
      "requeue occurrence exceeds its frozen bound"
  else
    raiseIf (occurrence != 0) "unique recovery stages require occurrence=0"
  validateRecoveryLinks fields
  validateRecoveryTransfer fields
  validateRecoveryDetail fields

/-! ## Records -/

def profileRecordId (processUuid : String) (recordSeq : Nat) : String :=
  scopedId processUuid "k" recordSeq

/-- The record of accepted fields. -/
def profileDataRecord (recordType : ProfileRecordType) (processUuid : String) (recordSeq : Nat)
    (timestampNs : Nat) (clockDomainId : String) (config : KVRecoveryProfileConfig)
    (fields : Dict) : Dict :=
  [("schema", .str profileId),
   ("record_type", .str recordType.wire),
   ("process_uuid", .str processUuid),
   ("record_seq", .int recordSeq),
   ("record_id", .str (profileRecordId processUuid recordSeq)),
   ("run_id", .str config.runId),
   ("timestamp_ns", .int timestampNs),
   ("clock_domain_id", .str clockDomainId),
   ("profile_id", .str profileId)] ++ fields

def validateDataFields (recordType : ProfileRecordType) (processUuid : String) (fields : Dict) :
    Except PyError Unit :=
  match recordType with
  | .waitSetChunk => validateWaitFields fields processUuid
  | .blockSetChunk => do
    validateRequestFields fields
    validateBlockFields fields
  | .transferEvent => do
    validateRequestFields fields
    validateTransferFields fields processUuid
  | .recoveryEvent => do
    validateRequestFields fields
    validateRecoveryFields fields

def buildProfileDataRecord (recordType : ProfileRecordType) (processUuid : String)
    (recordSeq : Nat) (timestampNs : Nat) (clockDomainId : String)
    (config : KVRecoveryProfileConfig) (fields : Dict) :
    Except PyError (Dict × ProfileRecordRef) := do
  checkHex processUuid 32 "process_uuid"
  checkUint (.int recordSeq) uint64Max "record_seq"
  checkUint (.int timestampNs) uint64Max "timestamp_ns"
  requireExactFields fields (requiredFields recordType) recordType.wire
  validateDataFields recordType processUuid fields
  checkHex clockDomainId 32 "clock_domain_id"
  let record := profileDataRecord recordType processUuid recordSeq timestampNs clockDomainId
    config fields
  let _ ← profileRecordLine record
  return (record, ⟨recordType, recordSeq, profileRecordId processUuid recordSeq, timestampNs,
    record⟩)

def buildProfileStartRecord (processUuid : String) (pid : Nat) (startedNs : Value)
    (clockDomainId : String) (provenance : RuntimeProvenance)
    (config : KVRecoveryProfileConfig) : Except PyError Dict := do
  checkHex processUuid 32 "process_uuid"
  checkUint (.int pid) uint32Max "pid"
  checkUint startedNs uint64Max "started_timestamp_ns"
  checkHex clockDomainId 32 "clock_domain_id"
  let record : Dict := [("schema", .str profileId),
    ("record_type", .str "profile_start"),
    ("process_uuid", .str processUuid),
    ("pid", .int pid),
    ("started_timestamp_ns", startedNs),
    ("clock_source", .str clockSource),
    ("clock_domain_id", .str clockDomainId),
    ("profile_id", .str profileId),
    ("run_id", .str config.runId),
    ("profiler_parent_commit", .str provenance.profilerParentCommit),
    ("runtime_core_commit", .str provenance.runtimeCoreCommit),
    ("device_plugin_commit", .str provenance.devicePluginCommit),
    ("base_trace_schema", .str schemaVersion),
    ("rank", .int 0),
    ("world_size", .int 1),
    ("implementation_family", .str implementationFamily),
    ("connector_name", .str connectorName),
    ("spec_name", .str specName),
    ("communication_mode", .str kvRecoveryCommunicationMode),
    ("limits", .dict profileLimits)]
  let _ ← profileRecordLine record
  return record

/-- Counts of the four categories, in one number each. -/
def totalCount (counts : ProfileRecordType → Nat) : Nat :=
  counts .blockSetChunk + counts .recoveryEvent + counts .transferEvent + counts .waitSetChunk

def buildProfileLossIntervalRecord (processUuid : String) (lossIntervalSeq : Nat)
    (reason : LossReason) (first last : Nat) (counts : ProfileRecordType → Nat)
    (firstNs lastNs : Nat) : Except PyError Dict := do
  forEach (fun t => checkUint (.int (counts t)) uint64Max s!"{t.wire}_count")
    [ProfileRecordType.blockSetChunk, .recoveryEvent, .transferEvent, .waitSetChunk]
  checkUint (.int first) uint64Max "first_dropped_record_seq"
  checkUint (.int last) uint64Max "last_dropped_record_seq"
  raiseIf (last < first || totalCount counts + first != last + 1)
    "profile loss interval counts do not reconcile"
  checkHex processUuid 32 "process_uuid"
  checkUint (.int lossIntervalSeq) uint64Max "loss_interval_seq"
  checkUint (.int firstNs) uint64Max "first_observed_timestamp_ns"
  checkUint (.int lastNs) uint64Max "last_observed_timestamp_ns"
  let record : Dict := [("schema", .str profileId),
    ("record_type", .str "loss_interval"),
    ("process_uuid", .str processUuid),
    ("profile_id", .str profileId),
    ("loss_interval_seq", .int lossIntervalSeq),
    ("loss_interval_id", .str (scopedId processUuid "l" lossIntervalSeq)),
    ("reason", .str reason.wire),
    ("first_dropped_record_seq", .int first),
    ("last_dropped_record_seq", .int last),
    ("dropped_count", .int (last - first + 1 : Nat)),
    ("block_set_chunk_count", .int (counts .blockSetChunk)),
    ("wait_set_chunk_count", .int (counts .waitSetChunk)),
    ("transfer_event_count", .int (counts .transferEvent)),
    ("recovery_event_count", .int (counts .recoveryEvent)),
    ("first_observed_timestamp_ns", .int firstNs),
    ("last_observed_timestamp_ns", .int lastNs)]
  let _ ← profileRecordLine record
  return record

def buildProfileSummaryRecord (processUuid : String) (endedNs : Value) (attempted : Nat)
    (written : ProfileRecordType → Nat) (losses dropped droppedControl writerFailures : Nat)
    (closeOutcome : CloseOutcome) (contentSha256 : String) : Except PyError Dict := do
  checkUint (.int attempted) uint64Max "attempted_data_count"
  checkUint (.int dropped) uint64Max "dropped_data_count"
  forEach (fun t => checkUint (.int (written t)) uint64Max s!"written_{t.wire}_count")
    [ProfileRecordType.blockSetChunk, .recoveryEvent, .transferEvent, .waitSetChunk]
  raiseIf (attempted != totalCount written + dropped) "profile summary ledger does not reconcile"
  checkHex processUuid 32 "process_uuid"
  checkUint endedNs uint64Max "ended_timestamp_ns"
  checkUint (.int losses) uint64Max "written_loss_interval_count"
  checkUint (.int droppedControl) uint64Max "dropped_control_count"
  checkUint (.int writerFailures) uint64Max "writer_failure_count"
  checkHex contentSha256 64 "content_sha256"
  let record : Dict := [("schema", .str profileId),
    ("record_type", .str "profile_summary"),
    ("process_uuid", .str processUuid),
    ("profile_id", .str profileId),
    ("ended_timestamp_ns", endedNs),
    ("attempted_data_count", .int attempted),
    ("written_block_set_chunk_count", .int (written .blockSetChunk)),
    ("written_wait_set_chunk_count", .int (written .waitSetChunk)),
    ("written_transfer_event_count", .int (written .transferEvent)),
    ("written_recovery_event_count", .int (written .recoveryEvent)),
    ("written_loss_interval_count", .int losses),
    ("dropped_data_count", .int dropped),
    ("dropped_control_count", .int droppedControl),
    ("first_data_record_seq", firstSeq attempted),
    ("last_data_record_seq", lastSeq attempted),
    ("writer_failure_count", .int writerFailures),
    ("close_outcome", .str closeOutcome.wire),
    ("content_sha256", .str contentSha256)]
  let _ ← profileRecordLine record
  return record

end LifecycleProfiler.Protocol
