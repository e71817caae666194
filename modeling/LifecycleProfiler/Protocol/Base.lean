import LifecycleProfiler.Python.Json
import LifecycleProfiler.Protocol.Identifiers

/-! # The base trace records

`runtime_protocol`: what a draft must satisfy to become an event, edge,
`loss_interval`, `process_start` or `process_summary` record, and the record
each builder returns. Numeric draft fields hold any object, since the source
checks their type itself. -/

namespace LifecycleProfiler.Protocol
open Python

def schemaVersion : String := "rlp.trace/v1alpha1"
def kvRecoveryCommunicationMode : String := "issue2:kv-recovery-v1alpha1"
def kvRecoveryH2dEvidence : String := kvRecoveryCommunicationMode ++ ":h2d_restore"
def recoveryProfileId : String := "rlp.kv-recovery/v1alpha1"
def parentApiMajor : Int := 1
def clockSource : String := "CLOCK_MONOTONIC"

def dataCapacityRecords : Nat := 4096
def reservedCapacityRecords : Nat := 64
def maxRecordBytes : Nat := 4096
def maxQueuedBytes : Nat := 17039360
def maxBatchRecords : Nat := 128
def maxBatchBytes : Nat := 262144
def writeIntervalMs : Nat := 100
def closeTimeoutMs : Nat := 2000
def maxMetadataBytes : Nat := 1024

def exporterLimits : Dict :=
  [("data_capacity_records", .int dataCapacityRecords),
   ("reserved_capacity_records", .int reservedCapacityRecords),
   ("max_record_bytes", .int maxRecordBytes),
   ("max_queued_bytes", .int maxQueuedBytes),
   ("max_batch_records", .int maxBatchRecords),
   ("max_batch_bytes", .int maxBatchBytes),
   ("write_interval_ms", .int writeIntervalMs),
   ("close_timeout_ms", .int closeTimeoutMs),
   ("shard_ownership", .str "one_process_one_append_only_shard")]

def scopes : List String := ["root_request", "engine_sample", "response"]

def components : List String :=
  ["frontend", "tokenizer", "engine_client", "engine_core", "output_processor", "response",
   "transport", "external_evidence"]

def edgeKinds : List String :=
  ["program_order", "data_dependency", "submission", "parent_child", "transport_handoff",
   "correlated_same_clock_domain"]

def evidenceSources : List String :=
  ["instrumented_execution_context", "engine_submission", "lifecycle_creation",
   "engine_output_handoff", "engine_abort_handoff", "transport_send_await"]

def unsupportedReasons : List String :=
  ["parallel_sampling", "beam_search", "pooling", "streaming_input", "cross_host",
   "response_boundary_uninstrumented", "communication_subtype_unfrozen",
   "zero_compute_prefix_hit", "kv_connector_enabled", "heterogeneous_kv_cache",
   "frontend_stop_string", "multimodal_input", "prompt_embeds", "encoder_decoder_model",
   "batched_prompts"]

def forbiddenMetadataKeys : List String :=
  ["api_key", "authorization", "client_ip", "generated_text", "input_text", "messages",
   "output_text", "prompt", "prompt_text", "raw_model_output", "raw_output", "request_body",
   "token", "token_ids"]

/-- The `_register` calls: scope, component and the events they own. -/
def eventOwners : List (String × String × List String) :=
  [("root_request", "frontend",
      ["received", "render_started", "render_done", "request_done", "cancelled", "error",
       "unsupported_mode", "cleanup_started", "cleanup_done"]),
   ("root_request", "tokenizer", ["tokenization_started", "tokenization_done"]),
   ("root_request", "engine_client", ["submitted"]),
   ("root_request", "output_processor", ["output_ready"]),
   ("engine_sample", "engine_core",
      ["requeued", "admission_started", "scheduled", "resumed", "prefill_started",
       "prefill_done", "decode_started", "decode_done", "preempted", "generation_done",
       "aborted", "cancelled", "error", "cleanup_started", "cleanup_done",
       "resource_acquired", "resource_transfer_pending", "resource_released",
       "resource_policy_retained", "resource_invalidated"]),
   ("engine_sample", "engine_client", ["queued"]),
   ("engine_sample", "output_processor", ["first_token", "output_batch_ready"]),
   ("engine_sample", "external_evidence",
      ["communication_started", "communication_done", "request_finished_observed",
       "request_preempted_observed", "request_kv_reclaimed_observed"]),
   ("response", "response",
      ["serialization_started", "serialization_done", "cancelled", "error",
       "cleanup_started", "cleanup_done"]),
   ("response", "transport", ["delivery_started", "delivery_done", "stream_done"])]

/-- `_COMPONENT_BY_SCOPE_EVENT.get((scope, event))` -/
def componentByScopeEvent (scope event : String) : Option String :=
  (eventOwners.find? fun o => o.1 == scope && o.2.2.contains event).map fun o => o.2.1

def eventNames : List String := eventOwners.flatMap fun o => o.2.2

def abnormalTerminals : List String := ["aborted", "cancelled", "error"]

def terminalEvents : List String :=
  ["request_done", "generation_done", "stream_done"] ++ abnormalTerminals

def spanStartEvents : List String :=
  ["render_started", "tokenization_started", "queued", "requeued", "admission_started",
   "prefill_started", "decode_started", "communication_started", "serialization_started",
   "delivery_started", "cleanup_started"]

def spanEndEvents : List String :=
  ["render_done", "tokenization_done", "admission_started", "scheduled", "resumed",
   "prefill_done", "decode_done", "communication_done", "serialization_done",
   "delivery_done", "stream_done", "cleanup_done", "preempted"]

/-- Three commits, each 40 lowercase hexadecimal characters. -/
structure RuntimeProvenance where
  profilerParentCommit : String
  runtimeCoreCommit : String
  devicePluginCommit : String
  profilerParentCommit_hex : isHex 40 profilerParentCommit = true
  runtimeCoreCommit_hex : isHex 40 runtimeCoreCommit = true
  devicePluginCommit_hex : isHex 40 devicePluginCommit = true

structure EventDraft where
  traceId : String
  lifecycleId : String
  parentLifecycleId : Option String
  scope : String
  component : String
  eventName : String
  timestampNs : Value := .none
  preemptionEpoch : Value := .none
  startSpanId : Option String := none
  endSpanId : Option String := none
  closingSpanIds : List String := []
  sampleIndex : Value := .none
  handoffIndex : Value := .none
  chunkIndex : Value := .none
  handoffId : Option String := none
  metadata : Option Dict := none

structure EdgeDraft where
  traceId : String
  fromEventId : String
  toEventId : String
  edgeKind : String
  evidenceSource : String
  deriving DecidableEq

structure RecordRef where
  recordId : String
  recordSeq : Nat
  deriving DecidableEq, Repr

def optStr : Option String → Value
  | some s => .str s
  | none => .none

/-- `canonical_json_line`: the line a record is stored as. -/
def canonicalJsonLine (record : Dict) : Except PyError Bytes := do
  match Json.dumps (.dict record) with
  | .error _ => .error (.valueError "record is not deterministic JSON")
  | .ok rendered =>
    let encoded := rendered ++ [byte '\n']
    raiseIf (maxRecordBytes < encoded.length) "encoded record exceeds 4096 bytes"
    return encoded

def requireHex32 (fieldName value : String) : Except PyError Unit :=
  raiseIf (!isHex 32 value) s!"{fieldName} must be 32 lowercase hexadecimal characters"

def requireUint (fieldName : String) (value : Value) (maximum : Nat) : Except PyError Unit :=
  match value with
  | .int n => raiseIf (n < 0 || (maximum : Int) < n) s!"{fieldName} is out of range"
  | _ => .error (.valueError s!"{fieldName} must be an unsigned integer")

def validateOptionalUint (fieldName : String) (value : Value) (maximum : Nat) :
    Except PyError Unit :=
  if value.isNone then .ok () else requireUint fieldName value maximum

/-- `_validate_decimal_id` for the identifier pattern `kind`. -/
def validateDecimalId (fieldName value : String) (kind : Char) (kindName : String)
    (maximumBytes maximumSequence : Nat) : Except PyError Unit := do
  raiseIf (!isScopedId kind value) s!"{fieldName} is not a canonical {kindName} ID"
  raiseIf (maximumBytes < value.utf8ByteSize) s!"{fieldName} exceeds {maximumBytes} bytes"
  requireUint s!"{fieldName} sequence" (.int (decimalSuffix value)) maximumSequence

def validateLifecycleIdentity (draft : EventDraft) : Except PyError Unit := do
  let rootId := s!"{draft.traceId}:r"
  if draft.scope == "root_request" then
    raiseIf (draft.lifecycleId != rootId || draft.parentLifecycleId.isSome)
      "root lifecycle identity is invalid"
  else if draft.scope == "engine_sample" then
    raiseIf draft.sampleIndex.isNone "engine lifecycle requires sample_index"
    let expected := s!"{draft.traceId}:e:{formatted draft.sampleIndex}"
    raiseIf (draft.lifecycleId != expected || draft.parentLifecycleId != some rootId)
      "engine lifecycle identity is invalid"
  else
    let expected := s!"{draft.traceId}:s"
    raiseIf (draft.lifecycleId != expected || draft.parentLifecycleId != some rootId)
      "response lifecycle identity is invalid"
  raiseIf (96 < draft.lifecycleId.utf8ByteSize) "lifecycle ID exceeds 96 bytes"
  raiseIf (96 < (draft.parentLifecycleId.getD "").utf8ByteSize) "lifecycle ID exceeds 96 bytes"

/-- `tuple(sorted(set(closing))) == closing` -/
def sortedUnique : List String → Bool
  | [] => true
  | [_] => true
  | a :: b :: rest => decide (a < b) && sortedUnique (b :: rest)

def validateSpanFields (draft : EventDraft) (processUuid : String) : Except PyError Unit := do
  let closing := draft.closingSpanIds
  raiseIf (16 < closing.length || !sortedUnique closing)
    "closing_span_ids must be sorted, unique, and bounded"
  forEach (fun spanId => validateDecimalId "span_id" spanId 's' "span" 55 uint64Max)
    (closing ++ draft.startSpanId.toList ++ draft.endSpanId.toList)
  raiseIf (draft.startSpanId.any fun s => !startsWith s s!"{processUuid}:s:")
    "span creator must match the start emitter"
  if abnormalTerminals.contains draft.eventName then
    raiseIf (draft.startSpanId.isSome || draft.endSpanId.isSome)
      "abnormal terminals use closing_span_ids, not singular span fields"
  else
    raiseIf (!closing.isEmpty) "non-abnormal events require an empty closing_span_ids array"
    raiseIf (draft.startSpanId.isSome != spanStartEvents.contains draft.eventName)
      "start_span_id does not match event boundary"
    raiseIf (draft.endSpanId.isSome != spanEndEvents.contains draft.eventName)
      "end_span_id does not match event boundary"

def validateHandoffAndChunk (draft : EventDraft) : Except PyError Unit := do
  if ["output_batch_ready", "output_ready"].contains draft.eventName then
    raiseIf draft.handoffIndex.isNone "handoff event requires handoff_index"
    raiseIf (draft.handoffId != some s!"{draft.traceId}:h:{formatted draft.handoffIndex}")
      "handoff_id is not canonical"
  else if draft.eventName == "serialization_started" then
    raiseIf (!draft.handoffIndex.isNone) "serialization_started requires a null handoff_index"
    raiseIf draft.handoffId.isNone "handoff_id is not a canonical handoff ID"
    forEach (fun handoffId => do
      validateDecimalId "handoff_id" handoffId 'h' "handoff" 55 uint32Max
      raiseIf (!startsWith handoffId s!"{draft.traceId}:h:")
        "handoff_id belongs to a different trace") draft.handoffId.toList
  else
    raiseIf (!draft.handoffIndex.isNone || draft.handoffId.isSome)
      "non-handoff event contains handoff fields"
  if ["serialization_started", "serialization_done", "delivery_started", "delivery_done",
      "stream_done"].contains draft.eventName then
    raiseIf (draft.scope != "response" || draft.chunkIndex.isNone)
      "response chunk event requires chunk_index"
  else
    raiseIf (!draft.chunkIndex.isNone) "non-chunk event contains chunk_index"

/-- `^[a-z][a-z0-9_]{0,47}$` -/
def isMetadataKey (key : String) : Bool :=
  match utf8 key with
  | [] => false
  | b :: rest =>
    byte 'a' ≤ b && b ≤ byte 'z' && rest.length ≤ 47 &&
      rest.all fun d => (byte 'a' ≤ d && d ≤ byte 'z') || isDecimalDigit d || d == byte '_'

def validateMetadataItem (item : String × Value) : Except PyError Unit := do
  raiseIf (!isMetadataKey item.1) "metadata key is not bounded ASCII"
  raiseIf (forbiddenMetadataKeys.contains item.1) "metadata contains forbidden payload data"
  match item.2 with
  | .none => return ()
  | .bool _ => return ()
  | .int n => requireUint s!"metadata.{item.1}" (.int n) uint64Max
  | .str text =>
    raiseIf (!isPrintableAscii text) "metadata string must be printable ASCII"
    raiseIf (128 < text.utf8ByteSize) "metadata string exceeds 128 bytes"
  | _ => .error (.valueError "metadata value type is not frozen")

def validateMetadata (metadata : Option Dict) : Except PyError Dict :=
  match metadata with
  | none => return []
  | some items => do
    forEach validateMetadataItem items
    let encoded ← Json.dumps (.dict items)
    raiseIf (maxMetadataBytes < encoded.length) "metadata exceeds 1024 encoded bytes"
    return items

/-- `set(metadata) == expected` -/
def hasExactKeys (metadata : Dict) (expected : List String) : Bool :=
  metadata.keys.all expected.contains && expected.all metadata.keys.contains

def requiredMetadataUint (metadata : Dict) (key : String) : Except PyError Nat :=
  match metadata.get key with
  | .int n => do
    requireUint s!"metadata.{key}" (.int n) uint64Max
    return n.toNat
  | _ => .error (.valueError s!"metadata requires uint64 {key}")

def isNonemptyStr : Value → Bool
  | .str s => s != ""
  | _ => false

def isBool : Value → Bool
  | .bool _ => true
  | _ => false

/-- `v in {…}` for a roster of text constants. -/
def isOneOf (v : Value) (roster : List String) : Bool := roster.any fun s => v.pyEq (.str s)

def validateResourceMetadata (draft : EventDraft) (metadata : Dict) : Except PyError Unit := do
  raiseIf (!hasExactKeys metadata ["runtime_request_id", "resource_type", "resource_id",
    "resource_transition", "resource_units", "worker_generation"]) "resource metadata keys differ"
  let transitions : Dict :=
    [("resource_acquired", .str "acquire"), ("resource_transfer_pending", .str "transfer_pending"),
     ("resource_released", .str "release"), ("resource_policy_retained", .str "policy_retain"),
     ("resource_invalidated", .str "invalidate")]
  raiseIf (!(metadata.get "resource_transition").pyEq (transitions.get draft.eventName))
    "resource transition/event mismatch"
  forEach (fun key => raiseIf (!isNonemptyStr (metadata.get key))
    s!"resource metadata {key} is invalid")
    ["runtime_request_id", "resource_type", "resource_id", "worker_generation"]
  raiseIf (match asInt (metadata.get "resource_units") with
    | some n => !(1 ≤ n && n ≤ uint64Max)
    | none => true) "resource metadata resource_units is invalid"

/-- The metadata keys of the three native observations. -/
def nativeEventKeys : String → Option (List String)
  | "request_finished_observed" => some ["runtime_request_id", "session_present",
      "prompt_tokens", "output_tokens", "sequence_tokens", "kv_blocks", "kv_reclaim_deferred",
      "finished_reason"]
  | "request_preempted_observed" => some ["runtime_request_id", "session_present",
      "num_preemptions", "kv_blocks", "kv_reclaim_deferred"]
  | "request_kv_reclaimed_observed" => some ["runtime_request_id", "session_present",
      "kv_blocks", "reclaim_path"]
  | _ => none

def validateNativeMetadata (draft : EventDraft) (metadata : Dict) (expected : List String) :
    Except PyError Unit := do
  raiseIf (!hasExactKeys metadata expected) "native lifecycle metadata keys differ"
  raiseIf (!isNonemptyStr (metadata.get "runtime_request_id"))
    "native lifecycle request ID is invalid"
  raiseIf (!isBool (metadata.get "session_present")) "native lifecycle session flag is invalid"
  forEach (fun key => do
    let _ ← requiredMetadataUint metadata key
    return ())
    (expected.filter fun key => !(["runtime_request_id", "session_present",
      "kv_reclaim_deferred", "finished_reason", "reclaim_path"].contains key))
  raiseIf (expected.contains "kv_reclaim_deferred" && !isBool (metadata.get "kv_reclaim_deferred"))
    "native lifecycle deferred flag is invalid"
  if draft.eventName == "request_finished_observed" then
    let prompt ← requiredMetadataUint metadata "prompt_tokens"
    let output ← requiredMetadataUint metadata "output_tokens"
    raiseIf (!(metadata.get "sequence_tokens").pyEq (.int (prompt + output)))
      "native lifecycle token counts differ"
    raiseIf (!isNonemptyStr (metadata.get "finished_reason"))
      "native lifecycle finish reason is invalid"
  raiseIf (draft.eventName == "request_kv_reclaimed_observed" &&
    !isOneOf (metadata.get "reclaim_path") ["immediate", "deferred"])
    "native lifecycle reclaim path is invalid"

def receivedValues : Dict :=
  [("sampling_n", .int 1), ("prompt_count", .int 1), ("model_mode", .str "decoder_only"),
   ("frontend_stop_mode", .str "none"), ("communication_mode", .str "none")]

def validateReceivedMetadata (metadata : Dict) : Except PyError Unit := do
  forEach (fun item => raiseIf (!(metadata.get item.1).pyEq item.2)
    s!"received metadata requires {item.1}") receivedValues
  let entryMode := metadata.get "entry_mode"
  let responseMode := metadata.get "response_mode"
  raiseIf (!isOneOf entryMode ["openai_http", "async_llm", "llm_engine"])
    "received entry_mode is unsupported"
  raiseIf (!isOneOf (metadata.get "input_mode") ["text", "pretokenized"])
    "received input_mode is unsupported"
  raiseIf (!isOneOf responseMode ["streaming", "non_streaming", "none"])
    "received response_mode is unsupported"
  raiseIf (entryMode.pyEq (.str "openai_http") && responseMode.pyEq (.str "none"))
    "OpenAI entry requires a response mode"
  raiseIf (!entryMode.pyEq (.str "openai_http") && !responseMode.pyEq (.str "none"))
    "direct entry requires response_mode=none"
  let cacheMode := metadata.get "kv_cache_mode"
  raiseIf (!isOneOf cacheMode ["disabled", "local_homogeneous"])
    "received kv_cache_mode is unsupported"
  if cacheMode.pyEq (.str "local_homogeneous") then
    raiseIf (match metadata.get "cache_block_size_tokens" with
      | .int n => n < 1
      | _ => true) "local homogeneous KV requires cache_block_size_tokens"
  else
    raiseIf (!(metadata.get "cache_block_size_tokens").isNone)
      "disabled KV forbids cache_block_size_tokens"

def cleanupComponent : String → String
  | "root_request" => "frontend_request"
  | "engine_sample" => "engine_request"
  | _ => "response_stream"

def validateEventMetadata (draft : EventDraft) (metadata : Dict) : Except PyError Unit := do
  if startsWith draft.eventName "resource_" then
    validateResourceMetadata draft metadata
  forEach (validateNativeMetadata draft metadata) (nativeEventKeys draft.eventName).toList
  if draft.scope == "root_request" && draft.eventName == "received" then
    validateReceivedMetadata metadata
  raiseIf (draft.eventName == "unsupported_mode" &&
    !isOneOf (metadata.get "reason_code") unsupportedReasons)
    "unsupported_mode requires frozen reason_code"
  raiseIf (["cleanup_started", "cleanup_done"].contains draft.eventName &&
    !(metadata.get "cleanup_component").pyEq (.str (cleanupComponent draft.scope)))
    "cleanup_component does not match scope"
  if ["scheduled", "resumed"].contains draft.eventName then
    let total ← requiredMetadataUint metadata "prompt_tokens_total"
    let cached ← requiredMetadataUint metadata "prompt_tokens_cached"
    let toCompute ← requiredMetadataUint metadata "prompt_tokens_to_compute"
    raiseIf (total < 1 || total ≤ cached || toCompute + cached != total)
      "prompt token counters do not reconcile"
  if ["prefill_done", "preempted"].contains draft.eventName then
    let _ ← requiredMetadataUint metadata "prompt_tokens_computed"
    let chunks ← requiredMetadataUint metadata "prefill_chunk_count"
    raiseIf (chunks < 1) "prefill_chunk_count must be positive"
  if draft.eventName == "generation_done" then
    let generated ← requiredMetadataUint metadata "generated_tokens_total"
    raiseIf (generated < 1) "generated_tokens_total must be positive"

def validateKvRecoveryCommunicationMetadata (draft : EventDraft) (metadata : Dict) :
    Except PyError Unit := do
  let common := ["operation", "direction", "transfer_id", "block_set_id", "recovery_profile",
    "communication_mapping", "rank"]
  let expected :=
    if draft.eventName == "communication_done" then common ++ ["bytes_moved"] else common
  raiseIf (!hasExactKeys metadata expected) "recovery communication metadata keys differ"
  raiseIf (!(metadata.get "operation").pyEq (.str "h2d_restore"))
    "recovery operation is not h2d_restore"
  raiseIf (!(metadata.get "direction").pyEq (.str "h2d")) "recovery direction is not h2d"
  raiseIf (match metadata.get "transfer_id" with
    | .str s => !isTransferId s
    | _ => true) "recovery transfer_id is invalid"
  raiseIf (match metadata.get "block_set_id" with
    | .str s => !isHex 64 s
    | _ => true) "recovery metadata block_set_id is invalid"
  raiseIf (!(metadata.get "recovery_profile").pyEq (.str recoveryProfileId))
    "recovery profile ID is invalid"
  raiseIf (!(metadata.get "communication_mapping").pyEq (.str kvRecoveryCommunicationMode))
    "communication mapping ID is invalid"
  raiseIf (!(metadata.get "rank").pyEq (.int 0)) "recovery communication requires rank zero"
  if draft.eventName == "communication_done" then
    let bytesMoved ← requiredMetadataUint metadata "bytes_moved"
    raiseIf (bytesMoved < 1) "bytes_moved must be positive"

def validateEventDraft (draft : EventDraft) (processUuid : String) (timestampNs : Value)
    (communicationMode : String) : Except PyError Unit := do
  requireHex32 "trace_id" draft.traceId
  requireUint "timestamp_ns" timestampNs uint64Max
  raiseIf (!scopes.contains draft.scope) "scope is not frozen"
  raiseIf (!components.contains draft.component) "component is not frozen"
  raiseIf (!eventNames.contains draft.eventName) "event_name is not frozen"
  raiseIf (componentByScopeEvent draft.scope draft.eventName != some draft.component)
    "component/event/scope ownership mismatch"
  let isCommunication := startsWith draft.eventName "communication_"
  raiseIf (isCommunication && communicationMode != kvRecoveryCommunicationMode)
    "communication event mode is not active"
  raiseIf (!isCommunication && !(["none", kvRecoveryCommunicationMode].contains communicationMode))
    "communication_mode is not implemented"
  validateLifecycleIdentity draft
  validateOptionalUint "preemption_epoch" draft.preemptionEpoch uint32Max
  validateOptionalUint "sample_index" draft.sampleIndex uint32Max
  validateOptionalUint "handoff_index" draft.handoffIndex uint32Max
  validateOptionalUint "chunk_index" draft.chunkIndex uint32Max
  if draft.scope == "engine_sample" then
    raiseIf (draft.preemptionEpoch.isNone || draft.sampleIndex.isNone)
      "engine events require preemption_epoch and sample_index"
  else
    raiseIf (!draft.preemptionEpoch.isNone || !draft.sampleIndex.isNone)
      "non-engine events forbid preemption_epoch and sample_index"
  validateSpanFields draft processUuid
  validateHandoffAndChunk draft
  let metadata ← validateMetadata draft.metadata
  validateEventMetadata draft metadata
  if isCommunication then
    validateKvRecoveryCommunicationMetadata draft metadata

def eventId (processUuid : String) (recordSeq : Nat) : String := scopedId processUuid "e" recordSeq
def edgeId (processUuid : String) (recordSeq : Nat) : String := scopedId processUuid "g" recordSeq

/-- The record of an accepted event draft. -/
def eventRecord (draft : EventDraft) (processUuid clockDomainId : String) (recordSeq : Nat)
    (timestampNs : Value) : Dict :=
  [("schema_version", .str schemaVersion),
   ("record_type", .str "event"),
   ("process_uuid", .str processUuid),
   ("record_seq", .int recordSeq),
   ("event_id", .str (eventId processUuid recordSeq)),
   ("trace_id", .str draft.traceId),
   ("lifecycle_id", .str draft.lifecycleId),
   ("parent_lifecycle_id", optStr draft.parentLifecycleId),
   ("scope", .str draft.scope),
   ("component", .str draft.component),
   ("event_name", .str draft.eventName),
   ("timestamp_ns", timestampNs),
   ("clock_domain_id", .str clockDomainId),
   ("preemption_epoch", draft.preemptionEpoch),
   ("start_span_id", optStr draft.startSpanId),
   ("end_span_id", optStr draft.endSpanId),
   ("closing_span_ids", .list (draft.closingSpanIds.map .str)),
   ("sample_index", draft.sampleIndex),
   ("handoff_index", draft.handoffIndex),
   ("chunk_index", draft.chunkIndex),
   ("handoff_id", optStr draft.handoffId),
   ("metadata", .dict (draft.metadata.getD []))]

def buildEventRecord (draft : EventDraft) (processUuid clockDomainId : String) (recordSeq : Nat)
    (defaultTimestampNs : Value) (communicationMode : String) :
    Except PyError (Dict × RecordRef) := do
  requireHex32 "process_uuid" processUuid
  requireHex32 "clock_domain_id" clockDomainId
  requireUint "record_seq" (.int recordSeq) uint64Max
  let timestampNs := if draft.timestampNs.isNone then defaultTimestampNs else draft.timestampNs
  validateEventDraft draft processUuid timestampNs communicationMode
  return (eventRecord draft processUuid clockDomainId recordSeq timestampNs,
    ⟨eventId processUuid recordSeq, recordSeq⟩)

/-- `[a-z0-9_.-]+` -/
def isEvidenceWord (bs : Bytes) : Bool :=
  !bs.isEmpty && bs.all fun b =>
    (byte 'a' ≤ b && b ≤ byte 'z') || isDecimalDigit b || b == byte '_' || b == byte '.' ||
      b == byte '-'

/-- `^issue2:[a-z0-9_.-]+:[a-z0-9_.-]+$` -/
def isIssue2Evidence (s : String) : Bool :=
  let rest := (utf8 s).drop 7
  startsWith s "issue2:" && isEvidenceWord (rest.takeWhile (· != byte ':')) &&
    isEvidenceWord ((rest.dropWhile (· != byte ':')).drop 1)

def edgeRecord (draft : EdgeDraft) (processUuid : String) (recordSeq : Nat) : Dict :=
  [("schema_version", .str schemaVersion),
   ("record_type", .str "edge"),
   ("process_uuid", .str processUuid),
   ("record_seq", .int recordSeq),
   ("edge_id", .str (edgeId processUuid recordSeq)),
   ("trace_id", .str draft.traceId),
   ("from_event_id", .str draft.fromEventId),
   ("to_event_id", .str draft.toEventId),
   ("edge_kind", .str draft.edgeKind),
   ("evidence_source", .str draft.evidenceSource)]

def buildEdgeRecord (draft : EdgeDraft) (processUuid : String) (recordSeq : Nat)
    (communicationMode : String) : Except PyError (Dict × RecordRef) := do
  raiseIf (!(["none", kvRecoveryCommunicationMode].contains communicationMode))
    "communication_mode is not implemented"
  requireHex32 "process_uuid" processUuid
  requireHex32 "trace_id" draft.traceId
  requireUint "record_seq" (.int recordSeq) uint64Max
  validateDecimalId "from_event_id" draft.fromEventId 'e' "event" 55 uint64Max
  validateDecimalId "to_event_id" draft.toEventId 'e' "event" 55 uint64Max
  raiseIf (draft.fromEventId == draft.toEventId) "an edge cannot be a self-edge"
  raiseIf (!edgeKinds.contains draft.edgeKind) "edge_kind is not frozen"
  if !evidenceSources.contains draft.evidenceSource then
    raiseIf (!isIssue2Evidence draft.evidenceSource) "evidence_source is not frozen"
    raiseIf (communicationMode != kvRecoveryCommunicationMode ||
      draft.evidenceSource != kvRecoveryH2dEvidence || draft.edgeKind != "data_dependency")
      "issue-2 evidence is forbidden outside the frozen recovery mapping"
  raiseIf (64 < draft.evidenceSource.utf8ByteSize) "evidence_source exceeds 64 bytes"
  return (edgeRecord draft processUuid recordSeq, ⟨edgeId processUuid recordSeq, recordSeq⟩)

/-- The four reasons a data record can be lost for. -/
inductive LossReason where
  | serializationFailure
  | queueOverflow
  | writerFailure
  | closeTimeout
  deriving DecidableEq, Repr

def LossReason.wire : LossReason → String
  | .serializationFailure => "serialization_failure"
  | .queueOverflow => "queue_overflow"
  | .writerFailure => "writer_failure"
  | .closeTimeout => "close_timeout"

def buildLossIntervalRecord (processUuid : String) (lossIntervalSeq : Nat) (reason : LossReason)
    (first last eventCount edgeCount firstNs lastNs : Nat) : Except PyError Dict := do
  requireHex32 "process_uuid" processUuid
  requireUint "loss_interval_seq" (.int lossIntervalSeq) uint64Max
  requireUint "first_dropped_record_seq" (.int first) uint64Max
  requireUint "last_dropped_record_seq" (.int last) uint64Max
  requireUint "event_count" (.int eventCount) uint64Max
  requireUint "edge_count" (.int edgeCount) uint64Max
  requireUint "first_observed_timestamp_ns" (.int firstNs) uint64Max
  requireUint "last_observed_timestamp_ns" (.int lastNs) uint64Max
  let droppedCount := eventCount + edgeCount
  requireUint "dropped_count" (.int droppedCount) uint64Max
  raiseIf (last < first) "loss interval is inverted"
  raiseIf (lastNs < firstNs) "loss observation timestamps are inverted"
  raiseIf (droppedCount + first != last + 1) "loss interval counts do not reconcile"
  return [("schema_version", .str schemaVersion),
    ("record_type", .str "loss_interval"),
    ("process_uuid", .str processUuid),
    ("loss_interval_seq", .int lossIntervalSeq),
    ("loss_interval_id", .str (scopedId processUuid "l" lossIntervalSeq)),
    ("reason", .str reason.wire),
    ("first_dropped_record_seq", .int first),
    ("last_dropped_record_seq", .int last),
    ("dropped_count", .int droppedCount),
    ("event_count", .int eventCount),
    ("edge_count", .int edgeCount),
    ("first_observed_timestamp_ns", .int firstNs),
    ("last_observed_timestamp_ns", .int lastNs)]

inductive CloseOutcome where
  | drained
  | timeout
  | writerFailure
  deriving DecidableEq, Repr

def CloseOutcome.wire : CloseOutcome → String
  | .drained => "drained"
  | .timeout => "timeout"
  | .writerFailure => "writer_failure"

/-- `0 if attempted else None` and `attempted - 1 if attempted else None`. -/
def firstSeq (attempted : Nat) : Value := if attempted = 0 then .none else .int 0
def lastSeq (attempted : Nat) : Value := if attempted = 0 then .none else .int (attempted - 1 : Nat)

def buildProcessSummaryRecord (processUuid : String) (endedNs : Value)
    (attempted events edges losses dropped droppedControl writerFailures : Nat)
    (closeOutcome : CloseOutcome) (contentSha256 : String) : Except PyError Dict := do
  requireHex32 "process_uuid" processUuid
  requireUint "ended_timestamp_ns" endedNs uint64Max
  requireUint "attempted_data_count" (.int attempted) uint64Max
  requireUint "written_event_count" (.int events) uint64Max
  requireUint "written_edge_count" (.int edges) uint64Max
  requireUint "written_loss_interval_count" (.int losses) uint64Max
  requireUint "dropped_data_count" (.int dropped) uint64Max
  requireUint "dropped_control_count" (.int droppedControl) uint64Max
  requireUint "writer_failure_count" (.int writerFailures) uint64Max
  raiseIf (!isHex 64 contentSha256) "content_sha256 is not lowercase SHA-256"
  raiseIf (attempted != events + edges + dropped) "process summary counts do not reconcile"
  return [("schema_version", .str schemaVersion),
    ("record_type", .str "process_summary"),
    ("process_uuid", .str processUuid),
    ("ended_timestamp_ns", endedNs),
    ("attempted_data_count", .int attempted),
    ("written_event_count", .int events),
    ("written_edge_count", .int edges),
    ("written_loss_interval_count", .int losses),
    ("dropped_data_count", .int dropped),
    ("dropped_control_count", .int droppedControl),
    ("first_data_record_seq", firstSeq attempted),
    ("last_data_record_seq", lastSeq attempted),
    ("writer_failure_count", .int writerFailures),
    ("close_outcome", .str closeOutcome.wire),
    ("content_sha256", .str contentSha256)]

def buildProcessStartRecord (processUuid : String) (pid : Nat) (startedNs : Value)
    (clockDomainId : String) (provenance : RuntimeProvenance) : Except PyError Dict := do
  requireHex32 "process_uuid" processUuid
  requireUint "pid" (.int pid) uint32Max
  requireUint "started_timestamp_ns" startedNs uint64Max
  requireHex32 "clock_domain_id" clockDomainId
  return [("schema_version", .str schemaVersion),
    ("record_type", .str "process_start"),
    ("process_uuid", .str processUuid),
    ("pid", .int pid),
    ("started_timestamp_ns", startedNs),
    ("clock_source", .str clockSource),
    ("clock_domain_id", .str clockDomainId),
    ("profiler_parent_commit", .str provenance.profilerParentCommit),
    ("runtime_core_commit", .str provenance.runtimeCoreCommit),
    ("device_plugin_commit", .str provenance.devicePluginCommit),
    ("parent_api_major", .int parentApiMajor),
    ("limits", .dict exporterLimits)]

end LifecycleProfiler.Protocol
