import LifecycleProfiler.Runtime.Bridge

/-! # The profile stream as the adapters see it

`BoundedKVRecoveryProfileLedger` over the hooks: a row is accepted or its
sequence is lost, and a closed sink takes neither rows nor losses. -/

namespace LifecycleProfiler.Runtime
open Python Protocol

def optInt : Option Int → Value
  | some n => .int n
  | none => .none

/-! ## The fields of the rows -/

/-- `_request_fields` -/
structure RequestFields where
  traceId : String
  engineLifecycleId : String
  runtimeRequestId : String
  recoveryEpoch : Option Int
  episodeId : Option String
  deriving DecidableEq

def RequestFields.fields (r : RequestFields) : Dict :=
  [("trace_id", .str r.traceId), ("engine_lifecycle_id", .str r.engineLifecycleId),
   ("runtime_request_id", .str r.runtimeRequestId), ("request_id_kind", .str "engine_internal"),
   ("sample_index", .int 0), ("recovery_epoch", optInt r.recoveryEpoch),
   ("episode_id", optStr r.episodeId)]

/-- The fields of a `recovery_event`, absent ones being `None`. -/
structure RecoveryEvent where
  request : RequestFields
  stage : String
  occurrence : Nat := 0
  baseEventId : Option String := none
  baseAdmissionStartedEventId : Option String := none
  fromProfileEventId : Option String := none
  transferId : Option String := none
  blockSetId : Option String := none
  bytesMoved : Option Int := none
  requeueReason : Option String := none
  computeKind : Option String := none
  childObservationKind : Option String := none
  baseAssociationKind : Option String := none
  baseAssociationEvidence : Option String := none
  requestStatusBefore : Option String := none
  requestStatusAfter : Option String := none

def RecoveryEvent.fields (r : RecoveryEvent) : Dict :=
  r.request.fields ++
  [("stage", .str r.stage), ("occurrence", .int r.occurrence),
   ("base_event_id", optStr r.baseEventId),
   ("base_admission_started_event_id", optStr r.baseAdmissionStartedEventId),
   ("from_profile_event_id", optStr r.fromProfileEventId), ("transfer_id", optStr r.transferId),
   ("block_set_id", optStr r.blockSetId), ("bytes_moved", optInt r.bytesMoved),
   ("requeue_reason", optStr r.requeueReason), ("compute_kind", optStr r.computeKind),
   ("child_observation_kind", optStr r.childObservationKind),
   ("base_association_kind", optStr r.baseAssociationKind),
   ("base_association_evidence", optStr r.baseAssociationEvidence),
   ("request_status_before", optStr r.requestStatusBefore),
   ("request_status_after", optStr r.requestStatusAfter)]

/-- One logical block of a block set. -/
structure LogicalBlock where
  groupIndex : Int
  logicalOrdinal : Int
  logicalBlockId : String
  deriving DecidableEq

def LogicalBlock.value (b : LogicalBlock) : Value :=
  .dict [("group_index", .int b.groupIndex), ("logical_ordinal", .int b.logicalOrdinal),
    ("logical_block_id", .str b.logicalBlockId)]

/-- The fields of a `block_set_chunk`. -/
structure BlockSetChunk where
  request : RequestFields
  blockSetId : String
  chunkIndex : Nat
  chunkCount : Nat
  totalBlockCount : Nat
  blocks : List LogicalBlock

def BlockSetChunk.fields (c : BlockSetChunk) : Dict :=
  c.request.fields ++
  [("block_set_id", .str c.blockSetId), ("chunk_index", .int c.chunkIndex),
   ("chunk_count", .int c.chunkCount), ("total_block_count", .int c.totalBlockCount),
   ("blocks", .list (c.blocks.map LogicalBlock.value))]

/-- The fields of a `wait_set_chunk`. -/
structure WaitSetChunk where
  waitSetId : String
  chunkIndex : Nat
  chunkCount : Nat
  totalTransferCount : Nat
  transferIds : List String

def WaitSetChunk.fields (c : WaitSetChunk) : Dict :=
  [("operation", .str "transfer_wait"), ("wait_set_id", .str c.waitSetId),
   ("chunk_index", .int c.chunkIndex), ("chunk_count", .int c.chunkCount),
   ("total_transfer_count", .int c.totalTransferCount),
   ("transfer_ids", .list (c.transferIds.map .str))]

/-- The fields of a `transfer_event`. -/
structure TransferEvent where
  request : RequestFields
  transferId : String
  connectorJobId : Int
  operation : String
  blockSetId : String
  transferPhase : String
  bytesMoved : Option Int := none
  deviceDurationNs : Option Int := none
  success : Option Bool := none
  failureCode : Option String := none

def TransferEvent.fields (t : TransferEvent) : Dict :=
  let h2d := t.operation = "h2d_restore"
  t.request.fields ++
  [("transfer_id", .str t.transferId), ("connector_job_id", .int t.connectorJobId),
   ("rank", .int 0), ("world_size", .int 1), ("operation", .str t.operation),
   ("direction", .str (if h2d then "h2d" else "d2h")),
   ("src_medium", .str (if h2d then "host_cpu" else "device_hbm")),
   ("dst_medium", .str (if h2d then "device_hbm" else "host_cpu")),
   ("block_set_id", .str t.blockSetId), ("transfer_phase", .str t.transferPhase),
   ("bytes_moved", optInt t.bytesMoved), ("device_duration_ns", optInt t.deviceDurationNs),
   ("success", match t.success with
     | some success => .bool success
     | none => .none),
   ("failure_code", optStr t.failureCode)]

/-! ## The ledger -/

/-- `write`: the record ID of an accepted row. -/
def writeProfile (isOpen : Bool) (recordType : ProfileRecordType) (timestampNs : Int)
    (fields : Dict) : Emit String := fun h =>
  if isOpen then
    match emitKvRecoveryProfile recordType timestampNs fields h with
    | (some ref, h') => (some ref.recordId, h')
    | (none, h') => (none, h')
  else (none, h)

/-- `drop`: a sequence is consumed without a row. -/
def dropProfile (isOpen : Bool) (h : Hooks) : Hooks :=
  if isOpen then { h.add .refused with nextProfileSeq := h.nextProfileSeq + 1 } else h

def Emission.profileRef : Emission → Option ProfileRecordRef
  | .profile ref => some ref
  | _ => none

/-- The accepted rows, in order. -/
def profileRows (h : Hooks) : List ProfileRecordRef := h.log.filterMap Emission.profileRef

/-- `evidence_complete`: no sequence is lost. `intact` says that no control
record is lost and the writer did not fail. -/
def evidenceComplete (intact : Bool) (h : Hooks) : Bool :=
  intact && h.nextProfileSeq = (profileRows h).length

/-- Only the base stream has moved. -/
structure SameProfile (h h' : Hooks) : Prop where
  rows : profileRows h' = profileRows h
  attempted : h'.nextProfileSeq = h.nextProfileSeq

theorem SameProfile.refl (h : Hooks) : SameProfile h h := ⟨rfl, rfl⟩

theorem SameProfile.trans {h h' h'' : Hooks} (first : SameProfile h h')
    (second : SameProfile h' h'') : SameProfile h h'' :=
  ⟨second.rows.trans first.rows, second.attempted.trans first.attempted⟩

theorem profileRows_add (h : Hooks) (emission : Emission) :
    profileRows (h.add emission) = profileRows h ++ emission.profileRef.toList := by
  cases emission <;> simp [profileRows, Hooks.add, Emission.profileRef]

/-- What an accepted row is. -/
structure Accepted (recordType : ProfileRecordType) (timestampNs : Int) (fields : Dict)
    (h : Hooks) (ref : ProfileRecordRef) : Prop where
  type_eq : ref.recordType = recordType
  id_eq : ref.recordId = profileRecordId h.processUuid h.nextProfileSeq
  time_eq : timestampNs = ref.timestampNs
  record_eq : ref.record = profileDataRecord recordType h.processUuid h.nextProfileSeq
    ref.timestampNs
    h.clockDomainId h.profileConfig fields
  valid : validateDataFields recordType h.processUuid fields = .ok ()
  line : ∃ raw, profileRecordLine ref.record = .ok raw

/-- The stream after one attempt: a row more, or a loss more. -/
inductive Attempt (recordType : ProfileRecordType) (timestampNs : Int) (fields : Dict)
    (isOpen : Bool) (h h' : Hooks) : Option String → Prop where
  | accepted {ref : ProfileRecordRef} (row : Accepted recordType timestampNs fields h ref)
      (open_ : isOpen = true) (rows : profileRows h' = profileRows h ++ [ref])
      (attempted : h'.nextProfileSeq = h.nextProfileSeq + 1) :
      Attempt recordType timestampNs fields isOpen h h' (some ref.recordId)
  | lost (rows : profileRows h' = profileRows h)
      (attempted : h'.nextProfileSeq = h.nextProfileSeq + if isOpen then 1 else 0) :
      Attempt recordType timestampNs fields isOpen h h' none

theorem writeProfile_attempt (isOpen : Bool) (recordType : ProfileRecordType) (timestampNs : Int)
    (fields : Dict) (h : Hooks) :
    Attempt recordType timestampNs fields isOpen h
      (writeProfile isOpen recordType timestampNs fields h).2
      (writeProfile isOpen recordType timestampNs fields h).1 := by
  cases isOpen with
  | false => exact .lost rfl rfl
  | true =>
    unfold writeProfile emitKvRecoveryProfile
    simp only [if_true]
    have hlost : profileRows (h.add .refused) = profileRows h := by
      rw [profileRows_add]
      exact List.append_nil _
    split
    · next ref h' heq =>
      split at heq
      · next _ ns _ hns =>
        split at heq
        · cases heq
        · next hbuild =>
          cases heq
          simp only [buildProfileDataRecord, bind_eq_ok, exists_unit, pure_eq_ok,
            Prod.mk.injEq] at hbuild
          obtain ⟨-, -, -, -, hvalid, -, raw, hline, rfl, rfl⟩ := hbuild
          refine .accepted ⟨rfl, rfl, ?_, rfl, hvalid, raw, hline⟩ rfl (profileRows_add h _) rfl
          exact Value.int.inj (asUint_eq_some.mp hns).1
      · cases heq
    · next h' heq =>
      split at heq
      · split at heq
        · cases heq
          exact .lost hlost rfl
        · cases heq
      · cases heq
        exact .lost hlost rfl

theorem dropProfile_lost (isOpen : Bool) (h : Hooks) :
    profileRows (dropProfile isOpen h) = profileRows h ∧
      (dropProfile isOpen h).nextProfileSeq = h.nextProfileSeq + if isOpen then 1 else 0 := by
  cases isOpen with
  | false => exact ⟨rfl, rfl⟩
  | true =>
    refine ⟨?_, rfl⟩
    change profileRows (h.add .refused) = profileRows h
    rw [profileRows_add]
    exact List.append_nil _

end LifecycleProfiler.Runtime
