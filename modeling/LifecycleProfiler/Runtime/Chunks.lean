import LifecycleProfiler.Protocol.Widths
import LifecycleProfiler.Protocol.Lines
import LifecycleProfiler.Runtime.Worker
import LifecycleProfiler.Runtime.Scheduler

/-! # Chunks on the wire

A chunk holds a fixed number of rows, a record a fixed number of bytes. The
line of a chunk is its fixed texts and the digits of its numbers, so whether
it fits is a bound on digits: it may fail on coordinates and sequences the
checks accept. -/

namespace LifecycleProfiler.Runtime
open Python Protocol Json

/-! ## A checked record -/

/-- What the builder checks of a record before it encodes it. -/
structure Checked (recordType : ProfileRecordType) (processUuid : String) (recordSeq : Nat)
    (timestampNs : Nat) (clockDomainId : String) (fields : Dict) : Prop where
  process_hex : isHex 32 processUuid = true
  seq_le : recordSeq ≤ uint64Max
  timestamp_le : timestampNs ≤ uint64Max
  roster : hasExactKeys fields (requiredFields recordType) = true
  valid : validateDataFields recordType processUuid fields = .ok ()
  clock_hex : isHex 32 clockDomainId = true

/-- A checked record is built exactly when its line fits. -/
theorem buildProfileDataRecord_iff {recordType : ProfileRecordType} {processUuid : String}
    {recordSeq timestampNs : Nat} {clockDomainId : String} {config : KVRecoveryProfileConfig}
    {fields : Dict} :
    (∃ built, buildProfileDataRecord recordType processUuid recordSeq timestampNs clockDomainId
      config fields = .ok built) ↔
    Checked recordType processUuid recordSeq timestampNs clockDomainId fields ∧
      ∃ raw, profileRecordLine (profileDataRecord recordType processUuid recordSeq timestampNs
        clockDomainId config fields) = .ok raw := by
  unfold buildProfileDataRecord requireExactFields
  simp only [bind_eq_ok, exists_unit, checkHex_eq_ok, checkUint_nat, raiseIf_eq_ok, pure_eq_ok,
    Bool.not_eq_false']
  constructor
  · rintro ⟨built, huuid, hseq, htimestamp, hroster, hvalid, hclock, raw, hraw, -⟩
    exact ⟨⟨huuid, hseq, htimestamp, hroster, hvalid, hclock⟩, raw, hraw⟩
  · rintro ⟨⟨huuid, hseq, htimestamp, hroster, hvalid, hclock⟩, raw, hraw⟩
    exact ⟨_, huuid, hseq, htimestamp, hroster, hvalid, hclock, raw, hraw, rfl⟩

/-- A record fits when its encoding and the newline do. -/
theorem profileRecordLine_iff {record : Dict} {n : Nat} (h : Takes (.dict record) n) :
    (∃ raw, profileRecordLine record = .ok raw) ↔ n < maxProfileRecordBytes := by
  obtain ⟨rendered, hrendered, rfl⟩ := h
  have hlimits : maxProfileRecordBytes = maxRecordBytes := rfl
  simp only [profileRecordLine_eq_ok, canonicalJsonLine_eq_ok]
  constructor
  · rintro ⟨raw, ⟨rendered', hrendered', rfl, -⟩, hlength⟩
    cases hrendered.symm.trans hrendered'
    rw [List.length_append, List.length_singleton] at hlength
    exact hlength
  · intro hlength
    have hline : (rendered ++ [byte '\n']).length ≤ maxProfileRecordBytes := by
      rw [List.length_append, List.length_singleton]
      exact hlength
    exact ⟨_, ⟨rendered, hrendered, rfl, hlimits ▸ hline⟩, hline⟩

/-- The digits every chunk writes of its place in the shard and in its set. -/
def placeDigits (recordSeq timestampNs index count total : Nat) : Nat :=
  2 * decimalWidth recordSeq + decimalWidth timestampNs + decimalWidth index +
    decimalWidth count + decimalWidth total

/-- The values in front of the fields of a record. -/
def headerWidths (recordType : ProfileRecordType) (recordSeq timestampNs : Nat) : List Nat :=
  [26, (quote recordType.wire).length, 34, decimalWidth recordSeq, 37 + decimalWidth recordSeq,
   34, decimalWidth timestampNs, 34, 26]

theorem takes_record {recordType : ProfileRecordType} {processUuid : String}
    {recordSeq timestampNs : Nat} {clockDomainId : String} {config : KVRecoveryProfileConfig}
    {fields : Dict} {widths : List Nat}
    (h : Checked recordType processUuid recordSeq timestampNs clockDomainId fields)
    (hfields : List.Forall₂ (fun kv n => Takes kv.2 n) fields widths) :
    Takes (.dict (profileDataRecord recordType processUuid recordSeq timestampNs clockDomainId
      config fields)) (frameWidth ((profileDataRecord recordType processUuid recordSeq timestampNs
        clockDomainId config fields).map Prod.fst) +
          (headerWidths recordType recordSeq timestampNs ++ widths).sum) := by
  obtain ⟨huuid, hlength⟩ := isPlainText_hex h.process_hex
  have hprofile : Takes (.str profileId) 26 := ⟨_, rfl, by decide⟩
  have hid : Takes (.str (profileRecordId processUuid recordSeq))
    (37 + decimalWidth recordSeq) := by
    have hkind : IsPlainText "k" := by
      decide
    have htakes := takes_scopedId huuid hkind recordSeq
    have hone : (utf8 "k").length = 1 := by decide
    rw [hlength, hone] at htakes
    have hsum : 32 + 1 + decimalWidth recordSeq + 4 = 37 + decimalWidth recordSeq := by omega
    exact hsum ▸ htakes
  refine takes_dict (List.cons_ne_nil _ _) (List.rel_append ?_ hfields)
  exact .cons hprofile <| .cons (takes_str _) <| .cons (takes_hex h.process_hex) <|
    .cons (takes_nat _) <| .cons hid <| .cons (takes_hex config.runId_hex) <|
    .cons (takes_nat _) <| .cons (takes_hex h.clock_hex) <| .cons hprofile .nil

/-! ## Block set chunks -/

def LogicalBlock.digits (b : LogicalBlock) : Nat :=
  decimalWidth b.groupIndex.toNat + decimalWidth b.logicalOrdinal.toNat

/-- A coordinate and an ID the row check accepts. -/
structure LogicalBlock.Valid (b : LogicalBlock) : Prop where
  group : 0 ≤ b.groupIndex
  ordinal : 0 ≤ b.logicalOrdinal
  id : isHex 32 b.logicalBlockId = true

theorem LogicalBlock.Valid.takes {b : LogicalBlock} (h : b.Valid) :
    Takes b.value (89 + b.digits) := by
  have htakes := @takes_dict [("group_index", .int b.groupIndex),
      ("logical_ordinal", .int b.logicalOrdinal), ("logical_block_id", .str b.logicalBlockId)] _
    (List.cons_ne_nil _ _)
    (.cons (takes_int h.group) <| .cons (takes_int h.ordinal) <| .cons (takes_hex h.id) .nil)
  have hframe : frameWidth ["group_index", "logical_ordinal", "logical_block_id"] = 55 := by decide
  have hsum : 89 + b.digits = 55 + [decimalWidth b.groupIndex.toNat,
      decimalWidth b.logicalOrdinal.toNat, 32 + 2].sum := by
    simp only [LogicalBlock.digits, List.sum_cons, List.sum_nil]
    omega
  rw [hsum, ← hframe]
  exact htakes

theorem valid_of_validateBlockRows {blocks : List LogicalBlock} {previous : Option (Nat × Nat)}
    {seen : List String}
    (h : validateBlockRows previous seen (blocks.map LogicalBlock.value) = .ok ()) :
    ∀ b ∈ blocks, b.Valid := by
  induction blocks generalizing previous seen with
  | nil => exact fun _ hb => absurd hb List.not_mem_nil
  | cons b rest ih =>
    rw [List.map_cons, validateBlockRows] at h
    have hrow : blockRow b.value = .ok [("group_index", .int b.groupIndex),
        ("logical_ordinal", .int b.logicalOrdinal), ("logical_block_id", .str b.logicalBlockId)] :=
      rfl
    simp only [hrow, bind_eq_ok, Except.ok.injEq, exists_eq_left', requireStrictUint_eq_ok,
      requireHex_eq_ok, exists_unit] at h
    obtain ⟨group, ⟨hgroup, -⟩, ordinal, ⟨hordinal, -⟩, id, ⟨hid, hhex⟩, -, -, hrest⟩ := h
    have hgroup' : b.groupIndex = group := Value.int.inj hgroup
    have hordinal' : b.logicalOrdinal = ordinal := Value.int.inj hordinal
    have hid' : b.logicalBlockId = id := Value.str.inj hid
    intro c hc
    rcases List.mem_cons.mp hc with rfl | hc
    · exact ⟨hgroup' ▸ Int.natCast_nonneg _, hordinal' ▸ Int.natCast_nonneg _, hid' ▸ hhex⟩
    · exact ih hrest c hc

theorem scopedId_episode (owner : String) (n : Nat) :
    scopedId owner "k" n = owner ++ ":k:" ++ n.repr := by
  have hmark : ":" ++ ("k" ++ ":") = ":k:" := rfl
  have hid : scopedId owner "k" n = owner ++ ":" ++ "k" ++ ":" ++ n.repr := rfl
  rw [hid, ← hmark]
  simp only [String.append_assoc]

/-- A request the check accepts. -/
structure RequestFields.Valid (r : RequestFields) : Prop where
  trace : isHex 32 r.traceId = true
  lifecycle : r.engineLifecycleId = s!"{r.traceId}:e:0"
  request : isPrintableAscii r.runtimeRequestId = true
  epoch : (r.recoveryEpoch = none ∧ r.episodeId = none) ∨
    ∃ n : Nat, r.recoveryEpoch = some (n : Int) ∧
    r.episodeId = some (scopedId r.engineLifecycleId "k" n)

theorem valid_of_validateRequestFields {r : RequestFields} {rest : Dict}
    (h : validateRequestFields (r.fields ++ rest) = .ok ()) : r.Valid := by
  have htrace : (r.fields ++ rest).get "trace_id" = .str r.traceId := rfl
  have hlifecycle : (r.fields ++ rest).get "engine_lifecycle_id" = .str r.engineLifecycleId := rfl
  have hrequest : (r.fields ++ rest).get "runtime_request_id" = .str r.runtimeRequestId := rfl
  have hepoch : (r.fields ++ rest).get "recovery_epoch" = optInt r.recoveryEpoch := rfl
  have hepisode : (r.fields ++ rest).get "episode_id" = optStr r.episodeId := rfl
  unfold validateRequestFields requireAscii at h
  simp only [htrace, hlifecycle, hrequest, hepoch, hepisode, bind_eq_ok, requireHex_eq_ok,
    requireStrictUint_eq_ok, raiseIf_eq_ok, exists_unit, Bool.not_eq_false', Value.pyEq_str,
    Value.str.injEq, Bool.and_eq_true] at h
  obtain ⟨trace, ⟨rfl, hhex⟩, -, -, -, hid, ⟨⟨hprintable, -⟩, -⟩, -, h⟩ := h
  refine ⟨hhex, hid, hprintable, ?_⟩
  cases he : r.recoveryEpoch with
  | none =>
    left
    cases hp : r.episodeId with
    | none => exact ⟨rfl, rfl⟩
    | some episode => simp [he, hp, optInt, optStr, Value.isNone] at h
  | some epoch =>
    right
    simp only [he, optInt, Value.isNone, Bool.false_eq_true, if_false, bind_eq_ok,
      requireStrictUint_eq_ok, raiseIf_eq_ok, exists_unit, Bool.not_eq_false', Value.pyEq_str,
      Value.int.injEq] at h
    obtain ⟨n, ⟨rfl, -⟩, -, hepisode'⟩ := h
    refine ⟨n, rfl, ?_⟩
    cases hp : r.episodeId with
    | none => simp [hp, optStr] at hepisode'
    | some episode =>
      rw [hp] at hepisode'
      rw [scopedId_episode]
      exact congrArg some (Value.str.inj hepisode')

/-- The digits of an epoch, which is written on its own and in the episode. -/
def epochWidth : Option Int → Nat
  | none => 8
  | some epoch => 41 + 2 * decimalWidth epoch.toNat

def requestWidth (runtimeRequestId : String) (epoch : Option Int) : Nat :=
  (utf8 runtimeRequestId).length + escapes runtimeRequestId + epochWidth epoch

theorem RequestFields.Valid.takes {r : RequestFields} (h : r.Valid) :
    ∃ widths, List.Forall₂ (fun kv n => Takes kv.2 n) r.fields widths ∧
      widths.sum = 92 + requestWidth r.runtimeRequestId r.recoveryEpoch := by
  obtain ⟨hplain, hlength⟩ := isPlainText_hex h.trace
  have hzero : IsPlainText ":e:0" ∧ (utf8 ":e:0").length = 4 := by
    decide
  have hplain' : IsPlainText r.engineLifecycleId := h.lifecycle ▸ hplain.append hzero.1
  have hlength' : (utf8 r.engineLifecycleId).length = 36 := by
    have hutf8 : utf8 r.engineLifecycleId = utf8 r.traceId ++ utf8 ":e:0" :=
      h.lifecycle ▸ utf8_append _ _
    rw [hutf8, List.length_append, hlength, hzero.2]
  have hprintable : ∀ b ∈ utf8 r.runtimeRequestId, 32 ≤ b := by
    intro b hb
    have hall := List.all_eq_true.mp h.request b hb
    simp only [Bool.and_eq_true, decide_eq_true_eq] at hall
    exact hall.1
  have hkind : Takes (.str "engine_internal") 17 := ⟨_, rfl, by decide⟩
  have hsample : Takes (.int 0) 1 := ⟨_, rfl, by decide⟩
  obtain ⟨a, b, hepoch, hepisode, hsum⟩ : ∃ a b, Takes (optInt r.recoveryEpoch) a ∧
      Takes (optStr r.episodeId) b ∧ a + b = epochWidth r.recoveryEpoch := by
    rcases h.epoch with ⟨he, hp⟩ | ⟨n, he, hp⟩
    · rw [he, hp]
      exact ⟨4, 4, takes_none, takes_none, rfl⟩
    · rw [he, hp]
      have hk : IsPlainText "k" ∧ (utf8 "k").length = 1 := by
        decide
      refine ⟨_, _, takes_nat n, takes_scopedId hplain' hk.1 n, ?_⟩
      rw [hlength', hk.2]
      simp only [epochWidth, Int.toNat_natCast]
      omega
  refine ⟨_, .cons (takes_hex h.trace) <| .cons (takes_plain hplain') <| .cons (takes_str _) <|
    .cons hkind <| .cons hsample <| .cons hepoch <| .cons hepisode .nil, ?_⟩
  have hquote := length_quote_printable hprintable
  simp only [List.sum_cons, List.sum_nil, requestWidth]
  omega

/-- What varies in the line of a block set chunk: the digits of its rows and
of its place, and the request. -/
def blockChunkWidth (base : RequestLifecycleIdentity) (context : TransferContext)
    (index recordSeq timestampNs : Nat) : Nat :=
  let size := maxBlockRowsPerChunkByteBudget
  let total := context.logicalBlocks.length
  let rows := (context.logicalBlocks.drop (index * size)).take size
  (rows.map fun b => 90 + b.digits).sum +
    placeDigits recordSeq timestampNs index ((total + size - 1) / size) total +
    requestWidth base.runtimeRequestId context.identity.recoveryEpoch

theorem valid_of_validateBlockFields {chunk : BlockSetChunk}
    (h : validateBlockFields chunk.fields = .ok ()) :
    isHex 64 chunk.blockSetId = true ∧ chunk.blocks ≠ [] ∧ ∀ b ∈ chunk.blocks, b.Valid := by
  have hset : chunk.fields.get "block_set_id" = .str chunk.blockSetId := rfl
  have hblocks : chunk.fields.get "blocks" = .list (chunk.blocks.map LogicalBlock.value) := rfl
  unfold validateBlockFields at h
  simp only [hset, hblocks, bind_eq_ok, requireHex_eq_ok, raiseIf_eq_ok, exists_unit,
    Bool.not_eq_false', Bool.and_eq_true, decide_eq_true_eq, Value.str.injEq,
    List.length_map] at h
  obtain ⟨id, ⟨rfl, hhex⟩, total, -, -, ⟨hlength, -⟩, hrows⟩ := h
  exact ⟨hhex, List.ne_nil_of_length_pos hlength, valid_of_validateBlockRows hrows⟩

theorem takes_blockSetChunk {processUuid : String} {recordSeq timestampNs : Nat}
    {clockDomainId : String} {config : KVRecoveryProfileConfig} {chunk : BlockSetChunk}
    (h : Checked .blockSetChunk processUuid recordSeq timestampNs clockDomainId chunk.fields) :
    Takes (.dict (profileDataRecord .blockSetChunk processUuid recordSeq timestampNs clockDomainId
      config chunk.fields)) (696 + (chunk.blocks.map fun b => 90 + b.digits).sum +
        placeDigits recordSeq timestampNs chunk.chunkIndex chunk.chunkCount chunk.totalBlockCount +
        requestWidth chunk.request.runtimeRequestId chunk.request.recoveryEpoch) := by
  have hvalid := h.valid
  simp only [validateDataFields, bind_eq_ok, exists_unit] at hvalid
  obtain ⟨hrequest, hfields⟩ := hvalid
  obtain ⟨hset, hne, hrows⟩ := valid_of_validateBlockFields hfields
  obtain ⟨widths, hwidths, hsum⟩ := (valid_of_validateRequestFields hrequest).takes
  have htakes := @takes_record _ _ _ _ _ config _ _ h (List.rel_append hwidths <|
    .cons (takes_hex hset) <| .cons (takes_nat chunk.chunkIndex) <|
    .cons (takes_nat chunk.chunkCount) <| .cons (takes_nat chunk.totalBlockCount) <|
    .cons (takes_list hne fun b hb => (hrows b hb).takes) .nil)
  have hkeys : (profileDataRecord .blockSetChunk processUuid recordSeq timestampNs clockDomainId
      config chunk.fields).map Prod.fst = ["schema", "record_type", "process_uuid", "record_seq",
        "record_id", "run_id", "timestamp_ns", "clock_domain_id", "profile_id"] ++
          (requestFields ++ blockFields) := rfl
  have hframe : frameWidth (["schema", "record_type", "process_uuid", "record_seq", "record_id",
      "run_id", "timestamp_ns", "clock_domain_id", "profile_id"] ++
        (requestFields ++ blockFields)) = 329 := by decide
  have htype : (quote ProfileRecordType.blockSetChunk.wire).length = 17 := by decide
  have hrowsum : (chunk.blocks.map fun b => 89 + b.digits + 1).sum =
      (chunk.blocks.map fun b => 90 + b.digits).sum := by
    congr 2
    funext b
    omega
  rw [hkeys, hframe] at htakes
  have htotal : 329 + (headerWidths .blockSetChunk recordSeq timestampNs ++ (widths ++
      [64 + 2, decimalWidth chunk.chunkIndex, decimalWidth chunk.chunkCount,
        decimalWidth chunk.totalBlockCount,
        1 + (chunk.blocks.map fun b => 89 + b.digits + 1).sum])).sum =
      696 + (chunk.blocks.map fun b => 90 + b.digits).sum +
        placeDigits recordSeq timestampNs chunk.chunkIndex chunk.chunkCount chunk.totalBlockCount +
        requestWidth chunk.request.runtimeRequestId chunk.request.recoveryEpoch := by
    simp only [headerWidths, htype, hrowsum, placeDigits, List.sum_append, List.sum_cons,
      List.sum_nil, hsum]
    omega
  rw [← htotal]
  exact htakes

theorem blockSetChunks_getElem {base : RequestLifecycleIdentity} {context : TransferContext}
    {index : Nat} {chunk : BlockSetChunk}
    (h : (Scheduler.blockSetChunks base context)[index]? = some chunk) :
    chunk =
      { request := ⟨base.traceId, base.engineLifecycleId, base.runtimeRequestId,
          context.identity.recoveryEpoch, context.identity.episodeId⟩
        blockSetId := context.blockSetId
        chunkIndex := index
        chunkCount := (context.logicalBlocks.length + maxBlockRowsPerChunkByteBudget - 1) /
          maxBlockRowsPerChunkByteBudget
        totalBlockCount := context.logicalBlocks.length
        blocks := (context.logicalBlocks.drop (index * maxBlockRowsPerChunkByteBudget)).take
          maxBlockRowsPerChunkByteBudget } := by
  rw [Scheduler.blockSetChunks, List.getElem?_map, Option.map_eq_some_iff] at h
  obtain ⟨i, hi, rfl⟩ := h
  obtain ⟨_, rfl⟩ := List.getElem?_eq_some_iff.mp hi
  rw [List.getElem_range]

/-! ## Wait set chunks -/

theorem waitSetChunks_getElem {w : Worker} {transferIds : List String} {index : Nat}
    {chunk : WaitSetChunk} (h : (w.waitSetChunks transferIds)[index]? = some chunk) :
    chunk =
      { waitSetId := w.waitSetId transferIds
        chunkIndex := index
        chunkCount := (transferIds.length + 63) / 64
        totalTransferCount := transferIds.length
        transferIds := (transferIds.drop (index * 64)).take 64 } := by
  rw [Worker.waitSetChunks, List.getElem?_map, Option.map_eq_some_iff] at h
  obtain ⟨i, hi, rfl⟩ := h
  obtain ⟨_, rfl⟩ := List.getElem?_eq_some_iff.mp hi
  rw [List.getElem_range]

/-- What varies in the line of a wait set chunk. -/
def waitChunkWidth (transferIds : List String) (index recordSeq timestampNs : Nat) : Nat :=
  let members := (transferIds.drop (index * 64)).take 64
  (members.map fun id => 3 + (utf8 id).length).sum +
    placeDigits recordSeq timestampNs index ((transferIds.length + 63) / 64) transferIds.length

theorem isTransferId_of_validateWaitMembers {processUuid : String} {members : List String}
    {previous : Option String}
    (h : validateWaitMembers processUuid previous (members.map .str) = .ok ()) :
    ∀ id ∈ members, isTransferId id = true := by
  induction members generalizing previous with
  | nil => exact fun _ hid => absurd hid List.not_mem_nil
  | cons member rest ih =>
    rw [List.map_cons, validateWaitMembers] at h
    simp only [bind_eq_ok, raiseIf_eq_ok, exists_unit] at h
    obtain ⟨id, hid, -, -, hrest⟩ := h
    rw [waitMember] at hid
    split at hid
    · next hmember =>
      intro other hother
      rcases List.mem_cons.mp hother with rfl | hother
      · exact hmember
      · exact ih hrest other hother
    · cases hid

theorem valid_of_validateWaitFields {chunk : WaitSetChunk} {processUuid : String}
    (h : validateWaitFields chunk.fields processUuid = .ok ()) :
    isHex 64 chunk.waitSetId = true ∧ chunk.transferIds ≠ [] ∧
      ∀ id ∈ chunk.transferIds, isTransferId id = true := by
  have hset : chunk.fields.get "wait_set_id" = .str chunk.waitSetId := rfl
  have hmembers : chunk.fields.get "transfer_ids" = .list (chunk.transferIds.map .str) := rfl
  unfold validateWaitFields at h
  simp only [hset, hmembers, bind_eq_ok, requireHex_eq_ok, raiseIf_eq_ok, exists_unit,
    Bool.not_eq_false', Bool.and_eq_true, decide_eq_true_eq, Value.str.injEq,
    List.length_map] at h
  obtain ⟨-, id, ⟨rfl, hhex⟩, total, -, -, ⟨hlength, -⟩, hids⟩ := h
  exact ⟨hhex, List.ne_nil_of_length_pos hlength, isTransferId_of_validateWaitMembers hids⟩

theorem takes_waitSetChunk {processUuid : String} {recordSeq timestampNs : Nat}
    {clockDomainId : String} {config : KVRecoveryProfileConfig} {chunk : WaitSetChunk}
    (h : Checked .waitSetChunk processUuid recordSeq timestampNs clockDomainId chunk.fields) :
    Takes (.dict (profileDataRecord .waitSetChunk processUuid recordSeq timestampNs clockDomainId
      config chunk.fields)) (515 + (chunk.transferIds.map fun id => 3 + (utf8 id).length).sum +
        placeDigits recordSeq timestampNs chunk.chunkIndex chunk.chunkCount
          chunk.totalTransferCount) := by
  obtain ⟨hset, hne, hids⟩ := @valid_of_validateWaitFields chunk _ h.valid
  have hplain : ∀ id ∈ chunk.transferIds, Takes (.str id) ((utf8 id).length + 2) := fun id hid =>
    takes_plain (isPlainText_scopedId (by decide) (hids id hid))
  have hoperation : Takes (.str "transfer_wait") 15 := ⟨_, rfl, by decide⟩
  have htakes := @takes_record _ _ _ _ _ config _ _ h (.cons hoperation <| .cons (takes_hex hset) <|
    .cons (takes_nat chunk.chunkIndex) <| .cons (takes_nat chunk.chunkCount) <|
    .cons (takes_nat chunk.totalTransferCount) <| .cons (takes_list hne hplain) .nil)
  have hkeys : (profileDataRecord .waitSetChunk processUuid recordSeq timestampNs clockDomainId
      config chunk.fields).map Prod.fst = ["schema", "record_type", "process_uuid", "record_seq",
        "record_id", "run_id", "timestamp_ns", "clock_domain_id", "profile_id"] ++ waitFields :=
    rfl
  have hframe : frameWidth (["schema", "record_type", "process_uuid", "record_seq", "record_id",
      "run_id", "timestamp_ns", "clock_domain_id", "profile_id"] ++ waitFields) = 226 := by decide
  have htype : (quote ProfileRecordType.waitSetChunk.wire).length = 16 := by decide
  have hmembersum : (chunk.transferIds.map fun id => (utf8 id).length + 2 + 1).sum =
      (chunk.transferIds.map fun id => 3 + (utf8 id).length).sum := by
    congr 2
    funext id
    omega
  rw [hkeys, hframe] at htakes
  have htotal : 226 + (headerWidths .waitSetChunk recordSeq timestampNs ++
      [15, 64 + 2, decimalWidth chunk.chunkIndex, decimalWidth chunk.chunkCount,
        decimalWidth chunk.totalTransferCount,
        1 + (chunk.transferIds.map fun id => (utf8 id).length + 2 + 1).sum]).sum =
      515 + (chunk.transferIds.map fun id => 3 + (utf8 id).length).sum +
        placeDigits recordSeq timestampNs chunk.chunkIndex chunk.chunkCount
          chunk.totalTransferCount := by
    simp only [headerWidths, htype, hmembersum, placeDigits, List.sum_append, List.sum_cons,
      List.sum_nil]
    omega
  rw [← htotal]
  exact htakes

/-! ## What fits -/

/-- **When a chunk fits.** A checked chunk is encoded within the limit of a
record, and built, exactly while its rows, its place and its request take no
more than the rest of the line leaves. -/
theorem chunk_fits_iff (processUuid : String) (recordSeq timestampNs : Nat)
    (clockDomainId : String) (config : KVRecoveryProfileConfig) :
    (∀ (base : RequestLifecycleIdentity) (context : TransferContext) (index : Nat)
      (chunk : BlockSetChunk), (Scheduler.blockSetChunks base context)[index]? = some chunk →
      Checked .blockSetChunk processUuid recordSeq timestampNs clockDomainId chunk.fields →
      ((∃ raw, profileRecordLine (profileDataRecord .blockSetChunk processUuid recordSeq timestampNs
          clockDomainId config chunk.fields) = .ok raw) ↔
        blockChunkWidth base context index recordSeq timestampNs ≤ 3399) ∧
      ((∃ built, buildProfileDataRecord .blockSetChunk processUuid recordSeq timestampNs
          clockDomainId config chunk.fields = .ok built) ↔
        blockChunkWidth base context index recordSeq timestampNs ≤ 3399)) ∧
    (∀ (w : Worker) (transferIds : List String) (index : Nat) (chunk : WaitSetChunk),
      (w.waitSetChunks transferIds)[index]? = some chunk →
      Checked .waitSetChunk processUuid recordSeq timestampNs clockDomainId chunk.fields →
      ((∃ raw, profileRecordLine (profileDataRecord .waitSetChunk processUuid recordSeq timestampNs
          clockDomainId config chunk.fields) = .ok raw) ↔
        waitChunkWidth transferIds index recordSeq timestampNs ≤ 3580) ∧
      ((∃ built, buildProfileDataRecord .waitSetChunk processUuid recordSeq timestampNs
          clockDomainId config chunk.fields = .ok built) ↔
        waitChunkWidth transferIds index recordSeq timestampNs ≤ 3580)) := by
  have hlimit : maxProfileRecordBytes = 4096 := rfl
  refine ⟨?_, ?_⟩
  · intro base context index chunk hchunk hchecked
    have hline := profileRecordLine_iff (@takes_blockSetChunk _ _ _ _ config _ hchecked)
    have hwidth : 696 + (chunk.blocks.map fun b => 90 + b.digits).sum +
        placeDigits recordSeq timestampNs chunk.chunkIndex chunk.chunkCount chunk.totalBlockCount +
        requestWidth chunk.request.runtimeRequestId chunk.request.recoveryEpoch =
          696 + blockChunkWidth base context index recordSeq timestampNs := by
      rw [blockSetChunks_getElem hchunk, blockChunkWidth]
      simp only
      omega
    have hfits := hline.trans (show _ ↔ blockChunkWidth base context index recordSeq timestampNs ≤
      3399 by omega)
    exact ⟨hfits, buildProfileDataRecord_iff.trans
      ⟨fun h => hfits.mp h.2, fun h => ⟨hchecked, hfits.mpr h⟩⟩⟩
  · intro w transferIds index chunk hchunk hchecked
    have hline := profileRecordLine_iff (@takes_waitSetChunk _ _ _ _ config _ hchecked)
    have hwidth : 515 + (chunk.transferIds.map fun id => 3 + (utf8 id).length).sum +
        placeDigits recordSeq timestampNs chunk.chunkIndex chunk.chunkCount
          chunk.totalTransferCount =
          515 + waitChunkWidth transferIds index recordSeq timestampNs := by
      rw [waitSetChunks_getElem hchunk, waitChunkWidth]
      simp only
      omega
    have hfits := hline.trans (show _ ↔ waitChunkWidth transferIds index recordSeq timestampNs ≤
      3580 by omega)
    exact ⟨hfits, buildProfileDataRecord_iff.trans
      ⟨fun h => hfits.mp h.2, fun h => ⟨hchecked, hfits.mpr h⟩⟩⟩

namespace Sample

def chunkProcess : String := "0a0a0a0a0a0a0a0a0a0a0a0a0a0a0a0a"
def chunkClock : String := "0b0b0b0b0b0b0b0b0b0b0b0b0b0b0b0b"
def chunkConfig : KVRecoveryProfileConfig := ⟨"0d0d0d0d0d0d0d0d0d0d0d0d0d0d0d0d", by decide +kernel⟩

def chunkBase : RequestLifecycleIdentity :=
  ⟨"0743abc262d38893e52e6e47347f2966", "5f3c1c6e-8d1a-4c55-9b7e-2f4d6a8b0c1e"⟩

/-- A block set of one group, from an ordinal on. -/
def chunkContext (group first count : Nat) : TransferContext where
  identity := ⟨"0d0d0d0d0d0d0d0d0d0d0d0d0d0d0d0d", "0743abc262d38893e52e6e47347f2966",
    "0743abc262d38893e52e6e47347f2966:e:0", "5f3c1c6e-8d1a-4c55-9b7e-2f4d6a8b0c1e", none, none,
    none, none⟩
  operation := "d2h_preserve"
  blockSetId := "a46ef105824ab0d5ba57d783f6bec390f314af03f37004b8efcad2124fea3af7"
  logicalBlocks := (List.range count).map fun i =>
    ⟨group, (first + i : Nat), "3a4c5b6d7e8f90a1b2c3d4e5f60718" ++ (10 + i).repr⟩

/-- A worker over the digest of the one text it is asked for. -/
def chunkWorker : Worker where
  runId := "0d0d0d0d0d0d0d0d0d0d0d0d0d0d0d0d"
  sha256 := fun _ => "a46ef105824ab0d5ba57d783f6bec390f314af03f37004b8efcad2124fea3af7"
  hooks :=
    { processUuid := chunkProcess
      clockDomainId := chunkClock
      communicationMode := kvRecoveryCommunicationMode
      profileConfig := chunkConfig
      answers := fun _ => none }

/-- Transfers of the process, from a sequence on. -/
def transferIds (first count : Nat) : List String :=
  (List.range count).map fun i => scopedId chunkProcess "t" (first + i)

/-- The first chunk of the set. -/
def chunk (context : TransferContext) : BlockSetChunk where
  request := ⟨chunkBase.traceId, chunkBase.engineLifecycleId,
    chunkBase.runtimeRequestId, none, none⟩
  blockSetId := context.blockSetId
  chunkIndex := 0
  chunkCount := 1
  totalBlockCount := context.logicalBlocks.length
  blocks := context.logicalBlocks.take 32

def waitChunk (ids : List String) : WaitSetChunk where
  waitSetId := chunkWorker.waitSetId ids
  chunkIndex := 0
  chunkCount := 1
  totalTransferCount := ids.length
  transferIds := ids.take 64

end Sample
theorem chunk_fits_iff_one :
    (∃ raw, profileRecordLine (profileDataRecord .blockSetChunk Sample.chunkProcess 7 100
      Sample.chunkClock Sample.chunkConfig (Sample.chunk (Sample.chunkContext 0 0 1)).fields) =
        .ok raw) ∧
    ∃ raw, profileRecordLine (profileDataRecord .waitSetChunk Sample.chunkProcess 7 100
      Sample.chunkClock Sample.chunkConfig (Sample.waitChunk (Sample.transferIds 0 1)).fields) =
        .ok raw :=
  ⟨((chunk_fits_iff Sample.chunkProcess 7 100 Sample.chunkClock Sample.chunkConfig).1
      Sample.chunkBase (Sample.chunkContext 0 0 1) 0
      (Sample.chunk (Sample.chunkContext 0 0 1)) rfl
      ⟨by decide +kernel, by decide, by decide, by decide +kernel, by decide +kernel,
        by decide +kernel⟩).1.mpr (by decide +kernel),
   ((chunk_fits_iff Sample.chunkProcess 7 100 Sample.chunkClock Sample.chunkConfig).2
      Sample.chunkWorker (Sample.transferIds 0 1) 0
      (Sample.waitChunk (Sample.transferIds 0 1)) rfl
      ⟨by decide +kernel, by decide, by decide, by decide +kernel, by decide +kernel,
        by decide +kernel⟩).1.mpr (by decide +kernel)⟩

/-- Large coordinates push a chunk of 32 rows over the limit. -/
theorem wide_chunk_does_not_fit :
    ¬∀ (base : RequestLifecycleIdentity) (context : TransferContext) (chunk : BlockSetChunk)
      (processUuid : String) (recordSeq timestampNs : Nat) (clockDomainId : String)
      (config : KVRecoveryProfileConfig), chunk ∈ Scheduler.blockSetChunks base context →
      Checked .blockSetChunk processUuid recordSeq timestampNs clockDomainId chunk.fields →
      ∃ raw, profileRecordLine (profileDataRecord .blockSetChunk processUuid recordSeq timestampNs
        clockDomainId config chunk.fields) = .ok raw := by
  intro h
  have hchecked : Checked .blockSetChunk Sample.chunkProcess 2000 1000000000000000
      Sample.chunkClock (Sample.chunk (Sample.chunkContext 4294967295 1000 32)).fields :=
    ⟨by decide +kernel, by decide, by decide, by decide +kernel, by decide +kernel,
      by decide +kernel⟩
  have hfits := h Sample.chunkBase (Sample.chunkContext 4294967295 1000 32) _
    Sample.chunkProcess 2000 1000000000000000 Sample.chunkClock Sample.chunkConfig
    List.mem_cons_self hchecked
  have hlength := (profileRecordLine_iff (takes_blockSetChunk hchecked)).mp hfits
  exact absurd hlength (by decide +kernel)

end LifecycleProfiler.Runtime
