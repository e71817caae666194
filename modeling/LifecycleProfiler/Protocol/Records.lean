import LifecycleProfiler.Protocol.Fits

/-! # Every checked base record fits

The five record builders, and the line of whatever one of them returns. -/

namespace LifecycleProfiler.Protocol
open Python Json

/-- A record some builder of the base protocol returns. -/
inductive BaseRecord : Dict → Prop where
  | start {processUuid : String} {pid : Nat} {startedNs : Value} {clockDomainId : String}
      {provenance : RuntimeProvenance} {record : Dict}
      (h : buildProcessStartRecord processUuid pid startedNs clockDomainId provenance =
        .ok record) : BaseRecord record
  | event {draft : EventDraft} {processUuid clockDomainId : String} {recordSeq : Nat}
      {defaultTimestampNs : Value} {communicationMode : String} {record : Dict} {ref : RecordRef}
      (h : buildEventRecord draft processUuid clockDomainId recordSeq defaultTimestampNs
        communicationMode = .ok (record, ref)) : BaseRecord record
  | edge {draft : EdgeDraft} {processUuid : String} {recordSeq : Nat} {communicationMode : String}
      {record : Dict} {ref : RecordRef}
      (h : buildEdgeRecord draft processUuid recordSeq communicationMode = .ok (record, ref)) :
      BaseRecord record
  | loss {processUuid : String}
    {lossIntervalSeq first last eventCount edgeCount firstNs lastNs : Nat}
      {reason : LossReason} {record : Dict}
      (h : buildLossIntervalRecord processUuid lossIntervalSeq reason first last eventCount
        edgeCount firstNs lastNs = .ok record) : BaseRecord record
  | summary {processUuid : String} {endedNs : Value}
      {attempted events edges losses dropped droppedControl writerFailures : Nat}
      {closeOutcome : CloseOutcome} {contentSha256 : String} {record : Dict}
      (h : buildProcessSummaryRecord processUuid endedNs attempted events edges losses dropped
        droppedControl writerFailures closeOutcome contentSha256 = .ok record) : BaseRecord record

theorem within_hex {n : Nat} {s : String} (h : isHex n s = true) : Within (.str s) (n + 2) :=
  (takes_hex h).within (Nat.le_refl _)

theorem within_str (s : String) : Within (.str s) (quote s).length :=
  (takes_str s).within (Nat.le_refl _)

theorem within_limits : Within (.dict exporterLimits) 500 := by
  have hlimits := within_dict (List.cons_ne_nil _ _) <|
    .cons (a := ("data_capacity_records", .int dataCapacityRecords)) (within_uint64 (by decide)) <|
    .cons (a := ("reserved_capacity_records", .int reservedCapacityRecords))
      (within_uint64 (by decide)) <|
    .cons (a := ("max_record_bytes", .int maxRecordBytes)) (within_uint64 (by decide)) <|
    .cons (a := ("max_queued_bytes", .int maxQueuedBytes)) (within_uint64 (by decide)) <|
    .cons (a := ("max_batch_records", .int maxBatchRecords)) (within_uint64 (by decide)) <|
    .cons (a := ("max_batch_bytes", .int maxBatchBytes)) (within_uint64 (by decide)) <|
    .cons (a := ("write_interval_ms", .int writeIntervalMs)) (within_uint64 (by decide)) <|
    .cons (a := ("close_timeout_ms", .int closeTimeoutMs)) (within_uint64 (by decide)) <|
    .cons (a := ("shard_ownership", .str "one_process_one_append_only_shard")) (within_str _) .nil
  exact hlimits.mono (by decide)

theorem start_line_fits {processUuid : String} {pid : Nat} {startedNs : Value}
    {clockDomainId : String} {provenance : RuntimeProvenance} {record : Dict}
    (h : buildProcessStartRecord processUuid pid startedNs clockDomainId provenance = .ok record) :
    ∃ raw, canonicalJsonLine record = .ok raw := by
  unfold buildProcessStartRecord at h
  simp only [bind_eq_ok, exists_unit, requireHex32_eq_ok, requireUint_nat, pure_eq_ok] at h
  obtain ⟨huuid, hpid, htime, hclock, rfl⟩ := h
  obtain ⟨started, rfl, hstarted⟩ := requireUint_eq_ok.mp htime
  have hrecord := within_dict (List.cons_ne_nil _ _) <|
    .cons (a := ("schema_version", .str schemaVersion)) (within_str _) <|
    .cons (a := ("record_type", .str "process_start")) (within_str _) <|
    .cons (a := ("process_uuid", .str processUuid)) (within_hex huuid) <|
    .cons (a := ("pid", .int pid)) (within_uint32 hpid) <|
    .cons (a := ("started_timestamp_ns", .int started)) (within_uint64 hstarted) <|
    .cons (a := ("clock_source", .str clockSource)) (within_str _) <|
    .cons (a := ("clock_domain_id", .str clockDomainId)) (within_hex hclock) <|
    .cons (a := ("profiler_parent_commit", .str provenance.profilerParentCommit))
      (within_hex provenance.profilerParentCommit_hex) <|
    .cons (a := ("runtime_core_commit", .str provenance.runtimeCoreCommit))
      (within_hex provenance.runtimeCoreCommit_hex) <|
    .cons (a := ("device_plugin_commit", .str provenance.devicePluginCommit))
      (within_hex provenance.devicePluginCommit_hex) <|
    .cons (a := ("parent_api_major", .int parentApiMajor)) (within_uint32 (by decide)) <|
    .cons (a := ("limits", .dict exporterLimits)) within_limits .nil
  refine canonicalJsonLine_of_within hrecord ?_
  have hframe : frameWidth ["schema_version", "record_type", "process_uuid", "pid",
      "started_timestamp_ns", "clock_source", "clock_domain_id", "profiler_parent_commit",
      "runtime_core_commit", "device_plugin_commit", "parent_api_major", "limits"] ≤ 300 := by
    decide
  exact Nat.lt_of_le_of_lt (Nat.add_le_add_right hframe _) (by decide)

theorem loss_line_fits {processUuid : String}
    {lossIntervalSeq first last eventCount edgeCount firstNs lastNs : Nat} {reason : LossReason}
    {record : Dict}
    (h : buildLossIntervalRecord processUuid lossIntervalSeq reason first last eventCount edgeCount
      firstNs lastNs = .ok record) : ∃ raw, canonicalJsonLine record = .ok raw := by
  unfold buildLossIntervalRecord at h
  simp only [bind_eq_ok, exists_unit, requireHex32_eq_ok, requireUint_nat, raiseIf_eq_ok,
    pure_eq_ok] at h
  obtain ⟨huuid, hseq, hfirst, hlast, hevents, hedges, hfirstNs, hlastNs, hcount, -, -, -, rfl⟩ := h
  have hl : IsPlainText "l" ∧ (utf8 "l").length = 1 := by decide
  have hreason : Within (.str reason.wire) 100 := (takes_str _).within (length_wire reason)
  have hrecord := within_dict (List.cons_ne_nil _ _) <|
    .cons (a := ("schema_version", .str schemaVersion)) (within_str _) <|
    .cons (a := ("record_type", .str "loss_interval")) (within_str _) <|
    .cons (a := ("process_uuid", .str processUuid)) (within_hex huuid) <|
    .cons (a := ("loss_interval_seq", .int lossIntervalSeq)) (within_uint64 hseq) <|
    .cons (a := ("loss_interval_id", .str (scopedId processUuid "l" lossIntervalSeq)))
      (within_scopedId huuid hl.1 hl.2 hseq) <|
    .cons (a := ("reason", .str reason.wire)) hreason <|
    .cons (a := ("first_dropped_record_seq", .int first)) (within_uint64 hfirst) <|
    .cons (a := ("last_dropped_record_seq", .int last)) (within_uint64 hlast) <|
    .cons (a := ("dropped_count", .int (eventCount + edgeCount : Nat))) (within_uint64 hcount) <|
    .cons (a := ("event_count", .int eventCount)) (within_uint64 hevents) <|
    .cons (a := ("edge_count", .int edgeCount)) (within_uint64 hedges) <|
    .cons (a := ("first_observed_timestamp_ns", .int firstNs)) (within_uint64 hfirstNs) <|
    .cons (a := ("last_observed_timestamp_ns", .int lastNs)) (within_uint64 hlastNs) .nil
  refine canonicalJsonLine_of_within hrecord ?_
  have hframe : frameWidth ["schema_version", "record_type", "process_uuid", "loss_interval_seq",
      "loss_interval_id", "reason", "first_dropped_record_seq", "last_dropped_record_seq",
      "dropped_count", "event_count", "edge_count", "first_observed_timestamp_ns",
      "last_observed_timestamp_ns"] ≤ 400 := by decide
  exact Nat.lt_of_le_of_lt (Nat.add_le_add_right hframe _) (by decide)

/-- A sequence number of the summary, or none. -/
theorem within_seqs {attempted : Nat} (h : attempted ≤ uint64Max) :
    Within (firstSeq attempted) 20 ∧ Within (lastSeq attempted) 20 := by
  unfold firstSeq lastSeq
  by_cases hzero : attempted = 0
  · rw [if_pos hzero, if_pos hzero]
    exact ⟨takes_none.within (by decide), takes_none.within (by decide)⟩
  · rw [if_neg hzero, if_neg hzero]
    exact ⟨within_uint64 (Nat.zero_le _), within_uint64 (by omega)⟩

theorem summary_line_fits {processUuid : String} {endedNs : Value}
    {attempted events edges losses dropped droppedControl writerFailures : Nat}
    {closeOutcome : CloseOutcome} {contentSha256 : String} {record : Dict}
    (h : buildProcessSummaryRecord processUuid endedNs attempted events edges losses dropped
      droppedControl writerFailures closeOutcome contentSha256 = .ok record) :
    ∃ raw, canonicalJsonLine record = .ok raw := by
  unfold buildProcessSummaryRecord at h
  simp only [bind_eq_ok, exists_unit, requireHex32_eq_ok, requireUint_nat, raiseIf_eq_ok,
    pure_eq_ok, Bool.not_eq_false'] at h
  obtain ⟨huuid, htime, hattempted, hevents, hedges, hlosses, hdropped, hcontrol,
    hfailures, hsha, -, rfl⟩ := h
  obtain ⟨ended, rfl, hended⟩ := requireUint_eq_ok.mp htime
  have houtcome : Within (.str closeOutcome.wire) 20 := by
    refine (takes_str _).within ?_
    cases closeOutcome <;> decide
  obtain ⟨hfirst, hlast⟩ := within_seqs hattempted
  have hrecord := within_dict (List.cons_ne_nil _ _) <|
    .cons (a := ("schema_version", .str schemaVersion)) (within_str _) <|
    .cons (a := ("record_type", .str "process_summary")) (within_str _) <|
    .cons (a := ("process_uuid", .str processUuid)) (within_hex huuid) <|
    .cons (a := ("ended_timestamp_ns", .int ended)) (within_uint64 hended) <|
    .cons (a := ("attempted_data_count", .int attempted)) (within_uint64 hattempted) <|
    .cons (a := ("written_event_count", .int events)) (within_uint64 hevents) <|
    .cons (a := ("written_edge_count", .int edges)) (within_uint64 hedges) <|
    .cons (a := ("written_loss_interval_count", .int losses)) (within_uint64 hlosses) <|
    .cons (a := ("dropped_data_count", .int dropped)) (within_uint64 hdropped) <|
    .cons (a := ("dropped_control_count", .int droppedControl)) (within_uint64 hcontrol) <|
    .cons (a := ("first_data_record_seq", firstSeq attempted)) hfirst <|
    .cons (a := ("last_data_record_seq", lastSeq attempted)) hlast <|
    .cons (a := ("writer_failure_count", .int writerFailures)) (within_uint64 hfailures) <|
    .cons (a := ("close_outcome", .str closeOutcome.wire)) houtcome <|
    .cons (a := ("content_sha256", .str contentSha256)) (within_hex hsha) .nil
  refine canonicalJsonLine_of_within hrecord ?_
  have hframe : frameWidth ["schema_version", "record_type", "process_uuid", "ended_timestamp_ns",
      "attempted_data_count", "written_event_count", "written_edge_count",
      "written_loss_interval_count", "dropped_data_count", "dropped_control_count",
      "first_data_record_seq", "last_data_record_seq", "writer_failure_count", "close_outcome",
      "content_sha256"] ≤ 400 := by decide
  exact Nat.lt_of_le_of_lt (Nat.add_le_add_right hframe _) (by decide)

/-- **Base records fit.** What a builder returns has a line within the limit. -/
theorem base_record_fits {record : Dict} (h : BaseRecord record) :
    ∃ raw, canonicalJsonLine record = .ok raw ∧ raw.length ≤ maxRecordBytes := by
  have hline : ∃ raw, canonicalJsonLine record = .ok raw := by
    cases h with
    | start h => exact start_line_fits h
    | event h => exact event_line_fits h
    | edge h => exact edge_line_fits h
    | loss h => exact loss_line_fits h
    | summary h => exact summary_line_fits h
  obtain ⟨raw, hraw⟩ := hline
  obtain ⟨_, _, _, hle⟩ := canonicalJsonLine_eq_ok.mp hraw
  exact ⟨raw, hraw, hle⟩

theorem base_record_fits_loss :
    ∃ raw, canonicalJsonLine
      [("schema_version", .str schemaVersion),
       ("record_type", .str "loss_interval"),
       ("process_uuid", .str "0a0a0a0a0a0a0a0a0a0a0a0a0a0a0a0a"),
       ("loss_interval_seq", .int 0),
       ("loss_interval_id", .str (scopedId "0a0a0a0a0a0a0a0a0a0a0a0a0a0a0a0a" "l" 0)),
       ("reason", .str "queue_overflow"),
       ("first_dropped_record_seq", .int 7),
       ("last_dropped_record_seq", .int 8),
       ("dropped_count", .int 2),
       ("event_count", .int 1),
       ("edge_count", .int 1),
       ("first_observed_timestamp_ns", .int 100),
       ("last_observed_timestamp_ns", .int 110)] = .ok raw ∧ raw.length ≤ maxRecordBytes :=
  base_record_fits (.loss (show buildLossIntervalRecord "0a0a0a0a0a0a0a0a0a0a0a0a0a0a0a0a" 0
    .queueOverflow 7 8 1 1 100 110 = _ by rfl))

end LifecycleProfiler.Protocol
