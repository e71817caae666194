import LifecycleProfiler.Protocol.Lines
import LifecycleProfiler.Sink.Effects

/-! # What a record says of the sequence numbers

A data record stands for its own number, a loss interval for the numbers it
reports, and the first and the last line of a shard for none. The reading below
is of the record as a line holds it, and the sink builds no record that reads
otherwise than it counts it. -/

namespace LifecycleProfiler.Sink
open Python Protocol

/-- The sequence numbers of a line. -/
inductive Mark where
  | data (recordType : RecordType) (recordSeq : Int)
  | loss (reason : String) (first last : Int)
  deriving DecidableEq, Repr

/-- The data category a `record_type` names. -/
def dataTypeOf : String → Option RecordType
  | "event" => some .event
  | "edge" => some .edge
  | "block_set_chunk" => some (.data .blockSetChunk)
  | "wait_set_chunk" => some (.data .waitSetChunk)
  | "transfer_event" => some (.data .transferEvent)
  | "recovery_event" => some (.data .recoveryEvent)
  | _ => none

/-- The mark of a record, read from its fields. -/
def markOf (record : Dict) : Option Mark :=
  match record.get "record_type" with
  | .str kind =>
    if kind = "loss_interval" then
      match record.get "reason", record.get "first_dropped_record_seq",
          record.get "last_dropped_record_seq" with
      | .str reason, .int first, .int last => some (.loss reason first last)
      | _, _, _ => none
    else
      match dataTypeOf kind, record.get "record_seq" with
      | some recordType, .int recordSeq => some (.data recordType recordSeq)
      | _, _ => none
  | _ => none

/-- The line of a record in the file of a stream. -/
def lineOf : StreamId → Dict → Except PyError Bytes
  | .base => canonicalJsonLine
  | .profile => profileRecordLine

theorem isLine_of_lineOf {stream : StreamId} {record : Dict} {raw : Bytes}
    (h : lineOf stream record = .ok raw) : IsLine raw := by
  cases stream with
  | base => exact ⟨record, .inl h⟩
  | profile => exact ⟨record, .inr h⟩

/-- The records a file holds whole. -/
def Line.record? : Line → Option Dict
  | record r _ => some r
  | torn _ => none

namespace Exporter
variable {cfg : Config} {stream : StreamId}

theorem markOf_encodeEvent {draft : EventDraft} {seq ns : Nat} {record : Dict} {raw : Bytes}
    {ref : RecordRef} (h : encodeEvent cfg draft seq ns = .ok (record, raw, ref)) :
    markOf record = some (.data .event seq) := by
  simp only [encodeEvent, buildEventRecord, bind_eq_ok, pure_eq_ok, Prod.mk.injEq] at h
  obtain ⟨_, ⟨-, -, -, -, -, -, -, -, rfl⟩, line, -, rfl, -, -⟩ := h
  rfl

theorem markOf_encodeEdge {draft : EdgeDraft} {seq : Nat} {record : Dict} {raw : Bytes}
    {ref : RecordRef} (h : encodeEdge cfg draft seq = .ok (record, raw, ref)) :
    markOf record = some (.data .edge seq) := by
  simp only [encodeEdge, buildEdgeRecord, bind_eq_ok, pure_eq_ok, Prod.mk.injEq] at h
  obtain ⟨_, ⟨-, -, -, -, -, -, -, -, -, -, -, -, -, -, -, -, h⟩, line, -, rfl, -, -⟩ := h
  split at h
  all_goals
    simp only [bind_eq_ok, pure_eq_ok] at h
  · obtain ⟨-, -, -, -, -, -, rfl⟩ := h
    rfl
  · obtain ⟨-, -, rfl⟩ := h
    rfl

theorem markOf_encodeProfile {config : KVRecoveryProfileConfig} {recordType : ProfileRecordType}
    {seq ns : Nat} {fields record : Dict} {raw : Bytes} {ref : ProfileRecordRef}
    (h : encodeProfile cfg config recordType seq ns fields = .ok (record, raw, ref)) :
    markOf record = some (.data (.data recordType) seq) := by
  simp only [encodeProfile, buildProfileDataRecord, bind_eq_ok, pure_eq_ok, Prod.mk.injEq] at h
  obtain ⟨_, ⟨-, -, -, -, -, -, -, -, -, -, -, -, -, -, rfl⟩, line, -, rfl, -, -⟩ := h
  cases recordType <;> rfl

theorem markOf_lossRecord {lossSeq : Nat} {loss : OpenLoss} {record : Dict} {raw : Bytes}
    (h : lossRecord cfg stream lossSeq loss = .ok (record, raw)) :
    markOf record = some (.loss loss.reason.wire loss.firstRecordSeq loss.lastRecordSeq) := by
  cases stream with
  | base =>
    simp only [lossRecord, buildLossIntervalRecord, bind_eq_ok, pure_eq_ok, Prod.mk.injEq] at h
    obtain ⟨_, ⟨-, -, -, -, -, -, -, -, -, -, -, -, -, -, -, -, -, -, -, -, -, -, -, -, rfl⟩, line,
      -, rfl, -⟩ := h
    rfl
  | profile =>
    simp only [lossRecord, buildProfileLossIntervalRecord, bind_eq_ok, pure_eq_ok,
      Prod.mk.injEq] at h
    obtain ⟨_, ⟨-, -, -, -, -, -, -, -, -, -, -, -, -, -, -, -, -, -, rfl⟩, line, -, rfl, -⟩ := h
    rfl

theorem line_lossRecord {lossSeq : Nat} {loss : OpenLoss} {record : Dict} {raw : Bytes}
    (h : lossRecord cfg stream lossSeq loss = .ok (record, raw)) :
    lineOf stream record = .ok raw := by
  cases stream with
  | base =>
    simp only [lossRecord, bind_eq_ok, pure_eq_ok, Prod.mk.injEq] at h
    obtain ⟨_, -, line, hraw, rfl, rfl⟩ := h
    exact hraw
  | profile =>
    simp only [lossRecord, bind_eq_ok, pure_eq_ok, Prod.mk.injEq] at h
    obtain ⟨_, -, line, hraw, rfl, rfl⟩ := h
    exact hraw

theorem markOf_summaryRecord {x : Exporter} {endedNs : Value} {closeOutcome : CloseOutcome}
    {record : Dict} {raw : Bytes}
    (h : x.summaryRecord cfg stream endedNs closeOutcome = .ok (record, raw)) :
    markOf record = none := by
  cases stream with
  | base =>
    simp only [summaryRecord, buildProcessSummaryRecord, bind_eq_ok, pure_eq_ok,
      Prod.mk.injEq] at h
    obtain ⟨_, ⟨-, -, -, -, -, -, -, -, -, -, -, -, -, -, -, -, -, -, -, -, -, -, rfl⟩,
      line, -, rfl, -⟩ := h
    rfl
  | profile =>
    simp only [summaryRecord, buildProfileSummaryRecord, bind_eq_ok, pure_eq_ok,
      Prod.mk.injEq] at h
    obtain ⟨_, ⟨-, -, -, -, -, -, -, -, -, -, -, -, -, -, -, -, -, -, -, -, -, -, -, -, rfl⟩, line,
      -, rfl, -⟩ := h
    rfl

end Exporter

theorem markOf_startRecords {cfg : Config} {pid : Nat} {startedNs : Value} {stream : StreamId}
    {record : Dict} {raw : Bytes}
    (h : TraceSink.startRecords cfg pid startedNs stream = .ok (record, raw)) :
    markOf record = none := by
  unfold TraceSink.startRecords at h
  split at h
  · simp only [buildProfileStartRecord, bind_eq_ok, pure_eq_ok, Prod.mk.injEq] at h
    obtain ⟨_, ⟨-, -, -, -, -, -, -, -, -, -, rfl⟩, line, -, rfl, -⟩ := h
    rfl
  · simp only [buildProcessStartRecord, bind_eq_ok, pure_eq_ok, Prod.mk.injEq] at h
    obtain ⟨_, ⟨-, -, -, -, -, -, -, -, rfl⟩, line, -, rfl, -⟩ := h
    rfl

end LifecycleProfiler.Sink
