import LifecycleProfiler.Normalizer.Interleaving
import LifecycleProfiler.Sink.Drained
import LifecycleProfiler.Sink.Objects

/-! # The digests a reader recomputes

The file of a drained stream is read back line by line. Each row is encoded as
the line it was read from, so that the digest the normalizer recomputes from the
rows is the one the writer took over the bytes. -/

namespace LifecycleProfiler.Sink
open Python Protocol Json General

/-- The bytes of a line of a file. -/
def Line.bytes : Line → Bytes
  | record _ raw => raw
  | torn raw => raw

/-- The content of a shard file. -/
def Shard.file (shard : Shard) : Bytes := shard.lines.flatMap Line.bytes

/-- `_read_jsonl_files` on one file, without the `_source` it adds. -/
def readRows (readFloat : ReadFloat) (file : Bytes) : Option (List Dict) :=
  (linesOf file).mapM fun line =>
    match loads readFloat line with
    | some (.dict row) => some row
    | _ => none

/-- The row a record is read back as. -/
def rowOf (record : Dict) : Dict := sortFields (canonMembers record)

section Rows
variable {readFloat : ReadFloat} {record : Dict} {t : StreamId} {raw : Bytes}

/-- Without repeated keys the order of the items does not matter. -/
theorem lookup_perm {α : Type} {d e : List (String × α)} (hperm : d.Perm e)
    (h : (d.map Prod.fst).Nodup) (key : String) : d.lookup key = e.lookup key := by
  have hsub : ∀ {d e : List (String × α)}, d.Perm e → (e.map Prod.fst).Nodup →
      ∀ v, d.lookup key = some v → e.lookup key = some v := by
    intro d e hperm he v hv
    have hmem : (key, v) ∈ e := hperm.mem_iff.mp (Mapping.mem_of_get hv)
    have hsome : (Mapping.get e key).isSome = true :=
      Mapping.isSome_get.mpr (List.mem_map.mpr ⟨_, hmem, rfl⟩)
    obtain ⟨w, hw⟩ := Option.isSome_iff_exists.mp hsome
    have hunique : Mapping.Unique e := he
    rw [hunique.eq_of_mem hmem (Mapping.mem_of_get hw)]
    exact hw
  have he : (e.map Prod.fst).Nodup := (hperm.map Prod.fst).nodup_iff.mp h
  exact Option.ext fun v => ⟨hsub hperm he v, hsub hperm.symm h v⟩

theorem get_rowOf (h : (record.map Prod.fst).Nodup) (key : String) :
    (rowOf record).get key = canon (record.get key) := by
  have hperm : (rowOf record).Perm (canonMembers record) := sortFields_perm _
  have hkeys : ((rowOf record).map Prod.fst).Nodup := by
    rw [(hperm.map Prod.fst).nodup_iff, canonMembers_eq, List.map_map]
    exact h
  have hlookup : (canonMembers record).lookup key = (record.lookup key).map canon := by
    clear h hperm hkeys
    induction record with
    | nil => rfl
    | cons item rest ih =>
      obtain ⟨k, v⟩ := item
      rw [canonMembers, List.lookup_cons, List.lookup_cons, ih]
      cases key == k <;> rfl
  rw [Dict.get, lookup_perm hperm hkeys, hlookup, Dict.get]
  cases record.lookup key <;> rfl

theorem get_rowOf_str (h : (record.map Prod.fst).Nodup) {key text : String}
    (hget : record.get key = .str text) : (rowOf record).has key text = true := by
  rw [Dict.has_iff, get_rowOf h, hget]
  rfl

theorem lineOf_rowOf (h : lineOf t record = .ok raw) : lineOf t (rowOf record) = .ok raw := by
  have hcanonical : ∀ raw, canonicalJsonLine record = .ok raw →
      canonicalJsonLine (rowOf record) = .ok raw := by
    intro raw h
    obtain ⟨rendered, hdumps, rfl, hlength⟩ := canonicalJsonLine_eq_ok.mp h
    exact canonicalJsonLine_eq_ok.mpr ⟨rendered, dumps_canon (.dict record) hdumps, rfl, hlength⟩
  cases t with
  | base => exact hcanonical raw h
  | profile =>
    obtain ⟨hline, hlength⟩ := profileRecordLine_eq_ok.mp h
    exact profileRecordLine_eq_ok.mpr ⟨hcanonical raw hline, hlength⟩

/-- What a line is made of. -/
theorem rendered_of_lineOf (h : lineOf t record = .ok raw) :
    ∃ rendered, dumps (.dict record) = .ok rendered ∧ raw = rendered ++ [10] := by
  have hcanonical : canonicalJsonLine record = .ok raw := by
    cases t with
    | base => exact h
    | profile => exact (profileRecordLine_eq_ok.mp h).1
  obtain ⟨rendered, hdumps, hraw, -⟩ := canonicalJsonLine_eq_ok.mp hcanonical
  exact ⟨rendered, hdumps, hraw⟩

/-- Whole lines are read back one by one. -/
theorem readRows_entries {entries : List Entry} (hencoded : ∀ e ∈ entries, lineOf t e.1 = .ok e.2)
    (hlawful : ∀ e ∈ entries, Lawful readFloat (.dict e.1)) :
    readRows readFloat (bytesOf entries) = some (entries.map fun e => rowOf e.1) := by
  have hlines : linesOf (bytesOf entries) = entries.map Prod.snd := by
    have hrendered : ∀ e ∈ entries, dumps (.dict e.1) = .ok (encodingOf (.dict e.1)) ∧
        e.2 = encodingOf (.dict e.1) ++ [10] := by
      intro e he
      obtain ⟨rendered, hdumps, hraw⟩ := rendered_of_lineOf (hencoded e he)
      rw [encodingOf_eq hdumps]
      exact ⟨hdumps, hraw⟩
    have hraws : entries.map Prod.snd =
        (entries.map fun e => encodingOf (.dict e.1)).map fun line => line ++ [10] := by
      rw [List.map_map]
      exact List.map_congr_left fun e he => (hrendered e he).2
    have hbytes : bytesOf entries =
        (entries.map fun e => encodingOf (.dict e.1)).flatMap fun line => line ++ [10] := by
      rw [bytesOf, List.flatMap_def, hraws, List.flatMap_def]
    rw [hbytes, linesOf_flatMap, hraws]
    intro line hline
    obtain ⟨e, he, rfl⟩ := List.mem_map.mp hline
    exact printable_dumps _ (hlawful e he) _ (hrendered e he).1
  rw [readRows, hlines]
  clear hlines
  induction entries with
  | nil => rfl
  | cons e rest ih =>
    obtain ⟨he, hrest⟩ := List.forall_mem_cons.mp hencoded
    obtain ⟨hle, hlrest⟩ := List.forall_mem_cons.mp hlawful
    obtain ⟨rendered, hdumps, hraw⟩ := rendered_of_lineOf he
    have hread : loads readFloat e.2 = some (.dict (rowOf e.1)) := by
      rw [hraw]
      exact loads_line hdumps hle
    simp [hread, ih hrest hlrest]

end Rows

/-! ## The shard of a drained sink -/

/-- The `record_type` of the last line of a shard. -/
def summaryTypeOf : StreamId → String
  | .base => "process_summary"
  | .profile => "profile_summary"

/-- The `record_type` a category is written under. -/
def RecordType.wire : RecordType → String
  | .event => "event"
  | .edge => "edge"
  | .data recordType => recordType.wire
  | .lossInterval => "loss_interval"

section Shards
variable {cfg : Config} {readFloat : ReadFloat} {s : TraceSink} {t : StreamId}

theorem type_ne_of_markOf {record : Dict} {m : Mark} (h : markOf record = some m) :
    record.get "record_type" ≠ .str (summaryTypeOf t) := by
  intro htype
  rw [markOf, htype] at h
  cases t
  all_goals
    cases h

/-- What a summary says of the counters it is built from. -/
structure Reports (cfg : Config) (t : StreamId) (l : Ledger) (closeOutcome : CloseOutcome)
    (record : Dict) : Prop where
  record_type : record.get "record_type" = .str (summaryTypeOf t)
  outcome : record.get "close_outcome" = .str closeOutcome.wire
  attempted : record.get "attempted_data_count" = .int l.attempted
  written : ∀ k, isDataOf t k = true → record.get s!"written_{k.wire}_count" = .int (l.written k)
  droppedData : record.get "dropped_data_count" = .int l.droppedData
  droppedControl : record.get "dropped_control_count" = .int l.droppedControl
  writerFailures : record.get "writer_failure_count" = .int l.writerFailures
  digest : record.get "content_sha256" = .str (cfg.sha256 l.hashed)
  balance : l.attempted = Exporter.writtenData t l + l.droppedData

theorem reports_summaryRecord {x : Exporter} {endedNs : Value} {closeOutcome : CloseOutcome} {record : Dict}
    {raw : Bytes} (h : x.summaryRecord cfg t endedNs closeOutcome = .ok (record, raw)) :
    Reports cfg t (x.ledger t) closeOutcome record ∧ lineOf t record = .ok raw := by
  cases t with
  | base =>
    simp only [Exporter.summaryRecord, buildProcessSummaryRecord, bind_eq_ok, pure_eq_ok,
      Prod.mk.injEq, raiseIf_eq_ok, bne_eq_false_iff_eq] at h
    obtain ⟨_, ⟨-, -, -, -, -, -, -, -, -, -, -, -, -, -, -, -, -, -, -, -, -, hbalance, rfl⟩,
      line, hline, rfl, rfl⟩ := h
    refine ⟨⟨rfl, rfl, rfl, fun k hk => ?_, rfl, rfl, rfl, rfl, hbalance⟩, hline⟩
    cases k with
    | event | edge => rfl
    | data | lossInterval => cases hk
  | profile =>
    simp only [Exporter.summaryRecord, buildProfileSummaryRecord, bind_eq_ok, pure_eq_ok,
      Prod.mk.injEq, raiseIf_eq_ok, bne_eq_false_iff_eq] at h
    obtain ⟨_, ⟨-, -, -, -, -, -, -, hbalance, -, -, -, -, -, -, -, -, -, -, -, -, -, -, -, -, rfl⟩,
      line, hline, rfl, rfl⟩ := h
    refine ⟨⟨rfl, rfl, rfl, fun k hk => ?_, rfl, rfl, rfl, rfl, hbalance⟩, hline⟩
    cases k with
    | data k => cases k <;> rfl
    | event | edge | lossInterval => cases hk

/-- What the file of a drained stream holds: encoded objects of the process behind
a first line, and last a summary of exactly the lines before it. -/
structure Settled (cfg : Config) (readFloat : ReadFloat) (r : CloseResult) (t : StreamId)
    (content : List Entry) (summary : Entry) (l : Ledger) : Prop where
  encoded : ∀ e ∈ content ++ [summary], lineOf t e.1 = .ok e.2
  owned : ∀ e ∈ content ++ [summary], Owned cfg readFloat e.1
  reports : Reports cfg t l .drained summary.1
  counted : Counted t content l
  tiles : l.droppedControl = 0 → Tiles 0 ((marksOf content).map Mark.span) (l.attempted : ℤ)
  droppedData : l.droppedData = r.droppedDataOf t
  droppedControl : l.droppedControl = r.droppedControlOf t
  writerFailures : l.writerFailures = 0

/-- A drained receipt stands behind settled files. -/
theorem settled_of_drained
    (h : TraceSink.ReachableWhen cfg (TraceSink.PassesObjects readFloat) s) {r : CloseResult}
    (hr : s.claim = some r) (hdrained : r.closeOutcome = .drained)
    (hwritten : r.summaryWritten = true) (ht : t ∈ TraceSink.streams cfg) :
    ∃ content summary l, (s.shard t).lines = (content ++ [summary]).map Entry.line ∧
      Settled cfg readFloat r t content summary l := by
  obtain ⟨x, content, tail, hcomplete, hopen, -, -, hdroppedControl, hdroppedData⟩ :=
    ((Freezes.of_reachable h) r hr hdrained hwritten).2 t ht
  obtain ⟨e, rfl, y, endedNs, hrecord, hcounts, hcontrol, hfailures⟩ :=
    hcomplete.written (by cases t <;> decide)
  obtain ⟨hreports, hline⟩ := reports_summaryRecord hrecord
  have hcounted := hcomplete.journal.counted
  have hspans : x.spans t = [] := by
    rw [Exporter.spans, Exporter.own, hcomplete.pending, hopen]
    rfl
  refine ⟨content, e, y.ledger t, hcomplete.lines, ?_, fun e' he' => ?_, hreports,
    hcounted.of_same hcounts.hashed.symm hcounts.written.symm, fun hzero => ?_,
    hcounts.droppedData.symm.trans hdroppedData.symm, hcontrol.trans hdroppedControl.symm,
    hfailures⟩
  · intro e' he'
    rcases List.mem_append.mp he' with he' | he'
    · exact hcounted.encoded e' he'
    · rw [List.mem_singleton.mp he']
      exact hline
  · refine (TraceSink.owned_of_reachable h).lines t (Entry.line e') ?_ e'.1 rfl
    rw [hcomplete.lines]
    exact List.mem_map_of_mem he'
  · have htiles := hcomplete.journal.tiles (hcontrol.symm.trans hzero)
    rw [hspans, List.append_nil, ← hcomplete.attempted, hcounts.attempted] at htiles
    exact htiles

end Shards

/-! ## What the normalizer recomputes -/

section Recomputed
variable {cfg : Config} {readFloat : ReadFloat} {t : StreamId} {content : List Entry}
variable {summary : Entry} {r : CloseResult} {l : Ledger} {rows : List Dict}

theorem Owned.get_rowOf {record : Dict} (h : Owned cfg readFloat record) (key : String) :
    (rowOf record).get key = canon (record.get key) :=
  Sink.get_rowOf (lawful_dict.mp h.lawful).1 key

theorem Owned.has_rowOf {record : Dict} (h : Owned cfg readFloat record) {key text : String} :
    (rowOf record).has key text = true ↔ record.get key = .str text := by
  rw [Dict.has_iff, h.get_rowOf]
  cases record.get key <;> simp [canon]

/-- The content of the rows is the bytes they were read from. -/
theorem contentOf_rows (hencoded : ∀ e ∈ content, lineOf t e.1 = .ok e.2) :
    Normalizer.contentOf (lineOf t) (content.map fun e => rowOf e.1) = .ok (bytesOf content) := by
  induction content with
  | nil => rfl
  | cons e rest ih =>
    obtain ⟨he, hrest⟩ := List.forall_mem_cons.mp hencoded
    rw [List.map_cons, Normalizer.contentOf, lineOf_rowOf he, ih hrest]
    rfl

/-- The rows of a part of a file. -/
def rowsOf (content : List Entry) : List Dict := content.map fun e => rowOf e.1

namespace Settled
variable (h : Settled cfg readFloat r t content summary l)
include h

theorem readRows : Sink.readRows readFloat (bytesOf (content ++ [summary])) =
    some (rowsOf (content ++ [summary])) :=
  readRows_entries h.encoded fun e he => (h.owned e he).lawful

theorem owned_content {e : Entry} (he : e ∈ content) : Owned cfg readFloat e.1 :=
  h.owned e (List.mem_append_left _ he)

theorem owned_summary : Owned cfg readFloat summary.1 :=
  h.owned summary (List.mem_append_right _ (List.mem_singleton_self _))

theorem ofProcess : ∀ row ∈ rowsOf (content ++ [summary]),
    row.has "process_uuid" cfg.processUuid = true := by
  intro row hrow
  obtain ⟨e, he, rfl⟩ := List.mem_map.mp hrow
  exact (h.owned e he).has_rowOf.mpr (h.owned e he).process

/-- A row of the file has one of three kinds. -/
theorem kinds {e : Entry} (he : e ∈ content) :
    e.1.get "record_type" = .str (startTypeOf t) ∨ (markOf e.1).isSome = true := by
  obtain ⟨first, rest, rfl, hstart, hrest⟩ := h.counted.started
  rcases List.mem_cons.mp he with rfl | he
  · exact .inl hstart
  · exact .inr (hrest e he)

/-- The rows before the last are no summaries. -/
theorem content_ne_summary : ∀ row ∈ rowsOf content,
    row.has "record_type" (summaryTypeOf t) = false := by
  intro row hrow
  obtain ⟨e, he, rfl⟩ := List.mem_map.mp hrow
  rw [Bool.eq_false_iff]
  intro hsummary
  have htype := (h.owned_content he).has_rowOf.mp hsummary
  rcases h.kinds he with hstart | hmark
  · have hnames : startTypeOf t = summaryTypeOf t := Value.str.inj (hstart.symm.trans htype)
    cases t <;> simp [startTypeOf, summaryTypeOf] at hnames
  · obtain ⟨m, hm⟩ := Option.isSome_iff_exists.mp hmark
    exact type_ne_of_markOf hm htype

/-- The one summary among the rows of the process. -/
theorem summaries : Normalizer.ofType (summaryTypeOf t) (rowsOf (content ++ [summary])) =
    [rowOf summary.1] := by
  have hlast : (rowOf summary.1).has "record_type" (summaryTypeOf t) = true :=
    h.owned_summary.has_rowOf.mpr h.reports.record_type
  rw [rowsOf, List.map_append, ← rowsOf, Normalizer.ofType, List.filter_append,
    List.filter_eq_nil_iff.mpr fun row hrow => by simp [h.content_ne_summary row hrow]]
  simp [hlast]

theorem digested (hrows : Normalizer.ofProcess cfg.processUuid rows =
    rowsOf (content ++ [summary])) :
    Normalizer.digestedRows (summaryTypeOf t) cfg.processUuid rows = rowsOf content := by
  have hlast : (rowOf summary.1).has "record_type" (summaryTypeOf t) = true :=
    h.owned_summary.has_rowOf.mpr h.reports.record_type
  rw [Normalizer.digestedRows, hrows, rowsOf, List.map_append, ← rowsOf, List.filter_append,
    List.filter_eq_self.mpr fun row hrow => by simp [h.content_ne_summary row hrow]]
  simp [hlast]

/-- The recomputed digest is the one in the summary. -/
theorem validates (hrows : Normalizer.ofProcess cfg.processUuid rows =
    rowsOf (content ++ [summary])) :
    Normalizer.validateShardContentDigest cfg.sha256 rows (summaryTypeOf t) (lineOf t)
      cfg.processUuid = .ok () := by
  have hdigest : (rowOf summary.1).has "content_sha256" (cfg.sha256 (bytesOf content)) = true := by
    rw [h.owned_summary.has_rowOf, h.reports.digest, h.counted.hashed]
  unfold Normalizer.validateShardContentDigest
  rw [hrows, h.summaries, h.digested hrows]
  show (Normalizer.contentOf _ _ >>= _) = _
  rw [rowsOf, contentOf_rows h.counted.encoded]
  show raiseIf _ _ = _
  rw [hdigest]
  rfl

end Settled
end Recomputed

end LifecycleProfiler.Sink
