import LifecycleProfiler.Protocol.Widths
import LifecycleProfiler.Protocol.Lines

/-! # A checked base record fits

Every text of an accepted draft is an identifier, a name of a closed roster or
bounded metadata, so the line of its record is within the limit. -/

namespace LifecycleProfiler.Protocol
open Python Json

theorem within_digits {n : Nat} {k : Nat} (h : n < 10 ^ (k + 1)) : Within (.int n) (k + 1) :=
  (takes_nat n).within ((Nat.length_toDigits_le_iff (by decide) (by omega)).mpr h)

theorem within_uint64 {n : Nat} (h : n ≤ uint64Max) : Within (.int n) 20 :=
  within_digits (Nat.lt_of_le_of_lt h (by decide))

theorem within_uint32 {n : Nat} (h : n ≤ uint32Max) : Within (.int n) 10 :=
  within_digits (Nat.lt_of_le_of_lt h (by decide))

theorem requireUint_eq_ok {fieldName : String} {v : Value} {maximum : Nat} {u : Unit} :
    requireUint fieldName v maximum = .ok u ↔ ∃ n : Nat, v = .int n ∧ n ≤ maximum := by
  cases v with
  | int n =>
    simp only [requireUint, raiseIf_eq_ok, Bool.or_eq_false_iff, decide_eq_false_iff_not, not_lt,
      Value.int.injEq]
    constructor
    · rintro ⟨hlow, hhigh⟩
      exact ⟨n.toNat, by omega, by omega⟩
    · rintro ⟨m, rfl, hm⟩
      omega
  | _ => simp [requireUint]

/-- An absent number or one of its domain. -/
theorem validateOptionalUint_eq_ok {fieldName : String} {v : Value} {maximum : Nat} {u : Unit} :
    validateOptionalUint fieldName v maximum = .ok u ↔
      v = .none ∨ ∃ n : Nat, v = .int n ∧ n ≤ maximum := by
  unfold validateOptionalUint
  split
  · next h => simp [Value.isNone_iff.mp h]
  · next h =>
    rw [requireUint_eq_ok]
    exact ⟨.inr, fun h' => h'.resolve_left fun hn => h (Value.isNone_iff.mpr hn)⟩

theorem within_optional {v : Value} (h : v = .none ∨ ∃ n : Nat, v = .int n ∧ n ≤ uint32Max) :
    Within v 10 := by
  rcases h with rfl | ⟨n, rfl, hn⟩
  · exact takes_none.within (by decide)
  · exact within_uint32 hn

theorem within_plain {s : String} {n : Nat} (h : IsPlainText s) (hn : (utf8 s).length ≤ n) :
    Within (.str s) (n + 2) := (takes_plain h).within (Nat.add_le_add_right hn 2)

/-- The ID of a record of the shard. -/
theorem within_scopedId {owner kind : String} {seq : Nat} (howner : isHex 32 owner = true)
    (hkind : IsPlainText kind) (hlength : (utf8 kind).length = 1) (hseq : seq ≤ uint64Max) :
    Within (.str (scopedId owner kind seq)) 57 := by
  obtain ⟨hplain, howner⟩ := isPlainText_hex howner
  have hdigits : decimalWidth seq ≤ 20 :=
    (Nat.length_toDigits_le_iff (by decide) (by decide)).mpr (Nat.lt_of_le_of_lt hseq (by decide))
  refine (takes_scopedId hplain hkind seq).within ?_
  omega

theorem utf8ByteSize_eq (s : String) : s.utf8ByteSize = (utf8 s).length := by
  rw [utf8, Array.length_toList]
  rfl

theorem within_decimalId {fieldName value kindName : String} {kind : Char}
    {maximumBytes maximumSequence : Nat} {u : Unit} (hkind : IsPlain (byte kind))
    (h : validateDecimalId fieldName value kind kindName maximumBytes maximumSequence = .ok u) :
    Within (.str value) (maximumBytes + 2) := by
  unfold validateDecimalId at h
  simp only [bind_eq_ok, raiseIf_eq_ok, exists_unit, Bool.not_eq_false', decide_eq_false_iff_not,
    not_lt] at h
  exact within_plain (isPlainText_scopedId hkind h.1) (utf8ByteSize_eq value ▸ h.2.1)

/-- A name of a closed roster. -/
theorem within_roster {s : String} {roster : List String} {n : Nat}
    (hroster : ∀ name ∈ roster, (quote name).length ≤ n) (h : s ∈ roster) : Within (.str s) n :=
  (takes_str s).within (hroster s h)

/-! ## The parts of an event -/

theorem isPlainText_suffix {owner : String} (n : Nat) (howner : IsPlainText owner) (mark : String)
    (hmark : IsPlainText mark) : IsPlainText (owner ++ mark ++ n.repr) :=
  (howner.append hmark).append (isPlainText_repr n)

theorem isPlainText_lifecycle {draft : EventDraft} {u : Unit}
    (htrace : isHex 32 draft.traceId = true)
    (hsample : draft.sampleIndex = .none ∨ ∃ n : Nat, draft.sampleIndex = .int n ∧ n ≤ uint32Max)
    (h : validateLifecycleIdentity draft = .ok u) :
    (IsPlainText draft.lifecycleId ∧ (utf8 draft.lifecycleId).length ≤ 96) ∧
      ∀ parent, draft.parentLifecycleId = some parent →
        IsPlainText parent ∧ (utf8 parent).length ≤ 96 := by
  obtain ⟨hplain, -⟩ := isPlainText_hex htrace
  have hmarks : IsPlainText ":r" ∧ IsPlainText ":e:" ∧ IsPlainText ":s" := by
    decide
  have hroot : IsPlainText s!"{draft.traceId}:r" := hplain.append hmarks.1
  have hparent' : ∀ parent, (utf8 (draft.parentLifecycleId.getD "")).length ≤ 96 →
      draft.parentLifecycleId = some s!"{draft.traceId}:r" →
      draft.parentLifecycleId = some parent → IsPlainText parent ∧ (utf8 parent).length ≤ 96 := by
    intro parent hlength hid hsome
    rw [hsome, Option.getD_some] at hlength
    rw [hsome] at hid
    exact ⟨Option.some.inj hid ▸ hroot, hlength⟩
  unfold validateLifecycleIdentity at h
  split at h
  · simp only [bind_eq_ok, raiseIf_eq_ok, exists_unit, Bool.or_eq_false_iff, bne_eq_false_iff_eq,
      Option.isSome_eq_false_iff, Option.isNone_iff_eq_none, decide_eq_false_iff_not, not_lt,
      utf8ByteSize_eq] at h
    obtain ⟨⟨hid, hnone⟩, hlength, -⟩ := h
    refine ⟨⟨hid ▸ hroot, hlength⟩, fun parent hsome => ?_⟩
    rw [hnone] at hsome
    cases hsome
  · split at h
    · simp only [bind_eq_ok, raiseIf_eq_ok, exists_unit, Bool.or_eq_false_iff,
        bne_eq_false_iff_eq, decide_eq_false_iff_not, not_lt, utf8ByteSize_eq] at h
      obtain ⟨hsome, ⟨hid, hparentId⟩, hlength, hparent⟩ := h
      refine ⟨⟨?_, hlength⟩, fun parent => hparent' parent hparent hparentId⟩
      rcases hsample with hnone | ⟨n, hn, -⟩
      · rw [hnone] at hsome
        cases hsome
      · rw [hid, hn]
        exact isPlainText_suffix n hplain ":e:" hmarks.2.1
    · simp only [bind_eq_ok, raiseIf_eq_ok, exists_unit, Bool.or_eq_false_iff,
        bne_eq_false_iff_eq, decide_eq_false_iff_not, not_lt, utf8ByteSize_eq] at h
      obtain ⟨⟨hid, hparentId⟩, hlength, hparent⟩ := h
      exact ⟨⟨hid ▸ hplain.append hmarks.2.2, hlength⟩,
        fun parent => hparent' parent hparent hparentId⟩

theorem within_spans {draft : EventDraft} {processUuid : String} {u : Unit}
    (h : validateSpanFields draft processUuid = .ok u) :
    draft.closingSpanIds.length ≤ 16 ∧ (∀ id ∈ draft.closingSpanIds, Within (.str id) 57) ∧
      Within (optStr draft.startSpanId) 57 ∧ Within (optStr draft.endSpanId) 57 := by
  have hs : IsPlain (byte 's') := by decide
  unfold validateSpanFields at h
  simp only [bind_eq_ok, raiseIf_eq_ok, exists_unit, Bool.or_eq_false_iff,
    decide_eq_false_iff_not, not_lt, forEach_eq_ok, List.mem_append] at h
  obtain ⟨⟨hlength, -⟩, hall, -, -⟩ := h
  refine ⟨hlength, fun id hid => within_decimalId hs (hall id (.inl (.inl hid))), ?_, ?_⟩
  · cases hstart : draft.startSpanId with
    | none => exact takes_none.within (by decide)
    | some id => exact within_decimalId hs (hall id (.inl (.inr (by simp [hstart]))))
  · cases hend : draft.endSpanId with
    | none => exact takes_none.within (by decide)
    | some id => exact within_decimalId hs (hall id (.inr (by simp [hend])))

theorem within_handoff {draft : EventDraft} {u : Unit} (htrace : isHex 32 draft.traceId = true)
    (hindex : draft.handoffIndex = .none ∨ ∃ n : Nat, draft.handoffIndex = .int n ∧ n ≤ uint32Max)
    (h : validateHandoffAndChunk draft = .ok u) : Within (optStr draft.handoffId) 57 := by
  obtain ⟨hplain, hlength⟩ := isPlainText_hex htrace
  have hmark : IsPlainText ":h:" ∧ (utf8 ":h:").length = 3 := by
    decide
  unfold validateHandoffAndChunk at h
  by_cases hbatch : ["output_batch_ready", "output_ready"].contains draft.eventName = true
  · simp only [if_pos hbatch, bind_eq_ok, raiseIf_eq_ok, exists_unit, bne_eq_false_iff_eq] at h
    obtain ⟨hsome, hid, -⟩ := h
    rcases hindex with hnone | ⟨n, hn, hle⟩
    · rw [hnone] at hsome
      cases hsome
    · rw [hid, hn]
      have hdigits : decimalWidth n ≤ 10 := (Nat.length_toDigits_le_iff (by decide)
        (by decide)).mpr (Nat.lt_of_le_of_lt hle (by decide))
      have hbytes : (utf8 (draft.traceId ++ ":h:" ++ n.repr)).length ≤ 45 := by
        simp only [utf8_append, List.length_append, length_utf8_natRepr]
        omega
      exact (within_plain (isPlainText_suffix n hplain ":h:" hmark.1) hbytes).mono (by decide)
  · by_cases hstarted : (draft.eventName == "serialization_started") = true
    · simp only [if_neg hbatch, if_pos hstarted, bind_eq_ok, raiseIf_eq_ok, exists_unit,
        forEach_eq_ok] at h
      obtain ⟨-, -, hall, -⟩ := h
      cases hid : draft.handoffId with
      | none => exact takes_none.within (by decide)
      | some id => exact within_decimalId (by decide) (hall id (by simp [hid])).1
    · simp only [if_neg hbatch, if_neg hstarted, bind_eq_ok, raiseIf_eq_ok, exists_unit,
        Bool.or_eq_false_iff, Option.isSome_eq_false_iff, Option.isNone_iff_eq_none] at h
      rw [h.1.2]
      exact takes_none.within (by decide)

theorem within_metadata {metadata : Option Dict} {items : Dict}
    (h : validateMetadata metadata = .ok items) : Within (.dict (metadata.getD [])) 1024 := by
  cases metadata with
  | none => exact ⟨2, by decide, _, rfl, by decide⟩
  | some items =>
    simp only [validateMetadata, bind_eq_ok, raiseIf_eq_ok, exists_unit, decide_eq_false_iff_not,
      not_lt] at h
    obtain ⟨-, encoded, hencoded, hlength, -⟩ := h
    exact ⟨_, hlength, encoded, hencoded, rfl⟩

/-- A record within the limit has a line. -/
theorem canonicalJsonLine_of_within {record : Dict} {n : Nat} (h : Within (.dict record) n)
    (hn : n < maxRecordBytes) : ∃ raw, canonicalJsonLine record = .ok raw := by
  obtain ⟨m, hm, rendered, hrendered, rfl⟩ := h
  refine ⟨_, canonicalJsonLine_eq_ok.mpr ⟨rendered, hrendered, rfl, ?_⟩⟩
  rw [List.length_append, List.length_singleton]
  omega

/-! ## The lines -/

theorem buildEventRecord_eq_ok {draft : EventDraft} {processUuid clockDomainId : String}
    {recordSeq : Nat} {defaultTimestampNs : Value} {communicationMode : String} {record : Dict}
    {ref : RecordRef} :
    buildEventRecord draft processUuid clockDomainId recordSeq defaultTimestampNs
      communicationMode = .ok (record, ref) ↔
    isHex 32 processUuid = true ∧ isHex 32 clockDomainId = true ∧ recordSeq ≤ uint64Max ∧
      ∃ timestampNs,
        timestampNs = (if draft.timestampNs.isNone then defaultTimestampNs else draft.timestampNs) ∧
        validateEventDraft draft processUuid timestampNs communicationMode = .ok () ∧
        record = eventRecord draft processUuid clockDomainId recordSeq timestampNs ∧
        ref = ⟨eventId processUuid recordSeq, recordSeq⟩ := by
  unfold buildEventRecord
  simp only [bind_eq_ok, exists_unit, requireHex32_eq_ok, requireUint_nat, pure_eq_ok,
    Prod.mk.injEq, exists_eq_left]
  rw [eq_comm (a := eventRecord ..), eq_comm (a := RecordRef.mk ..)]

/-- What an accepted event draft has passed, part by part. -/
structure EventParts (draft : EventDraft) (processUuid : String) (timestampNs : Value) : Prop where
  trace : isHex 32 draft.traceId = true
  timestamp : ∃ n : Nat, timestampNs = .int n ∧ n ≤ uint64Max
  scope : draft.scope ∈ scopes
  component : draft.component ∈ components
  eventName : draft.eventName ∈ eventNames
  lifecycle : validateLifecycleIdentity draft = .ok ()
  epoch : draft.preemptionEpoch = .none ∨ ∃ n : Nat, draft.preemptionEpoch = .int n ∧ n ≤ uint32Max
  sample : draft.sampleIndex = .none ∨ ∃ n : Nat, draft.sampleIndex = .int n ∧ n ≤ uint32Max
  handoffIndex : draft.handoffIndex = .none ∨ ∃ n : Nat, draft.handoffIndex = .int n ∧ n ≤ uint32Max
  chunk : draft.chunkIndex = .none ∨ ∃ n : Nat, draft.chunkIndex = .int n ∧ n ≤ uint32Max
  spans : validateSpanFields draft processUuid = .ok ()
  handoff : validateHandoffAndChunk draft = .ok ()
  metadata : ∃ items, validateMetadata draft.metadata = .ok items

theorem eventParts_of_validate {draft : EventDraft} {processUuid communicationMode : String}
    {timestampNs : Value}
    (h : validateEventDraft draft processUuid timestampNs communicationMode = .ok ()) :
    EventParts draft processUuid timestampNs := by
  unfold validateEventDraft at h
  simp only [bind_eq_ok, exists_unit, requireHex32_eq_ok, requireUint_eq_ok, raiseIf_eq_ok,
    validateOptionalUint_eq_ok, Bool.not_eq_false', List.contains_iff_mem] at h
  obtain ⟨htrace, htime, hscope, hcomponent, hname, -, -, -, hlifecycle, hepoch, hsample, hhandoff,
    hchunk, h⟩ := h
  have hparts : validateSpanFields draft processUuid = .ok () ∧
      validateHandoffAndChunk draft = .ok () ∧
      ∃ items, validateMetadata draft.metadata = .ok items := by
    by_cases hengine : (draft.scope == "engine_sample") = true
    · simp only [if_pos hengine, bind_eq_ok, exists_unit] at h
      obtain ⟨-, hspans, hhandoffs, items, hitems, -⟩ := h
      exact ⟨hspans, hhandoffs, items, hitems⟩
    · simp only [if_neg hengine, bind_eq_ok, exists_unit] at h
      obtain ⟨-, hspans, hhandoffs, items, hitems, -⟩ := h
      exact ⟨hspans, hhandoffs, items, hitems⟩
  exact ⟨htrace, htime, hscope, hcomponent, hname, hlifecycle, hepoch, hsample, hhandoff, hchunk,
    hparts.1, hparts.2.1, hparts.2.2⟩

/-- **Event lines fit.** The record of an accepted event draft has a line. -/
theorem event_line_fits {draft : EventDraft} {processUuid clockDomainId : String}
    {recordSeq : Nat} {defaultTimestampNs : Value} {communicationMode : String} {record : Dict}
    {ref : RecordRef} (h : buildEventRecord draft processUuid clockDomainId recordSeq
      defaultTimestampNs communicationMode = .ok (record, ref)) :
    ∃ raw, canonicalJsonLine record = .ok raw := by
  obtain ⟨huuid, hclock, hseq, timestampNs, -, hdraft, rfl, -⟩ := buildEventRecord_eq_ok.mp h
  have hparts := eventParts_of_validate hdraft
  obtain ⟨⟨hlifecycle, hlength⟩, hparent⟩ :=
    isPlainText_lifecycle hparts.trace hparts.sample hparts.lifecycle
  obtain ⟨hcount, hclosing, hstart, hend⟩ := within_spans hparts.spans
  obtain ⟨time, rfl, htime⟩ := hparts.timestamp
  obtain ⟨items, hitems⟩ := hparts.metadata
  have hschema : Within (.str schemaVersion) 20 := (takes_str _).within (by decide)
  have htype : Within (.str "event") 7 := (takes_str _).within (by decide)
  have he : IsPlainText "e" ∧ (utf8 "e").length = 1 := by
    decide
  have hhex : ∀ {s : String}, isHex 32 s = true → Within (.str s) 34 := fun hs =>
    (takes_hex hs).within (Nat.le_refl _)
  have hparentId : Within (optStr draft.parentLifecycleId) 98 := by
    cases hp : draft.parentLifecycleId with
    | none => exact takes_none.within (by decide)
    | some parent => exact within_plain (hparent parent hp).1 (hparent parent hp).2
  have hnames : (∀ name ∈ scopes, (quote name).length ≤ 40) ∧
      (∀ name ∈ components, (quote name).length ≤ 40) ∧
      ∀ name ∈ eventNames, (quote name).length ≤ 40 := by decide
  have hclosingIds : Within (.list (draft.closingSpanIds.map .str)) 930 :=
    (within_list hclosing).mono (by omega)
  have hrecord := within_dict (List.cons_ne_nil _ _) <|
    .cons (a := ("schema_version", .str schemaVersion)) hschema <|
    .cons (a := ("record_type", .str "event")) htype <|
    .cons (a := ("process_uuid", .str processUuid)) (hhex huuid) <|
    .cons (a := ("record_seq", .int recordSeq)) (within_uint64 hseq) <|
    .cons (a := ("event_id", .str (eventId processUuid recordSeq)))
      (within_scopedId huuid he.1 he.2 hseq) <|
    .cons (a := ("trace_id", .str draft.traceId)) (hhex hparts.trace) <|
    .cons (a := ("lifecycle_id", .str draft.lifecycleId)) (within_plain hlifecycle hlength) <|
    .cons (a := ("parent_lifecycle_id", optStr draft.parentLifecycleId)) hparentId <|
    .cons (a := ("scope", .str draft.scope)) (within_roster hnames.1 hparts.scope) <|
    .cons (a := ("component", .str draft.component))
      (within_roster hnames.2.1 hparts.component) <|
    .cons (a := ("event_name", .str draft.eventName))
      (within_roster hnames.2.2 hparts.eventName) <|
    .cons (a := ("timestamp_ns", .int time)) (within_uint64 htime) <|
    .cons (a := ("clock_domain_id", .str clockDomainId)) (hhex hclock) <|
    .cons (a := ("preemption_epoch", draft.preemptionEpoch)) (within_optional hparts.epoch) <|
    .cons (a := ("start_span_id", optStr draft.startSpanId)) hstart <|
    .cons (a := ("end_span_id", optStr draft.endSpanId)) hend <|
    .cons (a := ("closing_span_ids", .list (draft.closingSpanIds.map .str))) hclosingIds <|
    .cons (a := ("sample_index", draft.sampleIndex)) (within_optional hparts.sample) <|
    .cons (a := ("handoff_index", draft.handoffIndex)) (within_optional hparts.handoffIndex) <|
    .cons (a := ("chunk_index", draft.chunkIndex)) (within_optional hparts.chunk) <|
    .cons (a := ("handoff_id", optStr draft.handoffId))
      (within_handoff hparts.trace hparts.handoffIndex hparts.handoff) <|
    .cons (a := ("metadata", .dict (draft.metadata.getD []))) (within_metadata hitems) .nil
  refine canonicalJsonLine_of_within hrecord ?_
  have hframe : frameWidth ["schema_version", "record_type", "process_uuid", "record_seq",
      "event_id", "trace_id", "lifecycle_id", "parent_lifecycle_id", "scope", "component",
      "event_name", "timestamp_ns", "clock_domain_id", "preemption_epoch", "start_span_id",
      "end_span_id", "closing_span_ids", "sample_index", "handoff_index", "chunk_index",
      "handoff_id", "metadata"] ≤ 500 := by decide
  exact Nat.lt_of_le_of_lt (Nat.add_le_add_right hframe _) (by decide)

/-! ## Edges -/

theorem within_eventId {fieldName value : String} {u : Unit}
    (h : validateDecimalId fieldName value 'e' "event" 55 uint64Max = .ok u) :
    Within (.str value) 57 := within_decimalId (by decide) h

/-- What an accepted edge draft has passed. -/
structure EdgeParts (draft : EdgeDraft) (processUuid : String) (recordSeq : Nat) : Prop where
  process : isHex 32 processUuid = true
  trace : isHex 32 draft.traceId = true
  seq : recordSeq ≤ uint64Max
  fromEvent : Within (.str draft.fromEventId) 57
  toEvent : Within (.str draft.toEventId) 57
  kind : draft.edgeKind ∈ edgeKinds
  evidence : Within (.str draft.evidenceSource) 66

theorem edgeParts_of_build {draft : EdgeDraft} {processUuid communicationMode : String}
    {recordSeq : Nat} {record : Dict} {ref : RecordRef}
    (h : buildEdgeRecord draft processUuid recordSeq communicationMode = .ok (record, ref)) :
    EdgeParts draft processUuid recordSeq ∧ record = edgeRecord draft processUuid recordSeq := by
  have hsources : (∀ name ∈ evidenceSources, (quote name).length ≤ 66) ∧
      (quote kvRecoveryH2dEvidence).length ≤ 66 := by decide
  unfold buildEdgeRecord at h
  simp only [bind_eq_ok, exists_unit, requireHex32_eq_ok, requireUint_nat, raiseIf_eq_ok,
    Bool.not_eq_false', List.contains_iff_mem] at h
  obtain ⟨-, huuid, htrace, hseq, hfrom, hto, -, hkind, h⟩ := h
  by_cases hsource : draft.evidenceSource ∈ evidenceSources
  · have hcontains : evidenceSources.contains draft.evidenceSource = true :=
      List.contains_iff_mem.mpr hsource
    simp only [hcontains, Bool.not_true, Bool.false_eq_true, if_false, bind_eq_ok, exists_unit,
      raiseIf_eq_ok, pure_eq_ok, Prod.mk.injEq] at h
    exact ⟨⟨huuid, htrace, hseq, within_eventId hfrom, within_eventId hto, hkind,
      within_roster hsources.1 hsource⟩, h.2.1.symm⟩
  · have hcontains : evidenceSources.contains draft.evidenceSource = false := by
      rw [← Bool.not_eq_true, List.contains_iff_mem]
      exact hsource
    simp only [hcontains, Bool.not_false, if_true, bind_eq_ok, exists_unit, raiseIf_eq_ok,
      pure_eq_ok, Prod.mk.injEq, Bool.or_eq_false_iff, bne_eq_false_iff_eq] at h
    obtain ⟨-, ⟨⟨-, hid⟩, -⟩, -, hrecord, -⟩ := h
    exact ⟨⟨huuid, htrace, hseq, within_eventId hfrom, within_eventId hto, hkind,
      hid ▸ (takes_str _).within hsources.2⟩, hrecord.symm⟩

/-- **Edge lines fit.** -/
theorem edge_line_fits {draft : EdgeDraft} {processUuid communicationMode : String}
    {recordSeq : Nat} {record : Dict} {ref : RecordRef}
    (h : buildEdgeRecord draft processUuid recordSeq communicationMode = .ok (record, ref)) :
    ∃ raw, canonicalJsonLine record = .ok raw := by
  obtain ⟨hparts, rfl⟩ := edgeParts_of_build h
  have hg : IsPlainText "g" ∧ (utf8 "g").length = 1 := by
    decide
  have hkinds : ∀ name ∈ edgeKinds, (quote name).length ≤ 40 := by decide
  have hrecord := within_dict (List.cons_ne_nil _ _) <|
    .cons (a := ("schema_version", .str schemaVersion)) ((takes_str _).within (Nat.le_refl _)) <|
    .cons (a := ("record_type", .str "edge")) ((takes_str _).within (Nat.le_refl _)) <|
    .cons (a := ("process_uuid", .str processUuid))
      ((takes_hex hparts.process).within (Nat.le_refl _)) <|
    .cons (a := ("record_seq", .int recordSeq)) (within_uint64 hparts.seq) <|
    .cons (a := ("edge_id", .str (edgeId processUuid recordSeq)))
      (within_scopedId hparts.process hg.1 hg.2 hparts.seq) <|
    .cons (a := ("trace_id", .str draft.traceId))
      ((takes_hex hparts.trace).within (Nat.le_refl _)) <|
    .cons (a := ("from_event_id", .str draft.fromEventId)) hparts.fromEvent <|
    .cons (a := ("to_event_id", .str draft.toEventId)) hparts.toEvent <|
    .cons (a := ("edge_kind", .str draft.edgeKind)) (within_roster hkinds hparts.kind) <|
    .cons (a := ("evidence_source", .str draft.evidenceSource)) hparts.evidence .nil
  refine canonicalJsonLine_of_within hrecord ?_
  have hframe : frameWidth ["schema_version", "record_type", "process_uuid", "record_seq",
      "edge_id", "trace_id", "from_event_id", "to_event_id", "edge_kind", "evidence_source"] ≤
        300 := by decide
  exact Nat.lt_of_le_of_lt (Nat.add_le_add_right hframe _) (by decide)

end LifecycleProfiler.Protocol
