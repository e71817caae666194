import LifecycleProfiler.Protocol.Scoped
import LifecycleProfiler.Runtime.Spans

/-! # The drafts of the bridge

An event of an engine lifecycle is accepted once its name is one the bridge
emits, its numbers are in their domains, its spans are identifiers of the sink
where its name asks for them, and its counters reconcile. -/

namespace LifecycleProfiler.Runtime
open Python Protocol

/-- A sink with checked identity and an implemented mode. -/
structure Configured (h : Hooks) : Prop where
  process : isHex 32 h.processUuid = true
  clock : isHex 32 h.clockDomainId = true
  mode : h.communicationMode ∈ ["none", kvRecoveryCommunicationMode]

/-- The events of the bridge with the component that owns them. -/
def bridgeEvents : List (String × String) :=
  [("queued", "engine_client"), ("scheduled", "engine_core"), ("prefill_started", "engine_core"),
   ("decode_started", "engine_core"), ("prefill_done", "engine_core"),
   ("decode_done", "engine_core"), ("preempted", "engine_core"), ("requeued", "engine_core"),
   ("admission_started", "engine_core"), ("resumed", "engine_core"),
   ("generation_done", "engine_core"), ("aborted", "engine_core"), ("cancelled", "engine_core"),
   ("error", "engine_core")]

/-- What the checks ask of the name of an event. -/
structure EngineEvent (name component : String) : Prop where
  component_mem : component ∈ components
  name_mem : name ∈ eventNames
  owner : componentByScopeEvent "engine_sample" name = some component
  communication : startsWith name "communication_" = false
  resource : startsWith name "resource_" = false
  native : nativeEventKeys name = none
  noHandoff : ["output_batch_ready", "output_ready"].contains name = false
  noSerialization : (name == "serialization_started") = false
  noChunk : ["serialization_started", "serialization_done", "delivery_started", "delivery_done",
    "stream_done"].contains name = false
  supported : (name == "unsupported_mode") = false
  noCleanup : ["cleanup_started", "cleanup_done"].contains name = false

theorem engineEvent_of_mem {name component : String} (h : (name, component) ∈ bridgeEvents) :
    EngineEvent name component := by
  have hall : ∀ event ∈ bridgeEvents, event.2 ∈ components ∧ event.1 ∈ eventNames ∧
      componentByScopeEvent "engine_sample" event.1 = some event.2 ∧
      startsWith event.1 "communication_" = false ∧ startsWith event.1 "resource_" = false ∧
      nativeEventKeys event.1 = none ∧
      ["output_batch_ready", "output_ready"].contains event.1 = false ∧
      (event.1 == "serialization_started") = false ∧
      ["serialization_started", "serialization_done", "delivery_started", "delivery_done",
        "stream_done"].contains event.1 = false ∧ (event.1 == "unsupported_mode") = false ∧
      ["cleanup_started", "cleanup_done"].contains event.1 = false := by decide
  obtain ⟨h1, h2, h3, h4, h5, h6, h7, h8, h9, h10, h11⟩ := hall _ h
  exact ⟨h1, h2, h3, h4, h5, h6, h7, h8, h9, h10, h11⟩

/-! ## Spans -/

/-- An identifier the sink can have given out. -/
def SpanOf (processUuid s : String) : Prop := ∃ n ≤ uint64Max, s = scopedId processUuid "s" n

theorem SpanOf.valid {processUuid s : String} (howner : isHex 32 processUuid = true)
    (h : SpanOf processUuid s) : validateDecimalId "span_id" s 's' "span" 55
      uint64Max = .ok () := by
  obtain ⟨n, hn, rfl⟩ := h
  exact validateDecimalId_scopedId howner (by decide) hn "span_id" "span"

theorem SpanOf.creator {processUuid s : String} (h : SpanOf processUuid s) :
    startsWith s s!"{processUuid}:s:" = true := by
  obtain ⟨n, -, rfl⟩ := h
  have hmark : processUuid ++ ":" ++ "s" ++ ":" = s!"{processUuid}:s:" := by
    have hmark' : ":" ++ ("s" ++ ":") = ":s:" := rfl
    rw [String.append_assoc, String.append_assoc, hmark']
    rfl
  exact hmark ▸ startsWith_scopedId processUuid "s" n

/-- The spans an event of the name may carry. -/
structure SpansFor (processUuid name : String) (start ending : Option String)
    (closing : List String) : Prop where
  start_span : ∀ s, start = some s → SpanOf processUuid s
  end_span : ∀ s, ending = some s → SpanOf processUuid s
  boundary : (abnormalTerminals.contains name = false ∧ closing = [] ∧
      start.isSome = spanStartEvents.contains name ∧ ending.isSome = spanEndEvents.contains name) ∨
    (abnormalTerminals.contains name = true ∧ start = none ∧ ending = none ∧
      ∃ s, closing = [s] ∧ SpanOf processUuid s)

theorem SpansFor.valid {processUuid : String} {draft : EventDraft}
    (howner : isHex 32 processUuid = true)
    (h : SpansFor processUuid draft.eventName draft.startSpanId draft.endSpanId
      draft.closingSpanIds) : validateSpanFields draft processUuid = .ok () := by
  have hids : ∀ s ∈ draft.closingSpanIds ++ draft.startSpanId.toList ++ draft.endSpanId.toList,
      SpanOf processUuid s := by
    intro s hs
    rw [List.mem_append, List.mem_append, Option.mem_toList, Option.mem_toList] at hs
    rcases hs with (hs | hs) | hs
    · rcases h.boundary with ⟨-, hnil, -, -⟩ | ⟨-, -, -, t, ht, hspan⟩
      · rw [hnil] at hs
        cases hs
      · rw [ht, List.mem_singleton] at hs
        exact hs ▸ hspan
    · exact h.start_span s hs
    · exact h.end_span s hs
  have hclosing : draft.closingSpanIds.length ≤ 1 ∧ sortedUnique draft.closingSpanIds = true := by
    rcases h.boundary with ⟨-, hnil, -, -⟩ | ⟨-, -, -, t, ht, -⟩
    · rw [hnil]
      exact ⟨Nat.zero_le 1, rfl⟩
    · rw [ht]
      exact ⟨Nat.le_refl 1, rfl⟩
  have hcreator : (draft.startSpanId.any fun s => !startsWith s s!"{processUuid}:s:") = false := by
    cases hstart : draft.startSpanId with
    | none => rfl
    | some s =>
      have hspan := (h.start_span s hstart).creator
      rw [Option.any_some, hspan, Bool.not_true]
  unfold validateSpanFields
  simp only [bind_eq_ok, raiseIf_eq_ok, exists_unit, forEach_eq_ok, Bool.or_eq_false_iff,
    decide_eq_false_iff_not, not_lt]
  refine ⟨⟨by omega, by rw [hclosing.2, Bool.not_true]⟩, fun s hs => (hids s hs).valid howner,
    hcreator, ?_⟩
  rcases h.boundary with ⟨hnormal, hnil, hstart, hend⟩ | ⟨habnormal, hstart, hend, -⟩
  · simp only [hnormal, Bool.false_eq_true, if_false, bind_eq_ok, raiseIf_eq_ok, exists_unit, hnil,
      hstart, hend, bne_self_eq_false, List.isEmpty_nil, Bool.not_true, and_self]
  · simp only [habnormal, if_true, raiseIf_eq_ok, hstart, hend]
    rfl

/-! ## Metadata -/

structure PromptCounters (items : Dict) : Prop where
  counters : ∃ total cached toCompute : Nat, items.get "prompt_tokens_total" = .int total ∧
    items.get "prompt_tokens_cached" = .int cached ∧
    items.get "prompt_tokens_to_compute" = .int toCompute ∧ total ≤ uint64Max ∧ 1 ≤ total ∧
    cached < total ∧ toCompute + cached = total

structure ComputedCounters (items : Dict) : Prop where
  counters : ∃ computed chunks : Nat, items.get "prompt_tokens_computed" = .int computed ∧
    items.get "prefill_chunk_count" = .int chunks ∧ computed ≤ uint64Max ∧ chunks ≤ uint64Max ∧
    1 ≤ chunks

/-- The counters the name of an event asks for. -/
structure MetadataFor (name : String) (items : Dict) : Prop where
  prompt : ["scheduled", "resumed"].contains name = true → PromptCounters items
  computed : ["prefill_done", "preempted"].contains name = true → ComputedCounters items
  generated : (name == "generation_done") = true →
    ∃ n : Nat, items.get "generated_tokens_total" = .int n ∧ 1 ≤ n ∧ n ≤ uint64Max

theorem requiredMetadataUint_of_get {metadata : Dict} {key : String} {n : Nat}
    (h : metadata.get key = .int n) (hn : n ≤ uint64Max) :
    requiredMetadataUint metadata key = .ok n := by
  rw [requiredMetadataUint, h]
  simp only [bind_eq_ok, pure_eq_ok, exists_unit, requireUint_nat, Int.toNat_natCast, and_true]
  exact hn

theorem PromptCounters.pass {items : Dict} (h : PromptCounters items) (rest : Except PyError Unit) :
    (do
      let total ← requiredMetadataUint items "prompt_tokens_total"
      let cached ← requiredMetadataUint items "prompt_tokens_cached"
      let toCompute ← requiredMetadataUint items "prompt_tokens_to_compute"
      raiseIf (total < 1 || total ≤ cached || toCompute + cached != total)
        "prompt token counters do not reconcile"
      rest) = rest := by
  obtain ⟨total, cached, toCompute, htotal, hcached, htoCompute, hle, hpos, hlt, hsum⟩ := h.counters
  have hbad : (total < 1 || total ≤ cached || toCompute + cached != total) = false := by
    simp only [Bool.or_eq_false_iff, decide_eq_false_iff_not, bne_eq_false_iff_eq]
    omega
  rw [requiredMetadataUint_of_get htotal hle, requiredMetadataUint_of_get hcached (by omega),
    requiredMetadataUint_of_get htoCompute (by omega)]
  simp only [ok_bind, hbad, raiseIf_false]

theorem ComputedCounters.pass {items : Dict} (h : ComputedCounters items)
    (rest : Except PyError Unit) :
    (do
      let _ ← requiredMetadataUint items "prompt_tokens_computed"
      let chunks ← requiredMetadataUint items "prefill_chunk_count"
      raiseIf (chunks < 1) "prefill_chunk_count must be positive"
      rest) = rest := by
  obtain ⟨computed, chunks, hcomputed, hchunks, hle, hle', hpos⟩ := h.counters
  have hbad : decide (chunks < 1) = false := decide_eq_false (by omega)
  rw [requiredMetadataUint_of_get hcomputed hle, requiredMetadataUint_of_get hchunks hle']
  simp only [ok_bind, hbad, raiseIf_false]

theorem MetadataFor.valid {draft : EventDraft} {component : String} {items : Dict}
    (hscope : draft.scope = "engine_sample") (hname : EngineEvent draft.eventName component)
    (h : MetadataFor draft.eventName items) : validateEventMetadata draft items = .ok () := by
  have hroot : (draft.scope == "root_request") = false := by
    rw [hscope]
    decide
  unfold validateEventMetadata
  simp only [hname.resource, hname.native, hroot, hname.supported, hname.noCleanup,
    Bool.false_eq_true, if_false, Bool.false_and, Option.toList_none, raiseIf_false, forEach,
    ok_bind]
  have hgenerated : (if (draft.eventName == "generation_done") = true then do
      let generated ← requiredMetadataUint items "generated_tokens_total"
      raiseIf (generated < 1) "generated_tokens_total must be positive"
      else (pure () : Except PyError Unit)) = .ok () := by
    by_cases hg : (draft.eventName == "generation_done") = true
    · obtain ⟨n, hn, hpos, hle⟩ := h.generated hg
      have hbad : decide (n < 1) = false := decide_eq_false (by omega)
      rw [if_pos hg, requiredMetadataUint_of_get hn hle]
      simp only [ok_bind, hbad, raiseIf_false]
    · rw [if_neg hg]
      rfl
  by_cases hp : ["scheduled", "resumed"].contains draft.eventName = true
  · by_cases hc : ["prefill_done", "preempted"].contains draft.eventName = true
    · simp only [if_pos hp, if_pos hc, (h.prompt hp).pass, (h.computed hc).pass, hgenerated]
    · simp only [if_pos hp, if_neg hc, (h.prompt hp).pass, hgenerated]
  · by_cases hc : ["prefill_done", "preempted"].contains draft.eventName = true
    · simp only [if_neg hp, if_pos hc, (h.computed hc).pass, hgenerated]
    · simp only [if_neg hp, if_neg hc, hgenerated]

/-! ## Acceptance -/

/-- An event draft of the bridge with everything in its domain. -/
structure EngineDraft (processUuid : String) (draft : EventDraft) : Prop where
  known : (draft.eventName, draft.component) ∈ bridgeEvents
  trace : isHex 32 draft.traceId = true
  lifecycle : draft.lifecycleId = s!"{draft.traceId}:e:0"
  parent : draft.parentLifecycleId = some s!"{draft.traceId}:r"
  scope : draft.scope = "engine_sample"
  timestamp : ∃ n : Nat, draft.timestampNs = .int n ∧ n ≤ uint64Max
  epoch : ∃ n : Nat, draft.preemptionEpoch = .int n ∧ n ≤ uint32Max
  sample : draft.sampleIndex = .int 0
  handoff : draft.handoffIndex = .none ∧ draft.handoffId = none ∧ draft.chunkIndex = .none
  spans : SpansFor processUuid draft.eventName draft.startSpanId draft.endSpanId
    draft.closingSpanIds
  metadata : ∃ items, validateMetadata draft.metadata = .ok items ∧
    MetadataFor draft.eventName items

theorem EngineDraft.identity {processUuid : String} {draft : EventDraft}
    (h : EngineDraft processUuid draft) : validateLifecycleIdentity draft = .ok () := by
  have hlength := (isPlainText_hex h.trace).2
  have hroot : (draft.scope == "root_request") = false := by
    rw [h.scope]
    decide
  have hengine : (draft.scope == "engine_sample") = true := by
    rw [h.scope]
    decide
  have hid : (s!"{draft.traceId}:e:{formatted (.int 0)}" : String) = s!"{draft.traceId}:e:0" := by
    have hmark : ":e:" ++ formatted (.int 0) = ":e:0" := by decide
    have happend : (s!"{draft.traceId}:e:{formatted (.int 0)}" : String) =
      draft.traceId ++ ":e:" ++ formatted (.int 0) := rfl
    rw [happend, String.append_assoc, hmark]
    rfl
  have hmarks : (utf8 ":e:0").length = 4 ∧ (utf8 ":r").length = 2 := by decide
  have hsize : draft.lifecycleId.utf8ByteSize ≤ 96 := by
    have hbytes : utf8 s!"{draft.traceId}:e:0" = utf8 draft.traceId ++ utf8 ":e:0" :=
      utf8_append _ _
    rw [utf8ByteSize_eq, h.lifecycle, hbytes, List.length_append]
    omega
  have hsize' : (draft.parentLifecycleId.getD "").utf8ByteSize ≤ 96 := by
    have hbytes : utf8 s!"{draft.traceId}:r" = utf8 draft.traceId ++ utf8 ":r" :=
      utf8_append _ _
    rw [utf8ByteSize_eq, h.parent, Option.getD_some, hbytes, List.length_append]
    omega
  unfold validateLifecycleIdentity
  simp only [hroot, hengine, Bool.false_eq_true, if_false, if_true, bind_eq_ok, raiseIf_eq_ok,
    exists_unit, Bool.or_eq_false_iff, bne_eq_false_iff_eq, decide_eq_false_iff_not, not_lt,
    h.sample, hid]
  exact ⟨rfl, ⟨h.lifecycle, h.parent⟩, hsize, hsize'⟩

theorem EngineDraft.noHandoff {processUuid : String} {draft : EventDraft}
    (h : EngineDraft processUuid draft) : validateHandoffAndChunk draft = .ok () := by
  have hname := engineEvent_of_mem h.known
  obtain ⟨hindex, hid, hchunk⟩ := h.handoff
  unfold validateHandoffAndChunk
  simp only [hname.noHandoff, hname.noSerialization, hname.noChunk, Bool.false_eq_true, if_false,
    hindex, hid, hchunk]
  rfl

theorem EngineDraft.valid {processUuid communicationMode : String} {draft : EventDraft}
    (h : EngineDraft processUuid draft) (howner : isHex 32 processUuid = true)
    (hmode : communicationMode ∈ ["none", kvRecoveryCommunicationMode]) :
    validateEventDraft draft processUuid draft.timestampNs communicationMode = .ok () := by
  have hname := engineEvent_of_mem h.known
  obtain ⟨items, hitems, hmetadata⟩ := h.metadata
  obtain ⟨epoch, hepoch, hepochLe⟩ := h.epoch
  have hengine : (draft.scope == "engine_sample") = true := by
    rw [h.scope]
    decide
  have hscope : draft.scope ∈ scopes := by
    rw [h.scope]
    decide
  have howned : (componentByScopeEvent draft.scope draft.eventName != some draft.component) =
      false := by
    rw [h.scope, hname.owner, bne_self_eq_false]
  have hepochSome : draft.preemptionEpoch.isNone = false := by
    rw [hepoch]
    rfl
  have hsampleSome : draft.sampleIndex.isNone = false := by
    rw [h.sample]
    rfl
  unfold validateEventDraft
  simp only [hengine, hname.communication, if_true, Bool.false_eq_true, if_false, bind_eq_ok,
    exists_unit, requireHex32_eq_ok, requireUint_eq_ok, raiseIf_eq_ok, validateOptionalUint_eq_ok,
    Bool.not_eq_false', List.contains_iff_mem, Bool.false_and, Bool.not_false, Bool.true_and,
    hepochSome, hsampleSome, Bool.or_self, pure_eq_ok]
  exact ⟨h.trace, h.timestamp, hscope, hname.component_mem, hname.name_mem, howned, trivial, hmode,
    h.identity, .inr ⟨epoch, hepoch, hepochLe⟩, .inr ⟨0, h.sample, Nat.zero_le _⟩,
    .inl h.handoff.1, .inl h.handoff.2.2, trivial, h.spans.valid howner, h.noHandoff, items, hitems,
    hmetadata.valid h.scope hname, trivial⟩

/-- A draft of the bridge is accepted while the sequence of the sink is in its
domain. -/
theorem EngineDraft.accepted {h : Hooks} {draft : EventDraft} (hd : EngineDraft h.processUuid draft)
    (hc : Configured h) (hseq : h.nextRecordSeq ≤ uint64Max) (observedNs : Nat) :
    ∃ result, acceptedEvent h draft observedNs = .ok result := by
  obtain ⟨time, htime, -⟩ := hd.timestamp
  have hsome : draft.timestampNs.isNone = false := by
    rw [htime]
    rfl
  have hbuild : buildEventRecord draft h.processUuid h.clockDomainId h.nextRecordSeq
      (.int observedNs) h.communicationMode = .ok (eventRecord draft h.processUuid h.clockDomainId
        h.nextRecordSeq draft.timestampNs, ⟨eventId h.processUuid h.nextRecordSeq,
          h.nextRecordSeq⟩) := by
    refine buildEventRecord_eq_ok.mpr ⟨hc.process, hc.clock, hseq, draft.timestampNs, ?_,
      hd.valid hc.process hc.mode, rfl, rfl⟩
    rw [hsome]
    rfl
  obtain ⟨raw, hraw⟩ := event_line_fits hbuild
  unfold acceptedEvent
  rw [hbuild, ok_bind]
  simp only [hraw, ok_bind]
  exact ⟨_, rfl⟩

/-- The ID of an event of the shard. -/
def EventOf (processUuid s : String) : Prop := ∃ n ≤ uint64Max, s = eventId processUuid n

theorem EventOf.valid {processUuid s : String} (howner : isHex 32 processUuid = true)
    (h : EventOf processUuid s) (fieldName : String) :
    validateDecimalId fieldName s 'e' "event" 55 uint64Max = .ok () := by
  obtain ⟨n, hn, rfl⟩ := h
  exact validateDecimalId_scopedId howner (by decide) hn fieldName "event"

/-- An edge of a closed kind whose evidence is in the roster. -/
theorem buildEdgeRecord_of_parts {draft : EdgeDraft} {processUuid communicationMode : String}
    {recordSeq : Nat} (hmode : communicationMode ∈ ["none", kvRecoveryCommunicationMode])
    (howner : isHex 32 processUuid = true) (htrace : isHex 32 draft.traceId = true)
    (hseq : recordSeq ≤ uint64Max) (hfrom : EventOf processUuid draft.fromEventId)
    (hto : EventOf processUuid draft.toEventId) (hne : draft.fromEventId ≠ draft.toEventId)
    (hkind : draft.edgeKind ∈ edgeKinds) (hsource : draft.evidenceSource ∈ evidenceSources) :
    buildEdgeRecord draft processUuid recordSeq communicationMode =
      .ok (edgeRecord draft processUuid recordSeq, ⟨edgeId processUuid recordSeq, recordSeq⟩) := by
  have hsize : ∀ name ∈ evidenceSources, name.utf8ByteSize ≤ 64 := by decide
  have hlisted : evidenceSources.contains draft.evidenceSource = true :=
    List.contains_iff_mem.mpr hsource
  unfold buildEdgeRecord
  simp only [hlisted, Bool.not_true, Bool.false_eq_true, if_false, bind_eq_ok, exists_unit,
    requireHex32_eq_ok, requireUint_nat, raiseIf_eq_ok, pure_eq_ok, decide_eq_false_iff_not,
    not_lt, Bool.not_eq_false', List.contains_iff_mem, beq_eq_false_iff_ne, and_true]
  exact ⟨hmode, howner, htrace, hseq, hfrom.valid howner _, hto.valid howner _, hne, hkind,
    hsize _ hsource⟩

/-- An edge between two events of the shard is accepted. -/
theorem edge_accepted {h : Hooks} (hc : Configured h) (hseq : h.nextRecordSeq ≤ uint64Max)
    {identity : RequestLifecycleIdentity} (htrace : isHex 32 identity.traceId = true)
    {fromEventId toEventId : String} (hfrom : EventOf h.processUuid fromEventId)
    (hto : EventOf h.processUuid toEventId) (hne : fromEventId ≠ toEventId) :
    ∃ result, acceptedEdge h (programOrder identity fromEventId toEventId) = .ok result := by
  have hkind : "program_order" ∈ edgeKinds := by decide
  have hsource : "instrumented_execution_context" ∈ evidenceSources := by decide
  have hbuild := @buildEdgeRecord_of_parts (programOrder identity fromEventId toEventId)
    h.processUuid h.communicationMode h.nextRecordSeq hc.mode hc.process htrace hseq hfrom hto hne
    hkind hsource
  obtain ⟨raw, hraw⟩ := edge_line_fits hbuild
  unfold acceptedEdge
  rw [hbuild, ok_bind]
  simp only [hraw, ok_bind]
  exact ⟨_, rfl⟩

/-! ## The metadata of the bridge -/

theorem validateMetadataItem_nat {key : String} {n : Nat} (hkey : isMetadataKey key = true)
    (hallowed : forbiddenMetadataKeys.contains key = false) (hn : n ≤ uint64Max) :
    validateMetadataItem (key, .int n) = .ok () := by
  unfold validateMetadataItem
  simp only [hkey, hallowed, Bool.not_true, raiseIf_false, ok_bind]
  exact requireUint_nat.mpr hn

theorem validateMetadata_of {items : Dict} {n : Nat}
    (hitems : ∀ item ∈ items, validateMetadataItem item = .ok ())
    (hwithin : Json.Within (.dict items) n) (hn : n ≤ maxMetadataBytes) :
    validateMetadata (some items) = .ok items := by
  obtain ⟨m, hm, encoded, hencoded, rfl⟩ := hwithin
  simp only [validateMetadata, bind_eq_ok, forEach_eq_ok, raiseIf_eq_ok, exists_unit, pure_eq_ok,
    decide_eq_false_iff_not, not_lt, and_true]
  exact ⟨hitems, encoded, hencoded, by omega⟩

theorem promptMetadata_valid {total cached : Int} (hcached : 0 ≤ cached) (hlt : cached < total)
    (hle : total ≤ uint64Max) {name : String}
    (hname : ["scheduled", "resumed"].contains name = true) :
    ∃ items, validateMetadata (some (promptMetadata total cached (total - cached))) = .ok items ∧
      MetadataFor name items := by
  obtain ⟨t, rfl⟩ := Int.eq_ofNat_of_zero_le (Int.le_trans hcached (Int.le_of_lt hlt))
  obtain ⟨c, rfl⟩ := Int.eq_ofNat_of_zero_le hcached
  have ht : t ≤ uint64Max := Int.ofNat_le.mp hle
  have hct : c < t := Int.ofNat_lt.mp hlt
  have hsub : (t : Int) - c = (t - c : Nat) := (Int.ofNat_sub (Nat.le_of_lt hct)).symm
  rw [hsub]
  have hframe : Json.frameWidth ["prompt_tokens_total", "prompt_tokens_cached",
      "prompt_tokens_to_compute"] ≤ 100 := by decide
  refine ⟨_, validateMetadata_of ?_ (Json.within_dict (List.cons_ne_nil _ _)
    (.cons (within_uint64 ht) <| .cons (within_uint64 (by omega)) <|
      .cons (within_uint64 (by omega)) .nil))
    (Nat.le_trans (Nat.add_le_add_right hframe _) (by decide)), ?_, ?_, ?_⟩
  · simp only [promptMetadata, List.forall_mem_cons]
    exact ⟨validateMetadataItem_nat (by decide) (by decide) ht,
      validateMetadataItem_nat (by decide) (by decide) (by omega),
      validateMetadataItem_nat (by decide) (by decide) (by omega), nofun⟩
  · exact fun _ => ⟨t, c, t - c, rfl, rfl, rfl, ht, by omega, hct, by omega⟩
  · intro hother
    rw [List.contains_iff_mem] at hname hother
    simp only [List.mem_cons, List.not_mem_nil, or_false] at hname hother
    rcases hname with rfl | rfl <;> simp at hother
  · intro hother
    rw [List.contains_iff_mem] at hname
    rw [beq_iff_eq] at hother
    rw [hother] at hname
    exact absurd hname (by decide)

theorem computedMetadata_valid {computed chunks : Int} (hcomputed : 0 ≤ computed)
    (hle : computed ≤ uint64Max) (hpos : 1 ≤ chunks) (hle' : chunks ≤ uint64Max) {name : String}
    (hname : ["prefill_done", "preempted"].contains name = true) :
    ∃ items, validateMetadata (some (computedMetadata computed chunks)) = .ok items ∧
      MetadataFor name items := by
  obtain ⟨t, rfl⟩ := Int.eq_ofNat_of_zero_le hcomputed
  obtain ⟨c, rfl⟩ := Int.eq_ofNat_of_zero_le (Int.le_trans (by decide) hpos)
  have ht : t ≤ uint64Max := Int.ofNat_le.mp hle
  have hc : c ≤ uint64Max := Int.ofNat_le.mp hle'
  have hframe : Json.frameWidth ["prompt_tokens_computed", "prefill_chunk_count"] ≤ 100 := by
    decide
  refine ⟨_, validateMetadata_of ?_ (Json.within_dict (List.cons_ne_nil _ _)
    (.cons (within_uint64 ht) <| .cons (within_uint64 hc) .nil))
    (Nat.le_trans (Nat.add_le_add_right hframe _) (by decide)), ?_, ?_, ?_⟩
  · simp only [computedMetadata, List.forall_mem_cons]
    exact ⟨validateMetadataItem_nat (by decide) (by decide) ht,
      validateMetadataItem_nat (by decide) (by decide) hc, nofun⟩
  · intro hother
    rw [List.contains_iff_mem] at hname hother
    simp only [List.mem_cons, List.not_mem_nil, or_false] at hname hother
    rcases hname with rfl | rfl <;> simp at hother
  · exact fun _ => ⟨t, c, rfl, rfl, ht, hc, by omega⟩
  · intro hother
    rw [List.contains_iff_mem] at hname
    rw [beq_iff_eq] at hother
    rw [hother] at hname
    exact absurd hname (by decide)

/-- A name that asks for no counters. -/
theorem MetadataFor.bare {name : String} (hprompt : ["scheduled", "resumed"].contains name = false)
    (hcomputed : ["prefill_done", "preempted"].contains name = false)
    (hgenerated : (name == "generation_done") = false) (items : Dict) : MetadataFor name items := by
  refine ⟨fun h => ?_, fun h => ?_, fun h => ?_⟩
  · rw [hprompt] at h
    cases h
  · rw [hcomputed] at h
    cases h
  · rw [hgenerated] at h
    cases h

/-- The causes a request ends with. -/
def bridgeCauses : List String :=
  ["complete", "explicit_cancel", "client_disconnect", "client_timeout", "engine_failure", "error"]

theorem validateMetadataItem_cause {cause : String} (h : cause ∈ bridgeCauses) :
    validateMetadataItem ("terminal_cause", .str cause) = .ok () := by
  have hall : ∀ cause ∈ bridgeCauses, isPrintableAscii cause = true ∧
      cause.utf8ByteSize ≤ 128 := by decide
  have hkey : isMetadataKey "terminal_cause" = true ∧
      forbiddenMetadataKeys.contains "terminal_cause" = false := by decide
  obtain ⟨hprintable, hsize⟩ := hall cause h
  unfold validateMetadataItem
  simp only [hkey.1, hkey.2, hprintable, Bool.not_true, raiseIf_false, ok_bind, raiseIf_eq_ok,
    decide_eq_false_iff_not, not_lt]
  exact hsize

theorem within_cause {cause : String} (h : cause ∈ bridgeCauses) :
    Json.Within (.str cause) 30 := by
  have hall : ∀ cause ∈ bridgeCauses, (Json.quote cause).length ≤ 30 := by decide
  exact within_roster hall h

theorem causeMetadata_valid {cause name : String} (hcause : cause ∈ bridgeCauses)
    (hname : ∀ items, MetadataFor name items) :
    ∃ items, validateMetadata (some [("terminal_cause", .str cause)]) = .ok items ∧
      MetadataFor name items := by
  have hframe : Json.frameWidth ["terminal_cause"] ≤ 100 := by decide
  refine ⟨_, validateMetadata_of ?_ (Json.within_dict (List.cons_ne_nil _ _)
    (.cons (within_cause hcause) .nil))
    (Nat.le_trans (Nat.add_le_add_right hframe _) (by decide)), hname _⟩
  simp only [List.forall_mem_cons]
  exact ⟨validateMetadataItem_cause hcause, nofun⟩

theorem completionMetadata_valid {cause : String} {generated : Int}
    (hcause : cause ∈ bridgeCauses) (hpos : 1 ≤ generated) (hle : generated ≤ uint64Max) :
    ∃ items, validateMetadata (some [("terminal_cause", .str cause),
        ("generated_tokens_total", .int generated)]) = .ok items ∧
      MetadataFor "generation_done" items := by
  obtain ⟨n, rfl⟩ := Int.eq_ofNat_of_zero_le (Int.le_trans (by decide) hpos)
  have hn : n ≤ uint64Max := Int.ofNat_le.mp hle
  have hframe : Json.frameWidth ["terminal_cause", "generated_tokens_total"] ≤ 100 := by decide
  refine ⟨_, validateMetadata_of ?_ (Json.within_dict (List.cons_ne_nil _ _)
    (.cons (within_cause hcause) <| .cons (within_uint64 hn) .nil))
    (Nat.le_trans (Nat.add_le_add_right hframe _) (by decide)), ?_, ?_, ?_⟩
  · simp only [List.forall_mem_cons]
    exact ⟨validateMetadataItem_cause hcause,
      validateMetadataItem_nat (by decide) (by decide) hn, nofun⟩
  · intro h
    exact absurd h (by decide)
  · intro h
    exact absurd h (by decide)
  · exact fun _ => ⟨n, rfl, by omega, hn⟩

end LifecycleProfiler.Runtime
