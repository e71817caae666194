import LifecycleProfiler.Runtime.Drafts

/-! # What the methods of the bridge send

A sequence of calls is followed with the events and spans the sink has given
out so far. Drafts made from these and from counters in their domains are
accepted, so that only a call the sink does not answer is dropped. -/

namespace LifecycleProfiler.Runtime
open Python Protocol

/-- An unsigned integer up to the maximum. -/
def InUint (maximum : Nat) (n : Int) : Prop := 0 ≤ n ∧ n ≤ maximum

/-- The sink has not run out of sequence numbers. -/
structure SequencesFit (h : Hooks) : Prop where
  records : h.nextRecordSeq ≤ uint64Max + 1
  spans : h.nextSpanSeq ≤ uint64Max + 1

/-- The hooks some calls later. -/
structure Onward (h h' : Hooks) : Prop where
  process : h'.processUuid = h.processUuid
  clock : h'.clockDomainId = h.clockDomainId
  mode : h'.communicationMode = h.communicationMode
  answers : h'.answers = h.answers
  records : h.nextRecordSeq ≤ h'.nextRecordSeq
  spans : h.nextSpanSeq ≤ h'.nextSpanSeq
  log : ∃ more, h'.log = h.log ++ more

/-- Whatever was dropped between the two, the sink did not answer. -/
def NoneRejected (h h' : Hooks) : Prop :=
  ∀ i, h.log.length ≤ i → h'.log[i]? = some .refused → h.answers i = none

section Hooks
variable {h h' h'' : Hooks}

theorem Onward.refl (h : Hooks) : Onward h h :=
  ⟨rfl, rfl, rfl, rfl, Nat.le_refl _, Nat.le_refl _, [], (List.append_nil _).symm⟩

theorem Onward.trans (hf : Onward h h') (hs : Onward h' h'') : Onward h h'' := by
  obtain ⟨first, hfirst⟩ := hf.log
  obtain ⟨second, hsecond⟩ := hs.log
  refine ⟨hs.process.trans hf.process, hs.clock.trans hf.clock, hs.mode.trans hf.mode,
    hs.answers.trans hf.answers, Nat.le_trans hf.records hs.records,
    Nat.le_trans hf.spans hs.spans, first ++ second, ?_⟩
  rw [hsecond, hfirst, List.append_assoc]

theorem SequencesFit.before (hfit : SequencesFit h') (hon : Onward h h') : SequencesFit h :=
  ⟨Nat.le_trans hon.records hfit.records, Nat.le_trans hon.spans hfit.spans⟩

theorem Configured.onward (hc : Configured h) (hon : Onward h h') : Configured h' := by
  refine ⟨?_, ?_, ?_⟩
  · rw [hon.process]
    exact hc.process
  · rw [hon.clock]
    exact hc.clock
  · rw [hon.mode]
    exact hc.mode

theorem NoneRejected.of_length (hlength : h'.log.length ≤ h.log.length) : NoneRejected h h' := by
  intro i hi hlog
  rw [List.getElem?_eq_none (Nat.le_trans hlength hi)] at hlog
  cases hlog

/-- One more call, which the sink drops only by not answering it. -/
theorem NoneRejected.of_snoc {emission : Emission} (hlog : h'.log = h.log ++ [emission])
    (hdrop : emission = .refused → h.answer = none) : NoneRejected h h' := by
  intro i hi hrefused
  rw [hlog] at hrefused
  obtain ⟨hlt, hget⟩ := List.getElem?_eq_some_iff.mp hrefused
  rw [List.length_append, List.length_singleton] at hlt
  obtain rfl : i = h.log.length := by omega
  rw [List.getElem_append_right (Nat.le_refl _)] at hget
  exact hdrop (by simpa using hget)

theorem NoneRejected.trans (hf : NoneRejected h h') (hs : NoneRejected h' h'')
    (hon : Onward h h') (hon' : Onward h' h'') : NoneRejected h h'' := by
  intro i hi hlog
  obtain ⟨more, hmore⟩ := hon'.log
  by_cases hlt : i < h'.log.length
  · rw [hmore, List.getElem?_append_left hlt] at hlog
    exact hf i hi hlog
  · have hnone := hs i (Nat.le_of_not_lt hlt) hlog
    rw [hon.answers] at hnone
    exact hnone

end Hooks

/-! ## Events and spans the sink has given out -/

/-- The ID of an event the sink has accepted. -/
def Issued (h : Hooks) (s : String) : Prop :=
  ∃ n < h.nextRecordSeq, s = eventId h.processUuid n

/-- The first event was accepted before the second. -/
def Ordered (h : Hooks) (s t : String) : Prop :=
  ∃ n m, n < m ∧ m < h.nextRecordSeq ∧ s = eventId h.processUuid n ∧ t = eventId h.processUuid m

/-- An accepted event, as the caller learns of it. -/
structure NewEvent (h h' : Hooks) (draft : EventDraft) (ref : RecordRef) : Prop where
  recordId : ref.recordId = eventId h.processUuid h.nextRecordSeq
  consumed : h.nextRecordSeq < h'.nextRecordSeq
  trace : isHex 32 draft.traceId = true
  epoch : ∀ epoch, draft.preemptionEpoch = .int epoch → epoch ≤ uint32Max

section Given
variable {h h' : Hooks} {s t : String} {draft : EventDraft} {ref : RecordRef}

theorem Issued.onward (hs : Issued h s) (hon : Onward h h') : Issued h' s := by
  obtain ⟨n, hn, rfl⟩ := hs
  exact ⟨n, Nat.lt_of_lt_of_le hn hon.records, by rw [hon.process]⟩

theorem Drawn.onward (hs : Drawn h s) (hon : Onward h h') : Drawn h' s := by
  obtain ⟨n, hn, rfl⟩ := hs
  exact ⟨n, Nat.lt_of_lt_of_le hn hon.spans, by rw [hon.process]⟩

theorem Ordered.onward (hs : Ordered h s t) (hon : Onward h h') : Ordered h' s t := by
  obtain ⟨n, m, hnm, hm, rfl, rfl⟩ := hs
  exact ⟨n, m, hnm, Nat.lt_of_lt_of_le hm hon.records, by rw [hon.process], by rw [hon.process]⟩

theorem Drawn.spanOf (hs : Drawn h s) (hfit : SequencesFit h) : SpanOf h.processUuid s := by
  obtain ⟨n, hn, rfl⟩ := hs
  have := hfit.spans
  exact ⟨n, by omega, rfl⟩

theorem NewEvent.issued (hnew : NewEvent h h' draft ref) (hon : Onward h h') :
    Issued h' ref.recordId :=
  ⟨h.nextRecordSeq, hnew.consumed, by rw [hnew.recordId, hon.process]⟩

theorem NewEvent.ordered (hnew : NewEvent h h' draft ref) (hon : Onward h h')
    (hs : Issued h s) : Ordered h' s ref.recordId := by
  obtain ⟨n, hn, rfl⟩ := hs
  exact ⟨n, h.nextRecordSeq, hn, hnew.consumed, by rw [hon.process],
    by rw [hnew.recordId, hon.process]⟩

theorem Ordered.edge_accepted (hs : Ordered h s t) (hc : Configured h)
    (hseq : h.nextRecordSeq ≤ uint64Max) {identity : RequestLifecycleIdentity}
    (htrace : isHex 32 identity.traceId = true) :
    ∃ result, acceptedEdge h (programOrder identity s t) = .ok result := by
  obtain ⟨n, m, hnm, hm, rfl, rfl⟩ := hs
  refine Runtime.edge_accepted hc hseq htrace ⟨n, by omega, rfl⟩ ⟨m, by omega, rfl⟩ ?_
  intro heq
  have := scopedId_injective heq
  omega

end Given

/-! ## Calls of the sink -/

/-- The outcome of some calls: a result satisfies the condition, and where the
drafts are in their domain nothing is rejected. -/
structure Sent {α : Type} (h : Hooks) (domain : Prop) (post : α → Hooks → Prop)
    (outcome : Option α × Hooks) : Prop where
  onward : Onward h outcome.2
  accepted : domain → SequencesFit outcome.2 → NoneRejected h outcome.2
  result : ∀ a, outcome.1 = some a → post a outcome.2

/-- Whatever the sink answers, the outcome of the calls is as stated. -/
def Emit.Sends {α : Type} (m : Emit α) (h : Hooks) (domain : Prop) (post : α → Hooks → Prop) :
    Prop := Sent h domain post (m h)

namespace Emit.Sends
variable {α β : Type} {h : Hooks} {domain : Prop}

theorem pure {a : α} {post : α → Hooks → Prop} (hp : post a h) :
    Sends (Pure.pure a : Emit α) h domain post := by
  refine ⟨.refl h, fun _ _ => .of_length (Nat.le_refl _), fun b hb => ?_⟩
  cases hb
  exact hp

theorem orNone {a : Option α} {post : α → Hooks → Prop} (hp : ∀ b, a = some b → post b h) :
    Sends (Emit.orNone a) h domain post :=
  ⟨.refl h, fun _ _ => .of_length (Nat.le_refl _), hp⟩

/-- The sequence rule. -/
theorem bind {m : Emit α} {f : α → Emit β} {post : β → Hooks → Prop}
    (hm : Sends m h domain fun a h' => Sends (f a) h' domain post) :
    Sends (m >>= f) h domain post := by
  change Sent h domain post (Emit.bind m f h)
  unfold Sends at hm
  unfold Emit.bind
  rcases hr : m h with ⟨_ | a, h'⟩
  · rw [hr] at hm
    exact ⟨hm.onward, hm.accepted, nofun⟩
  · rw [hr] at hm
    have hf := hm.result a rfl
    exact ⟨hm.onward.trans hf.onward, fun hd hfit =>
      (hm.accepted hd (hfit.before hf.onward)).trans (hf.accepted hd hfit) hm.onward hf.onward,
      hf.result⟩

theorem require_bind {c : Bool} {f : Unit → Emit β} {post : β → Hooks → Prop}
    (hs : c = true → Sends (f ()) h domain post) :
    Sends (Emit.require c >>= f) h domain post := by
  refine .bind (.orNone fun u hu => ?_)
  cases c with
  | false => cases hu
  | true => exact hs rfl

theorem attempt {m : Emit α} {post : Option α → Hooks → Prop}
    (hm : Sends m h domain fun a h' => post (some a) h')
    (hn : ∀ h', Onward h h' → post none h') : Sends (Emit.attempt m) h domain post := by
  refine ⟨hm.onward, hm.accepted, fun b hb => ?_⟩
  cases hb
  rcases hr : (m h).1 with _ | a
  · exact hn _ hm.onward
  · exact hm.result a hr

theorem newSpanId {post : String → Hooks → Prop}
    (hs : ∀ s h', Onward h h' → Drawn h' s → post s h') :
    Sends Runtime.newSpanId h domain post := by
  unfold Sends Runtime.newSpanId
  split
  · next hanswer =>
    exact ⟨⟨rfl, rfl, rfl, rfl, Nat.le_refl _, Nat.le_refl _, _, rfl⟩,
      fun _ _ => .of_snoc rfl fun _ => hanswer, nofun⟩
  · refine ⟨⟨rfl, rfl, rfl, rfl, Nat.le_refl _, Nat.le_succ _, _, rfl⟩,
      fun _ _ => .of_snoc rfl nofun, fun s hsome => ?_⟩
    cases hsome
    exact hs _ _ ⟨rfl, rfl, rfl, rfl, Nat.le_refl _, Nat.le_succ _, _, rfl⟩
      ⟨_, Nat.lt_succ_self _, rfl⟩

theorem onward_consume (h : Hooks) (emission : Emission) :
    Onward h (h.add emission).consume :=
  ⟨rfl, rfl, rfl, rfl, Nat.le_succ _, Nat.le_refl _, _, rfl⟩

theorem newEvent_of_accepted {draft : EventDraft} {observedNs : Nat} {record : Dict}
    {ref : RecordRef} {emission : Emission}
    (ha : acceptedEvent h draft observedNs = .ok (record, ref)) :
    NewEvent h (h.add emission).consume draft ref := by
  unfold acceptedEvent at ha
  simp only [bind_eq_ok, pure_eq_ok] at ha
  obtain ⟨⟨built, builtRef⟩, hbuilt, _, _, hpair⟩ := ha
  cases hpair
  obtain ⟨-, -, -, timestampNs, -, hdraft, -, rfl⟩ := buildEventRecord_eq_ok.mp hbuilt
  have hparts := eventParts_of_validate hdraft
  refine ⟨rfl, Nat.lt_succ_self _, hparts.trace, fun epoch hepoch => ?_⟩
  rcases hparts.epoch with hnone | ⟨n, hn, hle⟩
  · rw [hepoch] at hnone
    cases hnone
  · rw [hepoch] at hn
    cases hn
    exact Int.ofNat_le.mpr hle

theorem emitEvent {draft : EventDraft} {post : RecordRef → Hooks → Prop}
    (hdraft : domain → SequencesFit h → Configured h ∧ EngineDraft h.processUuid draft)
    (hs : ∀ ref h', Onward h h' → NewEvent h h' draft ref → post ref h') :
    Sends (Runtime.emitEvent draft) h domain post := by
  unfold Sends Runtime.emitEvent
  split
  · next hanswer =>
    exact ⟨onward_consume h _, fun _ _ => .of_snoc rfl fun _ => hanswer, nofun⟩
  · next observedNs _ =>
    split
    · next hrejected =>
      refine ⟨onward_consume h _, fun hd hfit => ?_, nofun⟩
      obtain ⟨hc, hengine⟩ := hdraft hd (hfit.before (onward_consume h _))
      obtain ⟨result, hresult⟩ := hengine.accepted hc (Nat.le_of_succ_le_succ hfit.records)
        observedNs
      rw [hresult] at hrejected
      cases hrejected
    · next haccepted =>
      refine ⟨onward_consume h _, fun _ _ => .of_snoc rfl nofun, fun ref' hsome => ?_⟩
      cases hsome
      exact hs _ _ (onward_consume h _) (newEvent_of_accepted haccepted)

theorem emitEdge {identity : RequestLifecycleIdentity} {s t : String}
    {post : RecordRef → Hooks → Prop}
    (hedge : domain → Configured h ∧ isHex 32 identity.traceId = true ∧ Ordered h s t)
    (hs : ∀ ref h', Onward h h' → post ref h') :
    Sends (Runtime.emitEdge (programOrder identity s t)) h domain post := by
  unfold Sends Runtime.emitEdge
  split
  · next hanswer =>
    exact ⟨onward_consume h _, fun _ _ => .of_snoc rfl fun _ => hanswer, nofun⟩
  · split
    · next hrejected =>
      refine ⟨onward_consume h _, fun hd hfit => ?_, nofun⟩
      obtain ⟨hc, htrace, hordered⟩ := hedge hd
      obtain ⟨result, hresult⟩ := hordered.edge_accepted hc
        (Nat.le_of_succ_le_succ hfit.records) htrace
      rw [hresult] at hrejected
      cases hrejected
    · refine ⟨onward_consume h _, fun _ _ => .of_snoc rfl nofun, fun ref' hsome => ?_⟩
      cases hsome
      exact hs _ _ (onward_consume h _)

end Emit.Sends

/-! ## What the methods send -/

/-- What an engine draft of the bridge is made from. -/
structure InDomain (h : Hooks) (identity : RequestLifecycleIdentity) (epoch ts : Int) : Prop where
  configured : Configured h
  trace : isHex 32 identity.traceId = true
  epoch : InUint uint32Max epoch
  timestamp : InUint uint64Max ts

theorem InUint.exists_nat {maximum : Nat} {n : Int} (h : InUint maximum n) :
    ∃ m : Nat, Value.int n = .int m ∧ m ≤ maximum := by
  obtain ⟨m, rfl⟩ := Int.eq_ofNat_of_zero_le h.1
  exact ⟨m, rfl, Int.ofNat_le.mp h.2⟩

theorem InDomain.onward {h h' : Hooks} {identity : RequestLifecycleIdentity} {epoch ts : Int}
    (hd : InDomain h identity epoch ts) (hon : Onward h h') : InDomain h' identity epoch ts :=
  ⟨hd.configured.onward hon, hd.trace, hd.epoch, hd.timestamp⟩

theorem InDomain.draft {h : Hooks} {identity : RequestLifecycleIdentity} {epoch ts : Int}
    (hd : InDomain h identity epoch ts) {name component : String} {start ending : Option String}
    {closing : List String} {metadata : Option Dict} (hknown : (name, component) ∈ bridgeEvents)
    (hspans : SpansFor h.processUuid name start ending closing)
    (hmetadata : ∃ items, validateMetadata metadata = .ok items ∧ MetadataFor name items) :
    Configured h ∧ EngineDraft h.processUuid { engineDraft identity name ts epoch with
      component := component, startSpanId := start, endSpanId := ending,
      closingSpanIds := closing, metadata := metadata } :=
  ⟨hd.configured, hknown, hd.trace, rfl, rfl, rfl, hd.timestamp.exists_nat, hd.epoch.exists_nat,
    rfl, ⟨rfl, rfl, rfl⟩, hspans, hmetadata⟩

/-- An event that starts the span. -/
theorem SpansFor.opening {owner name s : String} (hs : SpanOf owner s)
    (hname : abnormalTerminals.contains name = false ∧ spanStartEvents.contains name = true ∧
      spanEndEvents.contains name = false) : SpansFor owner name (some s) none [] := by
  refine ⟨fun t ht => ?_, nofun, .inl ⟨hname.1, rfl, hname.2.1.symm, hname.2.2.symm⟩⟩
  cases ht
  exact hs

/-- An event that ends the span. -/
theorem SpansFor.ending {owner name s : String} (hs : SpanOf owner s)
    (hname : abnormalTerminals.contains name = false ∧ spanStartEvents.contains name = false ∧
      spanEndEvents.contains name = true) : SpansFor owner name none (some s) [] := by
  refine ⟨nofun, fun t ht => ?_, .inl ⟨hname.1, rfl, hname.2.1.symm, hname.2.2.symm⟩⟩
  cases ht
  exact hs

/-- No metadata for a name that asks for none. -/
theorem noMetadata_valid {name : String} (hname : ∀ items, MetadataFor name items) :
    ∃ items, validateMetadata none = .ok items ∧ MetadataFor name items := ⟨[], rfl, hname []⟩

/-- A phase of a request that has begun. -/
structure Begun (h : Hooks) (identity : RequestLifecycleIdentity) (epoch : Int)
    (startedId spanId : String) : Prop where
  started : Issued h startedId
  span : Drawn h spanId
  trace : isHex 32 identity.traceId = true
  epoch : epoch ≤ uint32Max

theorem NewEvent.begun {h h' h'' : Hooks} {identity : RequestLifecycleIdentity} {epoch : Int}
    {draft : EventDraft} {ref : RecordRef} {s : String} (hnew : NewEvent h h' draft ref)
    (hon : Onward h h') (hon' : Onward h' h'') (hs : Drawn h' s)
    (htrace : draft.traceId = identity.traceId) (hepoch : draft.preemptionEpoch = .int epoch) :
    Begun h'' identity epoch ref.recordId s :=
  ⟨(hnew.issued hon).onward hon', hs.onward hon', htrace ▸ hnew.trace, hnew.epoch epoch hepoch⟩

/-- A kind of computation. -/
def IsComputeKind (kind : String) : Prop := kind = "prefill" ∨ kind = "decode"

theorem started_of_kind {kind : String} (hkind : IsComputeKind kind) :
    ((s!"{kind}_started" : String), "engine_core") ∈ bridgeEvents ∧
    (abnormalTerminals.contains s!"{kind}_started" = false ∧
      spanStartEvents.contains s!"{kind}_started" = true ∧
      spanEndEvents.contains s!"{kind}_started" = false) ∧
    ∀ items, MetadataFor s!"{kind}_started" items := by
  rcases hkind with rfl | rfl
  · exact ⟨by decide, by decide, .bare (by decide) (by decide) (by decide)⟩
  · exact ⟨by decide, by decide, .bare (by decide) (by decide) (by decide)⟩

namespace Bridge
variable {h : Hooks} {identity : RequestLifecycleIdentity} {epoch ts : Int}

theorem emitQueued_sends (h : Hooks) (identity : RequestLifecycleIdentity) (ts : Int) :
    Emit.Sends (emitQueued identity ts) h (InDomain h identity 0 ts) fun r h' =>
      Begun h' identity 0 r.1.recordId r.2 := by
  refine .bind (.newSpanId fun s h₁ hon₁ hs => .bind (.emitEvent (fun hd hfit => ?_)
    fun ref h₂ hon₂ hnew => .pure ?_))
  · exact (hd.onward hon₁).draft (by decide) (.opening (hs.spanOf hfit) (by decide))
      (noMetadata_valid (.bare (by decide) (by decide) (by decide)))
  · exact hnew.begun hon₂ (.refl h₂) (hs.onward hon₂) rfl rfl

theorem emitComputeStart_sends (h : Hooks) (identity : RequestLifecycleIdentity)
    (resumed : BaseEventRef) (epoch ts : Int) (kind : String) (hkind : IsComputeKind kind)
    (hresumed : Issued h resumed.eventId) :
    Emit.Sends (emitComputeStart identity resumed epoch ts kind) h (InDomain h identity epoch ts)
      fun r h' => Begun h' identity epoch r.1.recordId r.2 := by
  obtain ⟨hknown, hspans, hmetadata⟩ := started_of_kind hkind
  refine .bind (.newSpanId fun s h₁ hon₁ hs => .bind (.emitEvent (fun hd hfit => ?_)
    fun ref h₂ hon₂ hnew => .bind (.emitEdge (fun hd => ?_) fun _ h₃ hon₃ => .pure ?_)))
  · exact (hd.onward hon₁).draft hknown (.opening (hs.spanOf hfit) hspans)
      (noMetadata_valid hmetadata)
  · exact ⟨hd.configured.onward (hon₁.trans hon₂), hd.trace,
      hnew.ordered hon₂ (hresumed.onward hon₁)⟩
  · exact hnew.begun hon₂ hon₃ (hs.onward hon₂) rfl rfl

/-- Two drafts that are in their domain once the span is drawn. -/
theorem closeAndStart_sends {identity : RequestLifecycleIdentity} {fromId : String}
    {closing : EventDraft} {starting : String → EventDraft} {domain : Prop} {epoch : Int}
    (hfrom : Issued h fromId)
    (hclosing : ∀ h', Onward h h' → domain → SequencesFit h' → Configured h' ∧
      EngineDraft h'.processUuid closing)
    (hstarting : ∀ h' s, Onward h h' → Drawn h' s → domain → SequencesFit h' → Configured h' ∧
      EngineDraft h'.processUuid (starting s))
    (htrace : ∀ s, (starting s).traceId = identity.traceId)
    (hepoch : ∀ s, (starting s).preemptionEpoch = .int epoch)
    (hdomain : domain → Configured h ∧ isHex 32 identity.traceId = true) :
    Emit.Sends (closeAndStart identity fromId closing starting) h domain fun r h' =>
      Begun h' identity epoch r.1.recordId r.2 := by
  refine .bind (.attempt (.emitEvent (hclosing h (.refl h)) fun completed h₁ hon₁ hcompleted => ?_)
    fun h₁ hon₁ => ?_)
  · refine .bind (.attempt (.newSpanId fun s h₂ hon₂ hs => ?_) fun h₂ hon₂ => ?_)
    · refine .bind (.orNone fun _ hsome => .bind (.orNone fun _ hspan => ?_))
      cases hsome
      cases hspan
      refine .bind (.emitEvent (hstarting h₂ s (hon₁.trans hon₂) hs) fun started h₃ hon₃ hstarted =>
        .bind (.emitEdge (fun hd => ?_) fun _ h₄ hon₄ => .bind (.emitEdge (fun hd => ?_)
          fun _ h₅ hon₅ => .pure ?_)))
      · obtain ⟨hc, htraceId⟩ := hdomain hd
        exact ⟨hc.onward (hon₁.trans (hon₂.trans hon₃)), htraceId,
          (hcompleted.ordered hon₁ hfrom).onward (hon₂.trans hon₃)⟩
      · obtain ⟨hc, htraceId⟩ := hdomain hd
        exact ⟨hc.onward (hon₁.trans (hon₂.trans (hon₃.trans hon₄))), htraceId,
          (hstarted.ordered hon₃ ((hcompleted.issued hon₁).onward hon₂)).onward hon₄⟩
      · exact hstarted.begun hon₃ (hon₄.trans hon₅) (hs.onward hon₃) (htrace s) (hepoch s)
    · exact .bind (.orNone fun _ hsome => .bind (.orNone nofun))
  · -- the closing event was dropped
    refine .bind (.attempt (.newSpanId fun s h₂ hon₂ hs => ?_) fun h₂ hon₂ => ?_)
    · exact .bind (.orNone nofun)
    · exact .bind (.orNone nofun)

/-- What the bridge remembers of a request with runtime state. -/
structure StateSound (h : Hooks) (state : RuntimeRequestState) : Prop where
  queue : Begun h state.identity state.preemptionEpoch state.queueStarted.eventId state.queueSpanId
  epoch : 0 ≤ state.preemptionEpoch
  activeStarted : ∀ started, state.activeStarted = some started → Issued h started.eventId
  activeSpan : ∀ s, state.activeSpanId = some s → Drawn h s
  computed : InUint uint64Max state.promptTokensComputed

theorem StateSound.inDomain {state : RuntimeRequestState} (hs : StateSound h state)
    (hc : Configured h) (hts : InUint uint64Max ts) :
    InDomain h state.identity state.preemptionEpoch ts :=
  ⟨hc, hs.queue.trace, ⟨hs.epoch, hs.queue.epoch⟩, hts⟩

/-- The chunk counter of the draft. -/
theorem chunks_bounds {count : Int} (h : count ≤ uint64Max) :
    1 ≤ max 1 count ∧ max 1 count ≤ uint64Max :=
  ⟨Int.le_max_left .., Int.max_le.mpr ⟨by decide, h⟩⟩

theorem emitSwitchToDecode_sends {state : RuntimeRequestState} (hs : StateSound h state)
    {started : BaseEventRef} (hstarted : Issued h started.eventId) {c : String} (hc : Drawn h c)
    (ts : Int) :
    Emit.Sends (emitSwitchToDecode state started c ts) h
      (Configured h ∧ InUint uint64Max ts ∧ state.prefillChunkCount ≤ uint64Max) fun r h' =>
        Begun h' state.identity state.preemptionEpoch r.1.recordId r.2 := by
  refine closeAndStart_sends hstarted (fun h' hon hd hfit => ?_) (fun h' s hon hspan hd hfit => ?_)
    (fun _ => rfl) (fun _ => rfl) fun hd => ⟨hd.1, hs.queue.trace⟩
  · obtain ⟨hpos, hle⟩ := chunks_bounds hd.2.2
    exact ((hs.inDomain hd.1 hd.2.1).onward hon).draft
      (show ("prefill_done", "engine_core") ∈ bridgeEvents by decide)
      (.ending ((hc.onward hon).spanOf hfit) (by decide))
      (computedMetadata_valid hs.computed.1 hs.computed.2 hpos hle (by decide))
  · exact ((hs.inDomain hd.1 hd.2.1).onward hon).draft
      (show ("decode_started", "engine_core") ∈ bridgeEvents by decide)
        (.opening (hspan.spanOf hfit) (by decide))
      (noMetadata_valid (.bare (by decide) (by decide) (by decide)))

theorem emitScheduledAndStarted_sends {state : RuntimeRequestState} (hs : StateSound h state)
    (ts : Int) {kind : String} (hkind : IsComputeKind kind) {total cached : Int}
    (hcached : 0 ≤ cached ∧ cached < total) :
    Emit.Sends (emitScheduledAndStarted state ts kind total cached) h
      (Configured h ∧ InUint uint64Max ts ∧ total ≤ uint64Max) fun r h' =>
        Begun h' state.identity state.preemptionEpoch r.1.recordId r.2 := by
  obtain ⟨hknown, hspans, hmetadata⟩ := started_of_kind hkind
  refine closeAndStart_sends hs.queue.started (fun h' hon hd hfit => ?_)
    (fun h' s hon hspan hd hfit => ?_) (fun _ => rfl) (fun _ => rfl)
    fun hd => ⟨hd.1, hs.queue.trace⟩
  · exact ((hs.inDomain hd.1 hd.2.1).onward hon).draft
      (show ("scheduled", "engine_core") ∈ bridgeEvents by decide)
      (.ending ((hs.queue.span.onward hon).spanOf hfit) (by decide))
      (promptMetadata_valid hcached.1 hcached.2 hd.2.2 (by decide))
  · exact ((hs.inDomain hd.1 hd.2.1).onward hon).draft hknown
      (.opening (hspan.spanOf hfit) hspans) (noMetadata_valid hmetadata)

/-- What the bridge remembers of an episode. -/
structure EpisodeSound (h : Hooks) (epoch : Int) (episode : EmittedBaseEpisode) : Prop where
  epoch : 1 ≤ epoch ∧ epoch ≤ uint32Max
  requeued : Issued h episode.requeued.eventId
  queueSpan : Drawn h episode.queueSpanId
  admission : ∀ started, episode.admissionStarted = some started → Issued h started.eventId
  admissionSpan : ∀ s, episode.admissionSpanId = some s → Drawn h s
  resumed : ∀ resumed, episode.resumed = some resumed → Issued h resumed.eventId

theorem emitPreemption_sends (h : Hooks) (identity : RequestLifecycleIdentity) (epoch ts : Int)
    (startId c : String) (computed chunks : Int) :
    Emit.Sends (emitPreemption identity epoch ts startId c computed chunks) h
      (InDomain h identity epoch ts ∧ 1 ≤ epoch ∧ Issued h startId ∧ Drawn h c ∧
        InUint uint64Max computed ∧ 1 ≤ chunks ∧ chunks ≤ uint64Max) fun r h' =>
        Issued h' r.1.recordId ∧ Begun h' identity epoch r.2.1.recordId r.2.2 := by
  refine .bind (.newSpanId fun s h₁ hon₁ hs => .bind (.emitEvent (fun hd hfit => ?_)
    fun preempted h₂ hon₂ hpreempted => .bind (.emitEdge (fun hd => ?_) fun _ h₃ hon₃ =>
      .bind (.emitEvent (fun hd hfit => ?_) fun requeued h₄ hon₄ hrequeued =>
        .bind (.emitEdge (fun hd => ?_) fun _ h₅ hon₅ => .pure ?_)))))
  · obtain ⟨hdomain, hpos, -, hc, hcomputed, hchunks⟩ := hd
    have hbefore : InDomain h₁ identity (epoch - 1) ts :=
      ⟨hdomain.configured.onward hon₁, hdomain.trace,
        ⟨by omega, by have := hdomain.epoch.2; omega⟩, hdomain.timestamp⟩
    exact hbefore.draft (show ("preempted", "engine_core") ∈ bridgeEvents by decide)
      (.ending ((hc.onward hon₁).spanOf hfit) (by decide))
      (computedMetadata_valid hcomputed.1 hcomputed.2 hchunks.1 hchunks.2 (by decide))
  · obtain ⟨hdomain, -, hstart, -⟩ := hd
    exact ⟨hdomain.configured.onward (hon₁.trans hon₂), hdomain.trace,
      hpreempted.ordered hon₂ (hstart.onward hon₁)⟩
  · exact (hd.1.onward (hon₁.trans (hon₂.trans hon₃))).draft
      (show ("requeued", "engine_core") ∈ bridgeEvents by decide)
      (.opening ((hs.onward (hon₂.trans hon₃)).spanOf hfit) (by decide))
      (noMetadata_valid (.bare (by decide) (by decide) (by decide)))
  · exact ⟨hd.1.configured.onward (hon₁.trans (hon₂.trans (hon₃.trans hon₄))), hd.1.trace,
      hrequeued.ordered hon₄ ((hpreempted.issued hon₂).onward hon₃)⟩
  · exact ⟨(hpreempted.issued hon₂).onward (hon₃.trans (hon₄.trans hon₅)),
      hrequeued.begun hon₄ hon₅ (hs.onward (hon₂.trans (hon₃.trans hon₄))) rfl rfl⟩

theorem emitAdmission_sends {episode : EmittedBaseEpisode} (he : EpisodeSound h epoch episode)
    (identity : RequestLifecycleIdentity) (ts : Int) :
    Emit.Sends (emitAdmission identity episode epoch ts) h (InDomain h identity epoch ts)
      fun r h' => Issued h' r.1.recordId ∧ Drawn h' r.2 := by
  refine .bind (.newSpanId fun s h₁ hon₁ hs => .bind (.emitEvent (fun hd hfit => ?_)
    fun emitted h₂ hon₂ hnew => .bind (.emitEdge (fun hd => ?_) fun _ h₃ hon₃ => .pure ?_)))
  · refine (hd.onward hon₁).draft
      (show ("admission_started", "engine_core") ∈ bridgeEvents by decide) ?_
      (noMetadata_valid (.bare (by decide) (by decide) (by decide)))
    refine ⟨fun t ht => ?_, fun t ht => ?_, .inl ⟨by decide, rfl,
      show true = spanStartEvents.contains "admission_started" by decide,
      show true = spanEndEvents.contains "admission_started" by decide⟩⟩
    · cases ht
      exact hs.spanOf hfit
    · cases ht
      exact (he.queueSpan.onward hon₁).spanOf hfit
  · exact ⟨hd.configured.onward (hon₁.trans hon₂), hd.trace,
      hnew.ordered hon₂ (he.requeued.onward hon₁)⟩
  · exact ⟨(hnew.issued hon₂).onward hon₃, hs.onward (hon₂.trans hon₃)⟩

theorem emitResumption_sends {started : BaseEventRef} (hstarted : Issued h started.eventId)
    {c : String} (hc : Drawn h c) (identity : RequestLifecycleIdentity)
    (epoch ts total cached toCompute : Int) :
    Emit.Sends (emitResumption identity started c epoch ts total cached toCompute) h
      (InDomain h identity epoch ts ∧ 0 ≤ cached ∧ cached < total ∧ total ≤ uint64Max ∧
        toCompute = total - cached) fun r h' => Issued h' r.recordId := by
  refine .bind (.emitEvent (fun hd hfit => ?_) fun emitted h₁ hon₁ hnew =>
    .bind (.emitEdge (fun hd => ?_) fun _ h₂ hon₂ => .pure ?_))
  · obtain ⟨hdomain, hcached, hlt, hle, rfl⟩ := hd
    exact hdomain.draft (show ("resumed", "engine_core") ∈ bridgeEvents by decide)
      (.ending (hc.spanOf hfit) (by decide)) (promptMetadata_valid hcached hlt hle (by decide))
  · exact ⟨hd.1.configured.onward hon₁, hd.1.trace, hnew.ordered hon₁ hstarted⟩
  · exact (hnew.issued hon₁).onward hon₂

/-- The end of a computation. -/
theorem done_valid {h : Hooks} {identity : RequestLifecycleIdentity} {epoch ts : Int}
    (hd : InDomain h identity epoch ts) (hfit : SequencesFit h) {kind s : String}
    (hkind : IsComputeKind kind) (hs : Drawn h s) {computed chunks : Int}
    (hcomputed : InUint uint64Max computed) (hchunks : 1 ≤ chunks ∧ chunks ≤ uint64Max) :
    Configured h ∧ EngineDraft h.processUuid { engineDraft identity s!"{kind}_done" ts epoch with
      endSpanId := some s
      metadata := some (if kind = "prefill" then computedMetadata computed chunks else []) } := by
  rcases hkind with rfl | rfl
  · exact hd.draft (show ("prefill_done", "engine_core") ∈ bridgeEvents by decide)
      (.ending (hs.spanOf hfit) (by decide))
      (computedMetadata_valid hcomputed.1 hcomputed.2 hchunks.1 hchunks.2 (by decide))
  · exact hd.draft (show ("decode_done", "engine_core") ∈ bridgeEvents by decide)
      (.ending (hs.spanOf hfit) (by decide))
      ⟨[], by rw [if_neg (by decide)]; rfl, .bare (by decide) (by decide) (by decide) []⟩

theorem emitCompletion_sends {state : RuntimeRequestState} (hs : StateSound h state)
    {cause : String} (hcause : cause ∈ bridgeCauses) (ts generated : Int) :
    Emit.Sends (emitCompletion state cause ts generated) h
      (Configured h ∧ InUint uint64Max ts ∧ generated ≤ uint64Max ∧
        state.prefillChunkCount ≤ uint64Max) fun _ _ => True := by
  refine .bind (.orNone fun started hstarted => .bind (.orNone fun s hspan =>
    .bind (.orNone fun kind _ => .require_bind fun hrequire => ?_)))
  simp only [Bool.and_eq_true, decide_eq_true_eq, Bool.or_eq_true, beq_iff_eq] at hrequire
  obtain ⟨hpos, hkind⟩ := hrequire
  refine .bind (.emitEvent (fun hd hfit => done_valid (hs.inDomain hd.1 hd.2.1) hfit hkind
    (hs.activeSpan s hspan) hs.computed (chunks_bounds hd.2.2.2)) fun completed h₁ hon₁ hdone =>
      .bind (.emitEvent (fun hd hfit => ?_) fun emitted h₂ hon₂ hnew => ?_))
  · exact ((hs.inDomain hd.1 hd.2.1).onward hon₁).draft
      (show ("generation_done", "engine_core") ∈ bridgeEvents by decide)
      ⟨nofun, nofun, .inl ⟨by decide, rfl,
        show false = spanStartEvents.contains "generation_done" by decide,
        show false = spanEndEvents.contains "generation_done" by decide⟩⟩
      (completionMetadata_valid hcause hpos hd.2.2.1)
  · refine .bind (.attempt (.emitEdge (fun hd => ?_) fun first h₃ hon₃ => ?_) fun h₃ hon₃ => ?_)
    · exact ⟨hd.1.onward (hon₁.trans hon₂), hs.queue.trace,
        (hdone.ordered hon₁ (hs.activeStarted started hstarted)).onward hon₂⟩
    all_goals
      refine .bind (.attempt (.emitEdge (fun hd => ?_) fun second h₄ hon₄ => ?_)
        fun h₄ hon₄ => ?_)
      · exact ⟨hd.1.onward (hon₁.trans (hon₂.trans hon₃)), hs.queue.trace,
          (hnew.ordered hon₂ (hdone.issued hon₁)).onward hon₃⟩
      all_goals exact .bind (.orNone fun _ _ => .bind (.orNone fun _ _ => .pure trivial))

/-- The names and causes of abnormal terminals. -/
theorem abnormal_of_terminalEvent {cause eventName : String}
    (h : terminalEvent cause = some eventName) : cause ∈ bridgeCauses ∧
      (eventName ≠ "generation_done" → (eventName, "engine_core") ∈ bridgeEvents ∧
        abnormalTerminals.contains eventName = true ∧ ∀ items, MetadataFor eventName items) := by
  unfold terminalEvent at h
  split at h
  all_goals cases h
  · exact ⟨by decide, fun hne => absurd rfl hne⟩
  all_goals
    exact ⟨by decide, fun _ => ⟨by decide, by decide, .bare (by decide) (by decide) (by decide)⟩⟩

theorem emitAbnormal_sends {state : RuntimeRequestState} (hs : StateSound h state)
    {cause eventName : String} (hevent : terminalEvent cause = some eventName)
    (hne : eventName ≠ "generation_done") (ts : Int) :
    Emit.Sends (emitAbnormal state eventName cause ts) h (Configured h ∧ InUint uint64Max ts)
      fun _ _ => True := by
  obtain ⟨hcause, habnormal⟩ := abnormal_of_terminalEvent hevent
  obtain ⟨hknown, hterminal, hmetadata⟩ := habnormal hne
  have hspan : Drawn h (state.activeSpanId.getD state.queueSpanId) := by
    cases hactive : state.activeSpanId with
    | none => exact hs.queue.span
    | some s => exact hs.activeSpan s hactive
  have hstarted : Issued h (state.activeStarted.getD state.queueStarted).eventId := by
    cases hactive : state.activeStarted with
    | none => exact hs.queue.started
    | some started => exact hs.activeStarted started hactive
  refine .bind (.emitEvent (fun hd hfit => ?_) fun emitted h₁ hon₁ hnew =>
    .bind (.emitEdge (fun hd => ?_) fun _ h₂ hon₂ => .pure trivial))
  · exact (hs.inDomain hd.1 hd.2).draft hknown
      ⟨nofun, nofun, .inr ⟨hterminal, rfl, rfl, _, rfl, hspan.spanOf hfit⟩⟩
      (causeMetadata_valid hcause hmetadata)
  · exact ⟨hd.1.onward hon₁, hs.queue.trace, hnew.ordered hon₁ hstarted⟩

end Bridge

end LifecycleProfiler.Runtime
