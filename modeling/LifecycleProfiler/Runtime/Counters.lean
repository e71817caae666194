import LifecycleProfiler.Runtime.Linearity

/-! # Prefill counters

The bridge starts the token counter of an epoch at the cached prefix and adds
what each chunk schedules, so `prefill_done` reports the tokens the prefix and
the chunks cover together. The counter of the chunks is exact. -/

namespace LifecycleProfiler.Runtime
open Python Protocol

/-! ## Accepted events -/

/-- The metadata of the record of an accepted event of this name. -/
def Emission.metadataOf (eventName : String) : Emission → Option Dict
  | .event _ _ record =>
    match record.get "metadata" with
    | .dict metadata =>
      if (record.get "event_name").pyEq (.str eventName) then some metadata else none
    | _ => none
  | _ => none

def metadataOf (eventName : String) (log : List Emission) : List Dict :=
  log.filterMap (Emission.metadataOf eventName)

theorem metadataOf_append (eventName : String) (log more : List Emission) :
    metadataOf eventName (log ++ more) = metadataOf eventName log ++ metadataOf eventName more :=
  List.filterMap_append

/-- A sequence that returned a result went through each of its calls. -/
theorem Emit.bind_some {α β : Type} {m : Emit α} {f : α → Emit β} {h h'' : Hooks} {b : β}
    (hb : (m >>= f) h = (some b, h'')) : ∃ a h', m h = (some a, h') ∧ f a h' = (some b, h'') := by
  change Emit.bind m f h = _ at hb
  unfold Emit.bind at hb
  rcases hm : m h with ⟨_ | a, h'⟩
  · rw [hm] at hb
    cases hb
  · rw [hm] at hb
    exact ⟨a, h', rfl, hb⟩

/-- The record of an accepted event is the one of its draft. -/
theorem acceptedEvent_ok {h : Hooks} {draft : EventDraft} {observedNs : Nat} {record : Dict}
    {ref : RecordRef} (ha : acceptedEvent h draft observedNs = .ok (record, ref)) :
    ∃ timestampNs, record = eventRecord draft h.processUuid h.clockDomainId h.nextRecordSeq
      timestampNs := by
  unfold acceptedEvent at ha
  simp only [bind_eq_ok, pure_eq_ok] at ha
  obtain ⟨built, hbuilt, _, _, hpair⟩ := ha
  obtain ⟨rfl, rfl⟩ := Prod.mk.injEq .. ▸ hpair
  unfold buildEventRecord at hbuilt
  simp only [bind_eq_ok, pure_eq_ok] at hbuilt
  obtain ⟨_, _, _, _, _, _, _, _, rfl⟩ := hbuilt
  exact ⟨_, rfl⟩

theorem emitEvent_some {draft : EventDraft} {h h' : Hooks} {ref : RecordRef}
    (he : emitEvent draft h = (some ref, h')) :
    ∃ record, h'.log = h.log ++ [.event draft ref record] ∧
      ∃ timestampNs, record = eventRecord draft h.processUuid h.clockDomainId h.nextRecordSeq
        timestampNs := by
  unfold emitEvent at he
  split at he
  · cases he
  · split at he
    · cases he
    · next record ref' haccepted =>
      cases he
      exact ⟨record, rfl, acceptedEvent_ok haccepted⟩

/-- The events recorded between two states of the hooks, by name. -/
def Records (h h' : Hooks) (recorded : String → List Dict) : Prop :=
  ∃ more, h'.log = h.log ++ more ∧ ∀ eventName, metadataOf eventName more = recorded eventName

theorem Records.trans {h h' h'' : Hooks} {first second : String → List Dict}
    (hf : Records h h' first) (hs : Records h' h'' second) :
    Records h h'' fun eventName => first eventName ++ second eventName := by
  obtain ⟨more, hlog, hmore⟩ := hf
  obtain ⟨rest, hlog', hrest⟩ := hs
  refine ⟨more ++ rest, by rw [hlog', hlog, List.append_assoc], fun eventName => ?_⟩
  rw [metadataOf_append, hmore, hrest]

theorem Records.congr {h h' : Hooks} {recorded recorded' : String → List Dict}
    (hr : Records h h' recorded) (heq : ∀ eventName, recorded eventName = recorded' eventName) :
    Records h h' recorded' := by
  obtain ⟨more, hlog, hmore⟩ := hr
  exact ⟨more, hlog, fun eventName => (hmore eventName).trans (heq eventName)⟩

/-- What a draft records under a name. -/
def recordOf (draft : EventDraft) (eventName : String) : List Dict :=
  if draft.eventName = eventName then [draft.metadata.getD []] else []

theorem records_emitEvent {draft : EventDraft} {h h' : Hooks} {ref : RecordRef}
    (he : emitEvent draft h = (some ref, h')) : Records h h' (recordOf draft) := by
  obtain ⟨record, hlog, timestampNs, rfl⟩ := emitEvent_some he
  refine ⟨_, hlog, fun eventName => ?_⟩
  have hname : (eventRecord draft h.processUuid h.clockDomainId h.nextRecordSeq timestampNs).get
      "event_name" = .str draft.eventName := rfl
  have hmetadata : (eventRecord draft h.processUuid h.clockDomainId h.nextRecordSeq
      timestampNs).get "metadata" = .dict (draft.metadata.getD []) := rfl
  simp only [metadataOf, List.filterMap_cons, List.filterMap_nil, Emission.metadataOf, hname,
    hmetadata, Value.pyEq_str, Value.str.injEq, recordOf]
  by_cases hn : draft.eventName = eventName
  · simp only [if_pos hn]
  · simp only [if_neg hn]

theorem records_newSpanId (h : Hooks) : Records h (newSpanId h).2 fun _ => [] := by
  unfold newSpanId
  split
  · exact ⟨[.refused], rfl, fun _ => rfl⟩
  · exact ⟨[.span _], rfl, fun _ => rfl⟩

theorem records_emitEdge (draft : EdgeDraft) (h : Hooks) :
    Records h (emitEdge draft h).2 fun _ => [] := by
  unfold emitEdge
  split
  · exact ⟨[.refused], rfl, fun _ => rfl⟩
  · split
    · exact ⟨[.refused], rfl, fun _ => rfl⟩
    · exact ⟨[.edge draft _ _], rfl, fun _ => rfl⟩

/-- Both events of a phase change are recorded when it returns a result. -/
theorem records_closeAndStart {identity : RequestLifecycleIdentity} {fromId : String}
    {closing : EventDraft} {starting : String → EventDraft} {h h' : Hooks}
    {result : RecordRef × String}
    (hc : Bridge.closeAndStart identity fromId closing starting h = (some result, h')) :
    Records h h' fun eventName =>
      recordOf closing eventName ++ recordOf (starting result.2) eventName := by
  unfold Bridge.closeAndStart at hc
  obtain ⟨closed, h₁, hclosed, hc⟩ := Emit.bind_some hc
  obtain ⟨drawn, h₂, hdrawn, hc⟩ := Emit.bind_some hc
  obtain ⟨completed, h₃, hcompleted, hc⟩ := Emit.bind_some hc
  obtain ⟨spanId, h₄, hspan, hc⟩ := Emit.bind_some hc
  obtain ⟨started, h₅, hstarted, hc⟩ := Emit.bind_some hc
  obtain ⟨_, h₆, hfirst, hc⟩ := Emit.bind_some hc
  obtain ⟨_, h₇, hsecond, hc⟩ := Emit.bind_some hc
  cases hc
  obtain ⟨rfl, rfl⟩ : closed = some completed ∧ h₂ = h₃ := Prod.mk.inj hcompleted
  obtain ⟨rfl, rfl⟩ : drawn = some spanId ∧ h₂ = h₄ := Prod.mk.inj hspan
  have hevent : emitEvent closing h = (some completed, h₁) := by
    simpa [Emit.attempt, Prod.ext_iff] using hclosed
  have hspans : Records h₁ h₂ fun _ => [] := by
    have hdrawn' : (newSpanId h₁).2 = h₂ := (Prod.mk.inj hdrawn).2
    exact hdrawn' ▸ records_newSpanId h₁
  have hedges : Records h₅ h' fun _ => [] := by
    have first := hfirst ▸ records_emitEdge _ h₅
    have second := hsecond ▸ records_emitEdge _ h₆
    exact (first.trans second).congr fun _ => rfl
  refine (((records_emitEvent hevent).trans hspans).trans
    ((records_emitEvent hstarted).trans hedges)).congr fun eventName => ?_
  simp only [List.append_nil]

/-! ## Calls of other requests -/

/-- The request a call is about. -/
def Call.request : Call → String
  | .registerRequest identity => identity.runtimeRequestId
  | .registerRuntimeRequest _ rid _ => rid
  | .emitRuntimeScheduled rid .. => rid
  | .emitRuntimePreempted rid .. => rid
  | .emitPreemptedAndRequeued rid .. => rid
  | .emitAdmissionStarted rid .. => rid
  | .emitResumed rid .. => rid
  | .emitRuntimeResumed rid .. => rid
  | .emitFirstCompute rid .. => rid
  | .requestTerminal rid => rid
  | .emitRuntimeTerminal rid .. => rid

namespace Bridge
variable {rid other : String}

theorem setState_other (b : Bridge) (hooks : Hooks) (state : RuntimeRequestState)
    (hne : other ≠ rid) :
    (b.setState rid hooks state).runtimeStates.get other = b.runtimeStates.get other :=
  Mapping.get_set_ne hne

theorem scheduleActive_other (b : Bridge) (state : RuntimeRequestState) (active : BaseEventRef)
    (ts : Int) (kind : String) (scheduled total : Int) (hne : other ≠ rid) :
    (b.scheduleActive rid state active ts kind scheduled total).1.runtimeStates.get other =
      b.runtimeStates.get other := by
  unfold scheduleActive
  split
  · exact setState_other b _ _ hne
  · split
    · split
      · rfl
      · split
        · rfl
        · exact setState_other b _ _ hne
    · rfl

theorem emitRuntimeScheduled_other (b : Bridge) (ts : Int) (kind : String)
    (scheduled total cached : Int) (hne : other ≠ rid) :
    (b.emitRuntimeScheduled rid ts kind scheduled total cached).1.runtimeStates.get other =
      b.runtimeStates.get other := by
  unfold emitRuntimeScheduled
  split
  · rfl
  · split
    · rfl
    · simp only
      split
      · exact scheduleActive_other b _ _ _ _ _ _ hne
      · split
        · rfl
        · exact setState_other b _ _ hne

theorem emitPreemptedAndRequeued_states (b : Bridge) (rid : String) (epoch ts : Int)
    (startId spanId : String) (computed chunks : Int) :
    (b.emitPreemptedAndRequeued rid epoch ts startId spanId computed chunks).1.runtimeStates =
      b.runtimeStates := by
  unfold emitPreemptedAndRequeued
  split
  · rfl
  · split
    · rfl
    · split <;> rfl

theorem emitRuntimePreempted_other (b : Bridge) (epoch ts : Int) (hne : other ≠ rid) :
    (b.emitRuntimePreempted rid epoch ts).1.runtimeStates.get other =
      b.runtimeStates.get other := by
  unfold emitRuntimePreempted
  split
  · rfl
  · next state _ =>
    split
    · next active spanId _ _ =>
      have hstates := emitPreemptedAndRequeued_states b rid epoch ts active.eventId spanId
        state.promptTokensComputed (max 1 state.prefillChunkCount)
      split
      · next b' heq =>
        rw [heq] at hstates
        exact congrArg (Mapping.get · other) hstates
      · next b' result heq =>
        rw [heq] at hstates
        refine Eq.trans ?_ (congrArg (Mapping.get · other) hstates)
        unfold requeue
        split
        · exact setState_other b' _ _ hne
        · rfl
    · rfl

theorem emitResumed_states (b : Bridge) (rid : String) (epoch ts total cached toCompute : Int) :
    (b.emitResumed rid epoch ts total cached toCompute).1.runtimeStates = b.runtimeStates := by
  unfold emitResumed
  split
  · split
    · split <;> rfl
    · rfl
  · rfl

theorem emitRuntimeResumed_other (b : Bridge) (epoch ts total cached : Int)
    (hne : other ≠ rid) :
    (b.emitRuntimeResumed rid epoch ts total cached).1.runtimeStates.get other =
      b.runtimeStates.get other := by
  unfold emitRuntimeResumed
  split
  · rfl
  · have hstates := emitResumed_states b rid epoch ts total (min (max 0 cached) (total - 1))
      (total - min (max 0 cached) (total - 1))
    simp only
    split
    · next b' heq =>
      rw [heq] at hstates
      exact congrArg (Mapping.get · other) hstates
    · next b' result heq =>
      rw [heq] at hstates
      refine Eq.trans ?_ (congrArg (Mapping.get · other) hstates)
      unfold setTokens
      split
      · exact setState_other b' _ _ hne
      · rfl

theorem emitFirstCompute_other (b : Bridge) (epoch ts : Int) (kind : String)
    (hne : other ≠ rid) :
    (b.emitFirstCompute rid epoch ts kind).1.runtimeStates.get other =
      b.runtimeStates.get other := by
  unfold emitFirstCompute
  split
  · split
    · rfl
    · split
      · rfl
      · split
        · rfl
        · unfold activate
          simp only
          split
          · exact setState_other _ _ _ hne
          · rfl
  · rfl

theorem requestTerminal_other (b : Bridge) (hne : other ≠ rid) :
    (b.requestTerminal rid).runtimeStates.get other = b.runtimeStates.get other := by
  unfold requestTerminal
  rw [Mapping.get_pop, if_neg hne]

/-- A call leaves the state of every other request alone. -/
theorem call_other (sha256 : Bytes → String) (b : Bridge) {c : Call} (hne : other ≠ c.request) :
    (b.call sha256 c).runtimeStates.get other = b.runtimeStates.get other := by
  cases c with
  | registerRequest identity =>
    change (b.registerRequest identity).1.runtimeStates.get other = _
    unfold registerRequest
    split
    · rfl
    · split <;> rfl
  | registerRuntimeRequest runId rid ts =>
    change (b.registerRuntimeRequest sha256 runId rid ts).1.runtimeStates.get other = _
    unfold registerRuntimeRequest
    split
    · rfl
    · simp only
      split
      · rfl
      · split
        · rfl
        · split
          · rfl
          · exact Mapping.get_set_ne hne
  | emitRuntimeScheduled rid ts kind scheduled total cached =>
    exact emitRuntimeScheduled_other b ts kind scheduled total cached hne
  | emitRuntimePreempted rid epoch ts => exact emitRuntimePreempted_other b epoch ts hne
  | emitPreemptedAndRequeued rid epoch ts startId spanId computed chunks =>
    exact congrArg (Mapping.get · other)
      (emitPreemptedAndRequeued_states b rid epoch ts startId spanId computed chunks)
  | emitAdmissionStarted rid epoch ts =>
    change (b.emitAdmissionStarted rid epoch ts).1.runtimeStates.get other = _
    unfold emitAdmissionStarted
    split
    · split
      · rfl
      · split <;> rfl
    · rfl
  | emitResumed rid epoch ts total cached toCompute =>
    exact congrArg (Mapping.get · other) (emitResumed_states b rid epoch ts total cached toCompute)
  | emitRuntimeResumed rid epoch ts total cached =>
    exact emitRuntimeResumed_other b epoch ts total cached hne
  | emitFirstCompute rid epoch ts kind => exact emitFirstCompute_other b epoch ts kind hne
  | requestTerminal rid => exact requestTerminal_other b hne
  | emitRuntimeTerminal rid cause ts generated =>
    change (b.emitRuntimeTerminal rid cause ts generated).1.runtimeStates.get other = _
    unfold emitRuntimeTerminal
    split
    · exact requestTerminal_other _ hne
    · rfl

end Bridge

/-! ## The chunks of a prefill -/

theorem Records.emissions {b b' : Bridge} {recorded : String → List Dict}
    (hr : Records b.hooks b'.hooks recorded) (eventName : String) :
    metadataOf eventName (b.emissions b') = recorded eventName := by
  obtain ⟨more, hlog, hmore⟩ := hr
  rw [Bridge.emissions, hlog, List.drop_left, hmore]

/-- The request is registered and waits to be scheduled. -/
def Bridge.Queued (b : Bridge) (rid : String) : Prop :=
  ∃ state, b.runtimeStates.get rid = some state ∧ state.activeStarted = none

/-- The request is scheduled for prefill chunks of the listed sizes, with what
the bridge emits for them. Calls about other requests come in between. -/
inductive PrefillRun (sha256 : Bytes → String) (rid : String) (total cached : Int) (b : Bridge) :
    List Int → List Emission → Bridge → Prop
  | queued : PrefillRun sha256 rid total cached b [] [] b
  | other {sizes : List Int} {emitted : List Emission} {b' : Bridge} (c : Call) :
      PrefillRun sha256 rid total cached b sizes emitted b' → rid ≠ c.request →
      PrefillRun sha256 rid total cached b sizes emitted (b'.call sha256 c)
  | chunk {sizes : List Int} {emitted : List Emission} {b' b'' : Bridge} (ts size : Int) :
      PrefillRun sha256 rid total cached b sizes emitted b' → 1 ≤ size →
      b'.emitRuntimeScheduled rid ts "prefill" size total cached = (b'', true) →
      PrefillRun sha256 rid total cached b (sizes ++ [size]) (emitted ++ b'.emissions b'') b''

/-- The prefill ends, by a decode step or by normal completion. -/
inductive PrefillEnd (rid : String) (total cached : Int) (b : Bridge) : Bridge → Prop
  | decode {b' : Bridge} (ts scheduled : Int) :
      b.emitRuntimeScheduled rid ts "decode" scheduled total cached = (b', true) →
      PrefillEnd rid total cached b b'
  | complete {b' : Bridge} (ts generated : Int) (result : BaseEventRef) :
      b.emitRuntimeTerminal rid "complete" ts generated = (b', some result) →
      PrefillEnd rid total cached b b'

/-- One `scheduled` and one `prefill_done` event agree on the computed tokens,
and the latter counts the chunks. -/
def Reconciles (log : List Emission) (chunks : Nat) : Prop :=
  ∃ scheduled done, metadataOf "scheduled" log = [scheduled] ∧
    metadataOf "prefill_done" log = [done] ∧
    done.get "prompt_tokens_computed" = scheduled.get "prompt_tokens_to_compute" ∧
    done.get "prefill_chunk_count" = .int chunks

namespace Bridge
variable {b b' : Bridge} {rid kind : String} {state : RuntimeRequestState}
  {ts scheduled total cached : Int}

theorem scheduled_of_queued (hstate : b.runtimeStates.get rid = some state)
    (hqueued : state.activeStarted = none)
    (hs : b.emitRuntimeScheduled rid ts kind scheduled total cached = (b', true)) :
    ∃ started spanId hooks,
      emitScheduledAndStarted state ts kind total (min (max 0 cached) (total - 1)) b.hooks =
        (some (started, spanId), hooks) ∧
      b' = b.setState rid hooks { state with
        activeStarted := some ⟨started.recordId, ts⟩
        activeSpanId := some spanId
        activeComputeKind := some kind
        promptTokensComputed := min total (min (max 0 cached) (total - 1) + scheduled)
        prefillChunkCount := if kind = "prefill" then 1 else 0 } := by
  unfold emitRuntimeScheduled at hs
  rw [hstate] at hs
  simp only [hqueued] at hs
  split at hs
  · cases hs
  · split at hs
    · cases hs
    · next started spanId hooks hemitted =>
      cases hs
      exact ⟨started, spanId, hooks, hemitted, rfl⟩

theorem scheduled_of_active {active : BaseEventRef} (hstate : b.runtimeStates.get rid = some state)
    (hactive : state.activeStarted = some active)
    (hs : b.emitRuntimeScheduled rid ts kind scheduled total cached = (b', true)) :
    b.scheduleActive rid state active ts kind scheduled total = (b', true) := by
  unfold emitRuntimeScheduled at hs
  rw [hstate] at hs
  simp only [hactive] at hs
  split at hs
  · cases hs
  · exact hs

/-- A decode step that is accepted during a prefill reports its counters. -/
theorem switched_to_decode {active : BaseEventRef} (hstate : b.runtimeStates.get rid = some state)
    (hactive : state.activeStarted = some active) (hkind : state.activeComputeKind = some "prefill")
    (hs : b.emitRuntimeScheduled rid ts "decode" scheduled total cached = (b', true)) :
    Records b.hooks b'.hooks fun eventName =>
      if "prefill_done" = eventName then
        [computedMetadata state.promptTokensComputed (max 1 state.prefillChunkCount)]
      else if "decode_started" = eventName then [[]] else [] := by
  have hs := scheduled_of_active hstate hactive hs
  unfold scheduleActive at hs
  rw [hkind, if_neg (by decide), if_pos ⟨rfl, rfl⟩] at hs
  split at hs
  · cases hs
  · split at hs
    · cases hs
    · next spanId _ _ _ _ _ hemitted =>
      cases hs
      refine (records_closeAndStart hemitted).congr fun eventName => ?_
      by_cases hdone : "prefill_done" = eventName
      · subst hdone
        rfl
      · simp [recordOf, engineDraft, hdone]
        rfl

/-- A completion that is accepted during a prefill reports its counters. -/
theorem completed_in_prefill {generated : Int} {result : BaseEventRef}
    (hstate : b.runtimeStates.get rid = some state)
    (hkind : state.activeComputeKind = some "prefill")
    (ht : b.emitRuntimeTerminal rid "complete" ts generated = (b', some result)) :
    Records b.hooks b'.hooks fun eventName =>
      if "prefill_done" = eventName then
        [computedMetadata state.promptTokensComputed (max 1 state.prefillChunkCount)]
      else if "generation_done" = eventName then
        [[("terminal_cause", .str "complete"), ("generated_tokens_total", .int generated)]]
      else [] := by
  obtain ⟨ns, hns⟩ : ∃ ns, asUint uint64Max (.int ts) = some ns := by
    unfold emitRuntimeTerminal at ht
    split at ht
    · next _ _ _ _ hns _ => exact ⟨_, hns⟩
    · cases ht
  have hcompletion : ∃ hooks, emitCompletion state "complete" ts generated b.hooks =
      (some result, hooks) ∧ b'.hooks = hooks := by
    unfold emitRuntimeTerminal at ht
    rw [hns, hstate] at ht
    obtain ⟨rfl, hresult⟩ := Prod.mk.inj ht
    exact ⟨_, Prod.ext hresult rfl, rfl⟩
  obtain ⟨hooks, hcompletion, hooks_eq⟩ := hcompletion
  rw [hooks_eq]
  unfold emitCompletion at hcompletion
  obtain ⟨started, h₁, hstarted, hcompletion⟩ := Emit.bind_some hcompletion
  obtain ⟨spanId, h₂, hspan, hcompletion⟩ := Emit.bind_some hcompletion
  obtain ⟨activeKind, h₃, hactiveKind, hcompletion⟩ := Emit.bind_some hcompletion
  obtain ⟨_, h₄, hrequired, hcompletion⟩ := Emit.bind_some hcompletion
  obtain ⟨completed, h₅, hcompleted, hcompletion⟩ := Emit.bind_some hcompletion
  obtain ⟨emitted, h₆, hemitted, hcompletion⟩ := Emit.bind_some hcompletion
  obtain ⟨first, h₇, hfirst, hcompletion⟩ := Emit.bind_some hcompletion
  obtain ⟨second, h₈, hsecond, hcompletion⟩ := Emit.bind_some hcompletion
  obtain ⟨_, h₉, hboth, hcompletion⟩ := Emit.bind_some hcompletion
  obtain ⟨_, h₁₀, hboth', hcompletion⟩ := Emit.bind_some hcompletion
  cases hcompletion
  obtain ⟨-, rfl⟩ : state.activeStarted = some started ∧ b.hooks = h₁ := Prod.mk.inj hstarted
  obtain ⟨-, rfl⟩ : state.activeSpanId = some spanId ∧ b.hooks = h₂ := Prod.mk.inj hspan
  obtain ⟨hkind', rfl⟩ : state.activeComputeKind = some activeKind ∧ b.hooks = h₃ :=
    Prod.mk.inj hactiveKind
  obtain ⟨-, rfl⟩ := Prod.mk.inj hrequired
  obtain ⟨-, rfl⟩ : first = _ ∧ h₈ = h₉ := Prod.mk.inj hboth
  obtain ⟨-, rfl⟩ : second = _ ∧ h₈ = hooks := Prod.mk.inj hboth'
  obtain rfl : activeKind = "prefill" := by
    rw [hkind] at hkind'
    exact (Option.some.inj hkind').symm
  have hedges : Records h₆ h₈ fun _ => [] := by
    have hfirst' : (emitEdge _ h₆).2 = h₇ := (Prod.mk.inj hfirst).2
    have hsecond' : (emitEdge _ h₇).2 = h₈ := (Prod.mk.inj hsecond).2
    have firstEdge := hfirst' ▸ records_emitEdge _ h₆
    have secondEdge := hsecond' ▸ records_emitEdge _ h₇
    exact (firstEdge.trans secondEdge).congr fun _ => rfl
  refine ((records_emitEvent hcompleted).trans
    ((records_emitEvent hemitted).trans hedges)).congr fun eventName => ?_
  by_cases hdone : "prefill_done" = eventName
  · subst hdone
    rfl
  · have hname : toString "prefill" ++ toString "_done" = "prefill_done" := by decide
    dsimp only [recordOf, engineDraft]
    rw [hname, if_neg hdone, if_neg hdone, List.nil_append, List.append_nil]
    rfl

end Bridge

/-- The counters of a request after at least one chunk. -/
structure Counted (rid : String) (total cached : Int) (b : Bridge) (sizes : List Int)
    (emitted : List Emission) : Prop where
  active : ∃ state active, b.runtimeStates.get rid = some state ∧
    state.activeStarted = some active ∧ state.activeComputeKind = some "prefill" ∧
    state.promptTokensComputed = min total (cached + sizes.sum) ∧
    state.prefillChunkCount = sizes.length
  scheduled : metadataOf "scheduled" emitted = [promptMetadata total cached (total - cached)]
  unfinished : metadataOf "prefill_done" emitted = []

theorem Counted.start {b b' : Bridge} {rid : String} {total cached ts size : Int}
    (hq : b.Queued rid) (hcached : 0 ≤ cached) (htotal : cached < total)
    (hs : b.emitRuntimeScheduled rid ts "prefill" size total cached = (b', true)) :
    Counted rid total cached b' [size] (b.emissions b') := by
  obtain ⟨state, hstate, hqueued⟩ := hq
  obtain ⟨started, spanId, hooks, hemitted, rfl⟩ := Bridge.scheduled_of_queued hstate hqueued hs
  have hclamp : min (max 0 cached) (total - 1) = cached := by omega
  rw [hclamp] at hemitted ⊢
  have hrecords : Records b.hooks hooks _ := records_closeAndStart hemitted
  have hname : toString "prefill" ++ toString "_started" = "prefill_started" := by decide
  refine ⟨⟨_, ⟨started.recordId, ts⟩, Mapping.get_set_self .., rfl, rfl, ?_, rfl⟩, ?_, ?_⟩
  · simp
  · rw [Records.emissions hrecords]
    simp [recordOf, engineDraft, hname]
  · rw [Records.emissions hrecords]
    simp [recordOf, engineDraft, hname]

theorem Counted.chunk {b b' : Bridge} {rid : String} {total cached ts size : Int}
    {sizes : List Int} {emitted : List Emission} (h : Counted rid total cached b sizes emitted)
    (hsize : 1 ≤ size)
    (hs : b.emitRuntimeScheduled rid ts "prefill" size total cached = (b', true)) :
    Counted rid total cached b' (sizes ++ [size]) (emitted ++ b.emissions b') := by
  obtain ⟨state, active, hstate, hactive, hkind, hcomputed, hchunks⟩ := h.active
  have hs := Bridge.scheduled_of_active hstate hactive hs
  unfold Bridge.scheduleActive at hs
  rw [if_pos hkind] at hs
  obtain ⟨rfl, -⟩ := Prod.mk.inj hs
  have hquiet : b.emissions (b.setState rid b.hooks
      (Bridge.countTokens state "prefill" total size)) = [] := List.drop_length
  rw [hquiet, List.append_nil]
  refine ⟨⟨_, active, Mapping.get_set_self .., hactive, hkind, ?_, ?_⟩, h.scheduled, h.unfinished⟩
  · simp only [Bridge.countTokens, hcomputed, List.sum_append, List.sum_singleton]
    omega
  · simp [Bridge.countTokens, hchunks]

/-- What the chunks so far left behind: nothing, or their counters. -/
theorem PrefillRun.counted {sha256 : Bytes → String} {b b' : Bridge} {rid : String}
    {total cached : Int} {sizes : List Int} {emitted : List Emission}
    (hr : PrefillRun sha256 rid total cached b sizes emitted b') (hq : b.Queued rid)
    (hcached : 0 ≤ cached) (htotal : cached < total) :
    (sizes = [] ∧ emitted = [] ∧ b'.Queued rid) ∨ Counted rid total cached b' sizes emitted := by
  induction hr with
  | queued => exact .inl ⟨rfl, rfl, hq⟩
  | @other sizes emitted b' c _ hother ih =>
    have hstate := Bridge.call_other sha256 b' hother
    rcases ih with ⟨hsizes, hemitted, hq⟩ | ⟨⟨state, active, hget, h⟩, hscheduled, hdone⟩
    · exact .inl ⟨hsizes, hemitted, hq.imp fun _ h => ⟨hstate.trans h.1, h.2⟩⟩
    · exact .inr ⟨⟨state, active, hstate.trans hget, h⟩, hscheduled, hdone⟩
  | chunk ts size _ hsize hs ih =>
    rcases ih with ⟨rfl, rfl, hq⟩ | h
    · exact .inr (Counted.start hq hcached htotal hs)
    · exact .inr (h.chunk hsize hs)

/-- The end of the prefill reports the counters. -/
theorem Counted.done {b b' : Bridge} {rid : String} {total cached : Int} {sizes : List Int}
    {emitted : List Emission} (h : Counted rid total cached b sizes emitted)
    (hsizes : sizes ≠ []) (he : PrefillEnd rid total cached b b') :
    metadataOf "scheduled" (emitted ++ b.emissions b') =
      [promptMetadata total cached (total - cached)] ∧
    metadataOf "prefill_done" (emitted ++ b.emissions b') =
      [computedMetadata (min total (cached + sizes.sum)) sizes.length] := by
  obtain ⟨state, active, hstate, hactive, hkind, hcomputed, hchunks⟩ := h.active
  have hpositive : 0 < sizes.length := List.length_pos_iff.mpr hsizes
  have hmax : max 1 state.prefillChunkCount = sizes.length := by omega
  have hrecorded : metadataOf "scheduled" (b.emissions b') = [] ∧
      metadataOf "prefill_done" (b.emissions b') =
        [computedMetadata (min total (cached + sizes.sum)) sizes.length] := by
    cases he with
    | decode ts scheduled hs =>
      have hrecords := Bridge.switched_to_decode hstate hactive hkind hs
      rw [hcomputed, hmax] at hrecords
      exact ⟨hrecords.emissions _, hrecords.emissions _⟩
    | complete ts generated result ht =>
      have hrecords := Bridge.completed_in_prefill hstate hkind ht
      rw [hcomputed, hmax] at hrecords
      exact ⟨hrecords.emissions _, hrecords.emissions _⟩
  rw [metadataOf_append, metadataOf_append, h.scheduled, h.unfinished, hrecorded.1, hrecorded.2]
  exact ⟨rfl, rfl⟩

theorem reconciles_iff {log : List Emission} {total cached toCompute computed chunks : Int}
    (hscheduled : metadataOf "scheduled" log = [promptMetadata total cached toCompute])
    (hdone : metadataOf "prefill_done" log = [computedMetadata computed chunks]) (n : Nat) :
    Reconciles log n ↔ computed = toCompute ∧ chunks = n := by
  have hcomputed : (computedMetadata computed chunks).get "prompt_tokens_computed" =
      .int computed := rfl
  have hchunks : (computedMetadata computed chunks).get "prefill_chunk_count" = .int chunks := rfl
  have htoCompute : (promptMetadata total cached toCompute).get "prompt_tokens_to_compute" =
      .int toCompute := rfl
  simp only [Reconciles, hscheduled, hdone, List.cons.injEq, and_true, exists_and_left,
    exists_eq_left', hcomputed, hchunks, htoCompute, Value.int.injEq]

/-- **Prefill counters.** The counters of chunks that cover the prompt agree
with the `scheduled` event exactly when no prefix is cached: the counter of
computed tokens includes the cached ones. -/
theorem prefill_counters_reconcile {sha256 : Bytes → String} {b b' b'' : Bridge} {rid : String}
    {total cached : Int} {sizes : List Int} {emitted : List Emission} (hq : b.Queued rid)
    (hcached : 0 ≤ cached) (htotal : cached < total)
    (hr : PrefillRun sha256 rid total cached b sizes emitted b') (hsizes : sizes ≠ [])
    (hsum : sizes.sum = total - cached) (he : PrefillEnd rid total cached b' b'') :
    Reconciles (emitted ++ b'.emissions b'') sizes.length ↔ cached = 0 := by
  obtain ⟨hnil, -⟩ | hcounted := hr.counted hq hcached htotal
  · exact absurd hnil hsizes
  obtain ⟨hscheduled, hdone⟩ := hcounted.done hsizes he
  rw [reconciles_iff hscheduled hdone]
  omega

namespace Sample

/-- A bridge with one queued request. -/
def registered : Bridge :=
  ((Bridge.start (hooks []) 16).registerRuntimeRequest sha256 runId "request-0" 100).1

/-- The prompt of five tokens is computed in two chunks. -/
def firstChunk : Bridge := (registered.emitRuntimeScheduled "request-0" 110 "prefill" 3 5 0).1
def secondChunk : Bridge := (firstChunk.emitRuntimeScheduled "request-0" 120 "prefill" 2 5 0).1
def decoding : Bridge := (secondChunk.emitRuntimeScheduled "request-0" 130 "decode" 1 5 0).1

/-- Two of its tokens are cached and the rest is one chunk. -/
def suffixChunk : Bridge := (registered.emitRuntimeScheduled "request-0" 110 "prefill" 3 5 2).1
def suffixDecoding : Bridge := (suffixChunk.emitRuntimeScheduled "request-0" 130 "decode" 1 5 2).1

theorem registered_queued : registered.Queued "request-0" := by
  have hqueued : (registered.runtimeStates.get "request-0").any
    (·.activeStarted.isNone) = true := by
    decide +kernel
  rw [Option.any_eq_true] at hqueued
  exact hqueued.imp fun _ h => ⟨h.1, Option.isNone_iff_eq_none.mp h.2⟩

theorem returned_true {result : Bridge × Bool} (h : result.2 = true) : result = (result.1, true) :=
  Prod.ext rfl h

theorem prefillRun : PrefillRun sha256 "request-0" 5 0 registered [3, 2]
    ([] ++ registered.emissions firstChunk ++ firstChunk.emissions secondChunk) secondChunk :=
  .chunk 120 2 (.chunk 110 3 .queued (by decide) (Sample.returned_true (by decide +kernel)))
    (by decide)
    (Sample.returned_true (by decide +kernel))

theorem suffixRun : PrefillRun sha256 "request-0" 5 2 registered [3]
    ([] ++ registered.emissions suffixChunk) suffixChunk :=
  .chunk 110 3 .queued (by decide) (Sample.returned_true (by decide +kernel))

end Sample

theorem prefill_counters_reconcile_uncached :
    Reconciles ([] ++ Sample.registered.emissions Sample.firstChunk ++
      Sample.firstChunk.emissions Sample.secondChunk ++
      Sample.secondChunk.emissions Sample.decoding) 2 :=
  (prefill_counters_reconcile Sample.registered_queued (by decide) (by decide) Sample.prefillRun
    (by decide) (by decide)
    (.decode 130 1 (Sample.returned_true (by decide +kernel)))).mpr rfl

/-- With two cached tokens `prefill_done` reports five computed tokens, where
`scheduled` announced three. -/
theorem cached_prefix_counted_as_computed :
    ¬ ∀ (sha256 : Bytes → String) (b b' b'' : Bridge) (rid : String) (total cached : Int)
      (sizes : List Int) (emitted : List Emission), b.Queued rid → 0 ≤ cached → cached < total →
      PrefillRun sha256 rid total cached b sizes emitted b' → sizes ≠ [] →
      sizes.sum = total - cached → PrefillEnd rid total cached b' b'' →
      Reconciles (emitted ++ b'.emissions b'') sizes.length := by
  intro hclaim
  have hends : PrefillEnd "request-0" 5 2 Sample.suffixChunk Sample.suffixDecoding :=
    .decode 130 1 (Sample.returned_true (by decide +kernel))
  have hreconciles := hclaim Sample.sha256 _ _ _ "request-0" 5 2 [3] _ Sample.registered_queued
    (by decide) (by decide) Sample.suffixRun (by decide) (by decide) hends
  obtain ⟨hnil, -⟩ | hcounted :=
    Sample.suffixRun.counted Sample.registered_queued (by decide) (by decide)
  · cases hnil
  · obtain ⟨hscheduled, hdone⟩ := hcounted.done (by decide) hends
    rw [reconciles_iff hscheduled hdone] at hreconciles
    exact absurd hreconciles.1 (by decide)

end LifecycleProfiler.Runtime
