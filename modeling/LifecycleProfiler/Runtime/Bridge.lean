import LifecycleProfiler.Python.Mapping
import LifecycleProfiler.Runtime.Hooks

/-! # The base lifecycle bridge

`RuntimeBaseLifecycleBridge`: the request and episode state behind the base
events of a request, one definition for each method. A method runs under the
bridge lock, so it is one transition; what it emits before a dropped emission
stays emitted. -/

namespace LifecycleProfiler.Runtime
open Python Protocol

structure RequestLifecycleIdentity where
  traceId : String
  runtimeRequestId : String
  deriving DecidableEq

/-- `engine_lifecycle_id`, which the constructor checks against the trace. -/
def RequestLifecycleIdentity.engineLifecycleId (identity : RequestLifecycleIdentity) : String :=
  s!"{identity.traceId}:e:0"

/-- The ID and the timestamp of an accepted base event. The builder has checked
both. -/
structure BaseEventRef where
  eventId : String
  timestampNs : Int
  deriving DecidableEq

structure EmittedBaseEpisode where
  preempted : BaseEventRef
  requeued : BaseEventRef
  queueSpanId : String
  admissionStarted : Option BaseEventRef := none
  admissionSpanId : Option String := none
  resumed : Option BaseEventRef := none
  firstCompute : Option BaseEventRef := none

structure RuntimeRequestState where
  identity : RequestLifecycleIdentity
  queueStarted : BaseEventRef
  queueSpanId : String
  activeStarted : Option BaseEventRef := none
  activeSpanId : Option String := none
  activeComputeKind : Option String := none
  preemptionEpoch : Int := 0
  promptTokensComputed : Int := 0
  prefillChunkCount : Int := 0

structure Bridge where
  hooks : Hooks
  capacity : Nat
  identities : Mapping String RequestLifecycleIdentity := []
  episodes : Mapping (String × Int) EmittedBaseEpisode := []
  runtimeStates : Mapping String RuntimeRequestState := []

/-! ## Drafts -/

def engineDraft (identity : RequestLifecycleIdentity) (eventName : String)
    (timestampNs epoch : Int) :
    EventDraft where
  traceId := identity.traceId
  lifecycleId := identity.engineLifecycleId
  parentLifecycleId := some s!"{identity.traceId}:r"
  scope := "engine_sample"
  component := "engine_core"
  eventName := eventName
  timestampNs := .int timestampNs
  preemptionEpoch := .int epoch
  sampleIndex := .int 0

def programOrder (identity : RequestLifecycleIdentity) (fromEventId toEventId : String) :
    EdgeDraft :=
  ⟨identity.traceId, fromEventId, toEventId, "program_order", "instrumented_execution_context"⟩

def promptMetadata (total cached toCompute : Int) : Dict :=
  [("prompt_tokens_total", .int total), ("prompt_tokens_cached", .int cached),
   ("prompt_tokens_to_compute", .int toCompute)]

def computedMetadata (computed chunks : Int) : Dict :=
  [("prompt_tokens_computed", .int computed), ("prefill_chunk_count", .int chunks)]

/-! ## Registration -/

/-- `_is_bounded_printable_ascii` -/
def isBoundedPrintableAscii (s : String) (maxBytes : Nat) : Bool :=
  isPrintableAscii s && 1 ≤ s.length && s.length ≤ maxBytes

/-- `text[:n]` -/
def firstChars (n : Nat) (text : String) : String := String.ofList (text.toList.take n)

def requestTraceId (sha256 : Bytes → String) (runId runtimeRequestId : String) : String :=
  firstChars 32 (sha256 (utf8 runId ++ 0 :: utf8 runtimeRequestId))

namespace Bridge

def registerRequest (b : Bridge) (identity : RequestLifecycleIdentity) : Bridge × Bool :=
  match b.identities.get identity.runtimeRequestId with
  | some current => (b, current = identity)
  | none =>
    if b.capacity ≤ b.identities.length then (b, false)
    else ({ b with identities := b.identities.set identity.runtimeRequestId identity }, true)

def emitQueued (identity : RequestLifecycleIdentity) (timestampNs : Int) :
    Emit (RecordRef × String) := do
  let queueSpanId ← newSpanId
  let emitted ← emitEvent { engineDraft identity "queued" timestampNs 0 with
    component := "engine_client", startSpanId := some queueSpanId }
  return (emitted, queueSpanId)

def registerRuntimeRequest (sha256 : Bytes → String) (b : Bridge) (runId runtimeRequestId : String)
    (timestampNs : Int) : Bridge × Bool :=
  if !isBoundedPrintableAscii runtimeRequestId maxRuntimeRequestIdBytes then (b, false)
  else
    let identity := ⟨requestTraceId sha256 runId runtimeRequestId, runtimeRequestId⟩
    match b.runtimeStates.get runtimeRequestId with
    | some current => (b, current.identity = identity)
    | none =>
      if b.capacity ≤ b.identities.length then (b, false)
      else match emitQueued identity timestampNs b.hooks with
        | (none, hooks) => ({ b with hooks := hooks }, false)
        | (some (emitted, queueSpanId), hooks) =>
          ({ b with
              hooks := hooks
              identities := b.identities.set runtimeRequestId identity
              runtimeStates := b.runtimeStates.set runtimeRequestId
                { identity := identity
                  queueStarted := ⟨emitted.recordId, timestampNs⟩
                  queueSpanId := queueSpanId } }, true)

/-! ## Scheduling -/

/-- Close one phase of a request and start the next: both events, then the
edge into the first and the edge between them. The span ID is drawn whether or
not the first event was accepted. -/
def closeAndStart (identity : RequestLifecycleIdentity) (fromEventId : String)
    (closing : EventDraft) (starting : String → EventDraft) : Emit (RecordRef × String) := do
  let completed ← Emit.attempt (emitEvent closing)
  let spanId ← Emit.attempt newSpanId
  let completed ← Emit.orNone completed
  let spanId ← Emit.orNone spanId
  let started ← emitEvent (starting spanId)
  let _ ← emitEdge (programOrder identity fromEventId completed.recordId)
  let _ ← emitEdge (programOrder identity completed.recordId started.recordId)
  return (started, spanId)

/-- `prefill_done` and `decode_started` of a request whose prefill is active. -/
def emitSwitchToDecode (state : RuntimeRequestState) (activeStarted : BaseEventRef)
    (activeSpanId : String) (timestampNs : Int) : Emit (RecordRef × String) :=
  closeAndStart state.identity activeStarted.eventId
    { engineDraft state.identity "prefill_done" timestampNs state.preemptionEpoch with
      endSpanId := some activeSpanId
      metadata := some (computedMetadata state.promptTokensComputed
        (max 1 state.prefillChunkCount)) }
    fun spanId =>
      { engineDraft state.identity "decode_started" timestampNs state.preemptionEpoch with
        startSpanId := some spanId }

/-- `scheduled` and the start of the first compute phase of a queued request. -/
def emitScheduledAndStarted (state : RuntimeRequestState) (timestampNs : Int) (computeKind : String)
    (total cached : Int) : Emit (RecordRef × String) :=
  closeAndStart state.identity state.queueStarted.eventId
    { engineDraft state.identity "scheduled" timestampNs state.preemptionEpoch with
      endSpanId := some state.queueSpanId
      metadata := some (promptMetadata total cached (total - cached)) }
    fun spanId => { engineDraft state.identity s!"{computeKind}_started" timestampNs
        state.preemptionEpoch with
      startSpanId := some spanId }

def setState (b : Bridge) (runtimeRequestId : String) (hooks : Hooks)
    (state : RuntimeRequestState) : Bridge :=
  { b with hooks := hooks, runtimeStates := b.runtimeStates.set runtimeRequestId state }

/-- One more scheduled step of an active request. -/
def countTokens (state : RuntimeRequestState) (computeKind : String) (total scheduled : Int) :
    RuntimeRequestState :=
  { state with
    promptTokensComputed := min total (state.promptTokensComputed + scheduled)
    prefillChunkCount :=
      if computeKind = "prefill" then state.prefillChunkCount + 1 else state.prefillChunkCount }

/-- A scheduled step of a request with an active compute phase. -/
def scheduleActive (b : Bridge) (runtimeRequestId : String) (state : RuntimeRequestState)
    (activeStarted : BaseEventRef) (timestampNs : Int) (computeKind : String)
    (scheduled total : Int) : Bridge × Bool :=
  if state.activeComputeKind = some computeKind then
    (setState b runtimeRequestId b.hooks (countTokens state computeKind total scheduled), true)
  else if state.activeComputeKind = some "prefill" ∧ computeKind = "decode" then
    match state.activeSpanId with
    | none => (b, false)
    | some activeSpanId =>
      match emitSwitchToDecode state activeStarted activeSpanId timestampNs b.hooks with
      | (none, hooks) => ({ b with hooks := hooks }, false)
      | (some (started, decodeSpanId), hooks) =>
        let state := { state with
          activeStarted := some ⟨started.recordId, timestampNs⟩
          activeSpanId := some decodeSpanId
          activeComputeKind := some "decode" }
        (setState b runtimeRequestId hooks (countTokens state computeKind total scheduled), true)
  else (b, false)

def emitRuntimeScheduled (b : Bridge) (runtimeRequestId : String) (timestampNs : Int)
    (computeKind : String) (scheduled total cached : Int) : Bridge × Bool :=
  match b.runtimeStates.get runtimeRequestId with
  | none => (b, false)
  | some state =>
    if (computeKind ≠ "prefill" ∧ computeKind ≠ "decode") ∨ scheduled < 1 ∨
      total < 1 then (b, false)
    else
      let cached := min (max 0 cached) (total - 1)
      match state.activeStarted with
      | some activeStarted =>
        scheduleActive b runtimeRequestId state activeStarted timestampNs computeKind
          scheduled total
      | none =>
        match emitScheduledAndStarted state timestampNs computeKind total cached b.hooks with
        | (none, hooks) => ({ b with hooks := hooks }, false)
        | (some (started, activeSpanId), hooks) =>
          (setState b runtimeRequestId hooks { state with
            activeStarted := some ⟨started.recordId, timestampNs⟩
            activeSpanId := some activeSpanId
            activeComputeKind := some computeKind
            promptTokensComputed := min total (cached + scheduled)
            prefillChunkCount := if computeKind = "prefill" then 1 else 0 }, true)

/-! ## Preemption and recovery -/

/-- `preempted` at the old epoch and `requeued` at the new one. -/
def emitPreemption (identity : RequestLifecycleIdentity) (epoch timestampNs : Int)
    (activeSpanStartEventId activeSpanId : String) (computed chunks : Int) :
    Emit (RecordRef × RecordRef × String) := do
  let queueSpanId ← newSpanId
  let preempted ← emitEvent { engineDraft identity "preempted" timestampNs (epoch - 1) with
    endSpanId := some activeSpanId
    metadata := some (computedMetadata computed chunks) }
  let _ ← emitEdge (programOrder identity activeSpanStartEventId preempted.recordId)
  let requeued ← emitEvent { engineDraft identity "requeued" timestampNs epoch with
    startSpanId := some queueSpanId }
  let _ ← emitEdge (programOrder identity preempted.recordId requeued.recordId)
  return (preempted, requeued, queueSpanId)

def emitPreemptedAndRequeued (b : Bridge) (runtimeRequestId : String) (epoch timestampNs : Int)
    (activeSpanStartEventId activeSpanId : String) (computed chunks : Int) :
    Bridge × Option BaseEventRef :=
  match b.identities.get runtimeRequestId with
  | none => (b, none)
  | some identity =>
    if epoch < 1 ∨ (b.episodes.get (runtimeRequestId, epoch)).isSome ∨
        b.capacity ≤ b.episodes.length then (b, none)
    else
      match emitPreemption identity epoch timestampNs activeSpanStartEventId activeSpanId computed
          chunks b.hooks with
      | (none, hooks) => ({ b with hooks := hooks }, none)
      | (some (preempted, requeued, queueSpanId), hooks) =>
        let preemptedRef : BaseEventRef := ⟨preempted.recordId, timestampNs⟩
        ({ b with
            hooks := hooks
            episodes := b.episodes.set (runtimeRequestId, epoch)
              { preempted := preemptedRef
                requeued := ⟨requeued.recordId, timestampNs⟩
                queueSpanId := queueSpanId } }, some preemptedRef)

/-- Put the request back on the queue of its new episode. -/
def requeue (b : Bridge) (runtimeRequestId : String) (epoch : Int) : Bridge :=
  match b.runtimeStates.get runtimeRequestId, b.episodes.get (runtimeRequestId, epoch) with
  | some state, some episode =>
    setState b runtimeRequestId b.hooks { state with
      queueStarted := episode.requeued
      queueSpanId := episode.queueSpanId
      activeStarted := none
      activeSpanId := none
      activeComputeKind := none
      preemptionEpoch := epoch
      promptTokensComputed := 0
      prefillChunkCount := 0 }
  | _, _ => b

def emitRuntimePreempted (b : Bridge) (runtimeRequestId : String) (epoch timestampNs : Int) :
    Bridge × Option BaseEventRef :=
  match b.runtimeStates.get runtimeRequestId with
  | none => (b, none)
  | some state =>
    match state.activeStarted, state.activeSpanId with
    | some activeStarted, some activeSpanId =>
      match emitPreemptedAndRequeued b runtimeRequestId epoch timestampNs activeStarted.eventId
          activeSpanId state.promptTokensComputed (max 1 state.prefillChunkCount) with
      | (b, none) => (b, none)
      | (b, some result) => (requeue b runtimeRequestId epoch, some result)
    | _, _ => (b, none)

def emitAdmission (identity : RequestLifecycleIdentity) (episode : EmittedBaseEpisode)
    (epoch timestampNs : Int) : Emit (RecordRef × String) := do
  let admissionSpanId ← newSpanId
  let emitted ← emitEvent { engineDraft identity "admission_started" timestampNs epoch with
    startSpanId := some admissionSpanId
    endSpanId := some episode.queueSpanId }
  let _ ← emitEdge (programOrder identity episode.requeued.eventId emitted.recordId)
  return (emitted, admissionSpanId)

def setEpisode (b : Bridge) (runtimeRequestId : String) (epoch : Int) (hooks : Hooks)
    (episode : EmittedBaseEpisode) : Bridge :=
  { b with hooks := hooks, episodes := b.episodes.set (runtimeRequestId, epoch) episode }

/-- `emit_admission_started` and `emit_runtime_admission_started`. -/
def emitAdmissionStarted (b : Bridge) (runtimeRequestId : String) (epoch timestampNs : Int) :
    Bridge × Option BaseEventRef :=
  match b.identities.get runtimeRequestId, b.episodes.get (runtimeRequestId, epoch) with
  | some identity, some episode =>
    if episode.admissionStarted.isSome then (b, none)
    else
      match emitAdmission identity episode epoch timestampNs b.hooks with
      | (none, hooks) => ({ b with hooks := hooks }, none)
      | (some (emitted, admissionSpanId), hooks) =>
        let result : BaseEventRef := ⟨emitted.recordId, timestampNs⟩
        (setEpisode b runtimeRequestId epoch hooks { episode with
          admissionStarted := some result
          admissionSpanId := some admissionSpanId }, some result)
  | _, _ => (b, none)

def emitResumption (identity : RequestLifecycleIdentity) (admissionStarted : BaseEventRef)
    (admissionSpanId : String) (epoch timestampNs total cached toCompute : Int) :
    Emit RecordRef := do
  let emitted ← emitEvent { engineDraft identity "resumed" timestampNs epoch with
    endSpanId := some admissionSpanId
    metadata := some (promptMetadata total cached toCompute) }
  let _ ← emitEdge (programOrder identity admissionStarted.eventId emitted.recordId)
  return emitted

def emitResumed (b : Bridge) (runtimeRequestId : String)
    (epoch timestampNs total cached toCompute : Int) : Bridge × Option BaseEventRef :=
  match b.identities.get runtimeRequestId, b.episodes.get (runtimeRequestId, epoch) with
  | some identity, some episode =>
    match episode.admissionStarted, episode.admissionSpanId, episode.resumed with
    | some admissionStarted, some admissionSpanId, none =>
      match emitResumption identity admissionStarted admissionSpanId epoch timestampNs total cached
          toCompute b.hooks with
      | (none, hooks) => ({ b with hooks := hooks }, none)
      | (some emitted, hooks) =>
        let result : BaseEventRef := ⟨emitted.recordId, timestampNs⟩
        (setEpisode b runtimeRequestId epoch hooks { episode with resumed := some result },
          some result)
    | _, _, _ => (b, none)
  | _, _ => (b, none)

def setTokens (b : Bridge) (runtimeRequestId : String) (computed : Int) : Bridge :=
  match b.runtimeStates.get runtimeRequestId with
  | some state =>
    setState b runtimeRequestId b.hooks { state with promptTokensComputed := computed }
  | none => b

def emitRuntimeResumed (b : Bridge) (runtimeRequestId : String)
    (epoch timestampNs total cached : Int) : Bridge × Option BaseEventRef :=
  if total < 1 then (b, none)
  else
    let cached := min (max 0 cached) (total - 1)
    match emitResumed b runtimeRequestId epoch timestampNs total cached (total - cached) with
    | (b, none) => (b, none)
    | (b, some result) => (setTokens b runtimeRequestId cached, some result)

def emitComputeStart (identity : RequestLifecycleIdentity) (resumed : BaseEventRef)
    (epoch timestampNs : Int) (computeKind : String) : Emit (RecordRef × String) := do
  let spanId ← newSpanId
  let emitted ← emitEvent { engineDraft identity s!"{computeKind}_started" timestampNs epoch with
    startSpanId := some spanId }
  let _ ← emitEdge (programOrder identity resumed.eventId emitted.recordId)
  return (emitted, spanId)

/-- The request computes again, in the span of its first computation. -/
def activate (b : Bridge) (runtimeRequestId : String) (started : BaseEventRef) (spanId : String)
    (computeKind : String) : Bridge :=
  match b.runtimeStates.get runtimeRequestId with
  | some state =>
    setState b runtimeRequestId b.hooks { state with
      activeStarted := some started
      activeSpanId := some spanId
      activeComputeKind := some computeKind
      prefillChunkCount :=
        if computeKind = "prefill" then state.prefillChunkCount + 1 else state.prefillChunkCount }
  | none => b

def emitFirstCompute (b : Bridge) (runtimeRequestId : String) (epoch timestampNs : Int)
    (computeKind : String) : Bridge × Option BaseEventRef :=
  match b.identities.get runtimeRequestId, b.episodes.get (runtimeRequestId, epoch) with
  | some identity, some episode =>
    match episode.resumed with
    | none => (b, none)
    | some resumed =>
      if episode.firstCompute.isSome ∨ (computeKind ≠ "prefill" ∧ computeKind ≠ "decode") then
        (b, none)
      else
        match emitComputeStart identity resumed epoch timestampNs computeKind b.hooks with
        | (none, hooks) => ({ b with hooks := hooks }, none)
        | (some (emitted, spanId), hooks) =>
          let result : BaseEventRef := ⟨emitted.recordId, timestampNs⟩
          let b := setEpisode b runtimeRequestId epoch hooks
            { episode with firstCompute := some result }
          (activate b runtimeRequestId result spanId computeKind, some result)
  | _, _ => (b, none)

/-! ## Lookups -/

def requestIdentity (b : Bridge) (runtimeRequestId : String) : Option RequestLifecycleIdentity :=
  b.identities.get runtimeRequestId

def preemptedEvent (b : Bridge) (runtimeRequestId : String) (epoch : Int) : Option BaseEventRef :=
  (b.episodes.get (runtimeRequestId, epoch)).map (·.preempted)

def admissionStartedEvent (b : Bridge) (runtimeRequestId : String) (epoch : Int) :
    Option BaseEventRef :=
  (b.episodes.get (runtimeRequestId, epoch)).bind (·.admissionStarted)

def resumedEvent (b : Bridge) (runtimeRequestId : String) (epoch : Int) : Option BaseEventRef :=
  (b.episodes.get (runtimeRequestId, epoch)).bind (·.resumed)

def firstComputeEvent (b : Bridge) (runtimeRequestId : String) (epoch : Int) :
    Option BaseEventRef :=
  (b.episodes.get (runtimeRequestId, epoch)).bind (·.firstCompute)

/-! ## Terminals -/

/-- `request_terminal`: forget the request. -/
def requestTerminal (b : Bridge) (runtimeRequestId : String) : Bridge :=
  { b with
    identities := b.identities.pop runtimeRequestId
    runtimeStates := b.runtimeStates.pop runtimeRequestId
    episodes := b.episodes.popWhere fun key => key.1 = runtimeRequestId }

/-- The event a terminal cause is reported as. -/
def terminalEvent : String → Option String
  | "complete" => some "generation_done"
  | "explicit_cancel" => some "aborted"
  | "client_disconnect" => some "cancelled"
  | "client_timeout" => some "cancelled"
  | "engine_failure" => some "error"
  | "error" => some "error"
  | _ => none

/-- The end of the active phase and `generation_done`. Both edges are tried. -/
def emitCompletion (state : RuntimeRequestState) (cause : String) (timestampNs generated : Int) :
    Emit BaseEventRef := do
  let started ← Emit.orNone state.activeStarted
  let spanId ← Emit.orNone state.activeSpanId
  let kind ← Emit.orNone state.activeComputeKind
  Emit.require (1 ≤ generated && (kind == "prefill" || kind == "decode"))
  let completed ← emitEvent { engineDraft state.identity s!"{kind}_done" timestampNs
      state.preemptionEpoch with
    endSpanId := some spanId
    metadata := some (if kind = "prefill" then
      computedMetadata state.promptTokensComputed (max 1 state.prefillChunkCount) else []) }
  let emitted ← emitEvent { engineDraft state.identity "generation_done" timestampNs
      state.preemptionEpoch with
    metadata := some [("terminal_cause", .str cause), ("generated_tokens_total", .int generated)] }
  let first ← Emit.attempt (emitEdge (programOrder state.identity started.eventId
    completed.recordId))
  let second ← Emit.attempt (emitEdge (programOrder state.identity completed.recordId
    emitted.recordId))
  let _ ← Emit.orNone first
  let _ ← Emit.orNone second
  return ⟨emitted.recordId, timestampNs⟩

/-- An abnormal terminal, which closes the span the request state remembers. -/
def emitAbnormal (state : RuntimeRequestState) (eventName cause : String) (timestampNs : Int) :
    Emit BaseEventRef := do
  let emitted ← emitEvent { engineDraft state.identity eventName timestampNs
      state.preemptionEpoch with
    closingSpanIds := [state.activeSpanId.getD state.queueSpanId]
    metadata := some [("terminal_cause", .str cause)] }
  let _ ← emitEdge (programOrder state.identity
    (state.activeStarted.getD state.queueStarted).eventId emitted.recordId)
  return ⟨emitted.recordId, timestampNs⟩

def emitRuntimeTerminal (b : Bridge) (runtimeRequestId cause : String)
    (timestampNs generated : Int) : Bridge × Option BaseEventRef :=
  match terminalEvent cause, asUint uint64Max (.int timestampNs),
      b.runtimeStates.get runtimeRequestId with
  | some eventName, some _, some state =>
    let (result, hooks) :=
      if eventName = "generation_done" then emitCompletion state cause timestampNs generated b.hooks
      else emitAbnormal state eventName cause timestampNs b.hooks
    (requestTerminal { b with hooks := hooks } runtimeRequestId, result)
  | _, _, _ => (b, none)

end Bridge

/-! ## Runs -/

/-- A call of a method that changes the bridge. -/
inductive Call where
  | registerRequest (identity : RequestLifecycleIdentity)
  | registerRuntimeRequest (runId runtimeRequestId : String) (timestampNs : Int)
  | emitRuntimeScheduled (runtimeRequestId : String) (timestampNs : Int) (computeKind : String)
      (scheduled total cached : Int)
  | emitRuntimePreempted (runtimeRequestId : String) (epoch timestampNs : Int)
  | emitPreemptedAndRequeued (runtimeRequestId : String) (epoch timestampNs : Int)
      (activeSpanStartEventId activeSpanId : String) (computed chunks : Int)
  | emitAdmissionStarted (runtimeRequestId : String) (epoch timestampNs : Int)
  | emitResumed (runtimeRequestId : String) (epoch timestampNs total cached toCompute : Int)
  | emitRuntimeResumed (runtimeRequestId : String) (epoch timestampNs total cached : Int)
  | emitFirstCompute (runtimeRequestId : String) (epoch timestampNs : Int) (computeKind : String)
  | requestTerminal (runtimeRequestId : String)
  | emitRuntimeTerminal (runtimeRequestId cause : String) (timestampNs generated : Int)

def Bridge.call (sha256 : Bytes → String) (b : Bridge) : Call → Bridge
  | .registerRequest identity => (b.registerRequest identity).1
  | .registerRuntimeRequest runId rid ts => (b.registerRuntimeRequest sha256 runId rid ts).1
  | .emitRuntimeScheduled rid ts kind scheduled total cached =>
    (b.emitRuntimeScheduled rid ts kind scheduled total cached).1
  | .emitRuntimePreempted rid epoch ts => (b.emitRuntimePreempted rid epoch ts).1
  | .emitPreemptedAndRequeued rid epoch ts startId spanId computed chunks =>
    (b.emitPreemptedAndRequeued rid epoch ts startId spanId computed chunks).1
  | .emitAdmissionStarted rid epoch ts => (b.emitAdmissionStarted rid epoch ts).1
  | .emitResumed rid epoch ts total cached toCompute =>
    (b.emitResumed rid epoch ts total cached toCompute).1
  | .emitRuntimeResumed rid epoch ts total cached =>
    (b.emitRuntimeResumed rid epoch ts total cached).1
  | .emitFirstCompute rid epoch ts kind => (b.emitFirstCompute rid epoch ts kind).1
  | .requestTerminal rid => b.requestTerminal rid
  | .emitRuntimeTerminal rid cause ts generated => (b.emitRuntimeTerminal rid cause ts generated).1

/-- A fresh bridge over hooks that did nothing yet. -/
def Bridge.start (hooks : Hooks) (capacity : Nat) : Bridge :=
  { hooks := hooks, capacity := capacity }

def Bridge.run (sha256 : Bytes → String) (b : Bridge) (calls : List Call) : Bridge :=
  calls.foldl (Bridge.call sha256) b

end LifecycleProfiler.Runtime
