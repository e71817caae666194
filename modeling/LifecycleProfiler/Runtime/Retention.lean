import LifecycleProfiler.Python.Keys
import LifecycleProfiler.Runtime.Counters

/-! # What the bridge retains

Three tables are filled by registration and preemption and emptied together by
both terminal paths, so that runtime state and episodes always belong to a
registered identity and no table outgrows the capacity. -/

namespace LifecycleProfiler.Runtime
open Python Protocol

namespace Bridge

/-- State and episodes belong to registered identities, within the capacity. -/
structure Linked (b : Bridge) : Prop where
  states : ∀ rid, (b.runtimeStates.get rid).isSome = true → (b.identities.get rid).isSome = true
  episodes : ∀ rid epoch, (b.episodes.get (rid, epoch)).isSome = true →
    (b.identities.get rid).isSome = true
  identitiesBound : b.identities.length ≤ b.capacity
  episodesBound : b.episodes.length ≤ b.capacity

/-- Nothing about the request is left. -/
structure Forgotten (b : Bridge) (rid : String) : Prop where
  identity : b.identities.get rid = none
  state : b.runtimeStates.get rid = none
  episodes : ∀ epoch, b.episodes.get (rid, epoch) = none

/-- The tables have the same keys. -/
structure SameKeys (b b' : Bridge) : Prop where
  capacity : b'.capacity = b.capacity
  identities : b'.identities = b.identities
  states : b'.runtimeStates.map (·.1) = b.runtimeStates.map (·.1)
  episodes : b'.episodes.map (·.1) = b.episodes.map (·.1)

section Tables
variable {b b' b'' : Bridge} {rid : String} {epoch : Int}

theorem SameKeys.refl (b : Bridge) : SameKeys b b := ⟨rfl, rfl, rfl, rfl⟩

theorem SameKeys.trans (h : SameKeys b b') (h' : SameKeys b' b'') : SameKeys b b'' :=
  ⟨h'.capacity.trans h.capacity, h'.identities.trans h.identities, h'.states.trans h.states,
    h'.episodes.trans h.episodes⟩

theorem SameKeys.linked (h : SameKeys b b') (hb : Linked b) : Linked b' := by
  refine ⟨fun rid hstate => ?_, fun rid epoch hepisode => ?_, ?_, ?_⟩
  · rw [Mapping.isSome_get, h.states, ← Mapping.isSome_get] at hstate
    rw [h.identities]
    exact hb.states rid hstate
  · rw [Mapping.isSome_get, h.episodes, ← Mapping.isSome_get] at hepisode
    rw [h.identities]
    exact hb.episodes rid epoch hepisode
  · rw [h.identities, h.capacity]
    exact hb.identitiesBound
  · have hlength := congrArg List.length h.episodes
    rw [List.length_map, List.length_map] at hlength
    rw [hlength, h.capacity]
    exact hb.episodesBound

theorem sameKeys_hooks (b : Bridge) (hooks : Hooks) : SameKeys b { b with hooks := hooks } :=
  ⟨rfl, rfl, rfl, rfl⟩

theorem sameKeys_setState {current : RuntimeRequestState}
    (h : b.runtimeStates.get rid = some current) (hooks : Hooks) (state : RuntimeRequestState) :
    SameKeys b (b.setState rid hooks state) :=
  ⟨rfl, rfl, Mapping.map_fst_set_of_get h, rfl⟩

theorem sameKeys_setEpisode {current : EmittedBaseEpisode}
    (h : b.episodes.get (rid, epoch) = some current) (hooks : Hooks)
    (episode : EmittedBaseEpisode) : SameKeys b (b.setEpisode rid epoch hooks episode) :=
  ⟨rfl, rfl, rfl, Mapping.map_fst_set_of_get h⟩

/-- An identity joins, with state or without. -/
theorem Linked.registers {identity : RequestLifecycleIdentity} (hb : Linked b)
    (hroom : b.identities.length < b.capacity) (hcapacity : b'.capacity = b.capacity)
    (hidentities : b'.identities = b.identities.set rid identity)
    (hstates : ∀ other ≠ rid, b'.runtimeStates.get other = b.runtimeStates.get other)
    (hepisodes : b'.episodes = b.episodes) : Linked b' := by
  have hidentity : ∀ other, (other = rid ∨ (b.identities.get other).isSome = true) →
      (b'.identities.get other).isSome = true := by
    intro other hother
    rw [hidentities, Mapping.get_set]
    split
    · rfl
    · next hne => exact hother.resolve_left hne
  refine ⟨fun other hstate => ?_, fun other epoch hepisode => ?_, ?_, ?_⟩
  · by_cases hne : other = rid
    · exact hidentity other (.inl hne)
    · rw [hstates other hne] at hstate
      exact hidentity other (.inr (hb.states other hstate))
  · rw [hepisodes] at hepisode
    exact hidentity other (.inr (hb.episodes other epoch hepisode))
  · have := Mapping.length_set_le b.identities rid identity
    rw [hidentities, hcapacity]
    omega
  · rw [hepisodes, hcapacity]
    exact hb.episodesBound

/-- An episode of a registered request joins. -/
theorem Linked.preempts {episode : EmittedBaseEpisode} (hb : Linked b)
    (hidentity : (b.identities.get rid).isSome = true) (hroom : b.episodes.length < b.capacity)
    (hooks : Hooks) : Linked (b.setEpisode rid epoch hooks episode) := by
  refine ⟨hb.states, fun other e hepisode => ?_, hb.identitiesBound, ?_⟩
  · change ((b.episodes.set (rid, epoch) episode).get (other, e)).isSome = true at hepisode
    rw [Mapping.get_set] at hepisode
    split at hepisode
    · next hkey =>
      cases hkey
      exact hidentity
    · exact hb.episodes other e hepisode
  · have := Mapping.length_set_le b.episodes (rid, epoch) episode
    change (b.episodes.set (rid, epoch) episode).length ≤ b.capacity
    omega

theorem forgotten_requestTerminal (b : Bridge) (rid : String) :
    Forgotten (b.requestTerminal rid) rid := by
  refine ⟨?_, ?_, fun epoch => ?_⟩
  · rw [requestTerminal, Mapping.get_pop, if_pos rfl]
  · rw [requestTerminal, Mapping.get_pop, if_pos rfl]
  · rw [requestTerminal, Mapping.get_popWhere]
    simp

/-- A request leaves all three tables. -/
theorem Linked.forgets (hb : Linked b) (rid : String) : Linked (b.requestTerminal rid) := by
  have hidentity : ∀ other ≠ rid, (b.identities.get other).isSome = true →
      ((b.requestTerminal rid).identities.get other).isSome = true := by
    intro other hne hsome
    rw [requestTerminal, Mapping.get_pop, if_neg hne]
    exact hsome
  have hgone := forgotten_requestTerminal b rid
  refine ⟨fun other hstate => ?_, fun other epoch hepisode => ?_, ?_, ?_⟩
  · by_cases hne : other = rid
    · rw [hne, hgone.state] at hstate
      cases hstate
    · rw [requestTerminal_other b hne] at hstate
      exact hidentity other hne (hb.states other hstate)
  · by_cases hne : other = rid
    · rw [hne, hgone.episodes] at hepisode
      cases hepisode
    · rw [requestTerminal, Mapping.get_popWhere, if_neg (by simpa using hne)] at hepisode
      exact hidentity other hne (hb.episodes other epoch hepisode)
  · exact Nat.le_trans (List.length_filter_le ..) hb.identitiesBound
  · exact Nat.le_trans (List.length_filter_le ..) hb.episodesBound

end Tables

/-! ## The tables under each method -/

section Methods
variable {b : Bridge}

theorem Linked.registerRequest (hb : Linked b) (identity : RequestLifecycleIdentity) :
    Linked (b.registerRequest identity).1 := by
  unfold Bridge.registerRequest
  split
  · exact hb
  · split
    · exact hb
    · next hroom => exact hb.registers (Nat.lt_of_not_le hroom) rfl rfl (fun _ _ => rfl) rfl

theorem Linked.registerRuntimeRequest (hb : Linked b) (sha256 : Bytes → String)
    (runId rid : String) (ts : Int) :
    Linked (b.registerRuntimeRequest sha256 runId rid ts).1 := by
  unfold Bridge.registerRuntimeRequest
  split
  · exact hb
  · dsimp only
    split
    · exact hb
    · split
      · exact hb
      · next hroom =>
        split
        · exact (sameKeys_hooks b _).linked hb
        · exact hb.registers (Nat.lt_of_not_le hroom) rfl rfl
            (fun _ hne => Mapping.get_set_ne hne) rfl

theorem sameKeys_emitRuntimeScheduled (b : Bridge) (rid : String) (ts : Int) (kind : String)
    (scheduled total cached : Int) :
    SameKeys b (b.emitRuntimeScheduled rid ts kind scheduled total cached).1 := by
  unfold emitRuntimeScheduled
  split
  · exact .refl b
  · next state hstate =>
    split
    · exact .refl b
    · dsimp only
      split
      · unfold scheduleActive
        split
        · exact sameKeys_setState hstate _ _
        · split
          · split
            · exact .refl b
            · split
              · exact sameKeys_hooks b _
              · exact sameKeys_setState hstate _ _
          · exact .refl b
      · split
        · exact sameKeys_hooks b _
        · exact sameKeys_setState hstate _ _

theorem Linked.emitPreemptedAndRequeued (hb : Linked b) (rid : String) (epoch ts : Int)
    (startId spanId : String) (computed chunks : Int) :
    Linked (b.emitPreemptedAndRequeued rid epoch ts startId spanId computed chunks).1 := by
  unfold Bridge.emitPreemptedAndRequeued
  split
  · exact hb
  · next identity hidentity =>
    split
    · exact hb
    · next hguard =>
      rw [not_or, not_or, not_le] at hguard
      split
      · exact (sameKeys_hooks b _).linked hb
      · exact hb.preempts (by rw [hidentity]; rfl) hguard.2.2 _

theorem sameKeys_requeue (b : Bridge) (rid : String) (epoch : Int) :
    SameKeys b (b.requeue rid epoch) := by
  unfold requeue
  split
  · next hstate _ => exact sameKeys_setState hstate _ _
  · exact .refl b

theorem Linked.emitRuntimePreempted (hb : Linked b) (rid : String) (epoch ts : Int) :
    Linked (b.emitRuntimePreempted rid epoch ts).1 := by
  unfold Bridge.emitRuntimePreempted
  split
  · exact hb
  · next state _ =>
    split
    · next active spanId _ _ =>
      have hpreempted := hb.emitPreemptedAndRequeued rid epoch ts active.eventId spanId
        state.promptTokensComputed (max 1 state.prefillChunkCount)
      split
      · next heq =>
        rw [heq] at hpreempted
        exact hpreempted
      · next b' _ heq =>
        rw [heq] at hpreempted
        exact (sameKeys_requeue b' rid epoch).linked hpreempted
    · exact hb

theorem sameKeys_emitAdmissionStarted (b : Bridge) (rid : String) (epoch ts : Int) :
    SameKeys b (b.emitAdmissionStarted rid epoch ts).1 := by
  unfold emitAdmissionStarted
  split
  · next hepisode =>
    split
    · exact .refl b
    · split
      · exact sameKeys_hooks b _
      · exact sameKeys_setEpisode hepisode _ _
  · exact .refl b

theorem sameKeys_emitResumed (b : Bridge) (rid : String) (epoch ts total cached toCompute : Int) :
    SameKeys b (b.emitResumed rid epoch ts total cached toCompute).1 := by
  unfold emitResumed
  split
  · next hepisode =>
    split
    · split
      · exact sameKeys_hooks b _
      · exact sameKeys_setEpisode hepisode _ _
    · exact .refl b
  · exact .refl b

theorem sameKeys_emitRuntimeResumed (b : Bridge) (rid : String) (epoch ts total cached : Int) :
    SameKeys b (b.emitRuntimeResumed rid epoch ts total cached).1 := by
  unfold emitRuntimeResumed
  split
  · exact .refl b
  · have hresumed := sameKeys_emitResumed b rid epoch ts total (min (max 0 cached) (total - 1))
      (total - min (max 0 cached) (total - 1))
    dsimp only
    split
    · next heq =>
      rw [heq] at hresumed
      exact hresumed
    · next b' _ heq =>
      rw [heq] at hresumed
      refine hresumed.trans ?_
      unfold setTokens
      split
      · next hstate => exact sameKeys_setState hstate _ _
      · exact .refl b'

theorem sameKeys_activate (b : Bridge) (rid : String) (started : BaseEventRef)
    (spanId kind : String) : SameKeys b (b.activate rid started spanId kind) := by
  unfold activate
  split
  · next hstate => exact sameKeys_setState hstate _ _
  · exact .refl b

theorem sameKeys_emitFirstCompute (b : Bridge) (rid : String) (epoch ts : Int) (kind : String) :
    SameKeys b (b.emitFirstCompute rid epoch ts kind).1 := by
  unfold emitFirstCompute
  split
  · next hepisode =>
    split
    · exact .refl b
    · split
      · exact .refl b
      · split
        · exact sameKeys_hooks b _
        · dsimp only
          exact (sameKeys_setEpisode hepisode _ _).trans (sameKeys_activate ..)
  · exact .refl b

theorem Linked.emitRuntimeTerminal (hb : Linked b) (rid cause : String) (ts generated : Int) :
    Linked (b.emitRuntimeTerminal rid cause ts generated).1 := by
  unfold Bridge.emitRuntimeTerminal
  split
  · exact ((sameKeys_hooks b _).linked hb).forgets rid
  · exact hb

/-- The step lemma. -/
theorem Linked.call (hb : Linked b) (sha256 : Bytes → String) (c : Call) :
    Linked (b.call sha256 c) := by
  cases c with
  | registerRequest identity => exact hb.registerRequest identity
  | registerRuntimeRequest runId rid ts => exact hb.registerRuntimeRequest sha256 runId rid ts
  | emitRuntimeScheduled rid ts kind scheduled total cached =>
    exact (sameKeys_emitRuntimeScheduled b rid ts kind scheduled total cached).linked hb
  | emitRuntimePreempted rid epoch ts => exact hb.emitRuntimePreempted rid epoch ts
  | emitPreemptedAndRequeued rid epoch ts startId spanId computed chunks =>
    exact hb.emitPreemptedAndRequeued rid epoch ts startId spanId computed chunks
  | emitAdmissionStarted rid epoch ts =>
    exact (sameKeys_emitAdmissionStarted b rid epoch ts).linked hb
  | emitResumed rid epoch ts total cached toCompute =>
    exact (sameKeys_emitResumed b rid epoch ts total cached toCompute).linked hb
  | emitRuntimeResumed rid epoch ts total cached =>
    exact (sameKeys_emitRuntimeResumed b rid epoch ts total cached).linked hb
  | emitFirstCompute rid epoch ts kind =>
    exact (sameKeys_emitFirstCompute b rid epoch ts kind).linked hb
  | requestTerminal rid => exact hb.forgets rid
  | emitRuntimeTerminal rid cause ts generated =>
    exact hb.emitRuntimeTerminal rid cause ts generated

/-- The run lemma. -/
theorem Linked.run (hb : Linked b) (sha256 : Bytes → String) (calls : List Call) :
    Linked (b.run sha256 calls) := by
  induction calls generalizing b with
  | nil => exact hb
  | cons c rest ih => exact ih (hb.call sha256 c)

theorem linked_start (hooks : Hooks) (capacity : Nat) : Linked (start hooks capacity) :=
  ⟨nofun, nofun, Nat.zero_le _, Nat.zero_le _⟩

end Methods

end Bridge

/-! ## Accepted terminal events -/

/-- An accepted event that ends the lifecycle of its scope. -/
def Emission.isTerminal : Emission → Bool
  | .event draft _ _ => draft.eventName ∈ terminalEvents
  | _ => false

/-- The calls have at most so many terminal events accepted. -/
def Emit.Ends {α : Type} (limit : Nat) (m : Emit α) : Prop :=
  ∀ h, Ensures m h fun _ more => more.countP Emission.isTerminal ≤ limit

namespace Emit.Ends
variable {α β : Type} {limit first second : Nat}

theorem pure (a : α) : Ends 0 (Pure.pure a : Emit α) := fun _ => .pure (Nat.le_refl 0)

theorem orNone (a : Option α) : Ends 0 (Emit.orNone a) := fun _ => .orNone (Nat.le_refl 0)

theorem attempt {m : Emit α} (hm : Ends limit m) : Ends limit (Emit.attempt m) := fun h =>
  .attempt (hm h)

theorem newSpanId : Ends 0 Runtime.newSpanId := fun _ => .newSpanId (Nat.le_refl 0) (Nat.le_refl 0)

theorem emitEdge (draft : EdgeDraft) : Ends 0 (Runtime.emitEdge draft) := fun _ =>
  .emitEdge (Nat.le_refl 0) fun _ _ => Nat.le_refl 0

theorem emitEvent (draft : EventDraft) : Ends 1 (Runtime.emitEvent draft) := fun _ =>
  .emitEvent (Nat.zero_le _) fun _ _ => List.countP_le_length

/-- An event that is not a terminal one. -/
theorem emitOther {draft : EventDraft} (eventName : String) (h : eventName ∉ terminalEvents)
    (hname : draft.eventName = eventName) : Ends 0 (Runtime.emitEvent draft) := by
  refine fun _ => .emitEvent (Nat.le_refl 0) fun ref record => ?_
  rw [List.countP_singleton, if_neg]
  simpa [Emission.isTerminal, hname] using h

theorem bind {m : Emit α} {f : α → Emit β} (hm : Ends first m) (hf : ∀ a, Ends second (f a)) :
    Ends (first + second) (m >>= f) := by
  refine fun h => .bind ((hm h).mono fun r more hmore => ?_)
  cases r with
  | none => exact Nat.le_add_right_of_le hmore
  | some a =>
    refine fun h' _ => (hf a h').mono fun r rest hrest => ?_
    rw [List.countP_append]
    exact Nat.add_le_add hmore hrest

/-- One call that ends nothing comes first. -/
theorem andThen {m : Emit α} {f : α → Emit β} (hm : Ends 0 m) (hf : ∀ a, Ends limit (f a)) :
    Ends limit (m >>= f) := by
  have hends := hm.bind hf
  rwa [Nat.zero_add] at hends

/-- Nothing after the first call ends anything. -/
theorem before {m : Emit α} {f : α → Emit β} (hm : Ends limit m) (hf : ∀ a, Ends 0 (f a)) :
    Ends limit (m >>= f) := hm.bind hf

theorem require {c : Bool} {f : Unit → Emit β} (hf : c = true → Ends limit (f ())) :
    Ends limit (Emit.require c >>= f) := fun h =>
  .require_bind (fun _ => Nat.zero_le _) fun hc => hf hc h

end Emit.Ends

namespace Bridge

/-- The start and the end of a compute phase end no lifecycle. -/
theorem phase_not_terminal {kind : String} (h : kind = "prefill" ∨ kind = "decode") :
    s!"{kind}_started" ∉ terminalEvents ∧ s!"{kind}_done" ∉ terminalEvents := by
  rcases h with rfl | rfl <;> decide

theorem ends_emitQueued (identity : RequestLifecycleIdentity) (ts : Int) :
    Emit.Ends 0 (emitQueued identity ts) :=
  .andThen .newSpanId fun _ => .andThen (.emitOther "queued" (by decide) rfl) fun _ => .pure _

theorem ends_closeAndStart {identity : RequestLifecycleIdentity} {fromId : String}
    {closing : EventDraft} {starting : String → EventDraft}
    (hclosing : closing.eventName ∉ terminalEvents)
    (hstarting : ∀ spanId, (starting spanId).eventName ∉ terminalEvents) :
    Emit.Ends 0 (closeAndStart identity fromId closing starting) :=
  .andThen (.attempt (.emitOther _ hclosing rfl)) fun _ => .andThen (.attempt .newSpanId) fun _ =>
    .andThen (.orNone _) fun _ => .andThen (.orNone _) fun spanId =>
      .andThen (.emitOther _ (hstarting spanId) rfl) fun _ => .andThen (.emitEdge _) fun _ =>
        .andThen (.emitEdge _) fun _ => .pure _

theorem ends_emitSwitchToDecode (state : RuntimeRequestState) (active : BaseEventRef)
    (spanId : String) (ts : Int) : Emit.Ends 0 (emitSwitchToDecode state active spanId ts) := by
  have hdone : "prefill_done" ∉ terminalEvents := by decide
  have hstarted : "decode_started" ∉ terminalEvents := by decide
  exact ends_closeAndStart hdone fun _ => hstarted

theorem ends_emitScheduledAndStarted (state : RuntimeRequestState) (ts : Int) {kind : String}
    (hkind : kind = "prefill" ∨ kind = "decode") (total cached : Int) :
    Emit.Ends 0 (emitScheduledAndStarted state ts kind total cached) := by
  have hscheduled : "scheduled" ∉ terminalEvents := by decide
  exact ends_closeAndStart hscheduled fun _ => (phase_not_terminal hkind).1

theorem ends_emitPreemption (identity : RequestLifecycleIdentity) (epoch ts : Int)
    (startId spanId : String) (computed chunks : Int) :
    Emit.Ends 0 (emitPreemption identity epoch ts startId spanId computed chunks) :=
  .andThen .newSpanId fun _ => .andThen (.emitOther "preempted" (by decide) rfl) fun _ =>
    .andThen (.emitEdge _) fun _ => .andThen (.emitOther "requeued" (by decide) rfl) fun _ =>
      .andThen (.emitEdge _) fun _ => .pure _

theorem ends_emitAdmission (identity : RequestLifecycleIdentity) (episode : EmittedBaseEpisode)
    (epoch ts : Int) : Emit.Ends 0 (emitAdmission identity episode epoch ts) :=
  .andThen .newSpanId fun _ => .andThen (.emitOther "admission_started" (by decide) rfl) fun _ =>
    .andThen (.emitEdge _) fun _ => .pure _

theorem ends_emitResumption (identity : RequestLifecycleIdentity) (admission : BaseEventRef)
    (spanId : String) (epoch ts total cached toCompute : Int) :
    Emit.Ends 0 (emitResumption identity admission spanId epoch ts total cached toCompute) :=
  .andThen (.emitOther "resumed" (by decide) rfl) fun _ => .andThen (.emitEdge _) fun _ => .pure _

theorem ends_emitComputeStart (identity : RequestLifecycleIdentity) (resumed : BaseEventRef)
    (epoch ts : Int) {kind : String} (hkind : kind = "prefill" ∨ kind = "decode") :
    Emit.Ends 0 (emitComputeStart identity resumed epoch ts kind) :=
  .andThen .newSpanId fun _ => .andThen (.emitOther _ (phase_not_terminal hkind).1 rfl) fun _ =>
    .andThen (.emitEdge _) fun _ => .pure _

/-- The phase is closed first, then the terminal follows. -/
theorem ends_emitCompletion (state : RuntimeRequestState) (cause : String) (ts generated : Int) :
    Emit.Ends 1 (emitCompletion state cause ts generated) := by
  refine .andThen (.orNone _) fun started => .andThen (.orNone _) fun spanId =>
    .andThen (.orNone _) fun kind => .require fun hguard => ?_
  have hkind : kind = "prefill" ∨ kind = "decode" := by
    simpa using (Bool.and_eq_true_iff.mp hguard).2
  refine .andThen (.emitOther _ (phase_not_terminal hkind).2 rfl) fun completed => ?_
  refine .before (.emitEvent _) fun emitted => ?_
  exact .andThen (.attempt (.emitEdge _)) fun _ => .andThen (.attempt (.emitEdge _)) fun _ =>
    .andThen (.orNone _) fun _ => .andThen (.orNone _) fun _ => .pure _

theorem ends_emitAbnormal (state : RuntimeRequestState) (eventName cause : String) (ts : Int) :
    Emit.Ends 1 (emitAbnormal state eventName cause ts) :=
  .before (.emitEvent _) fun _ => .andThen (.emitEdge _) fun _ => .pure _

/-! ## Terminal events of a method -/

/-- Between the two states at most so many terminal events were accepted. -/
def Emitted (limit : Nat) (b b' : Bridge) : Prop :=
  ∃ more, Follows b.hooks b'.hooks more ∧ more.countP Emission.isTerminal ≤ limit

section Emitted
variable {b b' : Bridge} {limit : Nat}

theorem Emitted.of_hooks (h : b'.hooks = b.hooks) : Emitted limit b b' :=
  ⟨[], h ▸ Follows.refl _, Nat.zero_le _⟩

theorem Emitted.of_ends {α : Type} {m : Emit α} {r : Option α} {hooks : Hooks}
    (hm : Emit.Ensures m b.hooks fun _ more => more.countP Emission.isTerminal ≤ limit)
    (h : m b.hooks = (r, hooks)) (hb : b'.hooks = hooks) : Emitted limit b b' := by
  obtain ⟨more, hf, hmore⟩ := hm
  rw [h] at hf
  exact ⟨more, hb ▸ hf, hmore⟩

theorem Emitted.count_le (h : Emitted limit b b') :
    (b.emissions b').countP Emission.isTerminal ≤ limit := by
  obtain ⟨more, hf, hmore⟩ := h
  rwa [hf.emissions]

theorem emitted_registerRequest (identity : RequestLifecycleIdentity) :
    Emitted 0 b (b.registerRequest identity).1 := by
  unfold registerRequest
  split
  · exact .of_hooks rfl
  · split <;> exact .of_hooks rfl

theorem emitted_registerRuntimeRequest (sha256 : Bytes → String) (runId rid : String) (ts : Int) :
    Emitted 0 b (b.registerRuntimeRequest sha256 runId rid ts).1 := by
  unfold registerRuntimeRequest
  split
  · exact .of_hooks rfl
  · dsimp only
    split
    · exact .of_hooks rfl
    · split
      · exact .of_hooks rfl
      · split
        all_goals
          next heq => exact .of_ends (ends_emitQueued ..) heq rfl

theorem emitted_emitRuntimeScheduled (rid : String) (ts : Int) (kind : String)
    (scheduled total cached : Int) :
    Emitted 0 b (b.emitRuntimeScheduled rid ts kind scheduled total cached).1 := by
  unfold emitRuntimeScheduled
  split
  · exact .of_hooks rfl
  · split
    · exact .of_hooks rfl
    · next hguard =>
      have hkind : kind = "prefill" ∨ kind = "decode" := by
        by_contra hnot
        exact hguard (.inl ⟨fun h => hnot (.inl h), fun h => hnot (.inr h)⟩)
      dsimp only
      split
      · unfold scheduleActive
        split
        · exact .of_hooks rfl
        · split
          · split
            · exact .of_hooks rfl
            · split
              all_goals
                next heq => exact .of_ends (ends_emitSwitchToDecode ..) heq rfl
          · exact .of_hooks rfl
      · split
        all_goals
          next heq => exact .of_ends (ends_emitScheduledAndStarted _ _ hkind _ _ _) heq rfl

theorem emitted_emitPreemptedAndRequeued (rid : String) (epoch ts : Int) (startId spanId : String)
    (computed chunks : Int) :
    Emitted 0 b (b.emitPreemptedAndRequeued rid epoch ts startId spanId computed chunks).1 := by
  unfold emitPreemptedAndRequeued
  split
  · exact .of_hooks rfl
  · split
    · exact .of_hooks rfl
    · split
      all_goals
        next heq => exact .of_ends (ends_emitPreemption ..) heq rfl

theorem emitted_emitRuntimePreempted (rid : String) (epoch ts : Int) :
    Emitted 0 b (b.emitRuntimePreempted rid epoch ts).1 := by
  unfold emitRuntimePreempted
  split
  · exact .of_hooks rfl
  · next state _ =>
    split
    · next active spanId _ _ =>
      have hpreempted := @emitted_emitPreemptedAndRequeued b rid epoch ts active.eventId spanId
        state.promptTokensComputed (max 1 state.prefillChunkCount)
      split
      · next heq =>
        rw [heq] at hpreempted
        exact hpreempted
      · next b' _ heq =>
        rw [heq] at hpreempted
        have hhooks : (b'.requeue rid epoch).hooks = b'.hooks := by
          unfold requeue
          split <;> rfl
        obtain ⟨more, hf, hmore⟩ := hpreempted
        exact ⟨more, hhooks ▸ hf, hmore⟩
    · exact .of_hooks rfl

theorem emitted_emitAdmissionStarted (rid : String) (epoch ts : Int) :
    Emitted 0 b (b.emitAdmissionStarted rid epoch ts).1 := by
  unfold emitAdmissionStarted
  split
  · split
    · exact .of_hooks rfl
    · split
      all_goals
        next heq => exact .of_ends (ends_emitAdmission ..) heq rfl
  · exact .of_hooks rfl

theorem emitted_emitResumed (rid : String) (epoch ts total cached toCompute : Int) :
    Emitted 0 b (b.emitResumed rid epoch ts total cached toCompute).1 := by
  unfold emitResumed
  split
  · split
    · split
      all_goals
        next heq => exact .of_ends (ends_emitResumption ..) heq rfl
    · exact .of_hooks rfl
  · exact .of_hooks rfl

theorem emitted_emitRuntimeResumed (rid : String) (epoch ts total cached : Int) :
    Emitted 0 b (b.emitRuntimeResumed rid epoch ts total cached).1 := by
  unfold emitRuntimeResumed
  split
  · exact .of_hooks rfl
  · have hresumed := @emitted_emitResumed b rid epoch ts total (min (max 0 cached) (total - 1))
      (total - min (max 0 cached) (total - 1))
    dsimp only
    split
    · next heq =>
      rw [heq] at hresumed
      exact hresumed
    · next b' _ heq =>
      rw [heq] at hresumed
      obtain ⟨more, hf, hmore⟩ := hresumed
      exact ⟨more, (setTokens_hooks b' rid _) ▸ hf, hmore⟩

theorem emitted_emitFirstCompute (rid : String) (epoch ts : Int) (kind : String) :
    Emitted 0 b (b.emitFirstCompute rid epoch ts kind).1 := by
  unfold emitFirstCompute
  split
  · split
    · exact .of_hooks rfl
    · split
      · exact .of_hooks rfl
      · next hguard =>
        have hkind : kind = "prefill" ∨ kind = "decode" := by
          by_contra hnot
          exact hguard (.inr ⟨fun h => hnot (.inl h), fun h => hnot (.inr h)⟩)
        split
        · next heq => exact .of_ends (ends_emitComputeStart _ _ _ _ hkind _) heq rfl
        · next heq =>
          refine .of_ends (ends_emitComputeStart _ _ _ _ hkind _) heq ?_
          dsimp only
          unfold activate
          split <;> rfl
  · exact .of_hooks rfl

theorem emitted_emitRuntimeTerminal (rid cause : String) (ts generated : Int) :
    Emitted 1 b (b.emitRuntimeTerminal rid cause ts generated).1 := by
  unfold emitRuntimeTerminal
  split
  · next eventName _ state _ _ _ =>
    split
    next result hooks heq =>
    split at heq
    · exact .of_ends (ends_emitCompletion ..) heq rfl
    · exact .of_ends (ends_emitAbnormal ..) heq rfl
  · exact .of_hooks rfl

end Emitted

/-! ## Registrations and terminals of a run -/

/-- The call is a registration of the request that takes effect. -/
def registered (sha256 : Bytes → String) (b : Bridge) (rid : String) : Call → Bool
  | .registerRuntimeRequest runId other ts =>
    other = rid && (b.runtimeStates.get rid).isNone &&
      ((b.registerRuntimeRequest sha256 runId other ts).1.runtimeStates.get rid).isSome
  | _ => false

/-- How many registrations of the request take effect in the run. -/
def registrations (sha256 : Bytes → String) (rid : String) : Bridge → List Call → Nat
  | _, [] => 0
  | b, c :: rest =>
    (if b.registered sha256 rid c then 1 else 0) + registrations sha256 rid (b.call sha256 c) rest

/-- How many terminal events are accepted in the run from calls about the request. -/
def terminals (sha256 : Bytes → String) (rid : String) : Bridge → List Call → Nat
  | _, [] => 0
  | b, c :: rest =>
    (if c.request = rid then (b.emissions (b.call sha256 c)).countP Emission.isTerminal else 0) +
      terminals sha256 rid (b.call sha256 c) rest

/-- One for a request with runtime state. -/
def open? (b : Bridge) (rid : String) : Nat := if (b.runtimeStates.get rid).isSome then 1 else 0

section Counting
variable {b b' : Bridge} {rid : String}

theorem SameKeys.open? (h : SameKeys b b') (rid : String) : b'.open? rid = b.open? rid := by
  have hsome : (b'.runtimeStates.get rid).isSome = (b.runtimeStates.get rid).isSome := by
    rw [Bool.eq_iff_iff, Mapping.isSome_get, Mapping.isSome_get, h.states]
  rw [Bridge.open?, Bridge.open?, hsome]

theorem open?_le (b : Bridge) (rid : String) : b.open? rid ≤ 1 := by
  unfold open?
  split <;> omega

theorem open?_emitPreemptedAndRequeued (b : Bridge) (rid : String) (epoch ts : Int)
    (startId spanId : String) (computed chunks : Int) (other : String) :
    (b.emitPreemptedAndRequeued rid epoch ts startId spanId computed chunks).1.open? other =
      b.open? other := by
  rw [open?, emitPreemptedAndRequeued_states, open?]

/-- The terminal of a request takes the request with it. -/
theorem terminal_counts (b : Bridge) (rid cause : String) (ts generated : Int) :
    (b.emissions (b.emitRuntimeTerminal rid cause ts generated).1).countP Emission.isTerminal +
      (b.emitRuntimeTerminal rid cause ts generated).1.open? rid ≤ b.open? rid := by
  have hcount := (@emitted_emitRuntimeTerminal b rid cause ts generated).count_le
  unfold emitRuntimeTerminal at hcount ⊢
  split at hcount
  · next hstate =>
    have hopen : b.open? rid = 1 := by rw [open?, hstate]; rfl
    have hclosed : ∀ b : Bridge, (b.requestTerminal rid).open? rid = 0 := fun b => by
      rw [open?, (forgotten_requestTerminal b rid).state]
      rfl
    rw [hopen]
    dsimp only at hcount ⊢
    rw [hclosed]
    exact hcount
  · have hnone : b.emissions b = [] := by rw [emissions, List.drop_length]
    rw [hnone]
    simp

/-- A call that ends nothing and creates no state but by registration. -/
theorem counts_of_same {c : Call} {sha256 : Bytes → String}
    (hemitted : Emitted 0 b (b.call sha256 c))
    (hopen : (b.call sha256 c).open? rid ≤
      b.open? rid + if b.registered sha256 rid c then 1 else 0) :
    (b.emissions (b.call sha256 c)).countP Emission.isTerminal + (b.call sha256 c).open? rid ≤
      (if b.registered sha256 rid c then 1 else 0) + b.open? rid := by
  have := hemitted.count_le
  omega

/-- The step lemma: what ends the request closes it, and what opens it is a
registration. -/
theorem call_counts (sha256 : Bytes → String) (b : Bridge) (c : Call) :
    (b.emissions (b.call sha256 c)).countP Emission.isTerminal +
        (b.call sha256 c).open? c.request ≤
      (if b.registered sha256 c.request c then 1 else 0) + b.open? c.request := by
  have hkeys : ∀ {b' : Bridge} {limit : Nat}, SameKeys b b' →
      b'.open? c.request ≤ b.open? c.request + limit := fun h => by
    rw [h.open?]
    exact Nat.le_add_right ..
  cases c with
  | registerRequest identity =>
    refine counts_of_same (emitted_registerRequest identity) (Nat.le_add_right_of_le ?_)
    change (b.registerRequest identity).1.open? _ ≤ _
    unfold Bridge.registerRequest
    split
    · exact Nat.le_refl _
    · split <;> exact Nat.le_refl _
  | registerRuntimeRequest runId rid ts =>
    refine counts_of_same (emitted_registerRuntimeRequest sha256 runId rid ts) ?_
    change (b.registerRuntimeRequest sha256 runId rid ts).1.open? rid ≤ b.open? rid + _
    cases hbefore : b.runtimeStates.get rid with
    | some state =>
      have hopen : b.open? rid = 1 := by rw [open?, hbefore]; rfl
      rw [hopen]
      exact Nat.le_add_right_of_le (open?_le _ rid)
    | none =>
      rw [open?]
      split
      · next hafter =>
        have hregistered : b.registered sha256 rid
          (.registerRuntimeRequest runId rid ts) = true := by
          simp [registered, hbefore, hafter]
        rw [Call.request, hregistered]
        exact Nat.le_add_left ..
      · exact Nat.zero_le _
  | emitRuntimeScheduled rid ts kind scheduled total cached =>
    exact counts_of_same (emitted_emitRuntimeScheduled ..)
      (hkeys (sameKeys_emitRuntimeScheduled ..))
  | emitRuntimePreempted rid epoch ts =>
    refine counts_of_same (emitted_emitRuntimePreempted ..) (Nat.le_add_right_of_le ?_)
    change (b.emitRuntimePreempted rid epoch ts).1.open? rid ≤ _
    unfold Bridge.emitRuntimePreempted
    split
    · exact Nat.le_refl _
    · next state _ =>
      split
      · next active spanId _ _ =>
        have hopen := open?_emitPreemptedAndRequeued b rid epoch ts active.eventId spanId
          state.promptTokensComputed (max 1 state.prefillChunkCount) rid
        split
        · next heq =>
          rw [heq] at hopen
          exact Nat.le_of_eq hopen
        · next b' _ heq =>
          rw [heq] at hopen
          exact Nat.le_of_eq (((sameKeys_requeue b' rid epoch).open? rid).trans hopen)
      · exact Nat.le_refl _
  | emitPreemptedAndRequeued rid epoch ts startId spanId computed chunks =>
    exact counts_of_same (emitted_emitPreemptedAndRequeued ..)
      (Nat.le_add_right_of_le (Nat.le_of_eq (open?_emitPreemptedAndRequeued ..)))
  | emitAdmissionStarted rid epoch ts =>
    exact counts_of_same (emitted_emitAdmissionStarted ..)
      (hkeys (sameKeys_emitAdmissionStarted ..))
  | emitResumed rid epoch ts total cached toCompute =>
    exact counts_of_same (emitted_emitResumed ..) (hkeys (sameKeys_emitResumed ..))
  | emitRuntimeResumed rid epoch ts total cached =>
    exact counts_of_same (emitted_emitRuntimeResumed ..) (hkeys (sameKeys_emitRuntimeResumed ..))
  | emitFirstCompute rid epoch ts kind =>
    exact counts_of_same (emitted_emitFirstCompute ..) (hkeys (sameKeys_emitFirstCompute ..))
  | requestTerminal rid =>
    refine counts_of_same (.of_hooks rfl) (Nat.le_add_right_of_le ?_)
    change (b.requestTerminal rid).open? rid ≤ _
    rw [open?, (forgotten_requestTerminal b rid).state]
    exact Nat.zero_le _
  | emitRuntimeTerminal rid cause ts generated =>
    exact Nat.le_trans (terminal_counts b rid cause ts generated) (Nat.le_add_left ..)

/-- The run lemma. -/
theorem terminals_le (sha256 : Bytes → String) (rid : String) (b : Bridge) (calls : List Call) :
    terminals sha256 rid b calls + (b.run sha256 calls).open? rid ≤
      registrations sha256 rid b calls + b.open? rid := by
  induction calls generalizing b with
  | nil => exact Nat.le_of_eq rfl
  | cons c rest ih =>
    have hrest := ih (b.call sha256 c)
    rw [terminals, registrations]
    change _ + ((b.call sha256 c).run sha256 rest).open? rid ≤ _
    by_cases hrid : c.request = rid
    · have hcall := call_counts sha256 b c
      rw [hrid] at hcall
      rw [if_pos hrid]
      omega
    · have hopen : (b.call sha256 c).open? rid = b.open? rid := by
        rw [open?, call_other sha256 b (Ne.symm hrid), open?]
      rw [if_neg hrid, Nat.zero_add]
      omega

end Counting
end Bridge

/-- **Retention**: whatever is called and dropped, the tables stay linked and
bounded, a registration has at most one terminal event accepted, and a terminal
with a valid cause and time leaves nothing of its request. -/
theorem bridge_linked_and_bounded (sha256 : Bytes → String) (hooks : Hooks) (capacity : Nat)
    (calls : List Call) :
    let b := (Bridge.start hooks capacity).run sha256 calls
    b.Linked ∧
    (∀ rid, Bridge.terminals sha256 rid (.start hooks capacity) calls ≤
      Bridge.registrations sha256 rid (.start hooks capacity) calls) ∧
    (∀ rid later, Bridge.registrations sha256 rid b later = 0 →
      Bridge.terminals sha256 rid b later ≤ 1) ∧
    ∀ rid cause ts generated, (b.runtimeStates.get rid).isSome = true →
      (Bridge.terminalEvent cause).isSome = true → (asUint uint64Max (.int ts)).isSome = true →
        (b.emitRuntimeTerminal rid cause ts generated).1.Forgotten rid := by
  intro b
  refine ⟨(Bridge.linked_start hooks capacity).run sha256 calls, fun rid => ?_,
    fun rid later hnone => ?_, fun rid cause ts generated hstate hcause hts => ?_⟩
  · have := Bridge.terminals_le sha256 rid (.start hooks capacity) calls
    have hopen : (Bridge.start hooks capacity).open? rid = 0 := rfl
    omega
  · have := Bridge.terminals_le sha256 rid b later
    have := Bridge.open?_le b rid
    omega
  · obtain ⟨state, hstate⟩ := Option.isSome_iff_exists.mp hstate
    obtain ⟨eventName, hcause⟩ := Option.isSome_iff_exists.mp hcause
    obtain ⟨ns, hts⟩ := Option.isSome_iff_exists.mp hts
    unfold Bridge.emitRuntimeTerminal
    rw [hcause, hts, hstate]
    exact Bridge.forgotten_requestTerminal _ rid

namespace Sample

def registeredCall : Call := .registerRuntimeRequest runId "request-0" 100

end Sample

theorem bridge_linked_and_bounded_registered :
    (((Bridge.start (Sample.hooks []) 16).run Sample.sha256
      [Sample.registeredCall]).emitRuntimeTerminal
      "request-0" "error" 200 0).1.Forgotten "request-0" :=
  (bridge_linked_and_bounded Sample.sha256 (Sample.hooks []) 16 [Sample.registeredCall]).2.2.2
    "request-0" "error" 200 0 (by decide +kernel) (by decide +kernel) (by decide +kernel)

/-- A terminal whose time is no unsigned integer returns before it forgets. -/
theorem invalid_time_retains_request :
    ¬ ∀ (sha256 : Bytes → String) (hooks : Hooks) (capacity : Nat) (calls : List Call)
      (rid cause : String) (ts generated : Int),
      let b := (Bridge.start hooks capacity).run sha256 calls
      (b.runtimeStates.get rid).isSome = true → (Bridge.terminalEvent cause).isSome = true →
        (b.emitRuntimeTerminal rid cause ts generated).1.Forgotten rid := by
  intro hclaim
  have hforgotten := hclaim Sample.sha256 (Sample.hooks []) 16 [Sample.registeredCall] "request-0"
    "error" (-1) 0 (by decide +kernel) (by decide +kernel)
  have hidentity := congrArg Option.isNone hforgotten.identity
  revert hidentity
  decide +kernel
end LifecycleProfiler.Runtime
