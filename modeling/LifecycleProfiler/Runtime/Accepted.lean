import LifecycleProfiler.Runtime.Sends
import LifecycleProfiler.Runtime.Retention

/-! # Every draft of the bridge is accepted

The bridge remembers events and spans its sink has given out and counters in
their domains. From such a state each method hands drafts to the sink that the
record builders accept, and leaves such a state behind. -/

namespace LifecycleProfiler.Runtime
open Python Protocol

namespace Bridge

/-- The request has runtime state or an episode. -/
def Known (b : Bridge) (rid : String) : Prop :=
  (b.runtimeStates.get rid).isSome = true ∨ ∃ epoch, (b.episodes.get (rid, epoch)).isSome = true

/-- Everything the bridge remembers can go into a draft. -/
structure Sound (b : Bridge) : Prop where
  configured : Configured b.hooks
  states : ∀ rid state, b.runtimeStates.get rid = some state → StateSound b.hooks state
  episodes : ∀ rid epoch episode, b.episodes.get (rid, epoch) = some episode →
    EpisodeSound b.hooks epoch episode
  traces : ∀ rid identity, b.identities.get rid = some identity → Known b rid →
    isHex 32 identity.traceId = true

/-- No request has counted more chunks than a uint64 holds. -/
def ChunksFit (b : Bridge) : Prop :=
  ∀ rid state, b.runtimeStates.get rid = some state → state.prefillChunkCount ≤ uint64Max

/-- A method leaves a sound bridge, and in its domain it has nothing rejected. -/
structure Passed (b b' : Bridge) (domain : Prop) : Prop where
  sound : Sound b'
  accepted : domain → SequencesFit b'.hooks → NoneRejected b.hooks b'.hooks

section Tables
variable {b b' : Bridge} {rid : String} {epoch : Int} {h h' : Hooks} {domain : Prop}

theorem StateSound.onward {state : RuntimeRequestState} (hs : StateSound h state)
    (hon : Onward h h') : StateSound h' state :=
  ⟨⟨hs.queue.started.onward hon, hs.queue.span.onward hon, hs.queue.trace, hs.queue.epoch⟩,
    hs.epoch, fun started hstarted => (hs.activeStarted started hstarted).onward hon,
    fun s hspan => (hs.activeSpan s hspan).onward hon, hs.computed⟩

theorem EpisodeSound.onward {episode : EmittedBaseEpisode} (he : EpisodeSound h epoch episode)
    (hon : Onward h h') : EpisodeSound h' epoch episode :=
  ⟨he.epoch, he.requeued.onward hon, he.queueSpan.onward hon,
    fun started hstarted => (he.admission started hstarted).onward hon,
    fun s hspan => (he.admissionSpan s hspan).onward hon,
    fun resumed hresumed => (he.resumed resumed hresumed).onward hon⟩

theorem SameKeys.known (hkeys : SameKeys b b') (hknown : Known b' rid) : Known b rid := by
  rcases hknown with hstate | ⟨epoch, hepisode⟩
  · rw [Mapping.isSome_get, hkeys.states, ← Mapping.isSome_get] at hstate
    exact .inl hstate
  · rw [Mapping.isSome_get, hkeys.episodes, ← Mapping.isSome_get] at hepisode
    exact .inr ⟨epoch, hepisode⟩

theorem Sound.traces_of_sameKeys (hb : Sound b) (hkeys : SameKeys b b') :
    ∀ rid identity, b'.identities.get rid = some identity → Known b' rid →
      isHex 32 identity.traceId = true := by
  intro rid identity hidentity hknown
  rw [hkeys.identities] at hidentity
  exact hb.traces rid identity hidentity (hkeys.known hknown)

theorem Sound.hooks (hb : Sound b) (hon : Onward b.hooks h') : Sound { b with hooks := h' } :=
  ⟨hb.configured.onward hon, fun rid state hstate => (hb.states rid state hstate).onward hon,
    fun rid epoch episode hepisode => (hb.episodes rid epoch episode hepisode).onward hon,
    hb.traces_of_sameKeys (sameKeys_hooks b h')⟩

theorem Sound.setState (hb : Sound b) {current state : RuntimeRequestState}
    (hcurrent : b.runtimeStates.get rid = some current) (hon : Onward b.hooks h')
    (hstate : StateSound h' state) : Sound (b.setState rid h' state) := by
  refine ⟨hb.configured.onward hon, fun other state' hget => ?_,
    fun other epoch episode hepisode => (hb.episodes other epoch episode hepisode).onward hon,
    hb.traces_of_sameKeys (sameKeys_setState hcurrent h' state)⟩
  rw [Bridge.setState, Mapping.get_set] at hget
  split at hget
  · cases hget
    exact hstate
  · exact (hb.states other state' hget).onward hon

theorem episodes_setEpisode (hb : Sound b) {episode : EmittedBaseEpisode}
    (hon : Onward b.hooks h') (hepisode : EpisodeSound h' epoch episode) :
    ∀ other e episode', (b.setEpisode rid epoch h' episode).episodes.get (other, e) =
      some episode' → EpisodeSound h' e episode' := by
  intro other e episode' hget
  rw [Bridge.setEpisode, Mapping.get_set] at hget
  split at hget
  · next hkey =>
    cases hkey
    cases hget
    exact hepisode
  · exact (hb.episodes other e episode' hget).onward hon

theorem Sound.setEpisode (hb : Sound b) {current episode : EmittedBaseEpisode}
    (hcurrent : b.episodes.get (rid, epoch) = some current) (hon : Onward b.hooks h')
    (hepisode : EpisodeSound h' epoch episode) : Sound (b.setEpisode rid epoch h' episode) :=
  ⟨hb.configured.onward hon, fun other state hstate => (hb.states other state hstate).onward hon,
    episodes_setEpisode hb hon hepisode,
    hb.traces_of_sameKeys (sameKeys_setEpisode hcurrent h' episode)⟩

/-- An episode of a request whose trace the sink has seen joins. -/
theorem Sound.preempts (hb : Sound b) {episode : EmittedBaseEpisode}
    {identity : RequestLifecycleIdentity} (hidentity : b.identities.get rid = some identity)
    (htrace : isHex 32 identity.traceId = true) (hon : Onward b.hooks h')
    (hepisode : EpisodeSound h' epoch episode) : Sound (b.setEpisode rid epoch h' episode) := by
  refine ⟨hb.configured.onward hon,
    fun other state hstate => (hb.states other state hstate).onward hon,
    episodes_setEpisode hb hon hepisode, fun other identity' hget hknown => ?_⟩
  change b.identities.get other = some identity' at hget
  by_cases hother : other = rid
  · subst hother
    rw [hidentity] at hget
    cases hget
    exact htrace
  · refine hb.traces other identity' hget (hknown.imp_right fun ⟨e, he⟩ => ⟨e, ?_⟩)
    rw [Bridge.setEpisode, Mapping.get_set_ne (by simp [hother])] at he
    exact he

theorem Sound.forgets (hb : Sound b) (rid : String) : Sound (b.requestTerminal rid) := by
  have hgone := forgotten_requestTerminal b rid
  refine ⟨hb.configured, fun other state hstate => ?_, fun other epoch episode hepisode => ?_,
    fun other identity hidentity hknown => ?_⟩
  · by_cases hother : other = rid
    · rw [hother, hgone.state] at hstate
      cases hstate
    · rw [requestTerminal_other b hother] at hstate
      exact hb.states other state hstate
  · rw [requestTerminal, Mapping.get_popWhere] at hepisode
    split at hepisode
    · cases hepisode
    · exact hb.episodes other epoch episode hepisode
  · by_cases hother : other = rid
    · rw [hother, hgone.identity] at hidentity
      cases hidentity
    · rw [requestTerminal, Mapping.get_pop, if_neg hother] at hidentity
      refine hb.traces other identity hidentity (hknown.imp (fun hstate => ?_)
        fun hepisodes => hepisodes.imp fun epoch hepisode => ?_)
      · rw [requestTerminal_other b hother] at hstate
        exact hstate
      · rw [requestTerminal, Mapping.get_popWhere, if_neg (by simpa using hother)] at hepisode
        exact hepisode

theorem Passed.same (hb : Sound b) : Passed b b domain :=
  ⟨hb, fun _ _ => .of_length (Nat.le_refl _)⟩

theorem Passed.mono {domain' : Prop} (h : Passed b b' domain) (hd : domain' → domain) :
    Passed b b' domain' := ⟨h.sound, fun hdomain => h.accepted (hd hdomain)⟩

/-- A method that sends and then changes the tables. -/
theorem Passed.of_sent {α : Type} {post : α → Hooks → Prop} {r : Option α}
    (hsent : Sent b.hooks domain post (r, h')) (hhooks : b'.hooks = h') (hb : Sound b') :
    Passed b b' domain :=
  ⟨hb, fun hd hfit => hhooks ▸ hsent.accepted hd (hhooks ▸ hfit)⟩

theorem Passed.dropped {α : Type} {post : α → Hooks → Prop} (hb : Sound b)
    (hsent : Sent b.hooks domain post ((none : Option α), h')) :
    Passed b { b with hooks := h' } domain := .of_sent hsent rfl (hb.hooks hsent.onward)

theorem Sound.inDomain (hb : Sound b) {identity : RequestLifecycleIdentity}
    {episode : EmittedBaseEpisode} (hidentity : b.identities.get rid = some identity)
    (hepisode : b.episodes.get (rid, epoch) = some episode) (ts : Int)
    (hts : InUint uint64Max ts) : InDomain b.hooks identity epoch ts := by
  have he := hb.episodes rid epoch episode hepisode
  refine ⟨hb.configured, hb.traces rid identity hidentity (.inr ⟨epoch, ?_⟩),
    ⟨Int.le_trans (by decide) he.epoch.1, he.epoch.2⟩, hts⟩
  rw [hepisode]
  rfl

end Tables

/-! ## The methods -/

section Methods
variable {b : Bridge} {rid : String}

theorem Sound.registerRequest (hb : Sound b) (hlinked : b.Linked)
    (identity : RequestLifecycleIdentity) : Sound (b.registerRequest identity).1 := by
  unfold Bridge.registerRequest
  split
  · exact hb
  · next hnew =>
    split
    · exact hb
    · refine ⟨hb.configured, hb.states, hb.episodes, fun rid identity' hget hknown => ?_⟩
      change (b.identities.set identity.runtimeRequestId identity).get rid = some identity' at hget
      have hregistered : (b.identities.get rid).isSome = true := by
        rcases hknown with hstate | ⟨epoch, hepisode⟩
        · exact hlinked.states rid hstate
        · exact hlinked.episodes rid epoch hepisode
      have hne : rid ≠ identity.runtimeRequestId := by
        rintro rfl
        rw [hnew] at hregistered
        cases hregistered
      rw [Mapping.get_set_ne hne] at hget
      exact hb.traces rid identity' hget hknown

theorem isHex_requestTraceId {sha256 : Bytes → String}
    (hsha : ∀ bytes, isHex 64 (sha256 bytes) = true) (runId rid : String) :
    isHex 32 (requestTraceId sha256 runId rid) = true := isHex_take (hsha _) (by decide)

theorem passed_registerRuntimeRequest (hb : Sound b) {sha256 : Bytes → String}
    (hsha : ∀ bytes, isHex 64 (sha256 bytes) = true) (runId rid : String) (ts : Int) :
    Passed b (b.registerRuntimeRequest sha256 runId rid ts).1 (InUint uint64Max ts) := by
  unfold registerRuntimeRequest
  split
  · exact .same hb
  · dsimp only
    split
    · exact .same hb
    · next hnew =>
      split
      · exact .same hb
      · have hsent := emitQueued_sends b.hooks ⟨requestTraceId sha256 runId rid, rid⟩ ts
        unfold Emit.Sends at hsent
        have hdomain : InUint uint64Max ts →
            InDomain b.hooks ⟨requestTraceId sha256 runId rid, rid⟩ 0 ts := fun hts =>
          ⟨hb.configured, isHex_requestTraceId hsha runId rid, ⟨Int.le_refl 0, by decide⟩, hts⟩
        split
        · next heq =>
          rw [heq] at hsent
          exact (Passed.dropped hb hsent).mono hdomain
        · next emitted spanId h' heq =>
          rw [heq] at hsent
          have hbegun := hsent.result _ rfl
          refine Passed.mono (.of_sent hsent rfl ⟨hb.configured.onward hsent.onward,
            fun other state hget => ?_, fun other epoch episode hepisode =>
              (hb.episodes other epoch episode hepisode).onward hsent.onward,
            fun other identity hget hknown => ?_⟩) hdomain
          · rw [Mapping.get_set] at hget
            split at hget
            · cases hget
              exact ⟨hbegun, Int.le_refl 0, by simp, by simp, ⟨Int.le_refl 0,
                show (0 : Int) ≤ uint64Max by decide⟩⟩
            · exact (hb.states other state hget).onward hsent.onward
          · rw [Mapping.get_set] at hget
            split at hget
            · cases hget
              exact hbegun.trace
            · next hne =>
              refine hb.traces other identity hget (hknown.imp_left fun hstate => ?_)
              rw [Mapping.get_set_ne hne] at hstate
              exact hstate

/-- The counters stay in their domain whatever is scheduled. -/
theorem StateSound.countTokens {h : Hooks} {state : RuntimeRequestState} (hs : StateSound h state)
    (kind : String) {total scheduled : Int} (htotal : InUint uint64Max total)
    (hscheduled : 1 ≤ scheduled) : StateSound h
      (Bridge.countTokens state kind total scheduled) := by
  refine ⟨hs.queue, hs.epoch, hs.activeStarted, hs.activeSpan, ?_, ?_⟩
  · have := hs.computed.1
    exact Int.le_min.mpr ⟨htotal.1, by omega⟩
  · exact Int.le_trans (Int.min_le_left ..) htotal.2

/-- The first phase of a request, or the next, replaces the active one. -/
theorem StateSound.activates {h : Hooks} {state : RuntimeRequestState} (hs : StateSound h state)
    {startedId spanId kind : String} {ts : Int}
    (hbegun : Begun h state.identity state.preemptionEpoch startedId spanId) {computed : Int}
    (hcomputed : InUint uint64Max computed) (chunks : Int) :
    StateSound h { state with
      activeStarted := some ⟨startedId, ts⟩
      activeSpanId := some spanId
      activeComputeKind := some kind
      promptTokensComputed := computed
      prefillChunkCount := chunks } := by
  refine ⟨hs.queue, hs.epoch, fun started hstarted => ?_, fun s hspan => ?_, hcomputed⟩
  · cases hstarted
    exact hbegun.started
  · cases hspan
    exact hbegun.span

theorem passed_scheduleActive (hb : Sound b) {state : RuntimeRequestState}
    (hstate : b.runtimeStates.get rid = some state) {active : BaseEventRef}
    (hactive : state.activeStarted = some active) (ts : Int) (kind : String)
    {scheduled total : Int} (htotal : InUint uint64Max total) (hscheduled : 1 ≤ scheduled) :
    Passed b (b.scheduleActive rid state active ts kind scheduled total).1
      (InUint uint64Max ts ∧ ChunksFit b) := by
  have hs := hb.states rid state hstate
  unfold scheduleActive
  split
  · exact ⟨hb.setState hstate (.refl _) (hs.countTokens kind htotal hscheduled),
      fun _ _ => .of_length (Nat.le_refl _)⟩
  · split
    · split
      · exact .same hb
      · next activeSpanId hspan =>
        have hsent := emitSwitchToDecode_sends hs (hs.activeStarted active hactive)
          (hs.activeSpan activeSpanId hspan) ts
        unfold Emit.Sends at hsent
        have hdomain : InUint uint64Max ts ∧ ChunksFit b → Configured b.hooks ∧
            InUint uint64Max ts ∧ state.prefillChunkCount ≤ uint64Max := fun hd =>
          ⟨hb.configured, hd.1, hd.2 rid state hstate⟩
        split
        · next heq =>
          rw [heq] at hsent
          exact (Passed.dropped hb hsent).mono hdomain
        · next started spanId h' heq =>
          rw [heq] at hsent
          have hs' := hs.onward hsent.onward
          exact Passed.mono (.of_sent hsent rfl (hb.setState hstate hsent.onward
            ((hs'.activates (hsent.result _ rfl) hs'.computed state.prefillChunkCount).countTokens
              kind htotal hscheduled))) hdomain
    · exact .same hb

theorem passed_emitRuntimeScheduled (hb : Sound b) (rid : String) (ts : Int) (kind : String)
    (scheduled : Int) {total : Int} (cached : Int) (htotal : total ≤ uint64Max) :
    Passed b (b.emitRuntimeScheduled rid ts kind scheduled total cached).1
      (InUint uint64Max ts ∧ ChunksFit b) := by
  unfold emitRuntimeScheduled
  split
  · exact .same hb
  · next state hstate =>
    split
    · exact .same hb
    · next hguard =>
      rw [not_or, not_or, not_lt, not_lt] at hguard
      obtain ⟨hkinds, hscheduled, hpos⟩ := hguard
      have hkind : IsComputeKind kind := by
        by_contra hnot
        exact hkinds ⟨fun h => hnot (.inl h), fun h => hnot (.inr h)⟩
      have hcached : 0 ≤ min (max 0 cached) (total - 1) ∧
        min (max 0 cached) (total - 1) < total := by
        omega
      have huint : InUint uint64Max total := ⟨by omega, htotal⟩
      dsimp only
      split
      · next active hactive =>
        exact passed_scheduleActive hb hstate hactive ts kind huint hscheduled
      · have hs := hb.states rid state hstate
        have hsent := emitScheduledAndStarted_sends hs ts hkind hcached
        unfold Emit.Sends at hsent
        have hdomain : InUint uint64Max ts ∧ ChunksFit b → Configured b.hooks ∧
            InUint uint64Max ts ∧ total ≤ uint64Max := fun hd => ⟨hb.configured, hd.1, htotal⟩
        split
        · next heq =>
          rw [heq] at hsent
          exact (Passed.dropped hb hsent).mono hdomain
        · next started spanId h' heq =>
          rw [heq] at hsent
          refine Passed.mono (.of_sent hsent rfl (hb.setState hstate hsent.onward
            ((hs.onward hsent.onward).activates (hsent.result _ rfl) ?_ _))) hdomain
          exact ⟨Int.le_min.mpr ⟨huint.1, by omega⟩, Int.le_trans (Int.min_le_left ..) htotal⟩

theorem passed_emitPreemptedAndRequeued (hb : Sound b) (rid : String) (epoch ts : Int)
    (startId c : String) (computed chunks : Int) :
    Passed b (b.emitPreemptedAndRequeued rid epoch ts startId c computed chunks).1
      (Known b rid ∧ InUint uint32Max epoch ∧ InUint uint64Max ts ∧ Issued b.hooks startId ∧
        Drawn b.hooks c ∧ InUint uint64Max computed ∧ 1 ≤ chunks ∧ chunks ≤ uint64Max) := by
  unfold emitPreemptedAndRequeued
  split
  · exact .same hb
  · next identity hidentity =>
    split
    · exact .same hb
    · next hguard =>
      rw [not_or, not_lt] at hguard
      have hsent := emitPreemption_sends b.hooks identity epoch ts startId c computed chunks
      unfold Emit.Sends at hsent
      have hdomain : (Known b rid ∧ InUint uint32Max epoch ∧ InUint uint64Max ts ∧
          Issued b.hooks startId ∧ Drawn b.hooks c ∧ InUint uint64Max computed ∧ 1 ≤ chunks ∧
          chunks ≤ uint64Max) → InDomain b.hooks identity epoch ts ∧ 1 ≤ epoch ∧
          Issued b.hooks startId ∧ Drawn b.hooks c ∧ InUint uint64Max computed ∧ 1 ≤ chunks ∧
          chunks ≤ uint64Max := by
        rintro ⟨hknown, hepoch, hts, hrest⟩
        exact ⟨⟨hb.configured, hb.traces rid identity hidentity hknown, hepoch, hts⟩, hguard.1,
          hrest⟩
      split
      · next heq =>
        rw [heq] at hsent
        exact (Passed.dropped hb hsent).mono hdomain
      · next preempted requeued spanId h' heq =>
        rw [heq] at hsent
        obtain ⟨-, hbegun⟩ := hsent.result _ rfl
        exact Passed.mono (.of_sent hsent rfl (hb.preempts hidentity hbegun.trace hsent.onward
          ⟨⟨hguard.1, hbegun.epoch⟩, hbegun.started, hbegun.span, by simp, by simp, by simp⟩))
          hdomain

theorem Sound.requeue (hb : Sound b) (rid : String) (epoch : Int) :
    Sound (b.requeue rid epoch) := by
  unfold Bridge.requeue
  split
  · next state episode hstate hepisode =>
    have hs := hb.states rid state hstate
    have he := hb.episodes rid epoch episode hepisode
    exact hb.setState hstate (.refl _)
      ⟨⟨he.requeued, he.queueSpan, hs.queue.trace, he.epoch.2⟩,
        Int.le_trans (by decide) he.epoch.1, nofun, nofun,
        ⟨Int.le_refl 0, show (0 : Int) ≤ uint64Max by decide⟩⟩
  · exact hb

theorem requeue_hooks (b : Bridge) (rid : String) (epoch : Int) :
    (b.requeue rid epoch).hooks = b.hooks := by
  unfold requeue
  split <;> rfl

/-- A method that changes the tables once more after it has sent. -/
theorem Passed.then {b' b'' : Bridge} {domain : Prop} (h : Passed b b' domain) (hb : Sound b'')
    (hhooks : b''.hooks = b'.hooks) : Passed b b'' domain :=
  ⟨hb, fun hd hfit => hhooks ▸ h.accepted hd (hhooks ▸ hfit)⟩

theorem passed_emitRuntimePreempted (hb : Sound b) (rid : String) (epoch ts : Int) :
    Passed b (b.emitRuntimePreempted rid epoch ts).1
      (InUint uint32Max epoch ∧ InUint uint64Max ts ∧ ChunksFit b) := by
  unfold emitRuntimePreempted
  split
  · exact .same hb
  · next state hstate =>
    split
    · next active spanId hactive hspan =>
      have hs := hb.states rid state hstate
      have hpassed := (passed_emitPreemptedAndRequeued hb rid epoch ts active.eventId spanId
        state.promptTokensComputed (max 1 state.prefillChunkCount)).mono fun
          (hd : InUint uint32Max epoch ∧ InUint uint64Max ts ∧ ChunksFit b) =>
            ⟨.inl (by rw [hstate]; rfl), hd.1, hd.2.1, hs.activeStarted active hactive,
              hs.activeSpan spanId hspan, hs.computed, chunks_bounds (hd.2.2 rid state hstate)⟩
      split
      · next heq =>
        rw [heq] at hpassed
        exact hpassed
      · next b' _ heq =>
        rw [heq] at hpassed
        exact hpassed.then (hpassed.sound.requeue rid epoch) (requeue_hooks b' rid epoch)
    · exact .same hb

theorem passed_emitAdmissionStarted (hb : Sound b) (rid : String) (epoch ts : Int) :
    Passed b (b.emitAdmissionStarted rid epoch ts).1 (InUint uint64Max ts) := by
  unfold emitAdmissionStarted
  split
  · next identity episode hidentity hepisode =>
    split
    · exact .same hb
    · have he := hb.episodes rid epoch episode hepisode
      have hsent := emitAdmission_sends he identity ts
      unfold Emit.Sends at hsent
      have hdomain := hb.inDomain hidentity hepisode ts
      split
      · next heq =>
        rw [heq] at hsent
        exact (Passed.dropped hb hsent).mono hdomain
      · next emitted spanId h' heq =>
        rw [heq] at hsent
        obtain ⟨hissued, hdrawn⟩ := hsent.result _ rfl
        have he' := he.onward hsent.onward
        refine Passed.mono (.of_sent hsent rfl (hb.setEpisode hepisode hsent.onward
          ⟨he'.epoch, he'.requeued, he'.queueSpan, fun started hstarted => ?_,
            fun s hspan => ?_, he'.resumed⟩)) hdomain
        · cases hstarted
          exact hissued
        · cases hspan
          exact hdrawn
  · exact .same hb

theorem passed_emitResumed (hb : Sound b) (rid : String)
    (epoch ts total cached toCompute : Int) :
    Passed b (b.emitResumed rid epoch ts total cached toCompute).1
      (InUint uint64Max ts ∧ 0 ≤ cached ∧ cached < total ∧ total ≤ uint64Max ∧
        toCompute = total - cached) := by
  unfold emitResumed
  split
  · next identity episode hidentity hepisode =>
    have he := hb.episodes rid epoch episode hepisode
    split
    · next started spanId hstarted hspan _ =>
      have hsent := emitResumption_sends (he.admission started hstarted)
        (he.admissionSpan spanId hspan) identity epoch ts total cached toCompute
      unfold Emit.Sends at hsent
      have hdomain := hb.inDomain hidentity hepisode ts
      split
      · next heq =>
        rw [heq] at hsent
        exact (Passed.dropped hb hsent).mono fun hd => ⟨hdomain hd.1, hd.2⟩
      · next emitted h' heq =>
        rw [heq] at hsent
        have he' := he.onward hsent.onward
        refine Passed.mono (.of_sent hsent rfl (hb.setEpisode hepisode hsent.onward
          ⟨he'.epoch, he'.requeued, he'.queueSpan, he'.admission, he'.admissionSpan,
            fun resumed hresumed => ?_⟩)) fun hd => ⟨hdomain hd.1, hd.2⟩
        cases hresumed
        exact hsent.result _ rfl
    · exact .same hb
  · exact .same hb

theorem Sound.setTokens (hb : Sound b) (rid : String) {computed : Int}
    (h : InUint uint64Max computed) : Sound (b.setTokens rid computed) := by
  unfold Bridge.setTokens
  split
  · next state hstate =>
    have hs := hb.states rid state hstate
    exact hb.setState hstate (.refl _)
      ⟨hs.queue, hs.epoch, hs.activeStarted, hs.activeSpan, h⟩
  · exact hb

theorem passed_emitRuntimeResumed (hb : Sound b) (rid : String) (epoch ts : Int) {total : Int}
    (cached : Int) (htotal : total ≤ uint64Max) :
    Passed b (b.emitRuntimeResumed rid epoch ts total cached).1 (InUint uint64Max ts) := by
  unfold emitRuntimeResumed
  split
  · exact .same hb
  · next hpos =>
    have hcached : 0 ≤ min (max 0 cached) (total - 1) ∧
        min (max 0 cached) (total - 1) < total := by omega
    dsimp only
    have hpassed := (passed_emitResumed hb rid epoch ts total (min (max 0 cached) (total - 1))
      (total - min (max 0 cached) (total - 1))).mono fun (hts : InUint uint64Max ts) =>
        ⟨hts, hcached.1, hcached.2, htotal, rfl⟩
    split
    · next heq =>
      rw [heq] at hpassed
      exact hpassed
    · next b' _ heq =>
      rw [heq] at hpassed
      exact hpassed.then (hpassed.sound.setTokens rid ⟨hcached.1, by omega⟩)
        (setTokens_hooks b' rid _)

theorem Sound.activate (hb : Sound b) (rid : String) (started : BaseEventRef) {spanId : String}
    (hstarted : Issued b.hooks started.eventId) (hspan : Drawn b.hooks spanId) (kind : String) :
    Sound (b.activate rid started spanId kind) := by
  unfold Bridge.activate
  split
  · next state hstate =>
    have hs := hb.states rid state hstate
    refine hb.setState hstate (.refl _) ⟨hs.queue, hs.epoch, fun e he => ?_, fun s hs' => ?_,
      hs.computed⟩
    · cases he
      exact hstarted
    · cases hs'
      exact hspan
  · exact hb

theorem activate_hooks (b : Bridge) (rid : String) (started : BaseEventRef) (spanId kind : String) :
    (b.activate rid started spanId kind).hooks = b.hooks := by
  unfold activate
  split <;> rfl

theorem passed_emitFirstCompute (hb : Sound b) (rid : String) (epoch ts : Int) (kind : String) :
    Passed b (b.emitFirstCompute rid epoch ts kind).1 (InUint uint64Max ts) := by
  unfold emitFirstCompute
  split
  · next identity episode hidentity hepisode =>
    have he := hb.episodes rid epoch episode hepisode
    split
    · exact .same hb
    · next resumed hresumed =>
      split
      · exact .same hb
      · next hguard =>
        have hkind : IsComputeKind kind := by
          by_contra hnot
          exact hguard (.inr ⟨fun h => hnot (.inl h), fun h => hnot (.inr h)⟩)
        have hsent := emitComputeStart_sends b.hooks identity resumed epoch ts kind hkind
          (he.resumed resumed hresumed)
        unfold Emit.Sends at hsent
        have hdomain := hb.inDomain hidentity hepisode ts
        split
        · next heq =>
          rw [heq] at hsent
          exact (Passed.dropped hb hsent).mono hdomain
        · next emitted spanId h' heq =>
          rw [heq] at hsent
          have hbegun := hsent.result _ rfl
          have he' := he.onward hsent.onward
          have hset : Sound (b.setEpisode rid epoch h'
              { episode with firstCompute := some ⟨emitted.recordId, ts⟩ }) :=
            hb.setEpisode hepisode hsent.onward ⟨he'.epoch, he'.requeued, he'.queueSpan,
              he'.admission, he'.admissionSpan, he'.resumed⟩
          exact Passed.mono (.of_sent hsent (activate_hooks ..)
            (hset.activate rid ⟨emitted.recordId, ts⟩ hbegun.started hbegun.span kind)) hdomain
  · exact .same hb

theorem passed_emitRuntimeTerminal (hb : Sound b) (rid cause : String) (ts generated : Int) :
    Passed b (b.emitRuntimeTerminal rid cause ts generated).1
      (InUint uint64Max ts ∧ generated ≤ uint64Max ∧ ChunksFit b) := by
  unfold emitRuntimeTerminal
  split
  · next eventName _ state hevent _ hstate =>
    have hs := hb.states rid state hstate
    split
    next result h' heq =>
    split at heq
    · have hsent := emitCompletion_sends hs (abnormal_of_terminalEvent hevent).1 ts generated
      unfold Emit.Sends at hsent
      rw [heq] at hsent
      exact Passed.mono (.of_sent hsent rfl ((hb.hooks hsent.onward).forgets rid))
        fun hd => ⟨hb.configured, hd.1, hd.2.1, hd.2.2 rid state hstate⟩
    · next hne =>
      have hsent := emitAbnormal_sends hs hevent hne ts
      unfold Emit.Sends at hsent
      rw [heq] at hsent
      exact Passed.mono (.of_sent hsent rfl ((hb.hooks hsent.onward).forgets rid))
        fun hd => ⟨hb.configured, hd.1⟩
  · exact .same hb

end Methods

/-! ## Runs -/

end Bridge

/-- The arguments of a runtime method are in their unsigned ranges. -/
def Call.InRange : Call → Prop
  | .registerRuntimeRequest _ _ ts => InUint uint64Max ts
  | .emitRuntimeScheduled _ ts _ _ total _ => InUint uint64Max ts ∧ InUint uint64Max total
  | .emitRuntimePreempted _ epoch ts => InUint uint32Max epoch ∧ InUint uint64Max ts
  | .emitAdmissionStarted _ epoch ts => InUint uint32Max epoch ∧ InUint uint64Max ts
  | .emitRuntimeResumed _ epoch ts total _ =>
    InUint uint32Max epoch ∧ InUint uint64Max ts ∧ InUint uint64Max total
  | .emitFirstCompute _ epoch ts _ => InUint uint32Max epoch ∧ InUint uint64Max ts
  | .emitRuntimeTerminal _ _ ts generated => InUint uint64Max ts ∧ InUint uint64Max generated
  | _ => True

/-- The call is `register_runtime_request`, `emit_first_compute` or one of
`emit_runtime_*`. -/
def Call.isRuntime : Call → Bool
  | .registerRequest .. | .emitPreemptedAndRequeued .. | .emitResumed .. | .requestTerminal .. =>
    false
  | _ => true

namespace Bridge
variable {b : Bridge} {sha256 : Bytes → String}

/-- The step lemma. -/
theorem passed_call (hb : Sound b) (hlinked : b.Linked)
    (hsha : ∀ bytes, isHex 64 (sha256 bytes) = true) {c : Call} (hc : c.InRange) :
    Passed b (b.call sha256 c) (c.isRuntime = true ∧ ChunksFit b) := by
  cases c with
  | registerRequest identity =>
    exact ⟨hb.registerRequest hlinked identity, fun hd => absurd hd.1 (by simp [Call.isRuntime])⟩
  | registerRuntimeRequest runId rid ts =>
    exact (passed_registerRuntimeRequest hb hsha runId rid ts).mono fun _ => hc
  | emitRuntimeScheduled rid ts kind scheduled total cached =>
    exact (passed_emitRuntimeScheduled hb rid ts kind scheduled cached hc.2.2).mono
      fun hd => ⟨hc.1, hd.2⟩
  | emitRuntimePreempted rid epoch ts =>
    exact (passed_emitRuntimePreempted hb rid epoch ts).mono fun hd => ⟨hc.1, hc.2, hd.2⟩
  | emitPreemptedAndRequeued rid epoch ts startId spanId computed chunks =>
    exact ⟨(passed_emitPreemptedAndRequeued hb rid epoch ts startId spanId computed chunks).sound,
      fun hd => absurd hd.1 (by simp [Call.isRuntime])⟩
  | emitAdmissionStarted rid epoch ts =>
    exact (passed_emitAdmissionStarted hb rid epoch ts).mono fun _ => hc.2
  | emitResumed rid epoch ts total cached toCompute =>
    exact ⟨(passed_emitResumed hb rid epoch ts total cached toCompute).sound,
      fun hd => absurd hd.1 (by simp [Call.isRuntime])⟩
  | emitRuntimeResumed rid epoch ts total cached =>
    exact (passed_emitRuntimeResumed hb rid epoch ts cached hc.2.2.2).mono fun _ => hc.2.1
  | emitFirstCompute rid epoch ts kind =>
    exact (passed_emitFirstCompute hb rid epoch ts kind).mono fun _ => hc.2
  | requestTerminal rid => exact ⟨hb.forgets rid, fun _ _ => .of_length (Nat.le_refl _)⟩
  | emitRuntimeTerminal rid cause ts generated =>
    exact (passed_emitRuntimeTerminal hb rid cause ts generated).mono
      fun hd => ⟨hc.1, hc.2.2, hd.2⟩

/-- The run lemma. -/
theorem Sound.run (hb : Sound b) (hlinked : b.Linked)
    (hsha : ∀ bytes, isHex 64 (sha256 bytes) = true) {calls : List Call}
    (hcalls : ∀ c ∈ calls, c.InRange) : Sound (b.run sha256 calls) := by
  induction calls generalizing b with
  | nil => exact hb
  | cons c rest ih =>
    rw [List.forall_mem_cons] at hcalls
    exact ih (passed_call hb hlinked hsha hcalls.1).sound (hlinked.call sha256 c) hcalls.2

theorem sound_start {hooks : Hooks} (hc : Configured hooks) (capacity : Nat) :
    Sound (start hooks capacity) := ⟨hc, nofun, nofun, nofun⟩

end Bridge

/-- **Valid drafts.** After any run a runtime method with arguments in their
ranges has no draft rejected, as long as no request has counted more chunks and
the sink has not numbered more records and spans than a uint64 holds. -/
theorem bridge_drafts_accepted {sha256 : Bytes → String}
    (hsha : ∀ bytes, isHex 64 (sha256 bytes) = true) {hooks : Hooks} (hc : Configured hooks)
    (capacity : Nat) {calls : List Call} (hcalls : ∀ c ∈ calls, c.InRange) {c : Call}
    (hruntime : c.isRuntime = true) (hrange : c.InRange) :
    let b := (Bridge.start hooks capacity).run sha256 calls
    b.ChunksFit → SequencesFit (b.call sha256 c).hooks →
      NoneRejected b.hooks (b.call sha256 c).hooks := by
  intro b hchunks hfit
  have hlinked := Bridge.linked_start hooks capacity
  exact (Bridge.passed_call ((Bridge.sound_start hc capacity).run hlinked hsha hcalls)
    (hlinked.run sha256 calls) hsha hrange).accepted ⟨hruntime, hchunks⟩ hfit

namespace Sample

theorem configured_hooks (dropped : List Nat) : Configured (hooks dropped) :=
  ⟨show isHex 32 "0a0a0a0a0a0a0a0a0a0a0a0a0a0a0a0a" = true by decide,
    show isHex 32 "0b0b0b0b0b0b0b0b0b0b0b0b0b0b0b0b" = true by decide,
    List.mem_cons_of_mem _ List.mem_cons_self⟩

theorem isHex_sha256 (bytes : Bytes) : isHex 64 (sha256 bytes) = true :=
  show isHex 64 "0743abc262d38893e52e6e47347f296604a0af506e95a797130836342dc2555b" = true by decide

end Sample

theorem bridge_drafts_accepted_registration :
    NoneRejected (Sample.hooks [])
      ((Bridge.start (Sample.hooks []) 16).call Sample.sha256 Sample.registeredCall).hooks :=
  bridge_drafts_accepted Sample.isHex_sha256 (Sample.configured_hooks []) 16
    (show ∀ c ∈ ([] : List Call), c.InRange from List.forall_mem_nil _) rfl
    (show InUint uint64Max 100 from ⟨by decide, by decide⟩) nofun
    ⟨by decide +kernel, by decide +kernel⟩

namespace Sample

/-- One more prefill step of a request with a prompt of one token. -/
def prefillStep : Call := .emitRuntimeScheduled "request-0" 110 "prefill" 1 1 0

def decodeStep : Call := .emitRuntimeScheduled "request-0" 120 "decode" 1 1 0

/-- The request computes its prompt and has counted so many chunks. -/
structure Prefilling (b : Bridge) (count : Int) : Prop where
  answer : b.hooks.answer.isSome = true
  sequences : b.hooks.nextRecordSeq < 100 ∧ b.hooks.nextSpanSeq < 100
  state : ∃ state active spanId, b.runtimeStates.get "request-0" = some state ∧
    state.activeStarted = some active ∧ state.activeSpanId = some spanId ∧
    state.activeComputeKind = some "prefill" ∧ state.prefillChunkCount = count

theorem prefilling_first :
    Prefilling ((Bridge.start (hooks []) 16).run sha256 [registeredCall, prefillStep]) 1 := by
  have hstate :
    (((Bridge.start (hooks []) 16).run sha256 [registeredCall, prefillStep]).runtimeStates.get
      "request-0").any (fun state => state.activeStarted.isSome && state.activeSpanId.isSome &&
        state.activeComputeKind == some "prefill" && state.prefillChunkCount == 1) = true := by
    decide +kernel
  refine ⟨by decide +kernel, by decide +kernel, ?_⟩
  obtain ⟨state, hget, hfields⟩ := (Option.any_eq_true ..).mp hstate
  simp only [Bool.and_eq_true, beq_iff_eq] at hfields
  obtain ⟨⟨⟨hactive, hspan⟩, hkind⟩, hcount⟩ := hfields
  obtain ⟨active, hactive⟩ := Option.isSome_iff_exists.mp hactive
  obtain ⟨spanId, hspan⟩ := Option.isSome_iff_exists.mp hspan
  exact ⟨state, active, spanId, hget, hactive, hspan, hkind, hcount⟩

theorem Prefilling.chunk {b : Bridge} {count : Int} (h : Prefilling b count) :
    Prefilling (b.call sha256 prefillStep) (count + 1) := by
  obtain ⟨state, active, spanId, hget, hactive, hspan, hkind, rfl⟩ := h.state
  have hcall : b.call sha256 Sample.prefillStep =
      b.setState "request-0" b.hooks (Bridge.countTokens state "prefill" 1 1) := by
    simp [Bridge.call, Sample.prefillStep, Bridge.emitRuntimeScheduled, hget, hactive,
      Bridge.scheduleActive, hkind]
  rw [hcall]
  exact ⟨h.answer, h.sequences, _, active, spanId, Mapping.get_set_self _ _ _, hactive,
    hspan, hkind, rfl⟩

theorem Prefilling.chunks {b : Bridge} {count : Int} (h : Prefilling b count) (n : Nat) :
    Prefilling (b.run sha256 (List.replicate n Sample.prefillStep)) (count + n) := by
  induction n generalizing b count with
  | zero =>
    rw [Int.natCast_zero, Int.add_zero]
    exact h
  | succ n ih =>
    have hrest := ih h.chunk
    rw [Int.natCast_succ, ← Int.add_assoc, Int.add_right_comm]
    exact hrest

/-- The counter is over the limit of the metadata of `prefill_done`. -/
theorem rejected_of_chunks {h : Hooks} {state : RuntimeRequestState} {observedNs : Nat}
    {endSpanId : Option String} {ts : Int} (hcount : (uint64Max : Int) < state.prefillChunkCount) :
    ∃ e, acceptedEvent h { engineDraft state.identity "prefill_done" ts state.preemptionEpoch with
      endSpanId := endSpanId
      metadata := some (computedMetadata state.promptTokensComputed
        (max 1 state.prefillChunkCount)) } observedNs = .error e := by
  rcases haccepted : acceptedEvent h _ observedNs with e | ⟨record, ref⟩
  · exact ⟨e, rfl⟩
  · unfold acceptedEvent at haccepted
    simp only [bind_eq_ok, pure_eq_ok] at haccepted
    obtain ⟨⟨built, builtRef⟩, hbuilt, -⟩ := haccepted
    obtain ⟨-, -, -, timestampNs, -, hdraft, -⟩ := buildEventRecord_eq_ok.mp hbuilt
    obtain ⟨items, hitems⟩ := (eventParts_of_validate hdraft).metadata
    simp only [validateMetadata, bind_eq_ok, forEach_eq_ok, exists_unit] at hitems
    have hitem := hitems.1 ("prefill_chunk_count", .int (max 1 state.prefillChunkCount))
      (List.mem_cons_of_mem _ List.mem_cons_self)
    unfold validateMetadataItem at hitem
    simp only [bind_eq_ok, exists_unit, requireUint_eq_ok, Value.int.injEq] at hitem
    obtain ⟨-, -, n, hn, hle⟩ := hitem
    have := Int.le_max_right 1 state.prefillChunkCount
    omega

/-- The request cannot switch to decode any more. -/
theorem Prefilling.switch_rejected {b : Bridge} {count : Int} (h : Prefilling b count)
    (hcount : (uint64Max : Int) < count) :
    SequencesFit (b.call sha256 decodeStep).hooks ∧
      ¬ NoneRejected b.hooks (b.call sha256 decodeStep).hooks := by
  obtain ⟨state, active, spanId, hget, hactive, hspan, hkind, rfl⟩ := h.state
  obtain ⟨observedNs, hanswer⟩ := Option.isSome_iff_exists.mp h.answer
  have hdropped : ∀ (closing : EventDraft) (starting : String → EventDraft) (e : PyError),
      acceptedEvent b.hooks closing observedNs = .error e → ∃ more,
      (Bridge.closeAndStart state.identity active.eventId closing starting b.hooks).1 = none ∧
      (Bridge.closeAndStart state.identity active.eventId closing starting b.hooks).2.log =
        b.hooks.log ++ .refused :: more ∧
      SequencesFit (Bridge.closeAndStart state.identity active.eventId closing
        starting b.hooks).2 := by
    intro closing starting e he
    have hemit : emitEvent closing b.hooks = (none, (b.hooks.add .refused).consume) := by
      unfold emitEvent
      rw [hanswer]
      simp only [he]
    have hrun : ∀ f : Option RecordRef → Emit (RecordRef × String),
        (Emit.attempt (emitEvent closing) >>= f) b.hooks =
          f none (b.hooks.add .refused).consume := by
      intro f
      change Emit.bind (Emit.attempt (emitEvent closing)) f b.hooks = _
      simp only [Emit.bind, Emit.attempt, hemit]
    unfold Bridge.closeAndStart
    rw [hrun]
    change ∃ more, (Emit.bind (Emit.attempt newSpanId) _ _).1 = none ∧
      (Emit.bind (Emit.attempt newSpanId) _ _).2.log = _ ∧
      SequencesFit (Emit.bind (Emit.attempt newSpanId) _ _).2
    have hlarge : 100 ≤ uint64Max := by decide
    obtain ⟨hrecords, hspans⟩ := h.sequences
    unfold newSpanId
    simp only [Emit.bind, Emit.attempt]
    split
    · refine ⟨[.refused], rfl, by simp [Hooks.add, Hooks.consume]; rfl, ?_, ?_⟩
      · change b.hooks.nextRecordSeq + 1 ≤ uint64Max + 1
        omega
      · change b.hooks.nextSpanSeq ≤ uint64Max + 1
        omega
    · refine ⟨_, rfl, by simp [Hooks.add, Hooks.consume]; rfl, ?_, ?_⟩
      · change b.hooks.nextRecordSeq + 1 ≤ uint64Max + 1
        omega
      · change b.hooks.nextSpanSeq + 1 ≤ uint64Max + 1
        omega
  obtain ⟨e, he⟩ := @rejected_of_chunks b.hooks state observedNs (some spanId) 120 hcount
  obtain ⟨more, hnone, hlog, hfit⟩ := hdropped _ (fun spanId =>
    { engineDraft state.identity "decode_started" 120 state.preemptionEpoch with
      startSpanId := some spanId }) e he
  have hcall : (b.call sha256 decodeStep).hooks =
      (Bridge.emitSwitchToDecode state active spanId 120 b.hooks).2 := by
    simp only [decodeStep, Bridge.call, Bridge.emitRuntimeScheduled, hget, hactive]
    rw [if_neg (by decide)]
    simp only [Bridge.scheduleActive, hkind, hspan]
    rw [if_neg (by decide), if_pos ⟨trivial, trivial⟩]
    have hpair : Bridge.emitSwitchToDecode state active spanId 120 b.hooks =
        (none, (Bridge.emitSwitchToDecode state active spanId 120 b.hooks).2) :=
      Prod.ext hnone rfl
    rw [hpair]
  refine ⟨?_, fun hrejected => ?_⟩
  · rw [hcall]
    exact hfit
  have hunanswered := hrejected b.hooks.log.length (Nat.le_refl _) (by
    rw [hcall]
    change (Bridge.closeAndStart state.identity active.eventId _ _ b.hooks).2.log[_]? = _
    rw [hlog, List.getElem?_append_right (Nat.le_refl _), Nat.sub_self]
    rfl)
  change b.hooks.answer = none at hunanswered
  rw [hanswer] at hunanswered
  cases hunanswered

end Sample

/-- After as many prefill steps as a uint64 holds the switch to decode is lost. -/
theorem overflowing_chunks_rejected :
    ¬ ∀ (sha256 : Bytes → String) (hooks : Hooks) (capacity : Nat) (calls : List Call) (c : Call),
      (∀ bytes, isHex 64 (sha256 bytes) = true) → Configured hooks → (∀ c ∈ calls, c.InRange) →
      c.isRuntime = true → c.InRange →
        let b := (Bridge.start hooks capacity).run sha256 calls
        SequencesFit (b.call sha256 c).hooks → NoneRejected b.hooks (b.call sha256 c).hooks := by
  intro hclaim
  obtain ⟨n, hn⟩ : ∃ n, n = uint64Max := ⟨_, rfl⟩
  have hprefilling := Sample.prefilling_first.chunks n
  have hrun : ((Bridge.start (Sample.hooks []) 16).run Sample.sha256
      ([Sample.registeredCall, Sample.prefillStep] ++ List.replicate n Sample.prefillStep)) =
      ((Bridge.start (Sample.hooks []) 16).run Sample.sha256
        [Sample.registeredCall, Sample.prefillStep]).run Sample.sha256
          (List.replicate n Sample.prefillStep) := List.foldl_append
  have hsmall : ∀ m : Nat, m ≤ 200 → InUint uint64Max m := fun m hm =>
    ⟨Int.natCast_nonneg m, Int.ofNat_le.mpr (Nat.le_trans hm (by decide))⟩
  have hchunk : Sample.prefillStep.InRange := ⟨hsmall 110 (by decide), hsmall 1 (by decide)⟩
  obtain ⟨hfit, hrejected⟩ := hprefilling.switch_rejected (by omega)
  rw [← hrun] at hfit hrejected
  refine hrejected (hclaim Sample.sha256 (Sample.hooks []) 16 _ Sample.decodeStep
    Sample.isHex_sha256
    (Sample.configured_hooks []) ?_ rfl ⟨hsmall 120 (by decide), hsmall 1 (by decide)⟩ hfit)
  intro c hc
  rw [List.mem_append, List.mem_cons, List.mem_singleton, List.mem_replicate] at hc
  rcases hc with (rfl | rfl) | ⟨-, rfl⟩
  · exact hsmall 100 (by decide)
  · exact hchunk
  · exact hchunk

end LifecycleProfiler.Runtime
