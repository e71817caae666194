import LifecycleProfiler.Runtime.Scheduler

/-! # What the bridge leaves alone

The methods of the bridge write to the base stream only, and a request they
register has the identity that its run and its name determine. -/

namespace LifecycleProfiler.Runtime
open Python Protocol

theorem sameProfile_add {h h' : Hooks} {emission : Emission} (hadd : h'.log = h.log ++ [emission])
    (hseq : h'.nextProfileSeq = h.nextProfileSeq) (hnone : emission.profileRef = none) :
    SameProfile h h' := by
  refine ⟨?_, hseq⟩
  have := profileRows_add h emission
  rw [hnone, Option.toList_none, List.append_nil] at this
  rw [← this, profileRows, profileRows, hadd]
  rfl

/-- The calls write to the base stream only. -/
def Emit.Quiet {α : Type} (m : Emit α) : Prop := ∀ h, SameProfile h (m h).2

namespace Emit.Quiet
variable {α β : Type}

theorem pure {a : α} : Quiet (Pure.pure a : Emit α) := SameProfile.refl

theorem orNone {a : Option α} : Quiet (Emit.orNone a) := SameProfile.refl

theorem require {c : Bool} : Quiet (Emit.require c) := SameProfile.refl

theorem attempt {m : Emit α} (hm : Quiet m) : Quiet (Emit.attempt m) := hm

theorem bind {m : Emit α} {f : α → Emit β} (hm : Quiet m) (hf : ∀ a, Quiet (f a)) :
    Quiet (m >>= f) := by
  intro h
  have hfirst := hm h
  change SameProfile h (Emit.bind m f h).2
  unfold Emit.bind
  rcases hr : m h with ⟨_ | a, h'⟩
  · rwa [hr] at hfirst
  · rw [hr] at hfirst
    exact hfirst.trans (hf a h')

theorem newSpanId : Quiet Runtime.newSpanId := by
  intro h
  unfold Runtime.newSpanId
  split
  · exact sameProfile_add rfl rfl rfl
  · exact sameProfile_add rfl rfl rfl

theorem emitEvent {draft : EventDraft} : Quiet (Runtime.emitEvent draft) := by
  intro h
  unfold Runtime.emitEvent
  split
  · exact sameProfile_add rfl rfl rfl
  · split <;> exact sameProfile_add rfl rfl rfl

theorem emitEdge {draft : EdgeDraft} : Quiet (Runtime.emitEdge draft) := by
  intro h
  unfold Runtime.emitEdge
  split
  · exact sameProfile_add rfl rfl rfl
  · split <;> exact sameProfile_add rfl rfl rfl

theorem emitQueued {identity : RequestLifecycleIdentity} {now : Int} :
    (Bridge.emitQueued identity now).Quiet :=
  .bind Quiet.newSpanId fun _ => .bind Quiet.emitEvent fun _ => pure

theorem closeAndStart {identity : RequestLifecycleIdentity} {source : String}
    {closing : EventDraft} {starting : String → EventDraft} :
    (Bridge.closeAndStart identity source closing starting).Quiet :=
  .bind (attempt Quiet.emitEvent) fun _ => .bind (attempt Quiet.newSpanId) fun _ =>
    .bind orNone fun _ => .bind orNone fun _ => .bind Quiet.emitEvent fun _ =>
    .bind Quiet.emitEdge fun _ => .bind Quiet.emitEdge fun _ => pure

theorem emitPreemption {identity : RequestLifecycleIdentity} {epoch now : Int}
    {startId spanId : String} {computed chunks : Int} :
    (Bridge.emitPreemption identity epoch now startId spanId computed chunks).Quiet :=
  .bind Quiet.newSpanId fun _ => .bind Quiet.emitEvent fun _ => .bind Quiet.emitEdge fun _ =>
    .bind Quiet.emitEvent fun _ => .bind Quiet.emitEdge fun _ => pure

theorem emitAdmission {identity : RequestLifecycleIdentity} {episode : EmittedBaseEpisode}
    {epoch now : Int} : (Bridge.emitAdmission identity episode epoch now).Quiet :=
  .bind Quiet.newSpanId fun _ => .bind Quiet.emitEvent fun _ => .bind Quiet.emitEdge fun _ => pure

theorem emitResumption {identity : RequestLifecycleIdentity} {started : BaseEventRef}
    {spanId : String} {epoch now total cached toCompute : Int} :
    (Bridge.emitResumption identity started spanId epoch now total cached toCompute).Quiet :=
  .bind Quiet.emitEvent fun _ => .bind Quiet.emitEdge fun _ => pure

theorem emitComputeStart {identity : RequestLifecycleIdentity} {resumed : BaseEventRef}
    {epoch now : Int} {kind : String} :
    (Bridge.emitComputeStart identity resumed epoch now kind).Quiet :=
  .bind Quiet.newSpanId fun _ => .bind Quiet.emitEvent fun _ => .bind Quiet.emitEdge fun _ => pure

theorem emitCompletion {state : RuntimeRequestState} {cause : String} {now generated : Int} :
    (Bridge.emitCompletion state cause now generated).Quiet :=
  .bind orNone fun _ => .bind orNone fun _ => .bind orNone fun _ => .bind require fun _ =>
    .bind Quiet.emitEvent fun _ => .bind Quiet.emitEvent fun _ =>
    .bind (attempt Quiet.emitEdge) fun _ => .bind (attempt Quiet.emitEdge) fun _ =>
    .bind orNone fun _ => .bind orNone fun _ => pure

theorem emitAbnormal {state : RuntimeRequestState} {name cause : String} {now : Int} :
    (Bridge.emitAbnormal state name cause now).Quiet :=
  .bind Quiet.emitEvent fun _ => .bind Quiet.emitEdge fun _ => pure

end Emit.Quiet

/-- The identity of a request of a run. -/
def runIdentity (sha256 : Bytes → String) (runId rid : String) : RequestLifecycleIdentity :=
  ⟨requestTraceId sha256 runId rid, rid⟩

/-- A change of the bridge: the profile stream is as before, and a new identity
is the one of its request. -/
structure Calm (sha256 : Bytes → String) (runId : String) (b b' : Bridge) : Prop where
  profile : SameProfile b.hooks b'.hooks
  identities : ∀ rid identity, b'.identities.get rid = some identity →
    b.identities.get rid = some identity ∨ identity = runIdentity sha256 runId rid

namespace Calm
variable {sha256 : Bytes → String} {runId : String} {b b' : Bridge}

theorem refl (b : Bridge) : Calm sha256 runId b b := ⟨.refl _, fun _ _ h => .inl h⟩

theorem of_same (hprofile : SameProfile b.hooks b'.hooks) (hsame : b'.identities = b.identities) :
    Calm sha256 runId b b' := ⟨hprofile, fun _ _ h => .inl (hsame ▸ h)⟩

/-- One list of calls, whatever becomes of its result. -/
theorem of_emit {α : Type} {m : Emit α} {r : Option α} {h' : Hooks} (hm : m.Quiet)
    (heq : m b.hooks = (r, h')) : SameProfile b.hooks h' := by
  have := hm b.hooks
  rwa [heq] at this

theorem registerRuntimeRequest (b : Bridge) (rid : String) (now : Int) :
    Calm sha256 runId b (b.registerRuntimeRequest sha256 runId rid now).1 := by
  unfold Bridge.registerRuntimeRequest
  split
  · exact refl b
  · dsimp only
    split
    · exact refl b
    · split
      · exact refl b
      · split
        · next heq => exact of_same (of_emit Emit.Quiet.emitQueued heq) rfl
        · next heq =>
          refine ⟨of_emit Emit.Quiet.emitQueued heq, fun other identity hget => ?_⟩
          dsimp only at hget
          rw [Mapping.get_set] at hget
          split at hget
          · next hother =>
            rw [Option.some.injEq] at hget
            exact .inr (by rw [← hget, hother]; rfl)
          · exact .inl hget

theorem emitRuntimeScheduled (b : Bridge) (rid : String) (now : Int) (kind : String)
    (scheduled total cached : Int) :
    Calm sha256 runId b (b.emitRuntimeScheduled rid now kind scheduled total cached).1 := by
  unfold Bridge.emitRuntimeScheduled
  split
  · exact refl b
  · split
    · exact refl b
    · dsimp only
      split
      · unfold Bridge.scheduleActive
        split
        · exact of_same (.refl _) rfl
        · split
          · split
            · exact refl b
            · split
              · next heq => exact of_same (of_emit Emit.Quiet.closeAndStart heq) rfl
              · next heq => exact of_same (of_emit Emit.Quiet.closeAndStart heq) rfl
          · exact refl b
      · split
        · next heq => exact of_same (of_emit Emit.Quiet.closeAndStart heq) rfl
        · next heq => exact of_same (of_emit Emit.Quiet.closeAndStart heq) rfl

theorem requeue (h : Calm sha256 runId b b') (rid : String) (epoch : Int) :
    Calm sha256 runId b (b'.requeue rid epoch) := by
  unfold Bridge.requeue
  split
  · exact ⟨h.profile, h.identities⟩
  · exact h

theorem emitPreemptedAndRequeued (b : Bridge) (rid : String) (epoch now : Int)
    (startId spanId : String) (computed chunks : Int) :
    Calm sha256 runId b
      (b.emitPreemptedAndRequeued rid epoch now startId spanId computed chunks).1 := by
  unfold Bridge.emitPreemptedAndRequeued
  split
  · exact refl b
  · split
    · exact refl b
    · split
      · next heq => exact of_same (of_emit Emit.Quiet.emitPreemption heq) rfl
      · next heq => exact of_same (of_emit Emit.Quiet.emitPreemption heq) rfl

theorem emitRuntimePreempted (b : Bridge) (rid : String) (epoch now : Int) :
    Calm sha256 runId b (b.emitRuntimePreempted rid epoch now).1 := by
  unfold Bridge.emitRuntimePreempted
  split
  · exact refl b
  · split
    · next state _ _ _ started spanId _ _ =>
      have h : Calm sha256 runId b _ := emitPreemptedAndRequeued b rid epoch now started.eventId
        spanId state.promptTokensComputed (max 1 state.prefillChunkCount)
      split
      · next heq => rwa [heq] at h
      · next heq =>
        rw [heq] at h
        exact h.requeue rid epoch
    · exact refl b

theorem emitAdmissionStarted (b : Bridge) (rid : String) (epoch now : Int) :
    Calm sha256 runId b (b.emitAdmissionStarted rid epoch now).1 := by
  unfold Bridge.emitAdmissionStarted
  split
  · split
    · exact refl b
    · split
      · next heq => exact of_same (of_emit Emit.Quiet.emitAdmission heq) rfl
      · next heq => exact of_same (of_emit Emit.Quiet.emitAdmission heq) rfl
  · exact refl b

theorem emitResumed (b : Bridge) (rid : String) (epoch now total cached toCompute : Int) :
    Calm sha256 runId b (b.emitResumed rid epoch now total cached toCompute).1 := by
  unfold Bridge.emitResumed
  split
  · split
    · split
      · next heq => exact of_same (of_emit Emit.Quiet.emitResumption heq) rfl
      · next heq => exact of_same (of_emit Emit.Quiet.emitResumption heq) rfl
    · exact refl b
  · exact refl b

theorem setTokens (h : Calm sha256 runId b b') (rid : String) (computed : Int) :
    Calm sha256 runId b (b'.setTokens rid computed) := by
  unfold Bridge.setTokens
  split
  · exact ⟨h.profile, h.identities⟩
  · exact h

theorem emitRuntimeResumed (b : Bridge) (rid : String) (epoch now total cached : Int) :
    Calm sha256 runId b (b.emitRuntimeResumed rid epoch now total cached).1 := by
  unfold Bridge.emitRuntimeResumed
  split
  · exact refl b
  · dsimp only
    split
    · next heq => exact heq ▸ emitResumed b rid epoch now total _ _
    · next heq =>
      have h : Calm sha256 runId b _ := emitResumed b rid epoch now total
        (min (max 0 cached) (total - 1))
        (total - min (max 0 cached) (total - 1))
      rw [heq] at h
      exact h.setTokens rid _

theorem activate (h : Calm sha256 runId b b') (rid : String) (started : BaseEventRef)
    (spanId kind : String) : Calm sha256 runId b (b'.activate rid started spanId kind) := by
  unfold Bridge.activate
  split
  · exact ⟨h.profile, h.identities⟩
  · exact h

theorem emitFirstCompute (b : Bridge) (rid : String) (epoch now : Int) (kind : String) :
    Calm sha256 runId b (b.emitFirstCompute rid epoch now kind).1 := by
  unfold Bridge.emitFirstCompute
  split
  · split
    · exact refl b
    · split
      · exact refl b
      · split
        · next heq => exact of_same (of_emit Emit.Quiet.emitComputeStart heq) rfl
        · next heq =>
          have h := of_emit Emit.Quiet.emitComputeStart heq
          refine activate ?_ _ _ _ _
          exact of_same h rfl
  · exact refl b

theorem forget {hooks : Hooks} (h : SameProfile b.hooks hooks) (rid : String) :
    Calm sha256 runId b ({ b with hooks := hooks }.requestTerminal rid) := by
  refine ⟨h, fun other identity hget => .inl ?_⟩
  simp only [Bridge.requestTerminal, Mapping.get_pop] at hget
  split at hget
  · cases hget
  · exact hget

theorem emitRuntimeTerminal (b : Bridge) (rid cause : String) (now generated : Int) :
    Calm sha256 runId b (b.emitRuntimeTerminal rid cause now generated).1 := by
  unfold Bridge.emitRuntimeTerminal
  split
  · dsimp only
    split
    · exact forget (Emit.Quiet.emitCompletion b.hooks) rid
    · exact forget (Emit.Quiet.emitAbnormal b.hooks) rid
  · exact refl b

end Calm

end LifecycleProfiler.Runtime
