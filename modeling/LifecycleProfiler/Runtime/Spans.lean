import LifecycleProfiler.General.OpenClose
import LifecycleProfiler.Runtime.Bridge

/-! # Span linearity

Accepted events open a span as their start and close spans as their end or in
their closing list. The request state and the state of an episode remember the
same queue span, and a method that stops after its closing event keeps a span
that is already closed. Runs without these two situations are linear. -/

namespace LifecycleProfiler.Runtime
open Python Protocol General

/-- The span an accepted event starts. -/
def Emission.starts : Emission → List String
  | .event draft _ _ => draft.startSpanId.toList
  | _ => []

/-- The spans an accepted event ends. -/
def Emission.ends : Emission → List String
  | .event draft _ _ => draft.endSpanId.toList ++ draft.closingSpanIds
  | _ => []

def Emission.isRefused : Emission → Bool
  | .refused => true
  | _ => false

/-- No span is ended twice, and none before the event that starts it. -/
abbrev SpanLinear (h : Hooks) : Prop := Linear Emission.starts Emission.ends h.log

abbrev SpanOpen (h : Hooks) (s : String) : Prop := IsOpen Emission.starts Emission.ends h.log s

/-- A span identifier the sink has given out. -/
def Drawn (h : Hooks) (s : String) : Prop :=
  ∃ n < h.nextSpanSeq, s = scopedId h.processUuid "s" n

/-- No refusal follows an event that ended a span. -/
def settled : List Emission → Bool
  | [] => true
  | e :: rest => (e.ends.isEmpty || rest.all fun e => !e.isRefused) && settled rest

/-! ## What the calls of a method emit -/

def Emission.isSpan : Emission → Bool
  | .span _ => true
  | _ => false

/-- The hooks after some more calls. -/
structure Follows (h h' : Hooks) (more : List Emission) : Prop where
  log : h'.log = h.log ++ more
  owner : h'.processUuid = h.processUuid
  drawn : h'.nextSpanSeq = h.nextSpanSeq + (more.filter Emission.isSpan).length

theorem Follows.refl (h : Hooks) : Follows h h [] := ⟨(List.append_nil _).symm, rfl, rfl⟩

theorem Follows.trans {h h' h'' : Hooks} {first second : List Emission} (hf : Follows h h' first)
    (hs : Follows h' h'' second) : Follows h h'' (first ++ second) := by
  refine ⟨?_, hs.owner.trans hf.owner, ?_⟩
  · rw [hs.log, hf.log, List.append_assoc]
  · rw [hs.drawn, hf.drawn, List.filter_append, List.length_append, Nat.add_assoc]

/-- The next span identifier of the sink. -/
def Hooks.nextSpan (h : Hooks) : String := scopedId h.processUuid "s" h.nextSpanSeq

/-- Whatever the sink answers, the result and the emissions of the calls
satisfy the condition. -/
def Emit.Ensures {α : Type} (m : Emit α) (h : Hooks)
    (post : Option α → List Emission → Prop) : Prop :=
  ∃ more, Follows h (m h).2 more ∧ post (m h).1 more

namespace Emit.Ensures
variable {α β : Type} {h : Hooks}

theorem pure {a : α} {post : Option α → List Emission → Prop} (hp : post (some a) []) :
    Ensures (Pure.pure a : Emit α) h post := ⟨[], Follows.refl h, hp⟩

theorem orNone {a : Option α} {post : Option α → List Emission → Prop} (hp : post a []) :
    Ensures (Emit.orNone a) h post := ⟨[], Follows.refl h, hp⟩

/-- The sequence rule. -/
theorem bind {m : Emit α} {f : α → Emit β} {post : Option β → List Emission → Prop}
    (hm : Ensures m h fun r first => match r with
      | none => post none first
      | some a => ∀ h', Follows h h' first →
          Ensures (f a) h' fun r second => post r (first ++ second)) :
    Ensures (m >>= f) h post := by
  obtain ⟨first, hfirst, hpost⟩ := hm
  change Ensures (Emit.bind m f) h post
  unfold Ensures Emit.bind
  rcases hr : m h with ⟨_ | a, h'⟩
  · rw [hr] at hfirst hpost
    exact ⟨first, hfirst, hpost⟩
  · rw [hr] at hfirst hpost
    obtain ⟨second, hsecond, hpost⟩ := hpost h' hfirst
    exact ⟨first ++ second, hfirst.trans hsecond, hpost⟩

theorem require_bind {c : Bool} {f : Unit → Emit β} {post : Option β → List Emission → Prop}
    (hn : c = false → post none []) (hs : c = true → Ensures (f ()) h post) :
    Ensures (Emit.require c >>= f) h post := by
  cases c with
  | false => exact ⟨[], Follows.refl h, hn rfl⟩
  | true => exact hs rfl

theorem attempt {m : Emit α} {post : Option (Option α) → List Emission → Prop}
    (hm : Ensures m h fun r more => post (some r) more) : Ensures (Emit.attempt m) h post := hm

theorem newSpanId {post : Option String → List Emission → Prop} (hn : post none [.refused])
    (hs : post (some h.nextSpan) [.span h.nextSpan]) : Ensures Runtime.newSpanId h post := by
  unfold Ensures Runtime.newSpanId
  split
  · exact ⟨[.refused], ⟨rfl, rfl, rfl⟩, hn⟩
  · exact ⟨[.span h.nextSpan], ⟨rfl, rfl, rfl⟩, hs⟩

theorem emitEvent {draft : EventDraft} {post : Option RecordRef → List Emission → Prop}
    (hn : post none [.refused])
    (hs : ∀ ref record, post (some ref) [.event draft ref record]) :
    Ensures (Runtime.emitEvent draft) h post := by
  unfold Ensures Runtime.emitEvent
  split
  · exact ⟨[.refused], ⟨rfl, rfl, rfl⟩, hn⟩
  · split
    · exact ⟨[.refused], ⟨rfl, rfl, rfl⟩, hn⟩
    · exact ⟨_, ⟨rfl, rfl, rfl⟩, hs _ _⟩

theorem emitEdge {draft : EdgeDraft} {post : Option RecordRef → List Emission → Prop}
    (hn : post none [.refused])
    (hs : ∀ ref record, post (some ref) [.edge draft ref record]) :
    Ensures (Runtime.emitEdge draft) h post := by
  unfold Ensures Runtime.emitEdge
  split
  · exact ⟨[.refused], ⟨rfl, rfl, rfl⟩, hn⟩
  · split
    · exact ⟨[.refused], ⟨rfl, rfl, rfl⟩, hn⟩
    · exact ⟨_, ⟨rfl, rfl, rfl⟩, hs _ _⟩

theorem mono {m : Emit α} {post post' : Option α → List Emission → Prop}
    (hm : Ensures m h post) (hp : ∀ r more, post r more → post' r more) : Ensures m h post' := by
  obtain ⟨more, hf, hpost⟩ := hm
  exact ⟨more, hf, hp _ _ hpost⟩

end Emit.Ensures

/-- Calls that start and end no span. -/
def Emit.Quietly {α : Type} (m : Emit α) : Prop :=
  ∀ h, Ensures m h fun _ more =>
    opened Emission.starts more = [] ∧ closed Emission.ends more = []

namespace Emit.Quietly
variable {α β : Type}

theorem pure (a : α) : Quietly (Pure.pure a : Emit α) := fun _ => .pure ⟨rfl, rfl⟩

theorem orNone (a : Option α) : Quietly (Emit.orNone a) := fun _ => .orNone ⟨rfl, rfl⟩

theorem emitEdge (draft : EdgeDraft) : Quietly (Runtime.emitEdge draft) := fun _ =>
  .emitEdge ⟨rfl, rfl⟩ fun _ _ => ⟨rfl, rfl⟩

theorem attempt {m : Emit α} (hm : Quietly m) : Quietly (Emit.attempt m) := fun h =>
  .attempt (hm h)

theorem bind {m : Emit α} {f : α → Emit β} (hm : Quietly m) (hf : ∀ a, Quietly (f a)) :
    Quietly (m >>= f) := by
  refine fun h => .bind ((hm h).mono fun r first hfirst => ?_)
  cases r with
  | none => exact hfirst
  | some a =>
    refine fun h' _ => (hf a h').mono fun r second hsecond => ?_
    rw [opened_append, closed_append, hfirst.1, hfirst.2, hsecond.1, hsecond.2]
    exact ⟨rfl, rfl⟩

end Emit.Quietly

/-! ## What the methods emit -/

/-- What a method that closes at most `c` does when it draws `new`: only a
drawn span is started, and a method that gives up closed nothing or was dropped
after closing. -/
structure Closing (new c : String) {α : Type} (result : Option α) (more : List Emission) :
    Prop where
  starts : ∀ s ∈ opened Emission.starts more, s = new ∧ .span new ∈ more
  closes : closed Emission.ends more = [] ∨ closed Emission.ends more = [c]
  gaveUp : result = none → closed Emission.ends more = [] ∨ settled more = false

/-- What a method that closes nothing does. -/
structure Quiet (new : String) (more : List Emission) : Prop where
  starts : ∀ s ∈ opened Emission.starts more, s = new ∧ .span new ∈ more
  closes : closed Emission.ends more = []

namespace Bridge

theorem emitQueued_ensures (identity : RequestLifecycleIdentity) (ts : Int) (h : Hooks) :
    Emit.Ensures (emitQueued identity ts) h fun r more => Quiet h.nextSpan more ∧
      ∀ ref s, r = some (ref, s) → s = h.nextSpan ∧ opened Emission.starts more = [s] := by
  refine .bind (.newSpanId ?_ fun h₁ _ => .bind (.emitEvent ?_ fun ref record h₂ _ => .pure ?_))
  · exact ⟨⟨by simp [Emission.starts], by simp [Emission.ends]⟩, by simp⟩
  · exact ⟨⟨by simp [Emission.starts], by simp [Emission.ends]⟩, by simp⟩
  · exact ⟨⟨by simp [Emission.starts, engineDraft], by simp [Emission.ends, engineDraft]⟩,
      by simp [Emission.starts, engineDraft]⟩

theorem emitComputeStart_ensures (identity : RequestLifecycleIdentity) (resumed : BaseEventRef)
    (epoch ts : Int) (kind : String) (h : Hooks) :
    Emit.Ensures (emitComputeStart identity resumed epoch ts kind) h fun r more =>
      Quiet h.nextSpan more ∧
        ∀ ref s, r = some (ref, s) → s = h.nextSpan ∧ opened Emission.starts more = [s] := by
  refine .bind (.newSpanId ?_ fun h₁ _ => .bind (.emitEvent ?_ fun ref record h₂ _ =>
    .bind (.emitEdge ?_ fun edge record' h₃ _ => .pure ?_)))
  · exact ⟨⟨by simp [Emission.starts], by simp [Emission.ends]⟩, by simp⟩
  · exact ⟨⟨by simp [Emission.starts], by simp [Emission.ends]⟩, by simp⟩
  · exact ⟨⟨by simp [Emission.starts, engineDraft], by simp [Emission.ends, engineDraft]⟩, by simp⟩
  · exact ⟨⟨by simp [Emission.starts, engineDraft], by simp [Emission.ends, engineDraft]⟩,
      by simp [Emission.starts, engineDraft]⟩

theorem closeAndStart_ensures {identity : RequestLifecycleIdentity} {fromId c : String}
    {closing : EventDraft} {starting : String → EventDraft} {h : Hooks}
    (hclosing : closing.startSpanId = none ∧ closing.endSpanId = some c ∧
      closing.closingSpanIds = [])
    (hstarting : ∀ s, (starting s).startSpanId = some s ∧ (starting s).endSpanId = none ∧
      (starting s).closingSpanIds = []) :
    Emit.Ensures (closeAndStart identity fromId closing starting) h fun r more =>
      Closing h.nextSpan c r more ∧
        ∀ ref s, r = some (ref, s) → s = h.nextSpan ∧ opened Emission.starts more = [s] := by
  obtain ⟨hstart, hend, hlist⟩ := hclosing
  refine .bind (.attempt (.emitEvent ?_ fun ref record => ?_))
  · -- the closing event was dropped: the span ID is drawn and nothing is emitted
    intro h₁ hf₁
    refine .bind (.attempt (.newSpanId (fun h₂ _ => .bind (.orNone ?_))
      (fun h₂ _ => .bind (.orNone ?_))))
    all_goals exact ⟨⟨by simp [Emission.starts], by simp [Emission.ends],
      by simp [Emission.ends]⟩, by simp⟩
  · intro h₁ hf₁
    have hspan : h₁.nextSpan = h.nextSpan := by
      rw [Hooks.nextSpan, Hooks.nextSpan, hf₁.owner, hf₁.drawn]
      simp [Emission.isSpan]
    refine .bind (.attempt (.newSpanId (fun h₂ _ => .bind (.orNone ?_)) fun h₂ _ => ?_))
    · intro h₃ _
      refine .bind (.orNone ?_)
      exact ⟨⟨by simp [Emission.starts, hstart], by simp [Emission.ends, hend, hlist],
        by simp [settled, Emission.ends, Emission.isRefused, hend]⟩, by simp⟩
    · refine .bind (.orNone fun h₃ _ => .bind (.orNone fun h₄ _ => .bind (.emitEvent ?_
        fun ref record h₅ _ => .bind (.emitEdge ?_ fun edge record' h₆ _ => .bind (.emitEdge ?_
          fun edge' record'' h₇ _ => .pure ?_)))))
      all_goals
        obtain ⟨hs, he, hl⟩ := hstarting h₁.nextSpan
        rw [hspan] at hs he hl ⊢
        refine ⟨⟨?_, ?_, ?_⟩, ?_⟩
      all_goals simp [settled, Emission.starts, Emission.ends, Emission.isRefused, *]

theorem emitSwitchToDecode_ensures (state : RuntimeRequestState) (started : BaseEventRef)
    (c : String) (ts : Int) (h : Hooks) :
    Emit.Ensures (emitSwitchToDecode state started c ts) h fun r more =>
      Closing h.nextSpan c r more ∧
        ∀ ref s, r = some (ref, s) → s = h.nextSpan ∧ opened Emission.starts more = [s] :=
  closeAndStart_ensures ⟨rfl, rfl, rfl⟩ fun _ => ⟨rfl, rfl, rfl⟩

theorem emitScheduledAndStarted_ensures (state : RuntimeRequestState) (ts : Int) (kind : String)
    (total cached : Int) (h : Hooks) :
    Emit.Ensures (emitScheduledAndStarted state ts kind total cached) h fun r more =>
      Closing h.nextSpan state.queueSpanId r more ∧
        ∀ ref s, r = some (ref, s) → s = h.nextSpan ∧ opened Emission.starts more = [s] :=
  closeAndStart_ensures ⟨rfl, rfl, rfl⟩ fun _ => ⟨rfl, rfl, rfl⟩

theorem emitPreemption_ensures (identity : RequestLifecycleIdentity) (epoch ts : Int)
    (startId c : String) (computed chunks : Int) (h : Hooks) :
    Emit.Ensures (emitPreemption identity epoch ts startId c computed chunks) h fun r more =>
      Closing h.nextSpan c r more ∧ ∀ preempted requeued s, r = some (preempted, requeued, s) →
        s = h.nextSpan ∧ opened Emission.starts more = [s] ∧ closed Emission.ends more = [c] := by
  refine .bind (.newSpanId ?_ fun h₁ _ => .bind (.emitEvent ?_ fun preempted _ h₂ _ =>
    .bind (.emitEdge ?_ fun _ _ h₃ _ => .bind (.emitEvent ?_ fun requeued _ h₄ _ =>
      .bind (.emitEdge ?_ fun _ _ h₅ _ => .pure ?_)))))
  all_goals refine ⟨⟨?_, ?_, ?_⟩, ?_⟩
  all_goals simp [settled, Emission.starts, Emission.ends, Emission.isRefused, engineDraft]

theorem emitAdmission_ensures (identity : RequestLifecycleIdentity) (episode : EmittedBaseEpisode)
    (epoch ts : Int) (h : Hooks) :
    Emit.Ensures (emitAdmission identity episode epoch ts) h fun r more =>
      Closing h.nextSpan episode.queueSpanId r more ∧ ∀ ref s, r = some (ref, s) →
        s = h.nextSpan ∧ opened Emission.starts more = [s] := by
  refine .bind (.newSpanId ?_ fun h₁ _ => .bind (.emitEvent ?_ fun emitted _ h₂ _ =>
    .bind (.emitEdge ?_ fun _ _ h₃ _ => .pure ?_)))
  all_goals refine ⟨⟨?_, ?_, ?_⟩, ?_⟩
  all_goals simp [settled, Emission.starts, Emission.ends, Emission.isRefused, engineDraft]

theorem emitResumption_ensures (identity : RequestLifecycleIdentity) (started : BaseEventRef)
    (c : String) (epoch ts total cached toCompute : Int) (h : Hooks) :
    Emit.Ensures (emitResumption identity started c epoch ts total cached toCompute) h
      fun r more => Closing h.nextSpan c r more ∧ opened Emission.starts more = [] := by
  refine .bind (.emitEvent ?_ fun emitted _ h₂ _ => .bind (.emitEdge ?_ fun _ _ h₃ _ => .pure ?_))
  all_goals refine ⟨⟨?_, ?_, ?_⟩, ?_⟩
  all_goals simp [settled, Emission.starts, Emission.ends, Emission.isRefused, engineDraft]

theorem emitAbnormal_ensures (state : RuntimeRequestState) (eventName cause : String) (ts : Int)
    (h : Hooks) :
    Emit.Ensures (emitAbnormal state eventName cause ts) h fun _ more =>
      opened Emission.starts more = [] ∧ (closed Emission.ends more = [] ∨
        closed Emission.ends more = [state.activeSpanId.getD state.queueSpanId]) := by
  refine .bind (.emitEvent ?_ fun emitted _ h₂ _ => .bind (.emitEdge ?_ fun _ _ h₃ _ => .pure ?_))
  all_goals simp [Emission.starts, Emission.ends, engineDraft]

/-- A completion closes nothing but the active span. -/
theorem emitCompletion_ensures (state : RuntimeRequestState) (cause : String) (ts generated : Int)
    (h : Hooks) :
    Emit.Ensures (emitCompletion state cause ts generated) h fun _ more =>
      opened Emission.starts more = [] ∧ (closed Emission.ends more = [] ∨
        ∃ c, state.activeSpanId = some c ∧ closed Emission.ends more = [c]) := by
  unfold emitCompletion
  cases hstarted : state.activeStarted with
  | none => exact .bind (.orNone ⟨rfl, .inl rfl⟩)
  | some started =>
    cases hspan : state.activeSpanId with
    | none => exact .bind (.orNone fun _ _ => .bind (.orNone ⟨rfl, .inl rfl⟩))
    | some c =>
      cases hkind : state.activeComputeKind with
      | none =>
        exact .bind (.orNone fun _ _ => .bind (.orNone fun _ _ => .bind (.orNone ⟨rfl, .inl rfl⟩)))
      | some kind =>
        refine .bind (.orNone fun _ _ => .bind (.orNone fun _ _ => .bind (.orNone fun _ _ =>
          .require_bind (fun _ => ⟨rfl, .inl rfl⟩) fun _ => .bind (.emitEvent ?_
            fun completed _ h₁ _ => .bind (.emitEvent ?_ fun emitted _ h₂ _ => ?_)))))
        · simp [Emission.starts, Emission.ends]
        · simp [Emission.starts, Emission.ends, engineDraft]
        · have hedges := Emit.Quietly.bind (.attempt (.emitEdge (programOrder state.identity
            started.eventId completed.recordId))) fun first =>
            .bind (.attempt (.emitEdge (programOrder state.identity completed.recordId
              emitted.recordId))) fun second => .bind (.orNone first) fun _ =>
                .bind (.orNone second) fun _ => .pure (⟨emitted.recordId, ts⟩ : BaseEventRef)
          refine (hedges h₂).mono fun r more hmore => ?_
          simp [Emission.starts, Emission.ends, engineDraft, hmore.1, hmore.2]

end Bridge
end LifecycleProfiler.Runtime
