import LifecycleProfiler.Runtime.Spans

/-! # Linearity of whole runs

Every span the bridge remembers belongs to one phase of one request, and the
spans that a method may still close are open. The request state and the state
of an episode share the queue span, and a method dropped after its closing
event keeps a span that is closed: those are the steps `Disciplined` excludes. -/

namespace LifecycleProfiler.Runtime
open Python Protocol General

/-- The phase a remembered span belongs to. -/
inductive Phase where
  | queue (runtimeRequestId : String)
  | active (runtimeRequestId : String)
  | admission (runtimeRequestId : String) (epoch : Int)

/-- The bridge remembers the span for the phase. -/
inductive Holds (b : Bridge) : String → Phase → Prop where
  | queue {rid : String} {state : RuntimeRequestState}
      (hstate : b.runtimeStates.get rid = some state) : Holds b state.queueSpanId (.queue rid)
  | requeued {rid : String} {epoch : Int} {episode : EmittedBaseEpisode}
      (hepisode : b.episodes.get (rid, epoch) = some episode) :
      Holds b episode.queueSpanId (.queue rid)
  | active {rid s : String} {state : RuntimeRequestState}
      (hstate : b.runtimeStates.get rid = some state) (hspan : state.activeSpanId = some s) :
      Holds b s (.active rid)
  | admission {rid s : String} {epoch : Int} {episode : EmittedBaseEpisode}
      (hepisode : b.episodes.get (rid, epoch) = some episode)
      (hspan : episode.admissionSpanId = some s) : Holds b s (.admission rid epoch)

/-- A queued request none of whose admitted episodes shares its queue span. -/
structure QueueFree (b : Bridge) (runtimeRequestId : String) (state : RuntimeRequestState) :
    Prop where
  idle : state.activeSpanId = none
  free : ∀ epoch episode, b.episodes.get (runtimeRequestId, epoch) = some episode →
    episode.queueSpanId = state.queueSpanId → episode.admissionStarted = none

/-- The remembered spans that nothing has closed. -/
inductive Live (b : Bridge) : String → Phase → Prop where
  | queue {rid : String} {state : RuntimeRequestState}
      (hstate : b.runtimeStates.get rid = some state) (hfree : QueueFree b rid state) :
      Live b state.queueSpanId (.queue rid)
  | active {rid s : String} {state : RuntimeRequestState}
      (hstate : b.runtimeStates.get rid = some state) (hspan : state.activeSpanId = some s) :
      Live b s (.active rid)
  | admission {rid s : String} {epoch : Int} {episode : EmittedBaseEpisode}
      (hepisode : b.episodes.get (rid, epoch) = some episode)
      (hspan : episode.admissionSpanId = some s) (hopen : episode.resumed = none) :
      Live b s (.admission rid epoch)

theorem Live.holds {b : Bridge} {s : String} {x : Phase} (h : Live b s x) : Holds b s x := by
  cases h with
  | queue hstate _ => exact .queue hstate
  | active hstate hspan => exact .active hstate hspan
  | admission hepisode hspan _ => exact .admission hepisode hspan

theorem Holds.congr {b b' : Bridge} {s : String} {x : Phase}
    (hstates : b'.runtimeStates = b.runtimeStates) (hepisodes : b'.episodes = b.episodes)
    (h : Holds b' s x) : Holds b s x := by
  cases h with
  | queue hstate => exact .queue (hstates ▸ hstate)
  | requeued hepisode => exact .requeued (hepisodes ▸ hepisode)
  | active hstate hspan => exact .active (hstates ▸ hstate) hspan
  | admission hepisode hspan => exact .admission (hepisodes ▸ hepisode) hspan

theorem Live.congr {b b' : Bridge} {s : String} {x : Phase}
    (hstates : b'.runtimeStates = b.runtimeStates) (hepisodes : b'.episodes = b.episodes)
    (h : Live b' s x) : Live b s x := by
  cases h with
  | queue hstate hfree =>
    exact .queue (hstates ▸ hstate) ⟨hfree.idle, fun e old hold => hfree.free e old
      (hepisodes ▸ hold)⟩
  | active hstate hspan => exact .active (hstates ▸ hstate) hspan
  | admission hepisode hspan hopen => exact .admission (hepisodes ▸ hepisode) hspan hopen

/-- What every disciplined run keeps. -/
structure Inv (b : Bridge) : Prop where
  linear : SpanLinear b.hooks
  drawn : ∀ s ∈ opened Emission.starts b.hooks.log, Drawn b.hooks s
  held : ∀ s x, Holds b s x → Drawn b.hooks s
  unique : ∀ s x y, Holds b s x → Holds b s y → x = y
  live : ∀ s x, Live b s x → SpanOpen b.hooks s

theorem Hooks.nextSpan_not_drawn (h : Hooks) : ¬ Drawn h h.nextSpan := by
  rintro ⟨n, hn, heq⟩
  exact absurd (scopedId_injective heq) (Nat.ne_of_gt hn)

theorem Drawn.follows {h h' : Hooks} {more : List Emission} {s : String} (hs : Drawn h s)
    (hf : Follows h h' more) : Drawn h' s := by
  obtain ⟨n, hn, rfl⟩ := hs
  exact ⟨n, by rw [hf.drawn]; omega, by rw [hf.owner]⟩

theorem Follows.drawn_nextSpan {h h' : Hooks} {more : List Emission} (hf : Follows h h' more)
    (hspan : .span h.nextSpan ∈ more) : Drawn h' h.nextSpan := by
  refine ⟨h.nextSpanSeq, ?_, by rw [hf.owner, Hooks.nextSpan]⟩
  have hpos : 0 < (more.filter Emission.isSpan).length :=
    List.length_pos_of_mem (List.mem_filter.mpr ⟨hspan, rfl⟩)
  rw [hf.drawn]
  omega

/-- What a step does to the remembered spans: it closes a live span and forgets
that it was live, and it remembers nothing new but a span it has drawn. -/
structure Remembers (b b' : Bridge) (more : List Emission) (w : Phase) : Prop where
  follows : Follows b.hooks b'.hooks more
  starts : ∀ s ∈ opened Emission.starts more, s = b.hooks.nextSpan ∧ .span b.hooks.nextSpan ∈ more
  closes : closed Emission.ends more = [] ∨
    ∃ c x, closed Emission.ends more = [c] ∧ Live b c x ∧ ¬ Live b' c x
  holds : ∀ s x, Holds b' s x →
    Holds b s x ∨ s = b.hooks.nextSpan ∧ x = w ∧ .span b.hooks.nextSpan ∈ more
  live : ∀ s x, Live b' s x →
    Live b s x ∨ s = b.hooks.nextSpan ∧ b.hooks.nextSpan ∈ opened Emission.starts more

/-- The step lemma. -/
theorem Inv.step {b b' : Bridge} {more : List Emission} {w : Phase} (h : Inv b)
    (hr : Remembers b b' more w) : Inv b' := by
  have hlog := hr.follows.log
  have hnew : ¬ Drawn b.hooks b.hooks.nextSpan := b.hooks.nextSpan_not_drawn
  constructor
  · rw [SpanLinear, hlog]
    rcases hr.closes with hquiet | ⟨c, x, hone, hlive, _⟩
    · exact h.linear.append_quiet hquiet
    · exact h.linear.append_one (h.live c x hlive) hone
  · intro s hs
    rw [hlog, opened_append, List.mem_append] at hs
    rcases hs with hs | hs
    · exact (h.drawn s hs).follows hr.follows
    · obtain ⟨rfl, hspan⟩ := hr.starts s hs
      exact hr.follows.drawn_nextSpan hspan
  · intro s x hs
    rcases hr.holds s x hs with hold | ⟨rfl, -, hspan⟩
    · exact (h.held s x hold).follows hr.follows
    · exact hr.follows.drawn_nextSpan hspan
  · intro s x y hx hy
    rcases hr.holds s x hx with hx | ⟨rfl, rfl, -⟩
    · rcases hr.holds s y hy with hy | ⟨rfl, -, -⟩
      · exact h.unique s x y hx hy
      · exact absurd (h.held _ _ hx) hnew
    · rcases hr.holds _ y hy with hy | ⟨-, rfl, -⟩
      · exact absurd (h.held _ _ hy) hnew
      · rfl
  · intro s x hs
    rw [SpanOpen, hlog]
    rcases hr.live s x hs with hold | ⟨rfl, hopened⟩
    · refine (h.live s x hold).append fun hclosed => ?_
      rcases hr.closes with hquiet | ⟨c, y, hone, hlive, hgone⟩
      · rw [hquiet] at hclosed
        cases hclosed
      · rw [hone, List.mem_singleton] at hclosed
        subst hclosed
        exact hgone (h.unique s x y hold.holds hlive.holds ▸ hs)
    · refine IsOpen.of_new hopened ?_ ?_
      · exact fun hclosed => hnew (h.drawn _ (h.linear.opened_of_closed hclosed))
      · intro hclosed
        rcases hr.closes with hquiet | ⟨c, y, hone, hlive, -⟩
        · rw [hquiet] at hclosed
          cases hclosed
        · rw [hone, List.mem_singleton] at hclosed
          exact hnew (hclosed ▸ h.held c y hlive.holds)

/-! ## Updates of the bridge state -/

namespace Bridge
variable {b : Bridge} {rid : String} {epoch : Int} {hooks : Hooks} {s : String} {x : Phase}

theorem holds_setState {state : RuntimeRequestState} (h : Holds (b.setState rid hooks state) s x) :
    Holds b s x ∨ s = state.queueSpanId ∧ x = .queue rid ∨
      state.activeSpanId = some s ∧ x = .active rid := by
  cases h with
  | @queue other state' hstate =>
    rw [setState, Mapping.get_set] at hstate
    split at hstate
    · next heq =>
      cases hstate
      exact .inr (.inl ⟨rfl, heq ▸ rfl⟩)
    · exact .inl (.queue hstate)
  | requeued hepisode => exact .inl (.requeued hepisode)
  | @active other s state' hstate hspan =>
    rw [setState, Mapping.get_set] at hstate
    split at hstate
    · next heq =>
      cases hstate
      exact .inr (.inr ⟨hspan, heq ▸ rfl⟩)
    · exact .inl (.active hstate hspan)
  | admission hepisode hspan => exact .inl (.admission hepisode hspan)

theorem live_setState {state : RuntimeRequestState} (h : Live (b.setState rid hooks state) s x) :
    (Live b s x ∧ x ≠ .queue rid ∧ x ≠ .active rid) ∨
      (s = state.queueSpanId ∧ x = .queue rid ∧ QueueFree b rid state) ∨
        state.activeSpanId = some s ∧ x = .active rid := by
  cases h with
  | @queue other state' hstate hfree =>
    rw [setState, Mapping.get_set] at hstate
    split at hstate
    · next heq =>
      cases hstate
      subst heq
      exact .inr (.inl ⟨rfl, rfl, hfree.idle, hfree.free⟩)
    · next hne =>
      refine .inl ⟨.queue hstate ⟨hfree.idle, hfree.free⟩, ?_, by simp⟩
      exact fun heq => hne (Phase.queue.inj heq)
  | @active other s state' hstate hspan =>
    rw [setState, Mapping.get_set] at hstate
    split at hstate
    · next heq =>
      cases hstate
      exact .inr (.inr ⟨hspan, heq ▸ rfl⟩)
    · next hne => exact .inl ⟨.active hstate hspan, by simp, fun heq => hne (Phase.active.inj heq)⟩
  | admission hepisode hspan hopen =>
    exact .inl ⟨.admission hepisode hspan hopen, by simp, by simp⟩

theorem holds_setEpisode {episode : EmittedBaseEpisode}
    (h : Holds (b.setEpisode rid epoch hooks episode) s x) :
    Holds b s x ∨ s = episode.queueSpanId ∧ x = .queue rid ∨
      episode.admissionSpanId = some s ∧ x = .admission rid epoch := by
  cases h with
  | queue hstate => exact .inl (.queue hstate)
  | requeued hepisode =>
    rw [setEpisode, Mapping.get_set] at hepisode
    split at hepisode
    · next heq =>
      cases hepisode
      cases heq
      exact .inr (.inl ⟨rfl, rfl⟩)
    · exact .inl (.requeued hepisode)
  | active hstate hspan => exact .inl (.active hstate hspan)
  | admission hepisode hspan =>
    rw [setEpisode, Mapping.get_set] at hepisode
    split at hepisode
    · next heq =>
      cases hepisode
      cases heq
      exact .inr (.inr ⟨hspan, rfl⟩)
    · exact .inl (.admission hepisode hspan)

/-- An episode keeps its queue span and its admission. -/
def Extends (b : Bridge) (rid : String) (epoch : Int) (episode : EmittedBaseEpisode) : Prop :=
  ∀ old, b.episodes.get (rid, epoch) = some old →
    old.queueSpanId = episode.queueSpanId ∧
      (episode.admissionStarted = none → old.admissionStarted = none)

theorem queueFree_of_setEpisode {episode : EmittedBaseEpisode} {state : RuntimeRequestState}
    {other : String} (hext : Extends b rid epoch episode)
    (h : QueueFree (b.setEpisode rid epoch hooks episode) other state) :
    QueueFree b other state := by
  refine ⟨h.idle, fun epoch' old hold hspan => ?_⟩
  by_cases heq : (other, epoch') = (rid, epoch)
  · cases heq
    obtain ⟨hqueue, hadmitted⟩ := hext old hold
    exact hadmitted (h.free epoch episode (Mapping.get_set_self _ _ _) (hqueue ▸ hspan))
  · exact h.free epoch' old ((Mapping.get_set_ne heq).trans hold) hspan

theorem live_setEpisode {episode : EmittedBaseEpisode} (hext : Extends b rid epoch episode)
    (h : Live (b.setEpisode rid epoch hooks episode) s x) :
    (Live b s x ∧ x ≠ .admission rid epoch) ∨
      (episode.admissionSpanId = some s ∧ episode.resumed = none ∧ x = .admission rid epoch) := by
  cases h with
  | queue hstate hfree =>
    exact .inl ⟨.queue hstate (queueFree_of_setEpisode hext hfree), by simp⟩
  | active hstate hspan => exact .inl ⟨.active hstate hspan, by simp⟩
  | admission hepisode hspan hopen =>
    rw [setEpisode, Mapping.get_set] at hepisode
    split at hepisode
    · next heq =>
      cases hepisode
      cases heq
      exact .inr ⟨hspan, hopen, rfl⟩
    · next hne =>
      refine .inl ⟨.admission hepisode hspan hopen, fun heq => hne ?_⟩
      cases heq
      rfl

/-- The queue span of an admitted episode is not live. -/
theorem not_live_of_admitted {episode : EmittedBaseEpisode}
    (hepisode : b.episodes.get (rid, epoch) = some episode)
    (hadmitted : episode.admissionStarted ≠ none) : ¬ Live b episode.queueSpanId (.queue rid) := by
  intro h
  generalize hs : episode.queueSpanId = s at h
  cases h with
  | queue hstate hfree => exact hadmitted (hfree.free epoch episode hepisode hs)

theorem holds_requestTerminal (h : Holds (b.requestTerminal rid) s x) : Holds b s x := by
  cases h with
  | queue hstate =>
    rw [requestTerminal, Mapping.get_pop] at hstate
    exact .queue (Option.ite_none_left_eq_some.mp hstate).2
  | requeued hepisode =>
    rw [requestTerminal, Mapping.get_popWhere] at hepisode
    exact .requeued (Option.ite_none_left_eq_some.mp hepisode).2
  | active hstate hspan =>
    rw [requestTerminal, Mapping.get_pop] at hstate
    exact .active (Option.ite_none_left_eq_some.mp hstate).2 hspan
  | admission hepisode hspan =>
    rw [requestTerminal, Mapping.get_popWhere] at hepisode
    exact .admission (Option.ite_none_left_eq_some.mp hepisode).2 hspan

theorem live_requestTerminal (h : Live (b.requestTerminal rid) s x) :
    Live b s x ∧ x ≠ .queue rid ∧ x ≠ .active rid := by
  cases h with
  | @queue other state hstate hfree =>
    rw [requestTerminal, Mapping.get_pop] at hstate
    obtain ⟨hne, hstate⟩ := Option.ite_none_left_eq_some.mp hstate
    refine ⟨.queue hstate ⟨hfree.idle, fun epoch' old hold hspan => ?_⟩, ?_, by simp⟩
    · refine hfree.free epoch' old ?_ hspan
      rw [requestTerminal, Mapping.get_popWhere]
      simpa [hne] using hold
    · exact fun heq => hne (Phase.queue.inj heq)
  | active hstate hspan =>
    rw [requestTerminal, Mapping.get_pop] at hstate
    obtain ⟨hne, hstate⟩ := Option.ite_none_left_eq_some.mp hstate
    exact ⟨.active hstate hspan, by simp, fun heq => hne (Phase.active.inj heq)⟩
  | admission hepisode hspan hopen =>
    rw [requestTerminal, Mapping.get_popWhere] at hepisode
    exact ⟨.admission (Option.ite_none_left_eq_some.mp hepisode).2 hspan hopen, by simp, by simp⟩

end Bridge

/-! ## What the updates keep -/

namespace Inv
variable {b : Bridge} {rid : String} {epoch : Int} {hooks : Hooks} {more : List Emission}
  {state state' : RuntimeRequestState} {episode episode' : EmittedBaseEpisode}

/-- Emissions that close nothing. -/
theorem quiet {b' : Bridge} (h : Inv b) (hstates : b'.runtimeStates = b.runtimeStates)
    (hepisodes : b'.episodes = b.episodes) (hf : Follows b.hooks b'.hooks more)
    (hq : Quiet b.hooks.nextSpan more) : Inv b' :=
  h.step (w := .queue "") ⟨hf, hq.starts, .inl hq.closes,
    fun _ _ hs => .inl (hs.congr hstates hepisodes), fun _ _ hs =>
      .inl (hs.congr hstates hepisodes)⟩

/-- A method that gave up and was not dropped after closing a span. -/
theorem gaveUp {α : Type} {c : String} (h : Inv b) (hf : Follows b.hooks hooks more)
    (hc : Closing b.hooks.nextSpan c (none : Option α) more)
    (hd : closed Emission.ends more = [] ∨ settled more = true) :
    Inv { b with hooks := hooks } := by
  refine h.quiet rfl rfl hf ⟨hc.starts, ?_⟩
  rcases hd with hd | hd
  · exact hd
  · exact (hc.gaveUp rfl).resolve_right (by simp [hd])

/-- The request enters a compute phase, whose start closes its queue span or
the span of its last phase. -/
theorem startCompute (h : Inv b) (hstate : b.runtimeStates.get rid = some state)
    (hq : state'.queueSpanId = state.queueSpanId)
    (ha : state'.activeSpanId = some b.hooks.nextSpan) (hf : Follows b.hooks hooks more)
    (hstarts : ∀ s ∈ opened Emission.starts more,
      s = b.hooks.nextSpan ∧ .span b.hooks.nextSpan ∈ more)
    (hopened : b.hooks.nextSpan ∈ opened Emission.starts more)
    (hcloses : closed Emission.ends more = [] ∨ ∃ c, closed Emission.ends more = [c] ∧
      (c = state.queueSpanId ∧ QueueFree b rid state ∨ state.activeSpanId = some c)) :
    Inv (b.setState rid hooks state') := by
  refine h.step (w := .active rid) ⟨hf, hstarts, ?_, fun s x hs => ?_, fun s x hs => ?_⟩
  · refine hcloses.imp id ?_
    rintro ⟨c, hone, ⟨rfl, hfree⟩ | hspan⟩
    · refine ⟨_, _, hone, .queue hstate hfree, fun hlive => ?_⟩
      rcases Bridge.live_setState hlive with ⟨-, hne, -⟩ | ⟨-, -, hfree'⟩ | ⟨-, heq⟩
      · exact hne rfl
      · simp [hfree'.idle] at ha
      · cases heq
    · refine ⟨_, _, hone, .active hstate hspan, fun hlive => ?_⟩
      rcases Bridge.live_setState hlive with ⟨-, -, hne⟩ | ⟨-, heq, -⟩ | ⟨hnew, -⟩
      · exact hne rfl
      · cases heq
      · rw [ha, Option.some.injEq] at hnew
        exact b.hooks.nextSpan_not_drawn (hnew ▸ h.held _ _ (.active hstate hspan))
  · rcases Bridge.holds_setState hs with hold | ⟨rfl, rfl⟩ | ⟨hspan, rfl⟩
    · exact .inl hold
    · exact .inl (hq ▸ .queue hstate)
    · rw [ha, Option.some.injEq] at hspan
      exact .inr ⟨hspan.symm, rfl, (hstarts _ hopened).2⟩
  · rcases Bridge.live_setState hs with ⟨hold, -, -⟩ | ⟨-, -, hfree⟩ | ⟨hspan, -⟩
    · exact .inl hold
    · simp [hfree.idle] at ha
    · rw [ha, Option.some.injEq] at hspan
      exact .inr ⟨hspan.symm, hopened⟩

/-- A state with the same spans. -/
theorem sameState (h : Inv b) (hstate : b.runtimeStates.get rid = some state)
    (hq : state'.queueSpanId = state.queueSpanId) (ha : state'.activeSpanId = state.activeSpanId) :
    Inv (b.setState rid b.hooks state') := by
  refine h.step (w := .active rid) ⟨Follows.refl _, by simp, .inl rfl, fun s x hs => .inl ?_,
    fun s x hs => .inl ?_⟩
  · rcases Bridge.holds_setState hs with hold | ⟨rfl, rfl⟩ | ⟨hspan, rfl⟩
    · exact hold
    · exact hq ▸ .queue hstate
    · exact .active hstate (ha ▸ hspan)
  · rcases Bridge.live_setState hs with ⟨hold, -, -⟩ | ⟨rfl, rfl, hfree⟩ | ⟨hspan, rfl⟩
    · exact hold
    · exact hq ▸ .queue hstate ⟨ha ▸ hfree.idle, fun e old hold heq => hfree.free e old hold
        (hq ▸ heq)⟩
    · exact .active hstate (ha ▸ hspan)

/-- An episode with the same spans. -/
theorem sameEpisode (h : Inv b) (episode' : EmittedBaseEpisode)
    (hepisode : b.episodes.get (rid, epoch) = some episode)
    (hq : episode'.queueSpanId = episode.queueSpanId)
    (hadmitted : episode'.admissionStarted = episode.admissionStarted)
    (ha : episode'.admissionSpanId = episode.admissionSpanId)
    (hr : episode'.resumed = episode.resumed) :
    Inv (b.setEpisode rid epoch b.hooks episode') := by
  have hext : Bridge.Extends b rid epoch episode' := by
    intro old hold
    cases hepisode.symm.trans hold
    exact ⟨hq.symm, fun hnone => hadmitted ▸ hnone⟩
  refine h.step (w := .active rid) ⟨Follows.refl _, by simp, .inl rfl, fun s x hs => .inl ?_,
    fun s x hs => .inl ?_⟩
  · rcases Bridge.holds_setEpisode hs with hold | ⟨rfl, rfl⟩ | ⟨hspan, rfl⟩
    · exact hold
    · exact hq ▸ .requeued hepisode
    · exact .admission hepisode (ha ▸ hspan)
  · rcases Bridge.live_setEpisode hext hs with ⟨hold, -⟩ | ⟨hspan, hopen, rfl⟩
    · exact hold
    · exact .admission hepisode (ha ▸ hspan) (hr ▸ hopen)

/-- The request goes from its active phase to the queue of a new episode. -/
theorem requeued {c : String} (h : Inv b) (hstate : b.runtimeStates.get rid = some state)
    (hactive : state.activeSpanId = some c)
    (hnone : b.episodes.get (rid, epoch) = none)
    (hq : state'.queueSpanId = b.hooks.nextSpan) (ha : state'.activeSpanId = none)
    (heq : episode.queueSpanId = b.hooks.nextSpan) (hea : episode.admissionSpanId = none)
    (hf : Follows b.hooks hooks more)
    (hstarts : ∀ s ∈ opened Emission.starts more,
      s = b.hooks.nextSpan ∧ .span b.hooks.nextSpan ∈ more)
    (hopened : b.hooks.nextSpan ∈ opened Emission.starts more)
    (hcloses : closed Emission.ends more = [c]) :
    Inv ((b.setEpisode rid epoch hooks episode).setState rid hooks state') := by
  have hext : Bridge.Extends b rid epoch episode := by
    intro old hold
    cases hnone.symm.trans hold
  have hspan := (hstarts _ hopened).2
  refine h.step (w := .queue rid) ⟨hf, hstarts, .inr ⟨c, _, hcloses, .active hstate hactive, ?_⟩,
    fun s x hs => ?_, fun s x hs => ?_⟩
  · intro hlive
    rcases Bridge.live_setState hlive with ⟨-, -, hne⟩ | ⟨-, heq, -⟩ | ⟨hnew, -⟩
    · exact hne rfl
    · cases heq
    · simp [ha] at hnew
  · rcases Bridge.holds_setState hs with hs | ⟨rfl, rfl⟩ | ⟨hnew, -⟩
    · rcases Bridge.holds_setEpisode hs with hold | ⟨rfl, rfl⟩ | ⟨hnew, -⟩
      · exact .inl hold
      · exact .inr ⟨heq, rfl, hspan⟩
      · simp [hea] at hnew
    · exact .inr ⟨hq, rfl, hspan⟩
    · simp [ha] at hnew
  · rcases Bridge.live_setState hs with ⟨hs, -, -⟩ | ⟨rfl, -, -⟩ | ⟨hnew, -⟩
    · rcases Bridge.live_setEpisode hext hs with ⟨hold, -⟩ | ⟨hnew, -⟩
      · exact .inl hold
      · simp [hea] at hnew
    · exact .inr ⟨hq, hopened⟩
    · simp [ha] at hnew

/-- An episode is admitted, from the queue the request waits in or closing
nothing. -/
theorem admitted (h : Inv b) (hepisode : b.episodes.get (rid, epoch) = some episode)
    (hq : episode'.queueSpanId = episode.queueSpanId) (hadmitted : episode'.admissionStarted ≠ none)
    (ha : episode'.admissionSpanId = some b.hooks.nextSpan)
    (hf : Follows b.hooks hooks more)
    (hstarts : ∀ s ∈ opened Emission.starts more,
      s = b.hooks.nextSpan ∧ .span b.hooks.nextSpan ∈ more)
    (hopened : b.hooks.nextSpan ∈ opened Emission.starts more)
    (hcloses : closed Emission.ends more = [] ∨
      closed Emission.ends more = [episode.queueSpanId] ∧
        ∃ state, b.runtimeStates.get rid = some state ∧ QueueFree b rid state ∧
          episode.queueSpanId = state.queueSpanId) :
    Inv (b.setEpisode rid epoch hooks episode') := by
  have hext : Bridge.Extends b rid epoch episode' := by
    intro old hold
    cases hepisode.symm.trans hold
    exact ⟨hq.symm, fun hnone => absurd hnone hadmitted⟩
  refine h.step (w := .admission rid epoch) ⟨hf, hstarts, ?_, fun s x hs => ?_, fun s x hs => ?_⟩
  · refine hcloses.imp id ?_
    rintro ⟨hone, state, hstate, hfree, hshared⟩
    refine ⟨_, .queue rid, hone, hshared ▸ .queue hstate hfree, ?_⟩
    rw [← hq]
    exact Bridge.not_live_of_admitted (Mapping.get_set_self _ _ _) hadmitted
  · rcases Bridge.holds_setEpisode hs with hold | ⟨rfl, rfl⟩ | ⟨hspan, rfl⟩
    · exact .inl hold
    · exact .inl (hq ▸ .requeued hepisode)
    · rw [ha, Option.some.injEq] at hspan
      exact .inr ⟨hspan.symm, rfl, (hstarts _ hopened).2⟩
  · rcases Bridge.live_setEpisode hext hs with ⟨hold, -⟩ | ⟨hspan, -, -⟩
    · exact .inl hold
    · rw [ha, Option.some.injEq] at hspan
      exact .inr ⟨hspan.symm, hopened⟩

/-- An admitted episode resumes. -/
theorem resumed {c : String} (h : Inv b) (hepisode : b.episodes.get (rid, epoch) = some episode)
    (hspan : episode.admissionSpanId = some c) (hopen : episode.resumed = none)
    (hq : episode'.queueSpanId = episode.queueSpanId)
    (hadmitted : episode'.admissionStarted = episode.admissionStarted)
    (ha : episode'.admissionSpanId = episode.admissionSpanId) (hr : episode'.resumed ≠ none)
    (hf : Follows b.hooks hooks more) (hopened : opened Emission.starts more = [])
    (hcloses : closed Emission.ends more = [] ∨ closed Emission.ends more = [c]) :
    Inv (b.setEpisode rid epoch hooks episode') := by
  have hext : Bridge.Extends b rid epoch episode' := by
    intro old hold
    cases hepisode.symm.trans hold
    exact ⟨hq.symm, fun hnone => hadmitted ▸ hnone⟩
  refine h.step (w := .active rid) ⟨hf, by simp [hopened], ?_, fun s x hs => .inl ?_,
    fun s x hs => .inl ?_⟩
  · refine hcloses.imp id fun hone => ⟨c, _, hone, .admission hepisode hspan hopen, fun hlive => ?_⟩
    rcases Bridge.live_setEpisode hext hlive with ⟨-, hne⟩ | ⟨-, hnone, -⟩
    · exact hne rfl
    · exact hr hnone
  · rcases Bridge.holds_setEpisode hs with hold | ⟨rfl, rfl⟩ | ⟨hspan, rfl⟩
    · exact hold
    · exact hq ▸ .requeued hepisode
    · exact .admission hepisode (ha ▸ hspan)
  · rcases Bridge.live_setEpisode hext hs with ⟨hold, -⟩ | ⟨-, hnone, -⟩
    · exact hold
    · exact absurd hnone hr

/-- The request ends, closing the span of its last phase or nothing. -/
theorem terminal (h : Inv b) (hf : Follows b.hooks hooks more)
    (hopened : opened Emission.starts more = [])
    (hcloses : closed Emission.ends more = [] ∨
      ∃ c state, closed Emission.ends more = [c] ∧ b.runtimeStates.get rid = some state ∧
        (c = state.queueSpanId ∧ QueueFree b rid state ∨ state.activeSpanId = some c)) :
    Inv (Bridge.requestTerminal { b with hooks := hooks } rid) := by
  refine Inv.step (b := b) (w := .active rid) h ⟨hf, by simp [hopened], ?_, fun s x hs => .inl ?_,
    fun s x hs => .inl ?_⟩
  · refine hcloses.imp id ?_
    rintro ⟨c, state, hone, hstate, ⟨rfl, hfree⟩ | hspan⟩
    · exact ⟨_, _, hone, .queue hstate hfree, fun hlive =>
        (Bridge.live_requestTerminal hlive).2.1 rfl⟩
    · exact ⟨_, _, hone, .active hstate hspan, fun hlive =>
        (Bridge.live_requestTerminal hlive).2.2 rfl⟩
  · refine Holds.congr ?_ ?_ (Bridge.holds_requestTerminal hs) <;> rfl
  · refine Live.congr ?_ ?_ (Bridge.live_requestTerminal hs).1 <;> rfl

/-- A request enters the queue. -/
theorem queued (h : Inv b) (hq : state'.queueSpanId = b.hooks.nextSpan)
    (ha : state'.activeSpanId = none) (hf : Follows b.hooks hooks more)
    (hquiet : Quiet b.hooks.nextSpan more)
    (hopened : b.hooks.nextSpan ∈ opened Emission.starts more) :
    Inv (b.setState rid hooks state') := by
  refine h.step (w := .queue rid) ⟨hf, hquiet.starts, .inl hquiet.closes, fun s x hs => ?_,
    fun s x hs => ?_⟩
  · rcases Bridge.holds_setState hs with hold | ⟨rfl, rfl⟩ | ⟨hspan, -⟩
    · exact .inl hold
    · exact .inr ⟨hq, rfl, (hquiet.starts _ hopened).2⟩
    · simp [ha] at hspan
  · rcases Bridge.live_setState hs with ⟨hold, -, -⟩ | ⟨rfl, -, -⟩ | ⟨hspan, -⟩
    · exact .inl hold
    · exact .inr ⟨hq, hopened⟩
    · simp [ha] at hspan

end Inv

/-! ## Disciplined calls -/

/-- The emissions between two states of the bridge. -/
def Bridge.emissions (b b' : Bridge) : List Emission := b'.hooks.log.drop b.hooks.log.length

theorem Follows.emissions {b b' : Bridge} {more : List Emission}
    (hf : Follows b.hooks b'.hooks more) : b.emissions b' = more := by
  rw [Bridge.emissions, hf.log, List.drop_left]

instance (b : Bridge) (rid : String) (state : RuntimeRequestState) :
    Decidable (QueueFree b rid state) :=
  decidable_of_iff (state.activeSpanId = none ∧ ∀ item ∈ b.episodes, item.1.1 = rid →
      ∀ episode ∈ b.episodes.get item.1, episode.queueSpanId = state.queueSpanId →
        episode.admissionStarted.isNone = true) <| by
    constructor
    · rintro ⟨hidle, hfree⟩
      refine ⟨hidle, fun epoch episode hepisode hshared => ?_⟩
      exact Option.isNone_iff_eq_none.mp
        (hfree _ (Mapping.mem_of_get hepisode) rfl episode hepisode hshared)
    · rintro ⟨hidle, hfree⟩
      refine ⟨hidle, fun item _ hrid episode hepisode hshared => ?_⟩
      exact Option.isNone_iff_eq_none.mpr
        (hfree item.1.2 episode (by rw [← hrid]; exact hepisode) hshared)

/-- The call ends a span that no other phase may end, and nothing is dropped
after the ending. -/
def EndsOwnSpan (b : Bridge) (more : List Emission) : Call → Prop
  | .emitRuntimeScheduled rid .. => settled more = true ∧
      ∀ state ∈ b.runtimeStates.get rid, state.activeStarted.isNone = true → QueueFree b rid state
  | .emitRuntimePreempted .. => settled more = true
  | .emitPreemptedAndRequeued .. => False
  | .emitAdmissionStarted rid epoch _ => settled more = true ∧
      ∃ state ∈ b.runtimeStates.get rid, QueueFree b rid state ∧
        ∀ episode ∈ b.episodes.get (rid, epoch), episode.queueSpanId = state.queueSpanId
  | .emitResumed .. => settled more = true
  | .emitRuntimeResumed .. => settled more = true
  | .emitRuntimeTerminal rid .. =>
      ∀ state ∈ b.runtimeStates.get rid, state.activeSpanId = none → QueueFree b rid state
  | _ => True

instance (b : Bridge) (more : List Emission) : (c : Call) → Decidable (EndsOwnSpan b more c)
  | .emitRuntimeScheduled .. => inferInstanceAs (Decidable (_ ∧ _))
  | .emitRuntimePreempted .. => inferInstanceAs (Decidable (_ = _))
  | .emitPreemptedAndRequeued .. => inferInstanceAs (Decidable False)
  | .emitAdmissionStarted .. => inferInstanceAs (Decidable (_ ∧ _))
  | .emitResumed .. => inferInstanceAs (Decidable (_ = _))
  | .emitRuntimeResumed .. => inferInstanceAs (Decidable (_ = _))
  | .emitRuntimeTerminal rid .. =>
    inferInstanceAs (Decidable (∀ state ∈ b.runtimeStates.get rid, _))
  | .registerRequest .. | .registerRuntimeRequest .. | .emitFirstCompute .. | .requestTerminal .. =>
    inferInstanceAs (Decidable True)

/-- A call is disciplined when it ends no span or one of its own. -/
def Disciplined (sha256 : Bytes → String) (b : Bridge) (c : Call) : Prop :=
  closed Emission.ends (b.emissions (b.call sha256 c)) = [] ∨
    EndsOwnSpan b (b.emissions (b.call sha256 c)) c

instance (sha256 : Bytes → String) (b : Bridge) (c : Call) : Decidable (Disciplined sha256 b c) :=
  inferInstanceAs (Decidable (_ ∨ _))

/-- Every call of the run is disciplined in the state it is made in. -/
def DisciplinedRun (sha256 : Bytes → String) : Bridge → List Call → Prop
  | _, [] => True
  | b, c :: rest => Disciplined sha256 b c ∧ DisciplinedRun sha256 (b.call sha256 c) rest

instance decidableDisciplinedRun (sha256 : Bytes → String) :
    (b : Bridge) → (calls : List Call) → Decidable (DisciplinedRun sha256 b calls)
  | _, [] => inferInstanceAs (Decidable True)
  | b, c :: rest =>
    have := decidableDisciplinedRun sha256 (b.call sha256 c) rest
    inferInstanceAs (Decidable (_ ∧ _))

namespace Bridge

theorem setTokens_hooks (b : Bridge) (rid : String) (computed : Int) :
    (b.setTokens rid computed).hooks = b.hooks := by
  unfold setTokens
  split <;> rfl

theorem emissions_setTokens (b b' : Bridge) (rid : String) (computed : Int) :
    b.emissions (b'.setTokens rid computed) = b.emissions b' := by
  rw [emissions, setTokens_hooks, emissions]

/-- A preemption of an episode that did not exist yet, or nothing but emissions. -/
theorem emitPreemptedAndRequeued_spec (b : Bridge) (rid : String) (epoch ts : Int)
    (startId c : String) (computed chunks : Int) :
    let r := b.emitPreemptedAndRequeued rid epoch ts startId c computed chunks
    ∃ more, Follows b.hooks r.1.hooks more ∧ Closing b.hooks.nextSpan c r.2 more ∧
      (r.2 = none → r.1.runtimeStates = b.runtimeStates ∧ r.1.episodes = b.episodes) ∧
      ∀ result, r.2 = some result → b.episodes.get (rid, epoch) = none ∧
        opened Emission.starts more = [b.hooks.nextSpan] ∧ closed Emission.ends more = [c] ∧
        ∃ requeued, r.1 = b.setEpisode rid epoch r.1.hooks
          { preempted := result, requeued := requeued, queueSpanId := b.hooks.nextSpan } := by
  have hidle : ∃ more, Follows b.hooks b.hooks more ∧
      Closing b.hooks.nextSpan c (none : Option BaseEventRef) more :=
    ⟨[], Follows.refl _, by simp, .inl rfl, fun _ => .inl rfl⟩
  unfold Bridge.emitPreemptedAndRequeued
  split
  · obtain ⟨more, hf, hc⟩ := hidle
    exact ⟨more, hf, hc, fun _ => ⟨rfl, rfl⟩, by simp⟩
  · next identity hidentity =>
    split
    · obtain ⟨more, hf, hc⟩ := hidle
      exact ⟨more, hf, hc, fun _ => ⟨rfl, rfl⟩, by simp⟩
    · next hguard =>
      obtain ⟨more, hf, hc, hsome⟩ := Bridge.emitPreemption_ensures identity epoch ts startId c
        computed chunks b.hooks
      have hnone : b.episodes.get (rid, epoch) = none := by
        simp only [not_or, Bool.not_eq_true, Option.isSome_eq_false_iff,
          Option.isNone_iff_eq_none] at hguard
        exact hguard.2.1
      split
      · next hooks heq =>
        rw [heq] at hf hc
        exact ⟨more, hf, ⟨hc.starts, hc.closes, fun _ => hc.gaveUp rfl⟩, fun _ =>
          ⟨rfl, rfl⟩, by simp⟩
      · next preempted requeued spanId hooks heq =>
        rw [heq] at hf hc hsome
        obtain ⟨rfl, hopened, hclosed⟩ := hsome preempted requeued spanId rfl
        refine ⟨more, hf, ⟨hc.starts, hc.closes, by simp⟩, by simp, fun result hresult => ?_⟩
        cases hresult
        exact ⟨hnone, hopened, hclosed, ⟨requeued.recordId, ts⟩, rfl⟩

end Bridge

namespace Inv
variable {b : Bridge}

theorem registerRequest (h : Inv b) (identity : RequestLifecycleIdentity) :
    Inv (b.registerRequest identity).1 := by
  unfold Bridge.registerRequest
  split
  · exact h
  · split
    · exact h
    · exact h.quiet rfl rfl (Follows.refl _) ⟨by simp, rfl⟩

theorem registerRuntimeRequest (h : Inv b) (sha256 : Bytes → String) (runId rid : String)
    (ts : Int) : Inv (b.registerRuntimeRequest sha256 runId rid ts).1 := by
  unfold Bridge.registerRuntimeRequest
  split
  · exact h
  · dsimp only
    split
    · exact h
    · split
      · exact h
      · obtain ⟨more, hf, hq, hsome⟩ := Bridge.emitQueued_ensures
          ⟨requestTraceId sha256 runId rid, rid⟩ ts b.hooks
        split
        · next hooks heq =>
          rw [heq] at hf
          exact h.quiet rfl rfl hf hq
        · next emitted queueSpanId hooks heq =>
          rw [heq] at hf hsome
          obtain ⟨rfl, hopened⟩ := hsome emitted queueSpanId rfl
          refine Inv.quiet (b := b.setState rid hooks _) ?_ rfl rfl (Follows.refl _) ⟨by simp, rfl⟩
          exact h.queued rfl rfl hf hq (by simp [hopened])

theorem emitRuntimeScheduled (h : Inv b) {rid : String} {ts : Int} {kind : String}
    {scheduled total cached : Int}
    (hd : let more := b.emissions (b.emitRuntimeScheduled rid ts kind scheduled total cached).1
      closed Emission.ends more = [] ∨ settled more = true ∧
        ∀ state ∈ b.runtimeStates.get rid, state.activeStarted.isNone = true →
          QueueFree b rid state) :
    Inv (b.emitRuntimeScheduled rid ts kind scheduled total cached).1 := by
  revert hd
  unfold Bridge.emitRuntimeScheduled
  split
  · exact fun _ => h
  · next state hstate =>
    split
    · exact fun _ => h
    · dsimp only
      split
      · next activeStarted hactive =>
        unfold Bridge.scheduleActive
        split
        · exact fun _ => h.sameState hstate rfl rfl
        · split
          · split
            · exact fun _ => h
            · next activeSpanId hspan =>
              obtain ⟨more, hf, hc, hsome⟩ := Bridge.emitSwitchToDecode_ensures state activeStarted
                activeSpanId ts b.hooks
              split
              · next hooks heq =>
                rw [heq] at hf hc
                intro hd
                rw [Follows.emissions hf] at hd
                exact h.gaveUp hf hc (hd.imp id And.left)
              · next started spanId hooks heq =>
                rw [heq] at hf hc hsome
                obtain ⟨rfl, hopened⟩ := hsome started spanId rfl
                exact fun _ => h.startCompute hstate rfl rfl hf hc.starts (by simp [hopened])
                  (hc.closes.imp id fun hone => ⟨_, hone, .inr hspan⟩)
          · exact fun _ => h
      · next hactive =>
        obtain ⟨more, hf, hc, hsome⟩ := Bridge.emitScheduledAndStarted_ensures state ts kind total
          (min (max 0 cached) (total - 1)) b.hooks
        split
        · next hooks heq =>
          rw [heq] at hf hc
          intro hd
          rw [Follows.emissions hf] at hd
          exact h.gaveUp hf hc (hd.imp id And.left)
        · next started spanId hooks heq =>
          rw [heq] at hf hc hsome
          obtain ⟨rfl, hopened⟩ := hsome started spanId rfl
          intro hd
          rw [Follows.emissions hf] at hd
          refine h.startCompute hstate rfl rfl hf hc.starts (by simp [hopened]) ?_
          rcases hd with hnone | ⟨-, hfree⟩
          · exact .inl hnone
          · exact hc.closes.imp id fun hone =>
              ⟨_, hone, .inl ⟨rfl, hfree state hstate (by simp [hactive])⟩⟩

theorem emitRuntimePreempted (h : Inv b) {rid : String} {epoch ts : Int}
    (hd : let more := b.emissions (b.emitRuntimePreempted rid epoch ts).1
      closed Emission.ends more = [] ∨ settled more = true) :
    Inv (b.emitRuntimePreempted rid epoch ts).1 := by
  revert hd
  unfold Bridge.emitRuntimePreempted
  split
  · exact fun _ => h
  · next state hstate =>
    split
    · next activeStarted c hstarted hactive =>
      have hspec := b.emitPreemptedAndRequeued_spec rid epoch ts activeStarted.eventId c
        state.promptTokensComputed (max 1 state.prefillChunkCount)
      split
      · next b' heq =>
        rw [heq] at hspec
        obtain ⟨more, hf, hc, hsame, -⟩ := hspec
        obtain ⟨hstates, hepisodes⟩ := hsame rfl
        intro hd
        rw [Follows.emissions hf] at hd
        refine h.quiet hstates hepisodes hf ⟨hc.starts, ?_⟩
        rcases hd with hd | hd
        · exact hd
        · exact (hc.gaveUp rfl).resolve_right (by simp [hd])
      · next b' result heq =>
        rw [heq] at hspec
        obtain ⟨more, hf, hc, -, hsome⟩ := hspec
        obtain ⟨hnone, hopened, hclosed, requeued, hb'⟩ := hsome result rfl
        change b' = b.setEpisode rid epoch b'.hooks _ at hb'
        intro _
        have hstate' : b'.runtimeStates.get rid = some state := by
          rw [hb']
          exact hstate
        have hepisode' : b'.episodes.get (rid, epoch) = some
            { preempted := result, requeued := requeued, queueSpanId := b.hooks.nextSpan } := by
          rw [hb']
          exact Mapping.get_set_self _ _ _
        simp only [Bridge.requeue, hstate', hepisode']
        rw [hb']
        exact h.requeued hstate hactive hnone rfl rfl rfl rfl hf hc.starts (by simp [hopened])
          hclosed
    · exact fun _ => h

/-- A direct call keeps the invariant only when it closes nothing. -/
theorem emitPreemptedAndRequeued (h : Inv b) {rid : String} {epoch ts : Int}
    {startId spanId : String} {computed chunks : Int}
    (hd : closed Emission.ends (b.emissions
      (b.emitPreemptedAndRequeued rid epoch ts startId spanId computed chunks).1) = []) :
    Inv (b.emitPreemptedAndRequeued rid epoch ts startId spanId computed chunks).1 := by
  obtain ⟨more, hf, hc, hsame, hsome⟩ :=
    b.emitPreemptedAndRequeued_spec rid epoch ts startId spanId computed chunks
  rw [Follows.emissions hf] at hd
  cases hresult : (b.emitPreemptedAndRequeued rid epoch ts startId spanId computed chunks).2 with
  | none =>
    obtain ⟨hstates, hepisodes⟩ := hsame hresult
    exact h.quiet hstates hepisodes hf ⟨hc.starts, hd⟩
  | some result =>
    obtain ⟨-, -, hclosed, -⟩ := hsome result hresult
    rw [hd] at hclosed
    cases hclosed

theorem emitAdmissionStarted (h : Inv b) {rid : String} {epoch ts : Int}
    (hd : let more := b.emissions (b.emitAdmissionStarted rid epoch ts).1
      closed Emission.ends more = [] ∨ settled more = true ∧
        ∃ state ∈ b.runtimeStates.get rid, QueueFree b rid state ∧
          ∀ episode ∈ b.episodes.get (rid, epoch), episode.queueSpanId = state.queueSpanId) :
    Inv (b.emitAdmissionStarted rid epoch ts).1 := by
  revert hd
  unfold Bridge.emitAdmissionStarted
  split
  · next identity episode hidentity hepisode =>
    split
    · exact fun _ => h
    · obtain ⟨more, hf, hc, hsome⟩ := Bridge.emitAdmission_ensures identity episode epoch ts b.hooks
      split
      · next hooks heq =>
        rw [heq] at hf hc
        intro hd
        rw [Follows.emissions hf] at hd
        exact h.gaveUp hf hc (hd.imp id And.left)
      · next emitted spanId hooks heq =>
        rw [heq] at hf hc hsome
        obtain ⟨rfl, hopened⟩ := hsome emitted spanId rfl
        intro hd
        rw [Follows.emissions hf] at hd
        refine h.admitted hepisode rfl (by simp) rfl hf hc.starts (by simp [hopened]) ?_
        rcases hd with hnone | ⟨-, state, hstate, hfree, hshared⟩
        · exact .inl hnone
        · exact hc.closes.imp id fun hone => ⟨hone, state, hstate, hfree, hshared episode hepisode⟩
  · exact fun _ => h

/-- The token counts of a request are not its spans. -/
theorem setTokens (h : Inv b) (rid : String) (computed : Int) : Inv (b.setTokens rid computed) := by
  unfold Bridge.setTokens
  split
  · next state hstate => exact h.sameState hstate rfl rfl
  · exact h

theorem emitResumed (h : Inv b) {rid : String} {epoch ts total cached toCompute : Int}
    (hd : let more := b.emissions (b.emitResumed rid epoch ts total cached toCompute).1
      closed Emission.ends more = [] ∨ settled more = true) :
    Inv (b.emitResumed rid epoch ts total cached toCompute).1 := by
  revert hd
  unfold Bridge.emitResumed
  split
  · next identity episode hidentity hepisode =>
    split
    · next started c hstarted hspan hopen =>
      obtain ⟨more, hf, hc, hopened⟩ := Bridge.emitResumption_ensures identity started c epoch ts
        total cached toCompute b.hooks
      split
      · next hooks heq =>
        rw [heq] at hf hc
        intro hd
        rw [Follows.emissions hf] at hd
        exact h.gaveUp hf hc hd
      · next emitted hooks heq =>
        rw [heq] at hf hc
        exact fun _ => h.resumed hepisode hspan hopen rfl rfl rfl (by simp) hf hopened hc.closes
    · exact fun _ => h
  · exact fun _ => h

theorem emitRuntimeResumed (h : Inv b) {rid : String} {epoch ts total cached : Int}
    (hd : let more := b.emissions (b.emitRuntimeResumed rid epoch ts total cached).1
      closed Emission.ends more = [] ∨ settled more = true) :
    Inv (b.emitRuntimeResumed rid epoch ts total cached).1 := by
  revert hd
  unfold Bridge.emitRuntimeResumed
  split
  · exact fun _ => h
  · dsimp only
    generalize min (max 0 cached) (total - 1) = cached
    rcases hresult : b.emitResumed rid epoch ts total cached (total - cached) with
      ⟨b', _ | result⟩
    · intro hd
      have hinv := h.emitResumed (by rw [hresult]; exact hd)
      rw [hresult] at hinv
      exact hinv
    · intro hd
      have hinv := h.emitResumed
        (by rw [hresult]; exact Bridge.emissions_setTokens b b' rid cached ▸ hd)
      rw [hresult] at hinv
      exact hinv.setTokens rid cached

theorem emitFirstCompute (h : Inv b) (rid : String) (epoch ts : Int) (kind : String) :
    Inv (b.emitFirstCompute rid epoch ts kind).1 := by
  unfold Bridge.emitFirstCompute
  split
  · next identity episode hidentity hepisode =>
    split
    · exact h
    · next resumed hresumed =>
      split
      · exact h
      · obtain ⟨more, hf, hq, hsome⟩ := Bridge.emitComputeStart_ensures identity resumed epoch ts
          kind b.hooks
        split
        · next hooks heq =>
          rw [heq] at hf
          exact h.quiet rfl rfl hf hq
        · next emitted spanId hooks heq =>
          rw [heq] at hf hsome
          obtain ⟨rfl, hopened⟩ := hsome emitted spanId rfl
          -- the episode first, which changes no span, then the state with the new one
          have hinv := h.sameEpisode { episode with
            firstCompute := some ⟨emitted.recordId, ts⟩ } hepisode rfl rfl rfl rfl
          dsimp only
          unfold Bridge.activate
          split
          · next state hstate =>
            exact hinv.startCompute hstate rfl rfl hf hq.starts
              (hopened ▸ List.mem_singleton.mpr rfl)
              (.inl hq.closes)
          · exact hinv.quiet rfl rfl hf hq
  · exact h

theorem requestTerminal (h : Inv b) (rid : String) : Inv (b.requestTerminal rid) :=
  h.terminal (Follows.refl _) rfl (.inl rfl)

theorem emitRuntimeTerminal (h : Inv b) {rid cause : String} {ts generated : Int}
    (hd : closed Emission.ends (b.emissions (b.emitRuntimeTerminal rid cause ts generated).1) = [] ∨
      ∀ state ∈ b.runtimeStates.get rid, state.activeSpanId = none → QueueFree b rid state) :
    Inv (b.emitRuntimeTerminal rid cause ts generated).1 := by
  revert hd
  unfold Bridge.emitRuntimeTerminal
  split
  · next eventName ns state hevent hts hstate =>
    split
    next result hooks heq =>
    split at heq
    · obtain ⟨more, hf, hopened, hcloses⟩ := Bridge.emitCompletion_ensures state cause ts generated
        b.hooks
      rw [heq] at hf
      intro _
      refine h.terminal hf hopened (hcloses.imp id ?_)
      rintro ⟨c, hspan, hone⟩
      exact ⟨c, state, hone, hstate, .inr hspan⟩
    · obtain ⟨more, hf, hopened, hcloses⟩ := Bridge.emitAbnormal_ensures state eventName cause ts
        b.hooks
      rw [heq] at hf
      intro hd
      rw [Follows.emissions hf] at hd
      refine h.terminal hf hopened ?_
      rcases hd with hnone | hfree
      · exact .inl hnone
      · refine hcloses.imp id fun hone => ⟨_, state, hone, hstate, ?_⟩
        cases hspan : state.activeSpanId with
        | none => exact .inl ⟨rfl, hfree state hstate hspan⟩
        | some c => exact .inr rfl
  · exact fun _ => h

/-- The step lemma of whole calls. -/
theorem call {sha256 : Bytes → String} {c : Call} (h : Inv b) (hd : Disciplined sha256 b c) :
    Inv (b.call sha256 c) := by
  cases c with
  | registerRequest identity => exact h.registerRequest identity
  | registerRuntimeRequest runId rid ts => exact h.registerRuntimeRequest sha256 runId rid ts
  | emitRuntimeScheduled rid ts kind scheduled total cached => exact h.emitRuntimeScheduled hd
  | emitRuntimePreempted rid epoch ts => exact h.emitRuntimePreempted hd
  | emitPreemptedAndRequeued rid epoch ts startId spanId computed chunks =>
    exact h.emitPreemptedAndRequeued (hd.resolve_right id)
  | emitAdmissionStarted rid epoch ts => exact h.emitAdmissionStarted hd
  | emitResumed rid epoch ts total cached toCompute => exact h.emitResumed hd
  | emitRuntimeResumed rid epoch ts total cached => exact h.emitRuntimeResumed hd
  | emitFirstCompute rid epoch ts kind => exact h.emitFirstCompute rid epoch ts kind
  | requestTerminal rid => exact h.requestTerminal rid
  | emitRuntimeTerminal rid cause ts generated => exact h.emitRuntimeTerminal hd

/-- A bridge that did nothing yet. -/
theorem start {hooks : Hooks} (hlog : hooks.log = []) (capacity : Nat) :
    Inv (Bridge.start hooks capacity) := by
  have hempty : ∀ s x, ¬ Holds (Bridge.start hooks capacity) s x := by
    intro s x hs
    cases hs <;> simp_all [Bridge.start]
  constructor
  · rw [SpanLinear, show (Bridge.start hooks capacity).hooks.log = [] from hlog]
    exact linear_nil
  · simp [Bridge.start, hlog]
  · exact fun s x hs => absurd hs (hempty s x)
  · exact fun s x y hs => absurd hs (hempty s x)
  · exact fun s x hs => absurd hs.holds (hempty s x)

/-- The run lemma. -/
theorem run {sha256 : Bytes → String} {calls : List Call} (h : Inv b)
    (hd : DisciplinedRun sha256 b calls) : Inv (b.run sha256 calls) := by
  induction calls generalizing b with
  | nil => exact h
  | cons c rest ih => exact ih (h.call hd.1) hd.2

end Inv

namespace Sample

def runId : String := "0d0d0d0d0d0d0d0d0d0d0d0d0d0d0d0d"

/-- The digest of the only text it is asked for, the run and the request. -/
def sha256 : Bytes → String := fun _ =>
  "0743abc262d38893e52e6e47347f296604a0af506e95a797130836342dc2555b"

/-- Hooks of an open sink that answers every call but those listed. -/
def hooks (dropped : List Nat) : Hooks where
  processUuid := "0a0a0a0a0a0a0a0a0a0a0a0a0a0a0a0a"
  clockDomainId := "0b0b0b0b0b0b0b0b0b0b0b0b0b0b0b0b"
  communicationMode := kvRecoveryCommunicationMode
  profileConfig := ⟨runId, by decide +kernel⟩
  answers := fun n => if n ∈ dropped then none else some (1000 + n)

/-- The scheduler reports the first step twice, since the first report failed. -/
def retry : List Call :=
  [.registerRuntimeRequest runId "request-0" 100,
   .emitRuntimeScheduled "request-0" 110 "prefill" 4 8 0,
   .emitRuntimeScheduled "request-0" 120 "prefill" 4 8 0]

end Sample

end LifecycleProfiler.Runtime
