import LifecycleProfiler.Sink.Closing

/-! # One winner

The first completion claim stands, every caller returns it, and a timeout that
won leaves no completed shard under a formal name. -/

namespace LifecycleProfiler.Sink
open Python Protocol

namespace TraceSink
variable {cfg : Config} {s s' : TraceSink} {c : Choice} {ok : TraceSink → Action → Prop}

/-- A claim is never replaced. -/
theorem claim_stands {action : Action} {r : CloseResult} (h : s.claim = some r)
    (hstep : s.step cfg action = some s') : s'.claim = some r := by
  have hkeep : ∀ candidate, some (s.claim.getD candidate) = some r := by simp [h]
  cases action with
  | produce call =>
    obtain ⟨-, rfl⟩ := locked_eq_some.mp hstep
    exact h
  | writer choice =>
    rcases writerStep_claim hstep with hclaim | ⟨candidate, -, hclaim⟩
    · exact hclaim.trans h
    · exact hclaim.trans (hkeep candidate)
  | closer i expired =>
    rcases closerStep_claim hstep with hclaim | ⟨candidate, -, hclaim, -⟩
    · exact hclaim.trans h
    · exact hclaim.trans (hkeep candidate)
  | tick ns =>
    cases hstep
    exact h

/-- The run lemma: whatever happens later, the claim is the same. -/
theorem claim_stands_of_reach {r : CloseResult} (h : s.claim = some r)
    (hreach : General.Reach (step cfg) (· = s) ok s') : s'.claim = some r :=
  hreach.invariant (fun _ heq => heq ▸ h) fun _ _ _ hclaim _ hstep => claim_stands hclaim hstep

theorem orderly_of_reachableWhen (h : ReachableWhen cfg ok s) : Orderly s :=
  h.invariant (fun _ => Orderly.initial) fun _ _ _ hs _ hstep => hs.step hstep

/-! ## Retraction -/

/-- The streams whose completed shard may be under the formal name, and is to be
taken back unless the writer wins the claim. -/
def exposed (cfg : Config) : WriterPc → List StreamId
  | .replace .profile => [.base]
  | .publicationClaim => streams cfg
  | .claiming => streams cfg
  | .retract published _ => published
  | _ => []

/-- A step of the writer in which a shard is taken back, by the replace or by
the unlink it falls back to. -/
def Retracts (s : TraceSink) : Action → Prop
  | .writer c => match s.writer with
    | .retract (_ :: _) _ => c.outcome ≠ .worse
    | _ => True
  | _ => True

/-- `Retracts` as a check. -/
def retracts (s : TraceSink) : Action → Bool
  | .writer c => match s.writer with
    | .retract (_ :: _) _ => decide (c.outcome ≠ .worse)
    | _ => true
  | _ => true

theorem retracts_iff {s : TraceSink} {action : Action} :
    s.retracts action = true ↔ s.Retracts action := by
  unfold retracts Retracts
  split
  · split <;> simp
  · simp

instance (s : TraceSink) (action : Action) : Decidable (Retracts s action) :=
  decidable_of_iff _ retracts_iff

/-- A formal path names a completed shard while the writer is publishing, or
after its own claim won. -/
structure Exposes (cfg : Config) (s : TraceSink) : Prop where
  formal : (∀ t, (s.shard t).formal = .published → t ∈ exposed cfg s.writer) ∨
    ∃ r, s.claim = some r ∧ r.closeOutcome = .drained
  paired : s.writer = .replace .profile → cfg.profileConfig.isSome = true

theorem mem_streams {t : StreamId} :
    t ∈ streams cfg ↔ t = .base ∨ cfg.profileConfig.isSome = true := by
  unfold streams
  cases t <;> split <;> simp_all

namespace Exposes

/-- A step of the writer that publishes nothing, where nothing is exposed. -/
theorem of_hidden (h : Exposes cfg s) (hclaim : ∀ r, s.claim = some r → s'.claim = some r)
    (hformal : ∀ t, (s'.shard t).formal = .published → (s.shard t).formal = .published)
    (hpc : exposed cfg s.writer = []) (hne : s'.writer ≠ .replace .profile) : Exposes cfg s' := by
  refine ⟨?_, fun hw => absurd hw hne⟩
  rcases h.formal with h | ⟨r, hr, hdrained⟩
  · refine .inl fun t ht => ?_
    have hmem := h t (hformal t ht)
    rw [hpc] at hmem
    cases hmem
  · exact .inr ⟨r, hclaim r hr, hdrained⟩

/-- A step of the writer that publishes nothing and goes on with what is exposed. -/
theorem of_same (h : Exposes cfg s) (hclaim : s'.claim = s.claim)
    (hformal : ∀ t, (s'.shard t).formal = .published →
      (s.shard t).formal = .published ∧ (t ∈ exposed cfg s.writer → t ∈ exposed cfg s'.writer))
    (hne : s'.writer ≠ .replace .profile) : Exposes cfg s' := by
  refine ⟨?_, fun hw => absurd hw hne⟩
  rcases h.formal with h | h
  · exact .inl fun t ht => (hformal t ht).2 (h t (hformal t ht).1)
  · exact .inr (hclaim ▸ h)

/-- Taking back one shard. -/
theorem retract {stream : StreamId} {rest : List StreamId} {expired incomplete : Bool}
    (h : Exposes cfg s) (hpc : s.writer = .retract (stream :: rest) expired) :
    Exposes cfg ((s.setShard stream fun shard => { shard with
      reserved := false, formal := .gone, incomplete := incomplete }).goto
        (.retract rest expired)) := by
  refine h.of_same rfl (fun t ht => ?_) nofun
  dsimp only [goto, setShard] at ht
  split at ht
  · cases ht
  · next hne =>
    refine ⟨ht, fun hmem => ?_⟩
    rw [hpc] at hmem
    exact (List.mem_cons.mp hmem).resolve_left hne

theorem finalStep (h : Exposes cfg s) (hok : Retracts s (.writer c))
    (hstep : s.finalStep cfg c s.writer = some s') : Exposes cfg s' := by
  have hstands : ∀ r, s.claim = some r → s'.claim = some r := by
    intro r hr
    rcases (Finishes.of_finalStep hstep).claim with hclaim | ⟨candidate, -, hclaim⟩
    · exact hclaim.trans hr
    · simp [hclaim, hr]
  unfold Retracts at hok
  generalize hpc : s.writer = pc at hstep hok
  cases pc with
  | finalize | closeDescriptors | flush | eligible | finalInvalidated | descriptorFailure
  | publicationExpired | publicationFailure | flushLast | finalException =>
    simp only [TraceSink.finalStep, Option.some.injEq, locked_eq_some] at hstep
    obtain ⟨-, rfl⟩ := hstep
    refine h.of_hidden hstands (fun _ ht => ht) (by rw [hpc]; rfl) ?_
    rw [goto_writer]
    first
      | split <;> simp
      | simp
  | finalInvalidation stream =>
    simp only [TraceSink.finalStep, Option.some.injEq] at hstep
    subst hstep
    obtain ⟨x, lines, -, heq⟩ := appendInvalidation_eq cfg s c stream
    refine h.of_hidden hstands (fun t ht => ?_) (by rw [hpc]; rfl) ?_
    · rw [heq] at ht
      exact ht
    · rw [goto_writer]
      cases stream
      · rw [afterInvalidation]
        split <;> simp
      · rintro ⟨⟩
  | checkTargets =>
    simp only [TraceSink.finalStep] at hstep
    split at hstep
    · cases hstep
      exact h.of_hidden hstands (fun _ ht => ht) (by rw [hpc]; rfl) (by simp)
    · cases hstep
      refine h.of_hidden hstands (fun _ ht => ht) (by rw [hpc]; rfl) ?_
      rw [goto_writer]
      split <;> simp
  | replace stream =>
    simp only [TraceSink.finalStep] at hstep
    split at hstep
    · cases hstep
      have hmem : ∀ t, ((s.setShard stream fun shard => { shard with
          formal := .published }).shard t).formal = .published →
          t = stream ∨ (s.shard t).formal = .published := by
        intro t ht
        dsimp only [setShard] at ht
        split at ht
        · next heq => exact .inl heq
        · exact .inr ht
      refine ⟨?_, fun hw => ?_⟩
      · rcases h.formal with hf | ⟨r, hr, hdrained⟩
        · refine .inl fun t ht => ?_
          have hbefore : t = stream ∨ t ∈ exposed cfg (.replace stream) :=
            (hmem t ht).imp_right fun ht => hpc ▸ hf t ht
          rw [goto_writer]
          cases stream with
          | base =>
            obtain rfl : t = .base := by simpa [exposed] using hbefore
            split
            · simp [exposed]
            · exact mem_streams.mpr (.inl rfl)
          | profile =>
            rw [if_neg (by simp)]
            exact mem_streams.mpr (.inr (h.paired hpc))
        · exact .inr ⟨r, hr, hdrained⟩
      · rw [goto_writer] at hw
        split at hw
        · next hprofile =>
          simp only [Bool.and_eq_true] at hprofile
          exact hprofile.2
        · cases hw
    · cases hstep
      refine h.of_same rfl (fun t ht => ⟨ht, fun hmem => ?_⟩) (by simp)
      rw [hpc] at hmem
      cases stream with
      | base => cases hmem
      | profile => exact hmem
  | publicationClaim =>
    simp only [TraceSink.finalStep] at hstep
    split at hstep
    all_goals
      obtain ⟨-, rfl⟩ := locked_eq_some.mp hstep
      refine h.of_same rfl (fun t ht => ⟨ht, fun hmem => ?_⟩) (by simp)
      rw [hpc] at hmem
      simpa [exposed] using hmem
  | claiming =>
    simp only [TraceSink.finalStep] at hstep
    split at hstep
    · next hclaim =>
      cases hstep
      refine ⟨.inr ⟨s.result cfg .drained true, ?_, rfl⟩, by simp⟩
      simp [setClaim, hclaim, goto]
    · next hclaim =>
      cases hstep
      refine ⟨?_, by simp⟩
      rcases h.formal with hf | ⟨r, hr, hdrained⟩
      · refine .inl fun t ht => ?_
        have hmem := hf t ht
        rw [hpc] at hmem
        exact List.mem_reverse.mpr hmem
      · exact .inr ⟨r, hstands r hr, hdrained⟩
  | retract published expired =>
    cases published with
    | nil =>
      simp only [TraceSink.finalStep, Option.some.injEq] at hstep
      subst hstep
      refine h.of_hidden hstands (fun _ ht => ht) (by rw [hpc]; rfl) ?_
      rw [goto_writer]
      split <;> simp
    | cons stream rest =>
      have htaken : ∀ incomplete, ((s.setShard stream fun shard => { shard with
          reserved := false }).setShard stream fun shard => { shard with
            formal := .gone, incomplete := incomplete }) =
          s.setShard stream fun shard => { shard with
            reserved := false, formal := .gone, incomplete := incomplete } := by
        intro incomplete
        simp only [setShard, TraceSink.mk.injEq, true_and, and_true]
        funext t
        split <;> rfl
      simp only [TraceSink.finalStep, Option.some.injEq] at hstep
      subst hstep
      split
      · rw [htaken]
        exact h.retract hpc
      · rw [htaken]
        exact h.retract hpc
      · next hworse => exact absurd hworse hok
  | closing =>
    simp only [TraceSink.finalStep] at hstep
    split at hstep
    all_goals
      obtain ⟨-, rfl⟩ := locked_eq_some.mp hstep
      exact h.of_hidden hstands (fun _ ht => ht) (by rw [hpc]; rfl) (by simp)
  | finalClaim =>
    simp only [TraceSink.finalStep, Option.some.injEq] at hstep
    subst hstep
    exact h.of_hidden hstands (fun _ ht => ht) (by rw [hpc]; rfl) (by simp)
  | _ => simp [TraceSink.finalStep] at hstep

theorem step {action : Action} (h : Exposes cfg s) (hok : Retracts s action)
    (hstep : s.step cfg action = some s') : Exposes cfg s' := by
  cases action with
  | produce call =>
    obtain ⟨-, rfl⟩ := locked_eq_some.mp hstep
    exact ⟨h.formal, h.paired⟩
  | tick ns =>
    cases hstep
    exact ⟨h.formal, h.paired⟩
  | closer i expired =>
    have hcalls := Calls.of_closerStep hstep
    have hclosed : s.step cfg (.closer i expired) = some s' := hstep
    refine ⟨?_, hcalls.writer ▸ h.paired⟩
    rcases h.formal with hf | ⟨r, hr, hdrained⟩
    · rw [hcalls.shard, hcalls.writer]
      exact .inl hf
    · exact .inr ⟨r, claim_stands hr hclosed, hdrained⟩
  | writer c =>
    rcases writerStep_cases hstep with hrun | hsummary | hfinal
    · have hl := Loops.of_runStep hrun
      refine h.of_hidden (fun r hr => hl.claim.trans hr) hl.formal ?_ ?_
      · cases hpc : s.writer <;> first | rfl | simp [hpc, runStep] at hrun
      · intro hw
        simpa [hw, WriterPc.prepares, WriterPc.beforeReceipt] using hl.prepares
    · have hl := Summarises.of_summaryStep hsummary
      refine h.of_hidden (fun r hr => hl.claim.trans hr) hl.formal ?_ ?_
      · cases hpc : s.writer <;> first | rfl | simp [hpc, summaryStep] at hsummary
      · intro hw
        simpa [hw, WriterPc.prepares, WriterPc.beforeReceipt] using hl.prepares
    · exact h.finalStep hok hfinal

theorem initial (h : Initial cfg s) : Exposes cfg s := by
  obtain ⟨pid, startedNs, now, h⟩ := h
  simp only [opened, bind_eq_ok, pure_eq_ok] at h
  obtain ⟨⟨base, baseRaw⟩, -, ⟨profile, profileRaw⟩, -, rfl⟩ := h
  exact ⟨.inl fun _ => by simp, by simp⟩

theorem of_reachable (h : ReachableWhen cfg Retracts s) : Exposes cfg s :=
  h.invariant (fun _ => initial) fun _ _ _ hs hok hstep => hs.step hok hstep

end Exposes

/-! ## How far the writer is from having taken everything back -/

/-- Steps of the writer until nothing is exposed, when it does not win. -/
def retraction (cfg : Config) : WriterPc → Nat
  | .replace .profile => 3 + (streams cfg).length
  | .publicationClaim => 2 + (streams cfg).length
  | .claiming => 1 + (streams cfg).length
  | .retract published _ => published.length
  | _ => 0

/-- The writer whose claim cannot win comes closer with every step. -/
theorem retraction_step {r : CloseResult} (hclaim : s.claim = some r)
    (hlock : s.lock = none ∨ s.writer = .claiming) (hleft : 0 < retraction cfg s.writer) :
    ∃ s', s.step cfg (.writer {}) = some s' ∧ retraction cfg s'.writer < retraction cfg s.writer ∧
      (s'.lock = none ∨ s'.writer = .claiming) := by
  -- no step before the publication is one of these
  have hfinal : s.writerStep cfg {} = s.finalStep cfg {} s.writer := by
    unfold writerStep
    cases hpc : s.writer <;> simp [hpc, retraction] at hleft ⊢ <;> rfl
  change ∃ s', s.writerStep cfg {} = some s' ∧ _
  rw [hfinal]
  cases hpc : s.writer with
  | replace stream =>
    cases stream with
    | base => simp [hpc, retraction] at hleft
    | profile =>
      have hfree := hlock.resolve_right (by simp [hpc])
      refine ⟨_, rfl, ?_, .inl hfree⟩
      simp [goto, retraction]
  | publicationClaim =>
    have hfree := hlock.resolve_right (by simp [hpc])
    simp only [finalStep, locked, hfree, if_true]
    split
    · refine ⟨_, rfl, ?_, .inl hfree⟩
      simp [retraction]
    · refine ⟨_, rfl, ?_, .inr rfl⟩
      simp [retraction]
  | claiming =>
    simp only [finalStep, hclaim, reduceCtorEq, if_false]
    refine ⟨_, rfl, ?_, .inl rfl⟩
    simp [retraction]
  | retract published expired =>
    have hfree := hlock.resolve_right (by simp [hpc])
    cases published with
    | nil => simp [hpc, retraction] at hleft
    | cons stream rest =>
      refine ⟨_, rfl, ?_, .inl hfree⟩
      simp [retraction]
  | _ => simp [hpc, retraction] at hleft

theorem exposed_of_retraction {pc : WriterPc} (h : retraction cfg pc = 0) :
    exposed cfg pc = [] := by
  cases pc with
  | replace stream => cases stream <;> simp_all [retraction, exposed]
  | retract published expired => exact List.eq_nil_of_length_eq_zero h
  | publicationClaim | claiming => simp [retraction] at h
  | _ => rfl

/-- Left alone, the writer takes every exposed shard back. -/
theorem retracted_of_run {r : CloseResult} (h : ReachableWhen cfg Retracts s)
    (hclaim : s.claim = some r) (hlost : r.closeOutcome ≠ .drained)
    (hlock : s.lock = none ∨ s.writer = .claiming) :
    ∃ n, ∀ t, ((General.run (step cfg) s (List.replicate n (.writer {}))).shard t).formal ≠
      .published := by
  induction hn : retraction cfg s.writer using Nat.strong_induction_on generalizing s with
  | _ n ih =>
    rcases Nat.eq_zero_or_pos n with rfl | hpos
    · refine ⟨0, fun t ht => ?_⟩
      rcases (Exposes.of_reachable h).formal with hf | ⟨r', hr', hdrained⟩
      · have hmem := hf t ht
        rw [exposed_of_retraction hn] at hmem
        cases hmem
      · rw [hclaim, Option.some.injEq] at hr'
        exact hlost (hr' ▸ hdrained)
    · obtain ⟨s', hstep, hless, hlock'⟩ := retraction_step hclaim hlock (hn ▸ hpos)
      have hok : Retracts s (.writer {}) := by
        rw [Retracts]
        split
        · simp
        · trivial
      obtain ⟨m, hm⟩ := ih _ (hn ▸ hless) (h.step hok hstep) (claim_stands hclaim hstep) hlock' rfl
      refine ⟨m + 1, ?_⟩
      rw [List.replicate_succ, General.run, hstep]
      exact hm

theorem committed_eq_false (cfg : Config) {r : CloseResult} (hclaim : s.claim = some r)
    (hlost : r.closeOutcome ≠ .drained) : s.committed = false ∧ s.profileCommitted cfg = false := by
  have hne : (r.closeOutcome == CloseOutcome.drained) = false := by simpa using hlost
  simp [committed, profileCommitted, hclaim, hne]

end TraceSink

/-- **One winner**: what one call of `close()` has returned, every later call
returns, and nothing the writer or another caller does changes it. Once a
timeout has won, no shard is ever reported committed. When the shards are taken
back as asked, the formal paths of a writer that has ended name no completed
shard, and what is published before is taken back by the writer's next steps. -/
theorem close_single_winner {cfg : Config} {s s' : TraceSink}
    {ok : TraceSink → TraceSink.Action → Prop} (h : TraceSink.ReachableWhen cfg ok s)
    (hlater : General.Reach (TraceSink.step cfg) (· = s) ok s') :
    (∀ i r, s.closers i = .returned r →
      s'.claim = some r ∧ ∀ j r', s'.closers j = .returned r' → r' = r) ∧
    ∀ r, s.claim = some r → r.closeOutcome = .timeout →
      s'.committed = false ∧ s'.profileCommitted cfg = false ∧
      ((∀ s a, ok s a → TraceSink.Retracts s a) →
        (s'.writer = .terminated → ∀ t, (s'.shard t).formal ≠ .published) ∧
        (s'.lock = none → ∃ n, ∀ t, ((General.run (TraceSink.step cfg) s'
          (List.replicate n (.writer {}))).shard t).formal ≠ .published)) := by
  have hreach : TraceSink.ReachableWhen cfg ok s' := by
    induction hlater with
    | init heq => exact heq ▸ h
    | step _ hok hstep ih => exact ih.step hok hstep
  have horder := TraceSink.orderly_of_reachableWhen h
  have horder' := TraceSink.orderly_of_reachableWhen hreach
  refine ⟨fun i r hr => ?_, fun r hr htimeout => ?_⟩
  · have hclaim := TraceSink.claim_stands_of_reach (horder.won i r (by rw [hr]; rfl)) hlater
    refine ⟨hclaim, fun j r' hr' => ?_⟩
    have hclaim' := horder'.won j r' (by rw [hr']; rfl)
    exact Option.some.inj (hclaim'.symm.trans hclaim)
  · have hclaim := TraceSink.claim_stands_of_reach hr hlater
    have hlost : r.closeOutcome ≠ .drained := by simp [htimeout]
    obtain ⟨hbase, hprofile⟩ := TraceSink.committed_eq_false cfg hclaim hlost
    refine ⟨hbase, hprofile, fun hweak => ?_⟩
    have hretracts : TraceSink.ReachableWhen cfg TraceSink.Retracts s' := hreach.mono hweak
    refine ⟨fun hw t ht => ?_, fun hlock =>
      TraceSink.retracted_of_run hretracts hclaim hlost (.inl hlock)⟩
    rcases (TraceSink.Exposes.of_reachable hretracts).formal with hf | ⟨r', hr', hdrained⟩
    · have hmem := hf t ht
      rw [hw] at hmem
      cases hmem
    · rw [hclaim, Option.some.injEq] at hr'
      exact hlost (hr' ▸ hdrained)

namespace Sample

/-- A caller gives up without the lock between the writer's replaces and its claim. -/
def lockFreeTimeout : TraceSink :=
  General.run (TraceSink.step cfg) start
    (writer 2 ++ closer 4 ++ List.replicate 2 (.closer 1 false) ++ writer 29 ++
      [.tick 2000000000, .closer 1 true] ++ List.replicate 5 (.closer 1 false))

/-- The writer goes on to its end. -/
def takenBack : TraceSink := General.run (TraceSink.step cfg) lockFreeTimeout (writer 7)

end Sample

def WriterPc.isTerminated : WriterPc → Bool
  | terminated => true
  | _ => false

theorem WriterPc.eq_terminated {pc : WriterPc} (h : pc.isTerminated = true) : pc = .terminated := by
  cases pc <;> first | rfl | cases h

/-- The writer takes both shards back when it finds the claim taken. -/
theorem close_single_winner_lockFree :
    (Sample.lockFreeTimeout.shard .base).formal = .published ∧
      Sample.lockFreeTimeout.claim.map (·.closeOutcome) = some .timeout ∧
      Sample.takenBack.committed = false ∧ ∀ t, (Sample.takenBack.shard t).formal ≠ .published := by
  have hs : TraceSink.ReachableWhen Sample.cfg TraceSink.Retracts Sample.lockFreeTimeout :=
    (General.Reach.init Sample.initial_start).run (by decide +kernel)
  have hok : General.RunOk (TraceSink.step Sample.cfg) TraceSink.Retracts Sample.lockFreeTimeout
      (Sample.writer 7) := by decide +kernel
  have hs' : General.Reach (TraceSink.step Sample.cfg) (· = Sample.lockFreeTimeout)
      TraceSink.Retracts Sample.takenBack :=
        (General.Reach.init (.refl Sample.lockFreeTimeout)).run hok
  obtain ⟨hpublished, htimeout, hended⟩ :
      (Sample.lockFreeTimeout.shard .base).formal = .published ∧
        Sample.lockFreeTimeout.claim.map (·.closeOutcome) = some .timeout ∧
          Sample.takenBack.writer.isTerminated = true := by decide +kernel
  obtain ⟨r, hr, houtcome⟩ := Option.map_eq_some_iff.mp htimeout
  obtain ⟨hcommitted, -, hretracted⟩ := (close_single_winner hs hs').2 r hr houtcome
  exact ⟨hpublished, htimeout, hcommitted,
    (hretracted fun _ _ h => h).1 (WriterPc.eq_terminated hended)⟩

end LifecycleProfiler.Sink
