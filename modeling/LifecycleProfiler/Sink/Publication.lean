import LifecycleProfiler.Sink.Receipt

/-! # What a drained receipt promises

Under the steps a receipt can be trusted for: a committed receipt names a
published shard, and the flags of a pair of streams agree. -/

namespace LifecycleProfiler.Sink
open Python Protocol

namespace TraceSink
variable {cfg : Config} {s s' : TraceSink} {c : Choice} {ok : TraceSink → Action → Prop}

/-- A timeout never promises a base summary. -/
def Candidates (s : TraceSink) : Prop := ∀ i candidate, (s.closers i).candidate? = some candidate →
  candidate.closeOutcome = .timeout ∧ candidate.summaryWritten = false

theorem Candidates.step {action : Action} (h : Candidates s)
    (hstep : s.step cfg action = some s') : Candidates s' := by
  cases action with
  | produce call =>
    obtain ⟨-, rfl⟩ := locked_eq_some.mp hstep
    exact h
  | writer c =>
    rw [Candidates, (Frame.of_writerStep hstep).closers]
    exact h
  | closer id expired =>
    intro j candidate hj
    rcases closerStep_candidate hstep hj with hold | ⟨-, houtcome, hwritten, -⟩
    · exact h j candidate hold
    · exact ⟨houtcome, hwritten⟩
  | tick ns =>
    cases hstep
    exact h

theorem Candidates.of_reachable (h : ReachableWhen cfg ok s) : Candidates s := by
  refine h.invariant (fun s hs => ?_) fun _ _ _ hs _ hstep => hs.step hstep
  obtain ⟨pid, startedNs, now, hs⟩ := hs
  simp only [opened, bind_eq_ok, pure_eq_ok] at hs
  obtain ⟨⟨base, baseRaw⟩, -, ⟨profile, profileRaw⟩, -, rfl⟩ := hs
  rintro _ _ ⟨⟩

/-- Nobody but the writer claims a drained result. -/
theorem closerStep_drained {id : Nat} {expired : Bool} {r : CloseResult} (horder : Orderly s)
    (hcandidates : Candidates s) (hopen : s.claim = none)
    (hstep : s.closerStep cfg id expired = some s') (hclaim : s'.claim = some r) :
    r.closeOutcome ≠ .drained ∧ r.summaryWritten = false := by
  rcases closerStep_claim hstep with hsame | ⟨candidate, hcandidate, hset, hended, -⟩
  · rw [hsame, hopen] at hclaim
    cases hclaim
  · rw [hset, hopen, Option.getD_none, Option.some.injEq] at hclaim
    subst hclaim
    cases hpc : s.closers id with
    | wantCondition deadline =>
      rw [hpc] at hcandidate
      cases hcandidate
      exact ⟨nofun, rfl⟩
    | wantFinal deadline =>
      have hclosing := horder.joined id (by rw [hpc]; rfl)
      have hopened := horder.terminated (hended deadline hpc hopen) hopen
      rw [hclosing] at hopened
      cases hopened
    | forced r | timeoutClaim r =>
      obtain ⟨houtcome, hwritten⟩ := hcandidates id candidate (by
        rw [hpc] at hcandidate ⊢
        exact hcandidate)
      exact ⟨by simp [houtcome], hwritten⟩
    | _ =>
      rw [hpc] at hcandidate
      cases hcandidate

/-- Without a claim, only a caller that holds the lock has decided. -/
theorem undecided_of_lock (horder : Orderly s) (hlock : ∀ i, s.lock ≠ some (.closer i))
    (hopen : s.claim = none) : Undecided s := by
  refine ⟨hopen, ?_⟩
  cases ha : s.abandoned with
  | false => rfl
  | true =>
    obtain ⟨i, r, hi⟩ := horder.abandoned ha hopen
    exact absurd ((horder.closerLock i).mpr (by rw [hi]; rfl)) (hlock i)

/-- In the scope of a claim of the writer nobody else has decided. -/
theorem undecided_of_claiming (horder : Orderly s)
    (hw : s.writer = .claiming ∨ s.writer = .finalClaim) (hopen : s.claim = none) :
    Undecided s := by
  refine undecided_of_lock horder (fun i => ?_) hopen
  rw [horder.writerLock.mpr hw]
  exact nofun

/-! ## Receipt and publication -/

/-- A completed pair of shards is found eligible before the deadline, or its
close has been decided. -/
def InTime (cfg : Config) (s : TraceSink) : Action → Prop
  | .writer _ => match s.writer with
    | .eligible => s.completed cfg = true → s.claim = none → s.deadlineReached = false
    | _ => True
  | _ => True

instance (s : TraceSink) (action : Action) : Decidable (InTime cfg s action) := by
  cases action with
  | writer c =>
    dsimp only [InTime]
    cases s.writer <;> infer_instance
  | _ => exact .isTrue trivial

/-- The writer has given up the publication, or has claimed. -/
def wraps : WriterPc → Bool
  | .flushLast | .closing | .finalClaim | .terminated => true
  | _ => false

/-- What the replaces have done when the writer claims. -/
structure Published (cfg : Config) (s : TraceSink) : Prop where
  replacing : s.writer = .replace .profile → (s.shard .base).formal = .published
  replaced : s.writer = .publicationClaim ∨ s.writer = .claiming →
    ∀ t ∈ streams cfg, (s.shard t).formal = .published
  cleared : Undecided s → wraps s.writer = true → s.summaryWritten .base = false
  receipt : ∀ r, s.claim = some r → r.closeOutcome = .drained → r.summaryWritten = true →
    (s.writer = .closing ∨ s.writer = .terminated) ∧
      ∀ t ∈ streams cfg, (s.shard t).formal = .published

namespace Published

/-- A step of the writer before or besides the publication. -/
theorem of_other (h : Published cfg s) (hclaim : s'.claim = s.claim)
    (hpc : s'.writer ≠ .replace .profile ∧ s'.writer ≠ .publicationClaim ∧ s'.writer ≠ .claiming)
    (hw : s.writer ≠ .closing ∧ s.writer ≠ .terminated)
    (hcleared : Undecided s' → wraps s'.writer = true → s'.summaryWritten .base = false) :
    Published cfg s' := by
  refine ⟨fun hr => absurd hr hpc.1, fun hr => (hr.elim hpc.2.1 hpc.2.2).elim, hcleared,
    fun r hr hd hwritten => ?_⟩
  rcases (h.receipt r (hclaim ▸ hr) hd hwritten).1 with hc | hc
  · exact absurd hc hw.1
  · exact absurd hc hw.2

/-- A completed shard is not passed over. -/
theorem cleared_of_eligible (hreceipts : Undecided s → Receipts cfg s) (hopen : Undecided s)
    (hw : s.writer = .eligible) (hok : InTime cfg s (.writer c))
    (hpassed : (s.completed cfg && !s.deadlineReached) ≠ true) :
      s.summaryWritten .base = false := by
  cases hb : s.summaryWritten .base with
  | false => rfl
  | true =>
    obtain ⟨hprofile, hfailed, hdrained⟩ := (hreceipts hopen).base hb
    have houtcome : s.writerOutcome = some .drained := hdrained.resolve_left (by simp [hw])
    have hcompleted : s.completed cfg = true := by
      simp only [completed, hb, houtcome, hfailed, hopen.2, beq_self_eq_true, Bool.not_false,
        Bool.and_true, Bool.true_and, Bool.or_eq_true, Option.isNone_iff_eq_none]
      cases hcfg : cfg.profileConfig with
      | none => exact .inl rfl
      | some config => exact .inr (hprofile (by rw [hcfg]; rfl))
    simp only [InTime, hw] at hok
    simp [hcompleted, hok hcompleted hopen.1] at hpassed

theorem finalStep (h : Published cfg s) (hreceipts : Undecided s → Receipts cfg s)
    (horder : Orderly s) (hok : InTime cfg s (.writer c))
    (hstep : s.finalStep cfg c s.writer = some s') : Published cfg s' := by
  have hbefore : Undecided s' → Undecided s := fun hopen => by
    refine ⟨?_, (Finishes.of_finalStep hstep).abandoned.symm.trans hopen.2⟩
    rcases (Finishes.of_finalStep hstep).claim with hclaim | ⟨candidate, -, hclaim⟩
    · exact hclaim.symm.trans hopen.1
    · rw [hopen.1] at hclaim
      cases hclaim
  have hother : ∀ t : TraceSink, t.claim = s.claim →
      t.writer ≠ .replace .profile ∧ t.writer ≠ .publicationClaim ∧ t.writer ≠ .claiming →
      s.writer ≠ .closing ∧ s.writer ≠ .terminated →
      (Undecided t → wraps t.writer = true → t.summaryWritten .base = false) → Published cfg t :=
    fun _ => h.of_other
  generalize hpc : s.writer = pc at hstep hother
  cases pc with
  | finalize | closeDescriptors =>
    simp only [TraceSink.finalStep, Option.some.injEq, locked_eq_some] at hstep
    obtain ⟨-, rfl⟩ := hstep
    refine hother _ rfl ?_ ⟨by simp, by simp⟩ fun _ hw => ?_
    · rw [goto_writer]
      split <;> exact ⟨by simp, by simp, by simp⟩
    · rw [goto_writer] at hw
      split at hw <;> cases hw
  | finalInvalidation stream =>
    simp only [TraceSink.finalStep, Option.some.injEq] at hstep
    subst hstep
    obtain ⟨x, lines, hx, heq⟩ := appendInvalidation_eq cfg s c stream
    have hafter : ∀ stream, afterInvalidation cfg .finalInvalidation .finalInvalidated stream =
        .finalInvalidation .profile ∨
        afterInvalidation cfg .finalInvalidation .finalInvalidated stream = .finalInvalidated := by
      intro stream
      cases stream
      · rw [afterInvalidation]
        split
        · exact .inl rfl
        · exact .inr rfl
      · exact .inr rfl
    rw [heq]
    rcases hafter stream with hgo | hgo <;> rw [hgo]
    all_goals exact hother _ rfl ⟨by simp, by simp, by simp⟩ ⟨by simp, by simp⟩ (by rintro _ ⟨⟩)
  | finalInvalidated | descriptorFailure | flush =>
    simp only [TraceSink.finalStep, locked_eq_some] at hstep
    obtain ⟨-, rfl⟩ := hstep
    exact hother _ rfl ⟨by simp, by simp, by simp⟩ ⟨by simp, by simp⟩ (by rintro _ ⟨⟩)
  | eligible =>
    simp only [TraceSink.finalStep, locked_eq_some] at hstep
    obtain ⟨-, rfl⟩ := hstep
    split
    · exact hother _ rfl ⟨by simp, by simp, by simp⟩ ⟨by simp, by simp⟩ (by rintro _ ⟨⟩)
    · next hpassed =>
      have hcleared : Undecided s → s.summaryWritten .base = false := fun hopen =>
        cleared_of_eligible hreceipts hopen hpc hok hpassed
      exact hother _ rfl ⟨by simp, by simp, by simp⟩ ⟨by simp, by simp⟩ fun hopen _ =>
        hcleared (hbefore hopen)
  | checkTargets =>
    simp only [TraceSink.finalStep] at hstep
    split at hstep
    · cases hstep
      exact hother _ rfl ⟨by simp, by simp, by simp⟩ ⟨by simp, by simp⟩ (by rintro _ ⟨⟩)
    · cases hstep
      split
      all_goals exact hother _ rfl ⟨by simp, by simp, by simp⟩ ⟨by simp, by simp⟩ (by rintro _ ⟨⟩)
  | replace stream =>
    simp only [TraceSink.finalStep] at hstep
    split at hstep
    · cases hstep
      refine ⟨fun hw => ?_, fun hw t ht => ?_, fun _ hw => ?_, fun r hr hd hwritten => ?_⟩
      · rw [goto_writer] at hw
        split at hw
        · next hfirst =>
          simp only [Bool.and_eq_true, decide_eq_true_eq] at hfirst
          simp [goto, setShard, hfirst.1]
        · cases hw
      · have hpublished : t = stream ∨ (s.shard t).formal = .published →
            (((s.setShard stream fun shard => { shard with
              formal := .published }).shard t).formal = .published) := by
          intro hcase
          dsimp only [setShard]
          split
          · rfl
          · next hne => exact hcase.resolve_left hne
        refine hpublished ?_
        rw [goto_writer] at hw
        cases stream with
        | profile =>
          cases t with
          | base => exact .inr (h.replacing hpc)
          | profile => exact .inl rfl
        | base =>
          split at hw
          · rcases hw with hw | hw <;> cases hw
          · next hlast =>
            have hbase := mem_streams.mp ht
            simp only [decide_true, Bool.true_and, Bool.not_eq_true] at hlast
            exact .inl (by simpa [hlast] using hbase)
      · rw [goto_writer] at hw
        split at hw <;> cases hw
      · rcases (h.receipt r hr hd hwritten).1 with hc | hc <;> simp [hpc] at hc
    · cases hstep
      exact hother _ rfl ⟨by simp, by simp, by simp⟩ ⟨by simp, by simp⟩ (by rintro _ ⟨⟩)
  | publicationClaim =>
    simp only [TraceSink.finalStep] at hstep
    split at hstep
    · obtain ⟨-, rfl⟩ := locked_eq_some.mp hstep
      exact hother _ rfl ⟨by simp, by simp, by simp⟩ ⟨by simp, by simp⟩ (by rintro _ ⟨⟩)
    · obtain ⟨-, rfl⟩ := locked_eq_some.mp hstep
      refine ⟨by simp, fun _ => h.replaced (.inl hpc), fun _ => by rintro ⟨⟩,
        fun r hr hd hwritten => ?_⟩
      rcases (h.receipt r hr hd hwritten).1 with hc | hc <;> simp [hpc] at hc
  | claiming =>
    simp only [TraceSink.finalStep] at hstep
    split at hstep
    · next hopen =>
      cases hstep
      refine ⟨by simp, fun hw => ?_, fun hopen' => (by cases hopen'.1), fun r hr hd hwritten => ?_⟩
      · rcases hw with hw | hw <;> cases hw
      · refine ⟨.inl rfl, fun t ht => ?_⟩
        simpa [goto, ht] using h.replaced (.inr hpc) t ht
    · next hclaimed =>
      cases hstep
      refine ⟨by simp, fun hw => ?_, fun hopen' => (by cases hopen'.1), fun r hr hd hwritten => ?_⟩
      · rcases hw with hw | hw <;> cases hw
      · obtain ⟨r', hr'⟩ := Option.ne_none_iff_exists'.mp hclaimed
        have hsame : r = r' := by simpa [goto, setClaim, hr', eq_comm] using hr
        rcases (h.receipt r' hr' (hsame ▸ hd) (hsame ▸ hwritten)).1 with hc | hc <;>
          simp [hpc] at hc
  | retract published expired =>
    cases published with
    | nil =>
      simp only [TraceSink.finalStep, Option.some.injEq] at hstep
      subst hstep
      split
      all_goals exact hother _ rfl ⟨by simp, by simp, by simp⟩ ⟨by simp, by simp⟩ (by rintro _ ⟨⟩)
    | cons stream rest =>
      simp only [TraceSink.finalStep, Option.some.injEq] at hstep
      subst hstep
      obtain ⟨x, lines, hx, heq⟩ := appendInvalidation_eq cfg
        (s.setShard stream fun shard => { shard with reserved := false }) c stream
      rw [heq]
      refine hother _ ?_ ⟨by simp, by simp, by simp⟩ ⟨by simp, by simp⟩ (by rintro _ ⟨⟩)
      split <;> rfl
  | publicationExpired | publicationFailure =>
    simp only [TraceSink.finalStep, locked_eq_some] at hstep
    obtain ⟨-, rfl⟩ := hstep
    exact hother _ rfl ⟨by simp, by simp, by simp⟩ ⟨by simp, by simp⟩ fun _ _ => rfl
  | finalException =>
    simp only [TraceSink.finalStep, locked_eq_some] at hstep
    obtain ⟨-, rfl⟩ := hstep
    exact hother _ rfl ⟨by simp, by simp, by simp⟩ ⟨by simp, by simp⟩ fun _ _ => rfl
  | flushLast =>
    simp only [TraceSink.finalStep, locked_eq_some] at hstep
    obtain ⟨-, rfl⟩ := hstep
    exact hother _ rfl ⟨by simp, by simp, by simp⟩ ⟨by simp, by simp⟩ fun hopen _ =>
      h.cleared (hbefore hopen) (by rw [hpc]; rfl)
  | closing =>
    have hcleared : Undecided s' → s.summaryWritten .base = false := fun hopen =>
      h.cleared (hbefore hopen) (by rw [hpc]; rfl)
    simp only [TraceSink.finalStep] at hstep
    split at hstep
    · next hopen =>
      obtain ⟨-, rfl⟩ := locked_eq_some.mp hstep
      refine ⟨by simp, fun hw => ?_, fun hopen' _ => hcleared hopen', fun r hr => ?_⟩
      · rcases hw with hw | hw <;> cases hw
      · cases hopen.1.symm.trans hr
    · obtain ⟨-, rfl⟩ := locked_eq_some.mp hstep
      refine ⟨by simp, fun hw => ?_, fun hopen' _ => hcleared hopen', fun r hr hd hwritten => ?_⟩
      · rcases hw with hw | hw <;> cases hw
      · exact ⟨.inr rfl, (h.receipt r hr hd hwritten).2⟩
  | finalClaim =>
    simp only [TraceSink.finalStep, Option.some.injEq] at hstep
    subst hstep
    refine ⟨by simp, fun hw => ?_, fun hopen' => (by cases hopen'.1), fun r hr hd hwritten => ?_⟩
    · rcases hw with hw | hw <;> cases hw
    · have hset : s.claim.getD (s.result cfg (s.writerOutcome.getD (if s.x.writerFailed then
          .writerFailure else .drained)) (s.summaryWritten .base)) = r := Option.some.inj hr
      cases hclaim : s.claim with
      | none =>
        have hb := h.cleared (undecided_of_claiming horder (.inr hpc) hclaim) (by rw [hpc]; rfl)
        rw [hclaim, Option.getD_none] at hset
        rw [← hset] at hwritten
        exact absurd hwritten (by simp [result, hb])
      | some r' =>
        have hsame : r' = r := by simpa [hclaim] using hset
        rcases (h.receipt r' hclaim (hsame ▸ hd) (hsame ▸ hwritten)).1 with hc | hc <;>
          simp [hpc] at hc
  | _ => simp [TraceSink.finalStep] at hstep

theorem step {action : Action} (h : Published cfg s) (hreceipts : Undecided s → Receipts cfg s)
    (horder : Orderly s) (hcandidates : Candidates s) (hok : InTime cfg s action)
    (hstep : s.step cfg action = some s') : Published cfg s' := by
  have hbefore : Undecided s' → Undecided s := undecided_of_step hstep
  cases action with
  | produce call =>
    obtain ⟨-, rfl⟩ := locked_eq_some.mp hstep
    exact ⟨h.replacing, h.replaced, h.cleared, h.receipt⟩
  | tick ns =>
    cases hstep
    exact ⟨h.replacing, h.replaced, h.cleared, h.receipt⟩
  | closer i expired =>
    have hcalls := Calls.of_closerStep hstep
    refine ⟨?_, ?_, fun hopen => ?_, fun r hr hd hwritten => ?_⟩
    · rw [hcalls.writer, hcalls.shard]
      exact h.replacing
    · rw [hcalls.writer, hcalls.shard]
      exact h.replaced
    · rw [hcalls.writer, hcalls.summaryWritten]
      exact h.cleared (hbefore hopen)
    · rw [hcalls.writer, hcalls.shard]
      cases hclaim : s.claim with
      | none => exact absurd hd (closerStep_drained horder hcandidates hclaim hstep hr).1
      | some r' =>
        have hstands := claim_stands hclaim hstep
        rw [hr, Option.some.injEq] at hstands
        exact h.receipt r' hclaim (hstands ▸ hd) (hstands ▸ hwritten)
  | writer c =>
    rcases writerStep_cases hstep with hrun | hsummary | hfinal
    · have hl := Loops.of_runStep hrun
      have hpc := hl.prepares
      refine h.of_other hl.claim ?_ ?_ fun _ hw => ?_
      · refine ⟨?_, ?_, ?_⟩ <;> intro hw <;> rw [hw] at hpc <;> cases hpc
      · refine ⟨?_, ?_⟩ <;> intro hw <;> simp [hw, runStep] at hrun
      · exact absurd hw (by cases hw : s'.writer <;> simp_all [wraps, WriterPc.prepares,
          WriterPc.beforeReceipt])
    · have hl := Summarises.of_summaryStep hsummary
      have hpc := hl.prepares
      refine h.of_other hl.claim ?_ ?_ fun _ hw => ?_
      · refine ⟨?_, ?_, ?_⟩ <;> intro hw <;> rw [hw] at hpc <;> cases hpc
      · refine ⟨?_, ?_⟩ <;> intro hw <;> simp [hw, summaryStep] at hsummary
      · exact absurd hw (by cases hw : s'.writer <;> simp_all [wraps, WriterPc.prepares,
          WriterPc.beforeReceipt])
    · exact h.finalStep hreceipts horder hok hfinal

theorem initial (h : Initial cfg s) : Published cfg s := by
  obtain ⟨pid, startedNs, now, h⟩ := h
  simp only [opened, bind_eq_ok, pure_eq_ok] at h
  obtain ⟨⟨base, baseRaw⟩, -, ⟨profile, profileRaw⟩, -, rfl⟩ := h
  exact ⟨by simp, fun hw => hw.elim (by simp) (by simp), fun _ => by simp, by simp⟩

/-- The run lemma. -/
theorem of_reachable (h : ReachableWhen cfg (InTime cfg) s) : Published cfg s := by
  refine h.invariant_over (J := fun s => (Undecided s → Receipts cfg s) ∧ Orderly s ∧ Candidates s)
    (fun s hs => ⟨Receipts.of_reachable hs, orderly_of_reachableWhen hs, .of_reachable hs⟩)
    (fun _ hs => initial hs) fun _ _ _ hJ hs hok hstep _ => ?_
  exact hs.step hJ.1 hJ.2.1 hJ.2.2 hok hstep

end Published
end TraceSink

/-- **A committed receipt names a published shard**, in every run in which no
completed shard is found eligible only after the deadline, however the clock
moves and whatever calls fail. -/
theorem published_of_committed {cfg : Config} {s : TraceSink}
    (h : TraceSink.ReachableWhen cfg (TraceSink.InTime cfg) s) (hcommitted : s.committed = true) :
    ∀ t ∈ TraceSink.streams cfg, (s.shard t).formal = .published := by
  rw [TraceSink.committed, Option.any_eq_true] at hcommitted
  obtain ⟨r, hr, hdone⟩ := hcommitted
  simp only [Bool.and_eq_true, beq_iff_eq] at hdone
  exact ((TraceSink.Published.of_reachable h).receipt r hr hdone.1 hdone.2).2

/-- Every call outside the process succeeds. -/
def TraceSink.Succeeds : TraceSink.Action → Prop
  | .writer c => c.outcome = .ok ∧ c.appended = true
  | _ => True

instance (action : TraceSink.Action) : Decidable (TraceSink.Succeeds action) := by
  cases action with
  | writer c => exact inferInstanceAs (Decidable (_ ∧ _))
  | _ => exact .isTrue trivial

namespace Sample

/-- The writer is about to test whether the completed shards are eligible. -/
def completed : List TraceSink.Action := writer 2 ++ closer 4 ++ writer 24

/-- It finds them eligible, and publishes. -/
def publishedInTime : TraceSink :=
  General.run (TraceSink.step cfg) start (completed ++ writer 7 ++ closer 2)

/-- The deadline passes before the test. -/
def passedOver : TraceSink :=
  General.run (TraceSink.step cfg) start (completed ++ [.tick 2000000000] ++ writer 4 ++ closer 2)

end Sample

theorem published_of_committed_inTime : Sample.publishedInTime.committed = true ∧
    ∀ t, (Sample.publishedInTime.shard t).formal = .published := by
  have hreach : TraceSink.ReachableWhen Sample.cfg (TraceSink.InTime Sample.cfg)
      Sample.publishedInTime := (General.Reach.init Sample.initial_start).run (by decide +kernel)
  have hcommitted : Sample.publishedInTime.committed = true := by decide +kernel
  refine ⟨hcommitted, fun t => published_of_committed hreach hcommitted t ?_⟩
  cases t <;> decide

/-- No call fails, the summaries are written in time, and the receipt is
committed, but the formal paths still name their sentinels. -/
theorem committed_sentinel :
    TraceSink.ReachableWhen Sample.cfg (fun _ => TraceSink.Succeeds) Sample.passedOver ∧
      Sample.passedOver.committed = true ∧ ∀ t, (Sample.passedOver.shard t).formal = .sentinel := by
  have hrun : Sample.passedOver.committed = true ∧
      (Sample.passedOver.shard .base).formal = .sentinel ∧
        (Sample.passedOver.shard .profile).formal = .sentinel := by decide +kernel
  refine ⟨(General.Reach.init Sample.initial_start).run (by decide +kernel), hrun.1, fun t => ?_⟩
  cases t
  · exact hrun.2.1
  · exact hrun.2.2

end LifecycleProfiler.Sink
