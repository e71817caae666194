import LifecycleProfiler.Sink.Publication

/-! # The receipt of a pair

The base flag is taken back in more places than the profile flag. A run in which
none of these is reached with the profile flag set returns receipts whose two
flags agree. -/

namespace LifecycleProfiler.Sink
open Python Protocol

namespace TraceSink
variable {cfg : Config} {s s' : TraceSink} {c : Choice} {ok : TraceSink → Action → Prop}

/-- A step that does not take the base flag back alone, and does not turn a
profile flag into part of a timeout. -/
def KeepsPair (s : TraceSink) : Action → Prop
  | .writer c => match s.writer with
    | .closeDescriptors => s.claim = none → s.summaryWritten .profile = true → c.outcome = .ok
    | .checkTargets => s.claim = none → c.outcome = .ok
    | .replace _ => s.claim = none → c.outcome = .ok
    | _ => True
  | .closer id _ => match s.closers id with
    | .forcing => s.claim = none → s.summaryWritten .profile = false
    | .giveUp => s.claim = none → s.summaryWritten .profile = false
    | _ => True
  | _ => True

/-- `KeepsPair` as a check. -/
def keepsPair (s : TraceSink) : Action → Bool
  | .writer c => match s.writer with
    | .closeDescriptors =>
      decide (s.claim = none → s.summaryWritten .profile = true → c.outcome = .ok)
    | .checkTargets => decide (s.claim = none → c.outcome = .ok)
    | .replace _ => decide (s.claim = none → c.outcome = .ok)
    | _ => true
  | .closer id _ => match s.closers id with
    | .forcing => decide (s.claim = none → s.summaryWritten .profile = false)
    | .giveUp => decide (s.claim = none → s.summaryWritten .profile = false)
    | _ => true
  | _ => true

theorem keepsPair_iff {s : TraceSink} {action : Action} :
    s.keepsPair action = true ↔ s.KeepsPair action := by
  unfold keepsPair KeepsPair
  split
  · split <;> simp only [decide_eq_true_eq]
  · split <;> simp only [decide_eq_true_eq]
  · simp only

instance (s : TraceSink) (action : Action) : Decidable (KeepsPair s action) :=
  decidable_of_iff _ keepsPair_iff

/-- The writer has found its shards eligible. -/
def publishes : WriterPc → Bool
  | .checkTargets | .replace _ | .publicationClaim | .claiming => true
  | _ => false

/-- The writer is about to take the base flag back, and that flag alone. -/
def revokes : WriterPc → Bool
  | .descriptorFailure | .publicationFailure | .finalException | .retract _ false
  | .finalInvalidation _ | .finalInvalidated => true
  | _ => false

/-- What holds of the two flags while nobody has decided, and of every receipt. -/
structure Paired (s : TraceSink) : Prop where
  agree : Undecided s → s.summaryWritten .profile = true →
    s.summaryWritten .base = true ∨ ∃ o, s.writer = .setSummaryWritten .base o
  publishing : Undecided s → publishes s.writer = true → s.summaryWritten .base = true
  revoking : Undecided s → revokes s.writer = true → s.summaryWritten .profile = false
  candidate : s.claim = none → ∀ i r, (s.closers i).candidate? = some r →
    r.profileSummaryWritten = false
  receipt : ∀ r, s.claim = some r → r.profileSummaryWritten = r.summaryWritten ∧
    (r.summaryWritten = true → r.closeOutcome = .drained)

/-- The summary touches the flags when both of its lines are in their files. -/
theorem summaryStep_flags (hstep : s.summaryStep cfg c s.writer = some s') :
    s'.summaryWritten = s.summaryWritten ∨ ∃ t o, s.writer = .setSummaryWritten t o := by
  generalize s.writer = pc at hstep
  cases pc with
  | setSummaryWritten stream o => exact .inr ⟨stream, o, rfl⟩
  | lateInvalidation stream =>
    simp only [TraceSink.summaryStep, Option.some.injEq] at hstep
    subst hstep
    obtain ⟨x, lines, -, heq⟩ := appendInvalidation_eq cfg s c stream
    rw [heq]
    exact .inl rfl
  | reserve job | release job =>
    cases job <;> simp only [TraceSink.summaryStep, reduceCtorEq] at hstep
    obtain ⟨-, rfl⟩ := locked_eq_some.mp hstep
    exact .inl rfl
  | dropSummary job =>
    simp only [TraceSink.summaryStep] at hstep
    obtain ⟨-, rfl⟩ := locked_eq_some.mp hstep
    exact .inl rfl
  | moveShard stream o =>
    simp only [TraceSink.summaryStep] at hstep
    repeat' split at hstep
    all_goals
      cases hstep
      exact .inl rfl
  | summaryStart | summaryCheck | buildSummary | refused | afterSummary | setOutcome =>
    simp only [TraceSink.summaryStep] at hstep
    repeat' split at hstep
    all_goals
      cases hstep
      exact .inl rfl
  | _ => simp [TraceSink.summaryStep] at hstep

theorem frame_goto (s : TraceSink) (pc : WriterPc) : Frame s (s.goto pc) :=
  ⟨rfl, rfl, rfl, rfl, rfl, rfl⟩

namespace Paired

/-- A step of the writer that claims nothing. -/
theorem of_writer (h : Paired s) (hframe : Frame s s') (hclaim : s'.claim = s.claim)
    (hagree : Undecided s' → s'.summaryWritten .profile = true →
      s'.summaryWritten .base = true ∨ ∃ o, s'.writer = .setSummaryWritten .base o)
    (hpublishing : Undecided s' → publishes s'.writer = true → s'.summaryWritten .base = true)
    (hrevoking : Undecided s' → revokes s'.writer = true → s'.summaryWritten .profile = false) :
    Paired s' := by
  refine ⟨hagree, hpublishing, hrevoking, ?_, ?_⟩
  · rw [hclaim, hframe.closers]
    exact h.candidate
  · rw [hclaim]
    exact h.receipt

/-- A step of the writer that leaves the flags alone. -/
theorem of_sameFlags (h : Paired s) (hframe : Frame s s') (hclaim : s'.claim = s.claim)
    (hflags : s'.summaryWritten = s.summaryWritten)
    (hw : ∀ o, s.writer ≠ .setSummaryWritten .base o)
    (hpublishing : publishes s'.writer = true → Undecided s → s.summaryWritten .base = true)
    (hrevoking : revokes s'.writer = true → Undecided s → s.summaryWritten .profile = false) :
    Paired s' := by
  have hbefore : Undecided s' → Undecided s := fun hopen =>
    ⟨hclaim.symm.trans hopen.1, hframe.abandoned.symm.trans hopen.2⟩
  refine h.of_writer hframe hclaim (fun hopen hp => ?_) (fun hopen hw => ?_) fun hopen hw => ?_
  · rw [hflags] at hp ⊢
    exact .inl ((h.agree (hbefore hopen) hp).resolve_right fun ⟨o, ho⟩ => hw o ho)
  · rw [hflags]
    exact hpublishing hw (hbefore hopen)
  · rw [hflags]
    exact hrevoking hw (hbefore hopen)

/-- A step of the writer after which both flags are clear. -/
theorem of_cleared (h : Paired s) (hframe : Frame s s') (hclaim : s'.claim = s.claim)
    (hprofile : Undecided s → s'.summaryWritten .profile = false)
    (hpublishing : publishes s'.writer = false) : Paired s' := by
  have hbefore : Undecided s' → Undecided s := fun hopen =>
    ⟨hclaim.symm.trans hopen.1, hframe.abandoned.symm.trans hopen.2⟩
  refine h.of_writer hframe hclaim (fun hopen hp => ?_) (fun _ hw => ?_) fun hopen _ =>
    hprofile (hbefore hopen)
  · rw [hprofile (hbefore hopen)] at hp
    cases hp
  · rw [hpublishing] at hw
    cases hw

theorem runStep (h : Paired s) (hreceipts : Undecided s → Receipts cfg s)
    (hstep : s.runStep cfg c s.writer = some s') : Paired s' := by
  have hl := Loops.of_runStep hstep
  have hearly : s.writer.beforeReceipt = true := by
    cases hpc : s.writer <;> first | rfl | simp [hpc, TraceSink.runStep] at hstep
  refine h.of_cleared hl.toFrame hl.claim (fun hopen => ?_) ?_
  · rw [hl.summaryWritten]
    exact ((hreceipts hopen).early hearly).1 .profile
  · have hpc := hl.prepares
    cases hw : s'.writer <;> first | rfl | (rw [hw] at hpc; cases hpc)

theorem summaryStep (h : Paired s) (hreceipts : Undecided s → Receipts cfg s)
    (hstep : s.summaryStep cfg c s.writer = some s') : Paired s' := by
  have hl := Summarises.of_summaryStep hstep
  have hprepares := hl.prepares
  have hpublishing : publishes s'.writer = false := by
    cases hw : s'.writer <;> first | rfl | (rw [hw] at hprepares; cases hprepares)
  have hrevoking : revokes s'.writer = false := by
    cases hw : s'.writer <;> first | rfl | (rw [hw] at hprepares; cases hprepares)
  have hbefore : Undecided s' → Undecided s := fun hopen =>
    ⟨hl.claim.symm.trans hopen.1, hl.abandoned.symm.trans hopen.2⟩
  refine h.of_writer hl.toFrame hl.claim (fun hopen hp => ?_) (fun _ hw => ?_) fun _ hw => ?_
  · have hearly := (hreceipts (hbefore hopen)).early
    have hagree := h.agree (hbefore hopen)
    have hkept : s'.summaryWritten = s.summaryWritten ∨
        ∃ t o, s.writer = .setSummaryWritten t o := summaryStep_flags hstep
    generalize hpc : s.writer = pc at hstep hkept hearly hagree
    cases pc with
    | setSummaryWritten stream o =>
      cases stream with
      | base =>
        simp only [TraceSink.summaryStep, Option.some.injEq] at hstep
        subst hstep
        exact .inl rfl
      | profile =>
        simp only [TraceSink.summaryStep, Option.some.injEq] at hstep
        subst hstep
        exact .inr ⟨o, rfl⟩
    | setOutcome o =>
      rw [hkept.resolve_right (by simp)] at hp ⊢
      exact .inl ((hagree hp).resolve_right (by simp))
    | _ =>
      first
        | simp [TraceSink.summaryStep] at hstep
          done
        | rw [hkept.resolve_right (by simp), (hearly rfl).1] at hp
          cases hp
  · rw [hpublishing] at hw
    cases hw
  · rw [hrevoking] at hw
    cases hw

/-- Until the close is decided the flags agree from the summary's end on. -/
theorem both (h : Paired s) (hopen : Undecided s) (hreceipts : Receipts cfg s)
    (hprofile : cfg.profileConfig.isSome = true) (hw : ∀ o, s.writer ≠ .setSummaryWritten .base o) :
    s.summaryWritten .profile = s.summaryWritten .base := by
  cases hp : s.summaryWritten .profile with
  | true => exact ((h.agree hopen hp).resolve_right fun ⟨o, ho⟩ => hw o ho).symm
  | false =>
    cases hb : s.summaryWritten .base with
    | false => rfl
    | true => exact hp.symm.trans ((hreceipts.base hb).1 hprofile)

/-- A result the writer claims for itself. -/
theorem of_claim (h : Paired s) {r : CloseResult} (hclaim : s'.claim = some (s.claim.getD r))
    (hreceipt : s.claim = none → r.profileSummaryWritten = r.summaryWritten ∧
      (r.summaryWritten = true → r.closeOutcome = .drained)) : Paired s' := by
  have hclosed : ∀ {p : Prop}, Undecided s' → p := fun hopen => by cases hclaim.symm.trans hopen.1
  refine ⟨fun hopen => hclosed hopen, fun hopen => hclosed hopen, fun hopen => hclosed hopen,
    fun hnone => (by cases hclaim.symm.trans hnone), fun r' hr' => ?_⟩
  rw [hclaim, Option.some.injEq] at hr'
  cases hold : s.claim with
  | none =>
    rw [hold, Option.getD_none] at hr'
    exact hr' ▸ hreceipt hold
  | some won =>
    rw [hold, Option.getD_some] at hr'
    exact h.receipt r' (hold.trans (congrArg some hr'))

theorem finalStep (h : Paired s) (hreceipts : Undecided s → Receipts cfg s) (horder : Orderly s)
    (hprofile : cfg.profileConfig.isSome = true) (hok : KeepsPair s (.writer c))
    (hstep : s.finalStep cfg c s.writer = some s') : Paired s' := by
  have hframe := (Finishes.of_finalStep hstep).toFrame
  have hpublishing := h.publishing
  have hrevoking := h.revoking
  have hsame : ∀ t : TraceSink, Frame s t → t.claim = s.claim →
      t.summaryWritten = s.summaryWritten → (∀ o, s.writer ≠ .setSummaryWritten .base o) →
      (publishes t.writer = true → Undecided s → s.summaryWritten .base = true) →
      (revokes t.writer = true → Undecided s → s.summaryWritten .profile = false) → Paired t :=
    fun _ => h.of_sameFlags
  have hcleared := fun hclaim => @of_cleared s s' h hframe hclaim
  unfold KeepsPair at hok
  dsimp only at hok
  generalize hpc : s.writer = pc at hstep hsame hpublishing hrevoking hok
  cases pc with
  | finalize =>
    simp only [TraceSink.finalStep, locked_eq_some] at hstep
    obtain ⟨-, rfl⟩ := hstep
    refine hsame _ hframe rfl rfl (fun _ => by simp) (fun hw => ?_) fun hw hopen => ?_
    · rw [goto_writer] at hw
      split at hw <;> cases hw
    · rw [goto_writer, hopen.2] at hw
      cases hw
  | finalInvalidation stream =>
    simp only [TraceSink.finalStep, Option.some.injEq] at hstep
    subst hstep
    obtain ⟨x, lines, -, heq⟩ := appendInvalidation_eq cfg s c stream
    rw [heq] at hframe ⊢
    refine hsame _ hframe rfl rfl (fun _ => by simp) (fun hw => ?_)
      fun _ hopen => hrevoking hopen rfl
    cases stream
    · rw [goto_writer, afterInvalidation] at hw
      split at hw <;> cases hw
    · cases hw
  | finalInvalidated =>
    simp only [TraceSink.finalStep, locked_eq_some] at hstep
    obtain ⟨-, rfl⟩ := hstep
    exact hcleared rfl (fun hopen => hrevoking hopen rfl) rfl
  | closeDescriptors =>
    simp only [TraceSink.finalStep, Option.some.injEq] at hstep
    subst hstep
    refine hsame _ hframe rfl rfl (fun _ => by simp) (fun hw => ?_) fun hw hopen => ?_
    · rw [goto_writer] at hw
      split at hw <;> cases hw
    · rw [goto_writer] at hw
      split at hw
      · cases hw
      · next hfailed =>
        cases hp : s.summaryWritten .profile with
        | false => rfl
        | true => exact absurd (hok hopen.1 hp) hfailed
  | descriptorFailure | publicationFailure | finalException =>
    simp only [TraceSink.finalStep, locked_eq_some] at hstep
    obtain ⟨-, rfl⟩ := hstep
    exact hcleared rfl (fun hopen => hrevoking hopen rfl) rfl
  | flush | flushLast =>
    simp only [TraceSink.finalStep, locked_eq_some] at hstep
    obtain ⟨-, rfl⟩ := hstep
    exact hsame _ hframe rfl rfl (fun _ => by simp) (by rintro ⟨⟩) (by rintro ⟨⟩)
  | eligible =>
    simp only [TraceSink.finalStep, locked_eq_some] at hstep
    obtain ⟨-, rfl⟩ := hstep
    split
    · next hcompleted =>
      simp only [completed, Bool.and_eq_true] at hcompleted
      exact hsame _ (frame_goto s _) rfl rfl (fun _ => by simp)
        (fun _ _ => hcompleted.1.1.1.1.1) (by rintro ⟨⟩)
    · exact hsame _ (frame_goto s _) rfl rfl (fun _ => by simp) (by rintro ⟨⟩) (by rintro ⟨⟩)
  | checkTargets =>
    simp only [TraceSink.finalStep] at hstep
    split at hstep
    · next hmissing =>
      cases hstep
      refine hsame _ (frame_goto s _) rfl rfl (fun _ => by simp) (by rintro ⟨⟩) fun _ hopen => ?_
      -- a completed pair is staged
      obtain ⟨t, ht, hnot⟩ := List.any_eq_true.mp hmissing
      have hstaged := (hreceipts hopen).staged t ht (.inr ⟨hpublishing hopen rfl, by rw [hpc]; rfl⟩)
      simp [hstaged.1, hstaged.2] at hnot
    · cases hstep
      split
      · exact hsame _ (frame_goto s _) rfl rfl (fun _ => by simp)
          (fun _ hopen => hpublishing hopen rfl) (by rintro ⟨⟩)
      · next hfailed =>
        exact hsame _ (frame_goto s _) rfl rfl (fun _ => by simp) (by rintro ⟨⟩) fun _ hopen =>
          absurd (hfailed.symm.trans (hok hopen.1)) (by simp)
      · next hfailed =>
        exact hsame _ (frame_goto s _) rfl rfl (fun _ => by simp) (by rintro ⟨⟩) fun _ hopen =>
          absurd (hfailed.symm.trans (hok hopen.1)) (by simp)
  | replace stream =>
    simp only [TraceSink.finalStep] at hstep
    split at hstep
    · cases hstep
      refine hsame _ hframe rfl rfl (fun _ => by simp)
        (fun _ hopen => hpublishing hopen rfl) fun hw => ?_
      rw [goto_writer] at hw
      split at hw <;> cases hw
    · next hfailed =>
      cases hstep
      exact hsame _ hframe rfl rfl (fun _ => by simp) (by rintro ⟨⟩) fun _ hopen =>
        absurd (hok hopen.1) hfailed
  | publicationClaim =>
    simp only [TraceSink.finalStep] at hstep
    split at hstep
    · obtain ⟨-, rfl⟩ := locked_eq_some.mp hstep
      exact hsame _ hframe rfl rfl (fun _ => by simp) (by rintro ⟨⟩) (by rintro ⟨⟩)
    · obtain ⟨-, rfl⟩ := locked_eq_some.mp hstep
      exact hsame _ hframe rfl rfl (fun _ => by simp) (fun _ hopen => hpublishing hopen rfl)
        (by rintro ⟨⟩)
  | claiming =>
    have hreceipt : s.claim = none →
        (s.result cfg .drained true).profileSummaryWritten =
          (s.result cfg .drained true).summaryWritten ∧
          ((s.result cfg .drained true).summaryWritten = true →
            (s.result cfg .drained true).closeOutcome = .drained) := by
      intro hnone
      have hopen := undecided_of_claiming horder (.inl hpc) hnone
      refine ⟨?_, fun _ => rfl⟩
      simp [result, hprofile, ((hreceipts hopen).base (hpublishing hopen rfl)).1 hprofile]
    simp only [TraceSink.finalStep] at hstep
    split at hstep
    · cases hstep
      exact h.of_claim rfl hreceipt
    · cases hstep
      exact h.of_claim rfl hreceipt
  | retract published expired =>
    cases published with
    | nil =>
      simp only [TraceSink.finalStep, Option.some.injEq] at hstep
      subst hstep
      cases expired
      · exact hsame _ hframe rfl rfl (fun _ => by simp) (by rintro ⟨⟩)
          fun _ hopen => hrevoking hopen rfl
      · exact hsame _ hframe rfl rfl (fun _ => by simp) (by rintro ⟨⟩) (by rintro ⟨⟩)
    | cons stream rest =>
      simp only [TraceSink.finalStep, Option.some.injEq] at hstep
      subst hstep
      obtain ⟨x, lines, -, heq⟩ := appendInvalidation_eq cfg
        (s.setShard stream fun shard => { shard with reserved := false }) c stream
      rw [heq] at hframe ⊢
      refine hsame _ hframe ?_ ?_ (fun _ => by simp) (by rintro ⟨⟩) fun hw hopen => ?_
      · split <;> rfl
      · split <;> rfl
      · cases expired
        · exact hrevoking hopen rfl
        · cases hw
  | publicationExpired =>
    simp only [TraceSink.finalStep, locked_eq_some] at hstep
    obtain ⟨-, rfl⟩ := hstep
    exact hcleared rfl (fun _ => rfl) rfl
  | closing =>
    simp only [TraceSink.finalStep] at hstep
    split at hstep
    all_goals
      obtain ⟨-, rfl⟩ := locked_eq_some.mp hstep
      exact hsame _ hframe rfl rfl (fun _ => by simp) (by rintro ⟨⟩) (by rintro ⟨⟩)
  | finalClaim =>
    simp only [TraceSink.finalStep, Option.some.injEq] at hstep
    subst hstep
    refine h.of_claim rfl fun hnone => ?_
    have hopen := undecided_of_claiming horder (.inr hpc) hnone
    have hboth := h.both hopen (hreceipts hopen) hprofile (by simp [hpc])
    refine ⟨by simp [result, hprofile, hboth], fun hb => ?_⟩
    have houtcome := ((hreceipts hopen).base hb).2.2.resolve_left (by simp [hpc])
    simp [result, houtcome]
  | _ => simp [TraceSink.finalStep] at hstep

/-- A claim of a caller promises nothing. -/
theorem callerReceipt (h : Paired s) {id : Nat} {expired : Bool} {r : CloseResult}
    (hreceipts : Undecided s → Receipts cfg s) (horder : Orderly s) (hcandidates : Candidates s)
    (hopen : s.claim = none) (hstep : s.closerStep cfg id expired = some s')
    (hclaim : s'.claim = some r) :
    r.profileSummaryWritten = false ∧ r.summaryWritten = false := by
  refine ⟨?_, (closerStep_drained horder hcandidates hopen hstep hclaim).2⟩
  rcases closerStep_claim hstep with hsame | ⟨candidate, hcandidate, hset, hended, hshut⟩
  · cases hopen.symm.trans (hsame.symm.trans hclaim)
  · rw [hset, hopen, Option.getD_none, Option.some.injEq] at hclaim
    subst hclaim
    cases hpc : s.closers id with
    | wantCondition deadline =>
      obtain ⟨hlock, hclosed⟩ := hshut deadline hpc
      have hundecided := undecided_of_lock horder (by simp [hlock]) hopen
      have hunopened : s.x.closing = false := by
        rcases horder.closed hclosed hopen with ⟨i, r, hi⟩ | hw | hw
        · cases hlock.symm.trans ((horder.closerLock i).mpr (by rw [hi]; rfl))
        · cases hlock.symm.trans (horder.writerLock.mpr (.inr hw))
        · exact horder.terminated hw hopen
      rw [hpc, callerClaim, Option.some.injEq] at hcandidate
      rw [← hcandidate]
      simp [result, (hreceipts hundecided).unopened hunopened]
    | wantFinal deadline =>
      have hclosing := horder.joined id (by rw [hpc]; rfl)
      cases hclosing.symm.trans (horder.terminated (hended deadline hpc hopen) hopen)
    | forced r | timeoutClaim r =>
      refine h.candidate hopen id candidate ?_
      rw [hpc] at hcandidate ⊢
      exact hcandidate
    | _ =>
      rw [hpc] at hcandidate
      cases hcandidate

theorem step {action : Action} (h : Paired s) (hreceipts : Undecided s → Receipts cfg s)
    (horder : Orderly s) (hcandidates : Candidates s) (hprofile : cfg.profileConfig.isSome = true)
    (hok : KeepsPair s action) (hstep : s.step cfg action = some s') : Paired s' := by
  have hbefore : Undecided s' → Undecided s := undecided_of_step hstep
  cases action with
  | produce call =>
    obtain ⟨-, rfl⟩ := locked_eq_some.mp hstep
    exact ⟨h.agree, h.publishing, h.revoking, h.candidate, h.receipt⟩
  | tick ns =>
    cases hstep
    exact ⟨h.agree, h.publishing, h.revoking, h.candidate, h.receipt⟩
  | writer c =>
    rcases writerStep_cases hstep with hrun | hsummary | hfinal
    · exact h.runStep hreceipts hrun
    · exact h.summaryStep hreceipts hsummary
    · exact h.finalStep hreceipts horder hprofile hok hfinal
  | closer i expired =>
    have hcalls := Calls.of_closerStep hstep
    refine ⟨fun hopen => ?_, fun hopen => ?_, fun hopen => ?_, fun hnone j r hj => ?_,
      fun r hr => ?_⟩
    · rw [hcalls.writer, hcalls.summaryWritten]
      exact h.agree (hbefore hopen)
    · rw [hcalls.writer, hcalls.summaryWritten]
      exact h.publishing (hbefore hopen)
    · rw [hcalls.writer, hcalls.summaryWritten]
      exact h.revoking (hbefore hopen)
    · have hopen : s.claim = none := by
        cases hclaim : s.claim with
        | none => rfl
        | some won => cases hnone.symm.trans (claim_stands hclaim hstep)
      rcases closerStep_candidate hstep hj with hold | ⟨hpc, -, -, hflag⟩
      · exact h.candidate hopen j r hold
      · have hclear : s.summaryWritten .profile = false := by
          unfold KeepsPair at hok
          dsimp only at hok
          rcases hpc with hpc | hpc <;> rw [hpc] at hok <;> exact hok hopen
        rw [hflag, hclear, Bool.and_false]
    · cases hclaim : s.claim with
      | none =>
        obtain ⟨hp, hb⟩ := h.callerReceipt hreceipts horder hcandidates hclaim hstep hr
        exact ⟨hp.trans hb.symm, fun hb' => by cases hb.symm.trans hb'⟩
      | some won =>
        have hstands := claim_stands hclaim hstep
        rw [hr, Option.some.injEq] at hstands
        exact hstands ▸ h.receipt won hclaim

theorem initial (h : Initial cfg s) : Paired s := by
  obtain ⟨pid, startedNs, now, h⟩ := h
  simp only [opened, bind_eq_ok, pure_eq_ok] at h
  obtain ⟨⟨base, baseRaw⟩, -, ⟨profile, profileRaw⟩, -, rfl⟩ := h
  exact ⟨fun _ => by simp, fun _ => by rintro ⟨⟩, fun _ => by simp, fun _ _ => by rintro _ ⟨⟩,
    by simp⟩

/-- The run lemma. -/
theorem of_reachable (hprofile : cfg.profileConfig.isSome = true)
    (h : ReachableWhen cfg KeepsPair s) : Paired s := by
  refine h.invariant_over (J := fun s => (Undecided s → Receipts cfg s) ∧ Orderly s ∧ Candidates s)
    (fun s hs => ⟨Receipts.of_reachable hs, orderly_of_reachableWhen hs, .of_reachable hs⟩)
    (fun _ hs => initial hs) fun _ _ _ hJ hs hok hstep _ => ?_
  exact hs.step hJ.1 hJ.2.1 hJ.2.2 hprofile hok hstep

end Paired
end TraceSink

/-- **The two streams are reported together**, in every run in which the base
flag is not taken back alone and no timeout is built on a set profile flag. -/
theorem receipt_pair_agrees {cfg : Config} {s : TraceSink} {id : Nat} {r : CloseResult}
    (hprofile : cfg.profileConfig.isSome = true)
    (h : TraceSink.ReachableWhen cfg TraceSink.KeepsPair s)
    (hreturned : s.closers id = .returned r) :
    (r.profileSummaryWritten = true ↔ r.summaryWritten = true) ∧
      (r.profileSummaryWritten = true ∨ r.summaryWritten = true → r.closeOutcome = .drained) ∧
      s.profileCommitted cfg = s.committed := by
  have hclaim := (TraceSink.orderly_of_reachableWhen h).won id r (by rw [hreturned]; rfl)
  obtain ⟨hagree, hdrained⟩ := (TraceSink.Paired.of_reachable hprofile h).receipt r hclaim
  refine ⟨by rw [hagree], fun hwritten => ?_, ?_⟩
  · rw [hagree, or_self] at hwritten
    exact hdrained hwritten
  · simp only [TraceSink.profileCommitted, TraceSink.committed, hclaim, Option.any_some, hprofile,
      hagree, Bool.and_assoc, Bool.and_self, Bool.true_and]

def CloserPc.returned? : CloserPc → Option CloseResult
  | returned r => some r
  | _ => none

theorem CloserPc.eq_returned {pc : CloserPc} {r : CloseResult} (h : pc.returned? = some r) :
    pc = .returned r := by
  cases pc with
  | returned r' => exact congrArg _ (Option.some.inj h)
  | _ => cases h

/-- The replace of the profile shard fails after the base shard's. -/
def Sample.unreplaced : TraceSink :=
  General.run (TraceSink.step cfg) start
    (completed ++ writer 3 ++ [.writer { outcome := .fail }] ++ writer 6 ++ closer 2)

theorem receipt_pair_agrees_published :
    ∃ r, Sample.publishedInTime.closers 0 = .returned r ∧ r.summaryWritten = true ∧
      r.profileSummaryWritten = true := by
  have hreach : TraceSink.ReachableWhen Sample.cfg TraceSink.KeepsPair Sample.publishedInTime :=
    (General.Reach.init Sample.initial_start).run (by decide +kernel)
  obtain ⟨r, hr, hwritten⟩ : ∃ r, (Sample.publishedInTime.closers 0).returned? = some r ∧
      r.summaryWritten = true := Option.map_eq_some_iff.mp (by decide +kernel)
  have hreturned := CloserPc.eq_returned hr
  exact ⟨r, hreturned, hwritten, (receipt_pair_agrees (by decide) hreach hreturned).1.mpr hwritten⟩

/-- The profile flag outlives the receipt of the base stream. -/
theorem receipt_pair_split :
    TraceSink.Reachable Sample.cfg Sample.unreplaced ∧
      ∃ r, Sample.unreplaced.closers 0 = .returned r ∧ r.closeOutcome = .writerFailure ∧
        r.summaryWritten = false ∧ r.profileSummaryWritten = true := by
  refine ⟨(General.Reach.init Sample.initial_start).run (by decide +kernel), ?_⟩
  obtain ⟨r, hr, hflags⟩ : ∃ r, (Sample.unreplaced.closers 0).returned? = some r ∧
      (r.closeOutcome, r.summaryWritten, r.profileSummaryWritten) =
        (CloseOutcome.writerFailure, false, true) :=
    Option.map_eq_some_iff.mp (by decide +kernel)
  simp only [Prod.mk.injEq] at hflags
  exact ⟨r, CloserPc.eq_returned hr, hflags⟩

end LifecycleProfiler.Sink
