import LifecycleProfiler.Sink.Winner

/-! # The receipt

The two summary flags, the outcome and the shards moved aside, for as long as
nobody has decided the close: until then the base flag speaks for both streams.
What a receipt promises is read from the steps that clear one flag only. -/

namespace LifecycleProfiler.Sink
open Python Protocol

namespace TraceSink
variable {cfg : Config} {s s' : TraceSink} {c : Choice} {ok : TraceSink → Action → Prop}

/-- No claim yet, and no caller about to force one. -/
def Undecided (s : TraceSink) : Prop := s.claim = none ∧ s.abandoned = false

theorem undecided_of_step {action : Action} (hstep : s.step cfg action = some s')
    (h : Undecided s') : Undecided s := by
  refine ⟨?_, ?_⟩
  · cases hclaim : s.claim with
    | none => rfl
    | some r =>
      have hstands := claim_stands hclaim hstep
      rw [h.1] at hstands
      cases hstands
  · cases action with
    | produce call =>
      obtain ⟨-, rfl⟩ := locked_eq_some.mp hstep
      exact h.2
    | tick ns =>
      cases hstep
      exact h.2
    | writer c => exact (Frame.of_writerStep hstep).abandoned.symm.trans h.2
    | closer i expired =>
      have hkeeps := (Calls.of_closerStep hstep).abandoned
      rw [h.2] at hkeeps
      simpa using hkeeps

/-- A step of a caller after which the close is still open. -/
theorem closerStep_undecided {id : Nat} {expired : Bool} (horder : Orderly s)
    (hstep : s.closerStep cfg id expired = some s') (h : Undecided s') :
    s'.x.writerFailed = s.x.writerFailed ∧ s'.writerOutcome = s.writerOutcome ∧
      (s.x.closing = true → s'.x.closing = true) := by
  obtain ⟨hclaim, habandoned⟩ := h
  unfold closerStep at hstep
  split at hstep
  case h_4 deadline hpc =>
    split at hstep
    · split at hstep
      · cases hstep
        exact ⟨rfl, rfl, fun hc => hc⟩
      · cases hstep
    · split at hstep
      · obtain ⟨-, rfl⟩ := locked_eq_some.mp hstep
        exact ⟨rfl, rfl, fun hc => hc⟩
      · split at hstep
        · obtain ⟨-, rfl⟩ := locked_eq_some.mp hstep
          cases hclaim
        · obtain ⟨-, rfl⟩ := locked_eq_some.mp hstep
          refine ⟨?_, rfl, fun _ => rfl⟩
          dsimp only [setCloser]
          split
          · exact ((Exporter.admits_sealLoss s.x).trans (Exporter.admits_sealLoss _)).writerFailed
          · exact (Exporter.admits_sealLoss s.x).writerFailed
  case h_7 =>
    cases hstep
    cases habandoned
  case h_13 r hpc =>
    cases hstep
    have hwon : s.claim = some r := horder.won id r (by rw [hpc]; rfl)
    cases hwon.symm.trans hclaim
  all_goals
    repeat' split at hstep
  all_goals first
    | cases hstep
      done
    | cases hstep
      exact ⟨rfl, rfl, fun hc => hc⟩
    | obtain ⟨-, rfl⟩ := locked_eq_some.mp hstep
      exact ⟨rfl, rfl, fun hc => hc⟩

end TraceSink

/-- Between the two flags and the replace of a shard. -/
def WriterPc.settling : WriterPc → Bool
  | setOutcome _ | finalize | finalInvalidation _ | finalInvalidated | closeDescriptors
  | descriptorFailure | flush | eligible | checkTargets => true
  | _ => false

/-- What holds of the flags until the close is decided. -/
structure Receipts (cfg : Config) (s : TraceSink) : Prop where
  early : s.writer.beforeReceipt = true → (∀ t, s.summaryWritten t = false) ∧
    s.x.writerFailed = false
  pending : ∀ o, s.writer = .setSummaryWritten .base o → s.summaryWritten .base = false ∧
    (cfg.profileConfig.isSome = true → s.summaryWritten .profile = true) ∧
      s.x.writerFailed = false
  base : s.summaryWritten .base = true →
    (cfg.profileConfig.isSome = true → s.summaryWritten .profile = true) ∧
      s.x.writerFailed = false ∧ (s.writer = .setOutcome .drained ∨ s.writerOutcome = some .drained)
  staged : ∀ t ∈ TraceSink.streams cfg, s.writer.staged t = true ∨
    s.summaryWritten .base = true ∧ s.writer.settling = true →
      (s.shard t).incomplete = true ∧ (s.shard t).reserved = true
  moved : s.writer.beforeReceipt = true → ∀ t, (s.shard t).incomplete = true →
    (s.shard t).reserved = true
  unopened : s.x.closing = false → ∀ t, s.summaryWritten t = false

namespace Receipts
variable {cfg : Config} {s s' : TraceSink} {c : Choice}

theorem of_early (hflags : ∀ t, s'.summaryWritten t = false)
    (hnext : s'.writer = .finalize ∨ s'.writer.beforeReceipt = true)
    (hfailed : s'.writer.beforeReceipt = true → s'.x.writerFailed = false)
    (hstaged : ∀ t ∈ TraceSink.streams cfg, s'.writer.staged t = true →
      (s'.shard t).incomplete = true ∧ (s'.shard t).reserved = true)
    (hmoved : ∀ t, (s'.shard t).incomplete = true → (s'.shard t).reserved = true) :
    Receipts cfg s' := by
  refine ⟨fun he => ⟨hflags, hfailed he⟩, fun o ho => ?_, fun hb => ?_, fun t ht h => ?_,
    fun _ => hmoved, fun _ => hflags⟩
  · rw [ho] at hnext
    rcases hnext with hnext | hnext <;> cases hnext
  · rw [hflags] at hb
    cases hb
  · rcases h with h | ⟨hb, -⟩
    · exact hstaged t ht h
    · rw [hflags] at hb
      cases hb

theorem runStep (h : Receipts cfg s) (haccounted : Accounted s) (ha : s.abandoned = false)
    (hstep : s.runStep cfg c s.writer = some s') : Receipts cfg s' := by
  have hl := Loops.of_runStep hstep
  have hearly : s.writer.beforeReceipt = true := by
    cases hpc : s.writer <;> first | rfl | simp [hpc, TraceSink.runStep] at hstep
  obtain ⟨hflags, hfailed⟩ := h.early hearly
  refine of_early (fun t => ?_) hl.next (fun he => ?_) (fun t ht hs => ?_) fun t => ?_
  · rw [hl.summaryWritten]
    exact hflags t
  · refine (hl.writerFailed haccounted ha ?_).trans hfailed
    intro hpc
    rw [hpc] at he
    cases he
  · rw [hl.incomplete, hl.reserved]
    exact h.staged t ht (.inl (hl.staged t hs))
  · rw [hl.incomplete, hl.reserved]
    exact h.moved hearly t

/-- The summary goes on with the shards as they are. -/
theorem of_goes (h : Receipts cfg s) (hl : Summarises s s')
    (hearly : s.writer.beforeReceipt = true) (hflags : s'.summaryWritten = s.summaryWritten)
    (hincomplete : ∀ t, (s'.shard t).incomplete = (s.shard t).incomplete)
    (hreserved : ∀ t, (s'.shard t).reserved = (s.shard t).reserved)
    (hnext : s'.writer = .finalize ∨ s'.writer.beforeReceipt = true)
    (hstaged : ∀ t, s'.writer.staged t = true → s.writer.staged t = true) : Receipts cfg s' := by
  refine of_early (fun t => ?_) hnext (fun _ => hl.writerFailed.trans (h.early hearly).2)
    (fun t ht hs => ?_) fun t => ?_
  · rw [hflags]
    exact (h.early hearly).1 t
  · rw [hincomplete, hreserved]
    exact h.staged t ht (.inl (hstaged t hs))
  · rw [hincomplete, hreserved]
    exact h.moved hearly t

theorem summaryStep (h : Receipts cfg s) (horder : Orderly s)
    (hstep : s.summaryStep cfg c s.writer = some s') : Receipts cfg s' := by
  have hl := Summarises.of_summaryStep hstep
  have hgoes := h.of_goes hl
  have hstaged := h.staged
  generalize hpc : s.writer = pc at hstep hgoes hstaged
  cases pc with
  | summaryStart o =>
    simp only [TraceSink.summaryStep] at hstep
    split at hstep
    · cases hstep
      exact hgoes rfl rfl (fun _ => rfl) (fun _ => rfl) (.inl rfl) fun _ => (by rintro ⟨⟩)
    · cases hstep
      exact hgoes rfl rfl (fun _ => rfl) (fun _ => rfl) (.inr rfl) fun _ => (by rintro ⟨⟩)
  | moveShard stream o =>
    obtain ⟨hflags, hfailed⟩ := h.early (by rw [hpc]; rfl)
    have hmoved := h.moved (by rw [hpc]; rfl)
    -- whatever was done, this shard is aside and the other one as it was
    have haside : ∀ shard : StreamId → Shard, (shard stream).incomplete = true ∧
        (shard stream).reserved = true → (∀ t, t ≠ stream → shard t = s.shard t) →
        Receipts cfg ({ s with shard := shard }.goto
          (if stream = StreamId.base && cfg.profileConfig.isSome then .moveShard .profile o
            else .summaryCheck o)) := by
      intro shard hthis hother
      refine of_early hflags (.inr ?_) (fun _ => hfailed) (fun t ht hs => ?_) fun t hinc => ?_
      · rw [TraceSink.goto_writer]
        split <;> rfl
      · change (shard t).incomplete = true ∧ (shard t).reserved = true
        by_cases heq : t = stream
        · exact heq ▸ hthis
        · rw [hother t heq]
          rw [TraceSink.goto_writer] at hs
          cases stream with
          | profile =>
            obtain rfl : t = .base := by
              cases t
              · rfl
              · exact absurd rfl heq
            exact hstaged .base ht (.inl rfl)
          | base =>
            have hprofile := (TraceSink.mem_streams.mp ht).resolve_left heq
            simp [hprofile, WriterPc.staged, heq] at hs
      · change (shard t).incomplete = true at hinc
        change (shard t).reserved = true
        by_cases heq : t = stream
        · exact heq ▸ hthis.2
        · rw [hother t heq] at hinc ⊢
          exact hmoved t hinc
    -- a shard that is not moved fails the writer
    have hfailing : ∀ shard : StreamId → Shard, (∀ t, (shard t).incomplete =
        (s.shard t).incomplete ∧ (shard t).reserved = (s.shard t).reserved) →
        Receipts cfg ({ s with shard := shard }.goto .failing) := by
      intro shard hsame
      refine of_early hflags (.inr rfl) (fun _ => hfailed) (fun _ _ => by rintro ⟨⟩)
        fun t hinc => ?_
      change (shard t).incomplete = true at hinc
      change (shard t).reserved = true
      rw [(hsame t).1] at hinc
      rw [(hsame t).2]
      exact hmoved t hinc
    simp only [TraceSink.summaryStep] at hstep
    split at hstep
    · next hinc =>
      cases hstep
      exact haside s.shard ⟨hinc, hmoved stream hinc⟩ fun _ _ => rfl
    · split at hstep
      · cases hstep
        exact hfailing s.shard fun _ => ⟨rfl, rfl⟩
      · split at hstep
        · cases hstep
          exact haside _ ⟨by simp, by simp⟩ fun t ht => if_neg ht
        · cases hstep
          exact hfailing s.shard fun _ => ⟨rfl, rfl⟩
        · cases hstep
          refine hfailing _ fun t => ?_
          split <;> exact ⟨rfl, rfl⟩
  | summaryCheck o =>
    simp only [TraceSink.summaryStep] at hstep
    split at hstep
    · cases hstep
      exact hgoes rfl rfl (fun _ => rfl) (fun _ => rfl) (.inl rfl) fun _ => (by rintro ⟨⟩)
    · cases hstep
      exact hgoes rfl rfl (fun _ => rfl) (fun _ => rfl) (.inr rfl) fun _ _ => rfl
  | buildSummary stream o =>
    simp only [TraceSink.summaryStep] at hstep
    split at hstep
    · cases hstep
      exact hgoes rfl rfl (fun _ => rfl) (fun _ => rfl) (.inr rfl) fun _ _ => rfl
    · cases hstep
      exact hgoes rfl rfl (fun _ => rfl) (fun _ => rfl) (.inr rfl) fun _ => (by rintro ⟨⟩)
  | reserve job =>
    obtain ⟨stream, o, record, raw, rfl, rfl⟩ := TraceSink.summaryStep_reserve hstep
    refine hgoes rfl rfl (fun _ => rfl) (fun _ => rfl) (.inr ?_) fun _ _ => rfl
    rw [TraceSink.goto_writer]
    split <;> rfl
  | refused o =>
    simp only [TraceSink.summaryStep, Option.some.injEq] at hstep
    subst hstep
    exact hgoes rfl rfl (fun _ => rfl) (fun _ => rfl) (.inl rfl) fun _ => (by rintro ⟨⟩)
  | dropSummary job =>
    simp only [TraceSink.summaryStep] at hstep
    obtain ⟨-, rfl⟩ := TraceSink.locked_eq_some.mp hstep
    exact hgoes rfl rfl (fun _ => rfl) (fun _ => rfl) (.inr rfl) fun _ _ => rfl
  | release job written =>
    obtain ⟨stream, o, record, raw, rfl, rfl⟩ := TraceSink.summaryStep_release hstep
    refine hgoes rfl rfl (fun _ => rfl) (fun _ => rfl) (.inr ?_) fun _ _ => rfl
    rw [TraceSink.goto_writer]
    split <;> rfl
  | afterSummary stream o =>
    simp only [TraceSink.summaryStep] at hstep
    split at hstep
    · cases hstep
      exact hgoes rfl rfl (fun _ => rfl) (fun _ => rfl) (.inr rfl) fun _ => (by rintro ⟨⟩)
    · split at hstep
      · cases hstep
        exact hgoes rfl rfl (fun _ => rfl) (fun _ => rfl) (.inr rfl) fun _ _ => rfl
      · next hlast =>
        cases hstep
        cases stream with
        | profile => exact hgoes rfl rfl (fun _ => rfl) (fun _ => rfl) (.inr rfl) fun _ _ => rfl
        | base =>
          obtain ⟨hflags, hfailed⟩ := h.early (by rw [hpc]; rfl)
          refine ⟨by rintro ⟨⟩, fun _ _ => ⟨hflags .base, fun hp => ?_, hfailed⟩, fun hb => ?_,
            fun t ht _ => hstaged t ht (.inl rfl), by rintro ⟨⟩, h.unopened⟩
          · simp [hp] at hlast
          · simp [TraceSink.goto, hflags] at hb
  | lateInvalidation stream =>
    simp only [TraceSink.summaryStep, Option.some.injEq] at hstep
    subst hstep
    obtain ⟨x, lines, hx, heq⟩ := appendInvalidation_eq cfg s c stream
    rw [heq] at hgoes ⊢
    refine hgoes rfl rfl (fun _ => rfl) (fun _ => rfl) ?_ fun t ht => ?_
    · rw [TraceSink.goto_writer]
      cases stream
      · rw [TraceSink.afterInvalidation]
        split
        · exact .inr rfl
        · exact .inl rfl
      · exact .inl rfl
    · rw [TraceSink.goto_writer] at ht
      cases stream
      · rw [TraceSink.afterInvalidation] at ht
        split at ht <;> cases ht
      · cases ht
  | setSummaryWritten stream o =>
    obtain ⟨rfl, hclosing⟩ := horder.summarises o (by rw [hpc]; rfl)
    have hopened : s.x.closing = false → False := fun hc => by simp [hclosing] at hc
    cases stream with
    | profile =>
      simp only [TraceSink.summaryStep, Option.some.injEq] at hstep
      subst hstep
      obtain ⟨hflags, hfailed⟩ := h.early (by rw [hpc]; rfl)
      refine ⟨by rintro ⟨⟩, fun _ _ => ⟨hflags .base, fun _ => rfl, hfailed⟩, fun hb => ?_,
        fun t ht _ => hstaged t ht (.inl rfl), by rintro ⟨⟩, fun hc => (hopened hc).elim⟩
      simp [TraceSink.goto, TraceSink.setSummaryFlag, hflags] at hb
    | base =>
      simp only [TraceSink.summaryStep, Option.some.injEq] at hstep
      subst hstep
      obtain ⟨-, hprofile, hfailed⟩ := h.pending .drained hpc
      exact ⟨by rintro ⟨⟩, by simp, fun _ => ⟨hprofile, hfailed, .inl rfl⟩,
        fun t ht _ => hstaged t ht (.inl rfl), by rintro ⟨⟩, fun hc => (hopened hc).elim⟩
  | setOutcome o =>
    obtain ⟨rfl, -⟩ := horder.summarises o (by rw [hpc]; rfl)
    simp only [TraceSink.summaryStep, Option.some.injEq] at hstep
    subst hstep
    refine ⟨by rintro ⟨⟩, by simp, fun hb => ?_, fun t ht _ => hstaged t ht (.inl rfl),
      by rintro ⟨⟩, h.unopened⟩
    obtain ⟨hprofile, hfailed, -⟩ := h.base hb
    exact ⟨hprofile, hfailed, .inr rfl⟩
  | _ => simp [TraceSink.summaryStep] at hstep

/-- After the summary the flags are only taken back, and never the profile's alone. -/
theorem of_final (h : Receipts cfg s) (hs : s.writer.prepares = false ∨ s.writer = .finalize)
    (hpc : s'.writer.prepares = false) (hclosing : s'.x.closing = s.x.closing)
    (hflags : ∀ t, s'.summaryWritten t = true → s.summaryWritten t = true)
    (hbase : s'.summaryWritten .base = true → s'.summaryWritten = s.summaryWritten ∧
      s'.x.writerFailed = s.x.writerFailed ∧ s'.writerOutcome = s.writerOutcome)
    (hsettling : s'.writer.settling = true → s.writer.settling = true ∧
      ∀ t, (s'.shard t).incomplete = (s.shard t).incomplete ∧
        (s'.shard t).reserved = (s.shard t).reserved) : Receipts cfg s' := by
  have hlate : s'.writer.beforeReceipt = false ∧ (∀ t, s'.writer.staged t = false) ∧
      ∀ t o, s'.writer ≠ .setSummaryWritten t o := by
    cases hw : s'.writer <;> simp_all [WriterPc.prepares, WriterPc.beforeReceipt, WriterPc.staged]
  refine ⟨fun he => ?_, fun o ho => absurd ho (hlate.2.2 _ o), fun hb => ?_, fun t ht hst => ?_,
    fun he => ?_, fun hc t => ?_⟩
  · rw [hlate.1] at he
    cases he
  · obtain ⟨hsame, hfailed, houtcome⟩ := hbase hb
    rw [hsame] at hb
    rw [hsame, hfailed, houtcome]
    obtain ⟨hprofile, hnot, hdrained⟩ := h.base hb
    refine ⟨hprofile, hnot, .inr (hdrained.resolve_left fun hw => ?_)⟩
    rw [hw] at hs
    rcases hs with hs | hs <;> cases hs
  · rcases hst with hst | ⟨hb, hst⟩
    · rw [hlate.2.1] at hst
      cases hst
    · obtain ⟨hst, hsame⟩ := hsettling hst
      rw [(hsame t).1, (hsame t).2]
      exact h.staged t ht (.inr ⟨hflags .base hb, hst⟩)
  · rw [hlate.1] at he
    cases he
  · have hold := h.unopened (hclosing ▸ hc) t
    cases hnew : s'.summaryWritten t with
    | false => rfl
    | true => exact (hflags t hnew).symm.trans hold

theorem finalStep (h : Receipts cfg s) (hstep : s.finalStep cfg c s.writer = some s') :
    Receipts cfg s' := by
  have hclosing := (Finishes.of_finalStep hstep).closing
  have hof := fun hs => @of_final cfg s s' h hs
  generalize hpc : s.writer = pc at hstep hof
  have hrevoked : ∀ t, s.revokeReceipt.summaryWritten t = true → s.summaryWritten t = true := by
    intro t ht
    dsimp only [TraceSink.revokeReceipt, TraceSink.setSummaryFlag] at ht
    split at ht
    · cases ht
    · exact ht
  cases pc with
  | finalize | closeDescriptors | eligible =>
    simp only [TraceSink.finalStep, Option.some.injEq, TraceSink.locked_eq_some] at hstep
    obtain ⟨-, rfl⟩ := hstep
    refine hof (by simp [WriterPc.prepares, WriterPc.beforeReceipt]) ?_ rfl (fun _ ht => ht)
      (fun _ => ⟨rfl, rfl, rfl⟩) fun _ => ⟨rfl, fun _ => ⟨rfl, rfl⟩⟩
    rw [TraceSink.goto_writer]
    split <;> rfl
  | flush | flushLast =>
    simp only [TraceSink.finalStep, TraceSink.locked_eq_some] at hstep
    obtain ⟨-, rfl⟩ := hstep
    refine hof (.inl rfl) rfl rfl (fun _ ht => ht) (fun _ => ⟨rfl, rfl, rfl⟩) ?_
    first
      | exact fun _ => ⟨rfl, fun _ => ⟨rfl, rfl⟩⟩
      | rintro ⟨⟩
  | finalInvalidation stream =>
    simp only [TraceSink.finalStep, Option.some.injEq] at hstep
    subst hstep
    obtain ⟨x, lines, hx, heq⟩ := appendInvalidation_eq cfg s c stream
    rw [heq] at hof hclosing ⊢
    refine hof (.inl rfl) ?_ hclosing (fun _ ht => ht) (fun _ => ⟨rfl, hx.writerFailed, rfl⟩)
      fun _ => ⟨rfl, fun _ => ⟨rfl, rfl⟩⟩
    rw [TraceSink.goto_writer]
    cases stream
    · rw [TraceSink.afterInvalidation]
      split <;> rfl
    · rfl
  | finalInvalidated =>
    simp only [TraceSink.finalStep, TraceSink.locked_eq_some] at hstep
    obtain ⟨-, rfl⟩ := hstep
    refine hof (.inl rfl) rfl rfl (fun t ht => ?_) (by rintro ⟨⟩)
      fun _ => ⟨rfl, fun _ => ⟨rfl, rfl⟩⟩
    dsimp only [TraceSink.goto, TraceSink.setSummaryFlag] at ht
    split at ht
    · cases ht
    · exact ht
  | descriptorFailure =>
    simp only [TraceSink.finalStep, TraceSink.locked_eq_some] at hstep
    obtain ⟨-, rfl⟩ := hstep
    exact hof (.inl rfl) rfl hclosing hrevoked (by rintro ⟨⟩) fun _ => ⟨rfl, fun _ => ⟨rfl, rfl⟩⟩
  | publicationFailure | finalException =>
    simp only [TraceSink.finalStep, TraceSink.locked_eq_some] at hstep
    obtain ⟨-, rfl⟩ := hstep
    exact hof (.inl rfl) rfl hclosing hrevoked (by rintro ⟨⟩) (by rintro ⟨⟩)
  | checkTargets =>
    simp only [TraceSink.finalStep] at hstep
    split at hstep
    · cases hstep
      exact hof (.inl rfl) rfl rfl (fun _ ht => ht) (fun _ => ⟨rfl, rfl, rfl⟩) (by rintro ⟨⟩)
    · cases hstep
      refine hof (.inl rfl) ?_ rfl (fun _ ht => ht) (fun _ => ⟨rfl, rfl, rfl⟩) ?_
      all_goals
        rw [TraceSink.goto_writer]
        split <;> simp [WriterPc.prepares, WriterPc.beforeReceipt, WriterPc.settling]
  | replace stream =>
    simp only [TraceSink.finalStep] at hstep
    split at hstep
    · cases hstep
      refine hof (.inl rfl) ?_ rfl (fun _ ht => ht) (fun _ => ⟨rfl, rfl, rfl⟩) ?_
      all_goals
        rw [TraceSink.goto_writer]
        split <;> simp [WriterPc.prepares, WriterPc.beforeReceipt, WriterPc.settling]
    · cases hstep
      exact hof (.inl rfl) rfl rfl (fun _ ht => ht) (fun _ => ⟨rfl, rfl, rfl⟩) (by rintro ⟨⟩)
  | publicationClaim =>
    simp only [TraceSink.finalStep] at hstep
    split at hstep
    all_goals
      obtain ⟨-, rfl⟩ := TraceSink.locked_eq_some.mp hstep
      exact hof (.inl rfl) rfl rfl (fun _ ht => ht) (fun _ => ⟨rfl, rfl, rfl⟩) (by rintro ⟨⟩)
  | claiming =>
    simp only [TraceSink.finalStep] at hstep
    split at hstep
    all_goals
      cases hstep
      exact hof (.inl rfl) rfl rfl (fun _ ht => ht) (fun _ => ⟨rfl, rfl, rfl⟩) (by rintro ⟨⟩)
  | retract published expired =>
    cases published with
    | nil =>
      simp only [TraceSink.finalStep, Option.some.injEq] at hstep
      subst hstep
      refine hof (.inl rfl) ?_ rfl (fun _ ht => ht) (fun _ => ⟨rfl, rfl, rfl⟩) ?_
      all_goals
        rw [TraceSink.goto_writer]
        split <;> simp [WriterPc.prepares, WriterPc.beforeReceipt, WriterPc.settling]
    | cons stream rest =>
      simp only [TraceSink.finalStep, Option.some.injEq] at hstep
      subst hstep
      obtain ⟨x, lines, hx, heq⟩ := appendInvalidation_eq cfg
        (s.setShard stream fun shard => { shard with reserved := false }) c stream
      rw [heq] at hof hclosing ⊢
      refine hof (.inl rfl) rfl hclosing ?_ ?_ (by rintro ⟨⟩)
      · split <;> exact fun _ ht => ht
      · split
        · exact fun _ => ⟨rfl, rfl, rfl⟩
        · exact fun _ => ⟨rfl, rfl, rfl⟩
        · exact fun _ => ⟨rfl, hx.writerFailed, rfl⟩
  | publicationExpired =>
    simp only [TraceSink.finalStep, TraceSink.locked_eq_some] at hstep
    obtain ⟨-, rfl⟩ := hstep
    refine hof (.inl rfl) rfl rfl (fun t ht => ?_) (by rintro ⟨⟩) (by rintro ⟨⟩)
    dsimp only [TraceSink.goto, TraceSink.setSummaryFlag] at ht
    split at ht
    · cases ht
    · split at ht
      · cases ht
      · exact ht
  | closing =>
    simp only [TraceSink.finalStep] at hstep
    split at hstep
    all_goals
      obtain ⟨-, rfl⟩ := TraceSink.locked_eq_some.mp hstep
      exact hof (.inl rfl) rfl rfl (fun _ ht => ht) (fun _ => ⟨rfl, rfl, rfl⟩) (by rintro ⟨⟩)
  | finalClaim =>
    simp only [TraceSink.finalStep, Option.some.injEq] at hstep
    subst hstep
    exact hof (.inl rfl) rfl rfl (fun _ ht => ht) (fun _ => ⟨rfl, rfl, rfl⟩) (by rintro ⟨⟩)
  | _ => simp [TraceSink.finalStep] at hstep

/-- A step of another party. -/
theorem of_outside (h : Receipts cfg s) (hw : s'.writer = s.writer) (hshard : s'.shard = s.shard)
    (hflags : s'.summaryWritten = s.summaryWritten) (houtcome : s'.writerOutcome = s.writerOutcome)
    (hfailed : s'.x.writerFailed = s.x.writerFailed)
    (hclosing : s.x.closing = true → s'.x.closing = true) : Receipts cfg s' := by
  refine ⟨?_, ?_, ?_, ?_, ?_, fun hc => ?_⟩
  · rw [hw, hflags, hfailed]
    exact h.early
  · rw [hw, hflags, hfailed]
    exact h.pending
  · rw [hw, hflags, hfailed, houtcome]
    exact h.base
  · rw [hw, hflags, hshard]
    exact h.staged
  · rw [hw, hshard]
    exact h.moved
  · rw [hflags]
    refine h.unopened ?_
    cases hold : s.x.closing with
    | false => rfl
    | true => exact (hclosing hold).symm.trans hc

theorem step {action : TraceSink.Action} (h : Receipts cfg s) (horder : Orderly s)
    (haccounted : Accounted s) (hopen : TraceSink.Undecided s')
    (hstep : s.step cfg action = some s') : Receipts cfg s' := by
  cases action with
  | produce call =>
    obtain ⟨-, rfl⟩ := TraceSink.locked_eq_some.mp hstep
    have hx : Exporter.SameFlags s.x (call.run cfg s.x s.now) :=
      (Exporter.admits_call s.x s.now call).sameFlags
    exact h.of_outside rfl rfl rfl rfl hx.writerFailed hx.closing.trans
  | writer c =>
    have hbefore := TraceSink.undecided_of_step hstep hopen
    rcases writerStep_cases hstep with hrun | hsummary | hfinal
    · exact h.runStep haccounted hbefore.2 hrun
    · exact h.summaryStep horder hsummary
    · exact h.finalStep hfinal
  | closer i expired =>
    have hcalls := Calls.of_closerStep hstep
    obtain ⟨hfailed, houtcome, hclosing⟩ := TraceSink.closerStep_undecided horder hstep hopen
    exact h.of_outside hcalls.writer hcalls.shard hcalls.summaryWritten houtcome hfailed hclosing
  | tick ns =>
    cases hstep
    exact h.of_outside rfl rfl rfl rfl rfl id

theorem initial (h : TraceSink.Initial cfg s) : Receipts cfg s := by
  obtain ⟨pid, startedNs, now, h⟩ := h
  simp only [TraceSink.opened, bind_eq_ok, pure_eq_ok] at h
  obtain ⟨⟨base, baseRaw⟩, -, ⟨profile, profileRaw⟩, -, rfl⟩ := h
  refine ⟨fun _ => ⟨fun _ => rfl, rfl⟩, by simp, by simp, fun t _ hst => ?_, fun _ _ => by simp,
    fun _ _ => rfl⟩
  rcases hst with hst | ⟨hst, -⟩ <;> cases hst

/-- The run lemma. -/
theorem of_reachable {ok : TraceSink → TraceSink.Action → Prop}
    (h : TraceSink.ReachableWhen cfg ok s) : TraceSink.Undecided s → Receipts cfg s := by
  refine h.invariant_over (I := fun s => TraceSink.Undecided s → Receipts cfg s)
    (J := fun s => Orderly s ∧ Accounted s) (fun s hs => ?_)
      (fun _ hs _ => initial hs) fun s a s' hJ hs _ hstep _ hopen => ?_
  · exact ⟨TraceSink.orderly_of_reachableWhen hs,
      accounted_of_reachable (hs.mono fun _ _ _ => trivial)⟩
  · exact (hs (TraceSink.undecided_of_step hstep hopen)).step hJ.1 hJ.2 hopen hstep

end Receipts
end LifecycleProfiler.Sink
