import LifecycleProfiler.Sink.Accounting

/-! # What a step leaves alone

Inversion lemmas for the steps of the writer. Each says once which part of the
sink a group of steps may change and where the writer can be afterwards, and the
invariants of the later files read the steps through them. -/

namespace LifecycleProfiler.Sink
open Python Protocol

namespace Exporter
variable {cfg : Config} {x y : Exporter} {stream : StreamId}

/-! ## The gates of the exporter -/

/-- Producers and callers of `close()` see the two flags alone. -/
structure SameGates (x y : Exporter) : Prop where
  closing : y.closing = x.closing
  closed : y.closed = x.closed

/-- The flags and the failure mark of the exporter. -/
structure SameFlags (x y : Exporter) : Prop extends SameGates x y where
  writerFailed : y.writerFailed = x.writerFailed

theorem SameFlags.refl (x : Exporter) : SameFlags x x := ⟨⟨rfl, rfl⟩, rfl⟩

theorem SameFlags.trans {x y z : Exporter} (hxy : SameFlags x y) (hyz : SameFlags y z) :
    SameFlags x z :=
  ⟨⟨hyz.closing.trans hxy.closing, hyz.closed.trans hxy.closed⟩,
    hyz.writerFailed.trans hxy.writerFailed⟩

theorem Admits.sameFlags (h : Admits x y) : SameFlags x y := ⟨⟨h.closing, h.closed⟩, h.writerFailed⟩

theorem sameFlags_foldl {α : Type} {f : Exporter → α → Exporter} (hf : ∀ x a, SameFlags x (f x a))
    (x : Exporter) (records : List α) : SameFlags x (records.foldl f x) := by
  induction records generalizing x with
  | nil => exact .refl x
  | cons a rest ih => exact (hf x a).trans (ih _)

theorem sameFlags_dropControl (x : Exporter) : SameFlags x (x.dropControl stream) :=
  (admits_modify ..).sameFlags

theorem sameFlags_accountUnwritten (x : Exporter) (q : Queued) :
    SameFlags x (x.accountUnwritten q) := by
  unfold accountUnwritten
  split
  · exact (admits_modify ..).sameFlags
  · exact sameFlags_dropControl x

theorem sameFlags_dropPending (x : Exporter) : SameFlags x x.dropPending := by
  have h := sameFlags_foldl sameFlags_accountUnwritten x (x.inflight ++ x.queue)
  exact ⟨⟨h.closing, h.closed⟩, h.writerFailed⟩

theorem sameGates_markWriterFailure (x : Exporter) : SameGates x x.markWriterFailure := by
  obtain ⟨hgates, -⟩ := sameFlags_dropPending (({ x with
    ledger := fun s => { x.ledger s with writerFailures := (x.ledger s).writerFailures + 1 }
    writerFailed := true } : Exporter).countDiagnostic "writer_failure")
  exact ⟨hgates.closing, hgates.closed⟩

/-- A written record fails the writer only when it is not the first in flight. -/
theorem sameFlags_recordWritten {q : Queued} {rest : List Queued} (h : x.inflight = q :: rest) :
    SameFlags x (x.recordWritten q) := by
  simp only [recordWritten, h, Queued.same_self, Bool.not_true, Bool.false_eq_true, if_false]
  exact ⟨⟨rfl, rfl⟩, rfl⟩

theorem sameGates_recordWritten (x : Exporter) (q : Queued) : SameGates x (x.recordWritten q) := by
  unfold recordWritten
  split
  · exact sameGates_markWriterFailure x
  · split
    · exact sameGates_markWriterFailure x
    · exact ⟨rfl, rfl⟩

theorem sameGates_forceTimeoutAccounting (x : Exporter) (alreadyTimeout : Bool) :
    SameGates x (x.forceTimeoutAccounting alreadyTimeout) := by
  have h := sameFlags_dropPending x
  unfold forceTimeoutAccounting
  dsimp only
  split <;> exact ⟨h.closing, h.closed⟩

theorem sameFlags_admitControl (a : Admitted) (q : Queued) :
    SameFlags a.x (a.admitControl q).x := by
  unfold Admitted.admitControl
  split
  · exact sameFlags_dropControl a.x
  · exact .refl a.x

theorem sameFlags_admitGroup (a : Admitted) (observedNs : Nat) (group : List Queued) :
    SameFlags a.x (a.admitGroup cfg stream observedNs group).x := by
  have hloss : SameFlags a.x (timeoutLossControl cfg a.x stream group observedNs).1 := by
    unfold timeoutLossControl
    dsimp only
    split
    · exact (admits_modify ..).sameFlags.trans (sameFlags_dropControl _)
    · exact ⟨⟨rfl, rfl⟩, rfl⟩
  unfold Admitted.admitGroup
  split
  · next x heq => simpa only [heq] using hloss
  · next x control heq =>
    refine SameFlags.trans (y := x) (by simpa only [heq] using hloss) ?_
    exact sameFlags_admitControl { a with x := x } control

theorem sameFlags_admitted {α : Type} {f : Admitted → α → Admitted}
    (hf : ∀ a b, SameFlags a.x (f a b).x) (a : Admitted) (records : List α) :
    SameFlags a.x (records.foldl f a).x := by
  induction records generalizing a with
  | nil => exact .refl a.x
  | cons b rest ih => exact (hf a b).trans (ih _)

theorem sameFlags_prepareTimeoutControls (cfg : Config) (x : Exporter) (observedNs : Nat) :
    SameFlags x (x.prepareTimeoutControls cfg observedNs).1 := by
  have hunknown := sameFlags_foldl (f := fun x (q : Queued) => x.dropControl q.stream)
    (fun x _ => sameFlags_dropControl x) x ((x.inflight ++ x.queue).filter fun q =>
      !(q.recordType = RecordType.lossInterval || q.isData))
  have hclear : ∀ y : Exporter, SameFlags y y.clearPending := fun y => ⟨⟨rfl, rfl⟩, rfl⟩
  have hadmitted : SameFlags x (x.timeoutAdmission cfg observedNs).x :=
    (hunknown.trans (hclear _)).trans
      ((sameFlags_admitted sameFlags_admitControl { x := _ } _).trans
      ((sameFlags_admitted (sameFlags_admitGroup · observedNs ·) _ _).trans
        (sameFlags_admitted (sameFlags_admitGroup · observedNs ·) _ _)))
  exact ⟨⟨hadmitted.closing, hadmitted.closed⟩, hadmitted.writerFailed⟩

theorem sameFlags_expireControls (x : Exporter) : SameFlags x x.expireControls := by
  have h := sameFlags_foldl (f := fun x (q : Queued) => x.dropControl q.stream)
    (fun x _ => sameFlags_dropControl x) x x.inflight
  exact ⟨⟨h.closing, h.closed⟩, h.writerFailed⟩

theorem sameFlags_reserveControl (stream : StreamId) (x : Exporter) (raw : Bytes) :
    SameFlags x (x.reserveControl stream raw).1 := by
  unfold reserveControl
  split
  · exact sameFlags_dropControl x
  · exact ⟨⟨rfl, rfl⟩, rfl⟩

theorem sameFlags_releaseControl (stream : StreamId) (x : Exporter) (raw : Bytes) :
    SameFlags x (x.releaseControl stream raw) := (admits_modify ..).sameFlags

end Exporter

/-! ## Where the writer is -/

namespace WriterPc

/-- The main loop and what leads to the first receipt flag. -/
def beforeReceipt : WriterPc → Bool
  | started | removing | gate | gateShut | loop | batch _ | check .. | stage _ | persist _
  | recordWritten _ | failing | drained | preparing | controls _ | controlsExpired | timedOut
  | summaryStart _ | moveShard .. | summaryCheck _ | buildSummary .. | reserve _ | refused _
  | dropSummary _ | release .. | afterSummary .. | lateInvalidation _
  | setSummaryWritten .profile _ => true
  | _ => false

/-- The main loop and the summary, up to the end of the latter. -/
def prepares (pc : WriterPc) : Bool :=
  (match pc with
    | finalize | setSummaryWritten .. | setOutcome _ => true
    | _ => false) || pc.beforeReceipt

/-- Controls are being written for a deadline that has passed. -/
def late : WriterPc → Bool
  | check job _ | stage job | persist job | recordWritten job => job.isControl
  | preparing | controls _ | controlsExpired | timedOut => true
  | _ => false

end WriterPc

def Job.closeOutcome? : Job → Option CloseOutcome
  | summary _ closeOutcome .. => some closeOutcome
  | _ => none

namespace WriterPc

/-- The outcome the summary is written for. -/
def closeOutcome? : WriterPc → Option CloseOutcome
  | check job _ | stage job | persist job | recordWritten job | reserve job | dropSummary job
  | release job _ => job.closeOutcome?
  | drained => some .drained
  | summaryStart o | moveShard _ o | summaryCheck o | buildSummary _ o | refused o
  | afterSummary _ o | setSummaryWritten _ o | setOutcome o => some o
  | _ => none

/-- The writer holds the condition lock between two steps, or is done. -/
def ends : WriterPc → Bool
  | claiming | finalClaim | terminated => true
  | _ => false

/-- The shard of a stream has been moved aside. -/
def staged (t : StreamId) : WriterPc → Bool
  | check job _ | stage job | persist job | recordWritten job => job.closeOutcome?.isSome
  | moveShard .profile _ => t = .base
  | summaryCheck _ | buildSummary .. | reserve _ | refused _ | dropSummary _ | release ..
  | afterSummary .. | setSummaryWritten .. | setOutcome _ => true
  | _ => false

end WriterPc

/-! ## The steps of the writer -/

/-- What no step of the writer touches. -/
structure Frame (s s' : TraceSink) : Prop where
  abandoned : s'.abandoned = s.abandoned
  closeDeadlineNs : s'.closeDeadlineNs = s.closeDeadlineNs
  closeLock : s'.closeLock = s.closeLock
  closers : s'.closers = s.closers
  now : s'.now = s.now
  closing : s'.x.closing = s.x.closing

theorem Frame.deadlineReached {s s' : TraceSink} (h : Frame s s') :
    s'.deadlineReached = s.deadlineReached := by
  rw [TraceSink.deadlineReached, TraceSink.deadlineReached, h.closeDeadlineNs, h.now]

/-- What the main loop and the summary leave alone. -/
structure Prepares (s s' : TraceSink) : Prop extends Frame s s' where
  claim : s'.claim = s.claim
  lock : s'.lock = s.lock
  closed : s'.x.closed = s.x.closed

theorem Prepares.of_update {s : TraceSink} {x : Exporter} {shard : StreamId → Shard}
    {flags : StreamId → Bool} {outcome : Option CloseOutcome} {pc : WriterPc}
    (hx : Exporter.SameGates s.x x) :
    Prepares s { s with
      x := x, shard := shard, summaryWritten := flags, writerOutcome := outcome, writer := pc } :=
  ⟨⟨rfl, rfl, rfl, rfl, rfl, hx.closing⟩, rfl, rfl, hx.closed⟩

/-- Where the main loop can go. -/
structure LoopsTo (s s' : TraceSink) : Prop where
  next : s'.writer = .finalize ∨ s'.writer.beforeReceipt = true
  late : s'.writer.late = true → s.writer.late = true ∨ s.deadlineReached = true ∨
    s.writer = .gateShut ∧ s.abandoned = false
  removing : s'.writer = .removing → s.abandoned = true
  shut : s'.writer = .gateShut → s.abandoned = true ∨ s.deadlineReached = true
  closeOutcome : ∀ o, s'.writer.closeOutcome? = some o → s.writer.closeOutcome? = some o ∨
    o = .drained ∧ s.x.closing = true ∨ s.writer.late = true ∧ s.deadlineReached = false
  staged : ∀ t, s'.writer.staged t = true → s.writer.staged t = true
  finalized : s'.writer = .finalize → s.writer = .removing ∨ s'.abandoned = true ∨
    s'.x.writerFailed = true ∨ s'.writerOutcome = some .timeout

/-- A step of the main loop. -/
structure Loops (s s' : TraceSink) : Prop extends Prepares s s', LoopsTo s s' where
  summaryWritten : s'.summaryWritten = s.summaryWritten
  formal : ∀ t, (s'.shard t).formal = .published → (s.shard t).formal = .published
  incomplete : ∀ t, (s'.shard t).incomplete = (s.shard t).incomplete
  reserved : ∀ t, (s'.shard t).reserved = (s.shard t).reserved
  outcome : s'.writerOutcome = s.writerOutcome ∨ s'.writerOutcome = some .timeout
  writerFailed : Accounted s → s.abandoned = false → s'.writer ≠ .finalize →
    s'.x.writerFailed = s.x.writerFailed

namespace Loops
variable {cfg : Config} {s s' : TraceSink} {c : Choice}

theorem of_update {x : Exporter} {outcome : Option CloseOutcome} {pc : WriterPc}
    (hx : Exporter.SameGates s.x x) (houtcome : outcome = s.writerOutcome ∨ outcome = some .timeout)
    (hto : LoopsTo s { s with x := x, writerOutcome := outcome, writer := pc })
    (hfailed : Accounted s → s.abandoned = false → pc ≠ .finalize →
      x.writerFailed = s.x.writerFailed) :
    Loops s { s with x := x, writerOutcome := outcome, writer := pc } :=
  ⟨.of_update hx, hto, rfl, fun _ h => h, fun _ => rfl, fun _ => rfl, houtcome, hfailed⟩

theorem of_goto {pc : WriterPc} (hto : LoopsTo s (s.goto pc)) : Loops s (s.goto pc) :=
  .of_update ⟨rfl, rfl⟩ (.inl rfl) hto fun _ _ _ => rfl

theorem of_appendLine {stream : StreamId} {line : Line} {pc : WriterPc}
    (hto : LoopsTo s ((s.appendLine stream line).goto pc)) :
    Loops s ((s.appendLine stream line).goto pc) := by
  refine ⟨.of_update ⟨rfl, rfl⟩, hto, rfl, fun t => ?_, fun t => ?_, fun t => ?_, .inl rfl,
    fun _ _ _ => rfl⟩
  all_goals
    dsimp only [TraceSink.goto, TraceSink.appendLine, TraceSink.setShard]
    split
  all_goals first | exact id | rfl

end Loops

namespace LoopsTo
variable {cfg : Config} {s s' : TraceSink} {c : Choice}

/-- The writer works on, with no deadline passed and no summary begun. -/
theorem plain {s' : TraceSink} (hnext : s'.writer.beforeReceipt = true)
    (hlate : s'.writer.late = false) (hoc : s'.writer.closeOutcome? = none)
    (hstaged : ∀ t, s'.writer.staged t = false)
    (hne : s'.writer ≠ .removing ∧ s'.writer ≠ .gateShut) :
    LoopsTo s s' := by
  refine ⟨.inr hnext, fun h => ?_, fun h => absurd h hne.1, fun h => absurd h hne.2, fun o h => ?_,
    fun t h => ?_, fun h => ?_⟩
  · rw [hlate] at h
    cases h
  · rw [hoc] at h
    cases h
  · rw [hstaged t] at h
    cases h
  · rw [h] at hnext
    cases hnext

theorem ended (hpc : s'.writer = .finalize) (h : s.writer = .removing ∨ s'.abandoned = true ∨
    s'.x.writerFailed = true ∨ s'.writerOutcome = some .timeout) : LoopsTo s s' := by
  refine ⟨.inl hpc, ?_, ?_, ?_, ?_, ?_, fun _ => h⟩
  all_goals
    rw [hpc]
    simp [WriterPc.late, WriterPc.closeOutcome?, WriterPc.staged]

/-- A deadline has passed for what the writer turns to. -/
theorem expired (hnext : s'.writer.beforeReceipt = true) (hoc : s'.writer.closeOutcome? = none)
    (hstaged : ∀ t, s'.writer.staged t = false)
    (hne : s'.writer ≠ .removing ∧ s'.writer ≠ .gateShut)
    (hlate : s.writer.late = true ∨ s.deadlineReached = true ∨
      s.writer = .gateShut ∧ s.abandoned = false) : LoopsTo s s' := by
  refine ⟨.inr hnext, fun _ => hlate, fun h => absurd h hne.1, fun h => absurd h hne.2,
    fun o h => ?_, fun t h => ?_, fun h => ?_⟩
  · rw [hoc] at h
    cases h
  · rw [hstaged t] at h
    cases h
  · rw [h] at hnext
    cases hnext

/-- The writer goes on with the same job, or gives it up. -/
theorem job (hnext : s'.writer.beforeReceipt = true)
    (hlate : s'.writer.late = true → s.writer.late = true)
    (hoc : ∀ o, s'.writer.closeOutcome? = some o → s.writer.closeOutcome? = some o)
    (hstaged : ∀ t, s'.writer.staged t = true → s.writer.staged t = true)
    (hne : s'.writer ≠ .removing ∧ s'.writer ≠ .gateShut) : LoopsTo s s' := by
  refine ⟨.inr hnext, fun h => .inl (hlate h), fun h => absurd h hne.1, fun h => absurd h hne.2,
    fun o h => .inl (hoc o h), hstaged, fun h => ?_⟩
  rw [h] at hnext
  cases hnext

theorem raised {job : Job} (hpc : s'.writer = TraceSink.writeRaised job)
    (hs : (∃ staged, s.writer = .check job staged) ∨ s.writer = .stage job ∨
      s.writer = .persist job) : LoopsTo s s' := by
  have hraised : (TraceSink.writeRaised job).late = false ∧
      (∀ o, (TraceSink.writeRaised job).closeOutcome? = some o → job.closeOutcome? = some o) ∧
      (∀ t, (TraceSink.writeRaised job).staged t = true → job.closeOutcome?.isSome = true) := by
    cases job <;> simp [TraceSink.writeRaised, WriterPc.late, WriterPc.closeOutcome?,
      WriterPc.staged, Job.closeOutcome?]
  have hjob : s.writer.closeOutcome? = job.closeOutcome? ∧
      ∀ t, s.writer.staged t = job.closeOutcome?.isSome := by
    rcases hs with ⟨_, h⟩ | h | h <;> rw [h] <;> exact ⟨rfl, fun _ => rfl⟩
  refine .job ?_ ?_ (fun o h => ?_) (fun t h => ?_) ?_
  · rw [hpc]
    cases job <;> rfl
  · rw [hpc, hraised.1]
    simp
  · rw [hjob.1]
    exact hraised.2.1 o (hpc ▸ h)
  · rw [hjob.2]
    exact hraised.2.2 t (hpc ▸ h)
  · rw [hpc]
    cases job <;> simp [TraceSink.writeRaised]

end LoopsTo

theorem Loops.of_runStep {cfg : Config} {s s' : TraceSink} {c : Choice}
    (hstep : s.runStep cfg c s.writer = some s') : Loops s s' := by
  generalize hpc : s.writer = pc at hstep
  cases pc with
  | started =>
    simp only [TraceSink.runStep] at hstep
    obtain ⟨-, rfl⟩ := TraceSink.locked_eq_some.mp hstep
    refine .of_goto ?_
    split
    · next ha => exact ⟨.inr rfl, by rintro ⟨⟩, fun _ => ha, by simp, by rintro _ ⟨⟩,
        fun _ => by rintro ⟨⟩, by simp⟩
    · exact .plain rfl rfl rfl (fun _ => rfl) ⟨by simp, by simp⟩
  | removing =>
    simp only [TraceSink.runStep, Option.some.injEq] at hstep
    subst hstep
    refine ⟨.of_update ⟨rfl, rfl⟩, .ended rfl (.inl hpc), rfl, fun t => ?_, fun t => ?_,
      fun t => ?_, .inl rfl, fun _ _ _ => rfl⟩
    all_goals dsimp only [TraceSink.goto]
    · split
      · simp
      · exact id
    · split <;> rfl
    · split <;> rfl
  | gate =>
    simp only [TraceSink.runStep] at hstep
    split at hstep
    · cases hstep
      exact .of_goto (.plain rfl rfl rfl (fun _ => rfl) ⟨by simp, by simp⟩)
    · obtain ⟨-, rfl⟩ := TraceSink.locked_eq_some.mp hstep
      refine .of_goto ?_
      split
      · next hshut =>
        refine ⟨.inr rfl, by rintro ⟨⟩, by simp, fun _ => ?_, by rintro _ ⟨⟩, fun _ => by rintro ⟨⟩,
          by simp⟩
        simp only [TraceSink.cutoffReached, Bool.or_eq_true, Bool.and_eq_true] at hshut
        exact hshut.imp id fun h => h.1.2
      · exact .plain rfl rfl rfl (fun _ => rfl) ⟨by simp, by simp⟩
  | gateShut =>
    simp only [TraceSink.runStep] at hstep
    obtain ⟨-, rfl⟩ := TraceSink.locked_eq_some.mp hstep
    refine .of_goto ?_
    split
    · next ha => exact .ended rfl (.inr (.inl ha))
    · next ha =>
      exact .expired rfl rfl (fun _ => rfl) ⟨by simp, by simp⟩
        (.inr (.inr ⟨hpc, by simpa using ha⟩))
  | loop =>
    simp only [TraceSink.runStep] at hstep
    split at hstep
    · next ha =>
      obtain ⟨-, rfl⟩ := TraceSink.locked_eq_some.mp hstep
      exact .of_goto (.ended rfl (.inr (.inl ha)))
    · split at hstep
      · obtain ⟨-, rfl⟩ := TraceSink.locked_eq_some.mp hstep
        refine .of_update ⟨rfl, rfl⟩ (.inl rfl) ?_ fun _ _ _ => rfl
        refine .plain ?_ ?_ ?_ (fun t => ?_) ⟨?_, ?_⟩
        all_goals simp [hpc, WriterPc.beforeReceipt, WriterPc.late, WriterPc.closeOutcome?,
          WriterPc.staged]
      · split at hstep
        · cases hstep
        · next hwork =>
          split at hstep
          · next hcut =>
            obtain ⟨-, rfl⟩ := TraceSink.locked_eq_some.mp hstep
            simp only [TraceSink.cutoffReached, Bool.and_eq_true] at hcut
            exact .of_goto (.expired rfl rfl (fun _ => rfl) ⟨by simp, by simp⟩
              (.inr (.inl hcut.1.2)))
          · split at hstep
            · next hempty =>
              obtain ⟨-, rfl⟩ := TraceSink.locked_eq_some.mp hstep
              refine .of_goto ⟨.inr rfl, by rintro ⟨⟩, by simp, by simp, fun o ho => ?_,
                fun _ => by rintro ⟨⟩, by simp⟩
              refine .inr (.inl ⟨?_, ?_⟩)
              · cases ho
                rfl
              · simpa [hempty] using hwork
            · obtain ⟨-, rfl⟩ := TraceSink.locked_eq_some.mp hstep
              exact .of_update (x := s.x.takeBatch.1) ⟨rfl, rfl⟩ (.inl rfl)
                (.plain rfl rfl rfl (fun _ => rfl) ⟨by simp, by simp⟩) fun _ _ _ => rfl
  | batch rest =>
    cases rest with
    | nil =>
      simp only [TraceSink.runStep, Option.some.injEq] at hstep
      subst hstep
      exact .of_goto (.plain rfl rfl rfl (fun _ => rfl) ⟨by simp, by simp⟩)
    | cons q rest =>
      simp only [TraceSink.runStep] at hstep
      obtain ⟨-, rfl⟩ := TraceSink.locked_eq_some.mp hstep
      refine .of_goto ?_
      split
      · next ha => exact .ended rfl (.inr (.inl ha))
      · split
        · next hcut =>
          simp only [TraceSink.cutoffReached, Bool.and_eq_true] at hcut
          exact .expired rfl rfl (fun _ => rfl) ⟨by simp, by simp⟩ (.inr (.inl hcut.1.2))
        · exact .plain rfl rfl rfl (fun _ => rfl) ⟨by simp, by simp⟩
  | check job staged =>
    simp only [TraceSink.runStep] at hstep
    obtain ⟨-, rfl⟩ := TraceSink.locked_eq_some.mp hstep
    refine .of_goto ?_
    split
    · exact .raised rfl (.inl ⟨staged, hpc⟩)
    · split
      all_goals
        refine .job rfl (fun h => ?_) (fun o h => ?_) (fun t h => ?_) ⟨by simp, by simp⟩
        all_goals
          rw [hpc]
          exact h
  | stage job =>
    simp only [TraceSink.runStep, Option.some.injEq] at hstep
    subst hstep
    refine .of_goto ?_
    split
    · refine .job rfl (fun h => ?_) (fun o h => ?_) (fun t h => ?_) ⟨by simp, by simp⟩
      all_goals
        rw [hpc]
        exact h
    · exact .raised rfl (.inr (.inl hpc))
  | persist job =>
    simp only [TraceSink.runStep] at hstep
    split at hstep
    · cases hstep
      refine .of_appendLine (.job ?_ ?_ (fun o h => ?_) ?_ ?_)
      · cases job <;> rfl
      · rw [hpc]
        cases job <;> simp [TraceSink.writeReturned, WriterPc.late, Job.isControl]
      · rw [hpc]
        cases job <;> exact h
      · rw [hpc]
        cases job <;> simp [TraceSink.writeReturned, WriterPc.staged, Job.closeOutcome?]
      · cases job <;> exact ⟨by rintro ⟨⟩, by rintro ⟨⟩⟩
    · cases hstep
      exact .of_appendLine (.raised rfl (.inr (.inr hpc)))
  | recordWritten job =>
    cases job with
    | summary => simp [TraceSink.runStep] at hstep
    | batch q rest =>
      simp only [TraceSink.runStep] at hstep
      obtain ⟨-, rfl⟩ := TraceSink.locked_eq_some.mp hstep
      refine .of_update ?_ (.inl rfl) (.plain rfl rfl rfl (fun _ => rfl) ⟨by simp, by simp⟩)
        fun h ha _ => ?_
      · split
        · exact ⟨rfl, rfl⟩
        · exact Exporter.sameGates_recordWritten s.x q
      · rw [ha, if_neg (by simp)]
        exact (Exporter.sameFlags_recordWritten (h.carried ha (q :: rest) (by
          rw [hpc]
          rfl))).writerFailed
    | control q rest =>
      simp only [TraceSink.runStep] at hstep
      obtain ⟨-, rfl⟩ := TraceSink.locked_eq_some.mp hstep
      refine .of_update ?_ (.inl rfl) (.expired rfl rfl (fun _ => rfl) ⟨by simp, by simp⟩ (.inl ?_))
        fun h ha _ => ?_
      · split
        · exact ⟨rfl, rfl⟩
        · exact Exporter.sameGates_recordWritten s.x q
      · rw [hpc]
        rfl
      · rw [ha, if_neg (by simp)]
        exact (Exporter.sameFlags_recordWritten (h.carried ha (q :: rest) (by
          rw [hpc]
          rfl))).writerFailed
  | failing =>
    simp only [TraceSink.runStep] at hstep
    obtain ⟨-, rfl⟩ := TraceSink.locked_eq_some.mp hstep
    exact .of_update (Exporter.sameGates_markWriterFailure s.x) (.inl rfl)
      (.ended rfl (.inr (.inr (.inl (by
        exact (Exporter.sameFlags_dropPending _).writerFailed))))) fun _ _ h => absurd rfl h
  | drained =>
    simp only [TraceSink.runStep, Option.some.injEq] at hstep
    subst hstep
    refine .of_goto ?_
    split
    · refine .job rfl (by rintro ⟨⟩) (fun o h => ?_) (fun _ => by rintro ⟨⟩) ⟨by simp, by simp⟩
      rw [hpc]
      exact h
    · exact .plain rfl rfl rfl (fun _ => rfl) ⟨by simp, by simp⟩
  | preparing =>
    simp only [TraceSink.runStep] at hstep
    obtain ⟨-, rfl⟩ := TraceSink.locked_eq_some.mp hstep
    have hsame := Exporter.sameFlags_prepareTimeoutControls cfg s.x s.now
    exact .of_update hsame.toSameGates (.inr rfl)
      (.expired rfl rfl (fun _ => rfl) ⟨by simp, by simp⟩ (.inl (hpc ▸ rfl))) fun _ _ _ =>
        hsame.writerFailed
  | controls rest =>
    cases rest with
    | nil =>
      simp only [TraceSink.runStep] at hstep
      split at hstep
      · cases hstep
        exact .of_update ⟨rfl, rfl⟩ (.inr rfl) (.ended rfl (.inr (.inr (.inr rfl))))
          fun _ _ _ => rfl
      · next hnot =>
        cases hstep
        refine .of_goto ⟨.inr rfl, by rintro ⟨⟩, by simp, by simp,
          fun o h => .inr (.inr ⟨hpc ▸ rfl, ?_⟩),
          fun _ => by rintro ⟨⟩, by simp⟩
        simp only [Bool.or_eq_true, not_or] at hnot
        simpa using hnot.1
    | cons q rest =>
      simp only [TraceSink.runStep, Option.some.injEq] at hstep
      subst hstep
      refine .of_goto ?_
      split <;> exact .expired rfl rfl (fun _ => rfl) ⟨by simp, by simp⟩ (.inl (hpc ▸ rfl))
  | controlsExpired =>
    simp only [TraceSink.runStep] at hstep
    obtain ⟨-, rfl⟩ := TraceSink.locked_eq_some.mp hstep
    have hsame := Exporter.sameFlags_expireControls s.x
    exact .of_update hsame.toSameGates (.inl rfl)
      (.expired rfl rfl (fun _ => rfl) ⟨by simp, by simp⟩ (.inl (hpc ▸ rfl))) fun _ _ _ =>
        hsame.writerFailed
  | timedOut =>
    simp only [TraceSink.runStep, Option.some.injEq] at hstep
    subst hstep
    exact .of_update ⟨rfl, rfl⟩ (.inr rfl) (.ended rfl (.inr (.inr (.inr rfl)))) fun _ _ _ => rfl
  | _ => simp [TraceSink.runStep] at hstep

theorem sameFlags_appendInvalidation (cfg : Config) (s : TraceSink) (c : Choice)
    (stream : StreamId) : Exporter.SameFlags s.x (s.appendInvalidation cfg c stream).x := by
  unfold TraceSink.appendInvalidation
  split
  · next record raw _ =>
    have hreserve := Exporter.sameFlags_reserveControl stream s.x raw
    split
    · next x heq => simpa only [heq] using hreserve
    · next x heq =>
      rw [heq] at hreserve
      split
      · exact hreserve.trans (Exporter.sameFlags_releaseControl stream x raw)
      · exact (hreserve.trans (Exporter.sameFlags_dropControl x)).trans
          (Exporter.sameFlags_releaseControl stream _ raw)
  · exact .refl s.x

/-- An invalidation changes the exporter and the lines of its shard. -/
theorem appendInvalidation_eq (cfg : Config) (s : TraceSink) (c : Choice) (stream : StreamId) :
    ∃ (x : Exporter) (lines : StreamId → List Line), Exporter.SameFlags s.x x ∧
      s.appendInvalidation cfg c stream =
        { s with x := x, shard := fun t => { s.shard t with lines := lines t } } := by
  have hflags := sameFlags_appendInvalidation cfg s c stream
  refine ⟨_, fun t => ((s.appendInvalidation cfg c stream).shard t).lines, hflags, ?_⟩
  unfold TraceSink.appendInvalidation
  split
  · split
    · rfl
    · split
      all_goals
        unfold TraceSink.appendLine TraceSink.setShard
        simp only [TraceSink.mk.injEq, true_and, and_true]
        funext t
        split <;> rfl
  · rfl


structure Summarises (s s' : TraceSink) : Prop extends Prepares s s' where
  writerFailed : s'.x.writerFailed = s.x.writerFailed
  formal : ∀ t, (s'.shard t).formal = .published → (s.shard t).formal = .published
  late : s'.writer.late = false
  prepares : s'.writer.prepares = true
  gates : s'.writer ≠ .removing ∧ s'.writer ≠ .gateShut
  closeOutcome : ∀ o, s'.writer.closeOutcome? = some o → s.writer.closeOutcome? = some o
  outcome : s'.writerOutcome = s.writerOutcome ∨ s'.writer = .finalize ∨
    s'.writerOutcome = some .timeout
  invalidating : ∀ t, s'.writer = .lateInvalidation t → s'.writerOutcome = some .timeout ∨
    s'.writerOutcome = s.writerOutcome ∧ ∃ t, s.writer = .lateInvalidation t
  finalized : s'.writer = .finalize → s'.writerOutcome = some .timeout ∨
    (∃ o, (s.writer = .refused o ∨ s.writer = .setOutcome o) ∧ s'.writerOutcome = some o) ∨
    s'.writerOutcome = s.writerOutcome ∧ ∃ t, s.writer = .lateInvalidation t

namespace Summarises
variable {cfg : Config} {s s' : TraceSink} {c : Choice}

/-- The outcome is stored last. -/
theorem ended {x : Exporter} {outcome : Option CloseOutcome} (hx : Exporter.SameFlags s.x x)
    (h : outcome = some .timeout ∨
      ∃ o, (s.writer = .refused o ∨ s.writer = .setOutcome o) ∧ outcome = some o) :
    Summarises s ({ s with x := x, writerOutcome := outcome }.goto .finalize) :=
  ⟨.of_update hx.toSameGates, hx.writerFailed, fun _ h => h, rfl, rfl, ⟨nofun, nofun⟩, nofun,
    .inr (.inl rfl), nofun, fun _ => h.imp id .inl⟩

/-- The summary goes on for the same outcome. -/
theorem goes {x : Exporter} {pc : WriterPc} (flags : StreamId → Bool)
    (hx : Exporter.SameFlags s.x x) (hlate : pc.late = false ∧ pc.prepares = true)
    (hoc : ∀ o, pc.closeOutcome? = some o → s.writer.closeOutcome? = some o)
    (hne : pc ≠ .removing ∧ pc ≠ .gateShut ∧ pc ≠ .finalize ∧ ∀ t, pc ≠ .lateInvalidation t) :
    Summarises s ({ s with x := x, summaryWritten := flags }.goto pc) :=
  ⟨.of_update hx.toSameGates, hx.writerFailed, fun _ h => h, hlate.1, hlate.2,
    ⟨hne.1, hne.2.1⟩, hoc, .inl rfl, fun t h => absurd h (hne.2.2.2 t), fun h => absurd h hne.2.2.1⟩

theorem of_summaryStep (hstep : s.summaryStep cfg c s.writer = some s') : Summarises s s' := by
  generalize hpc : s.writer = pc at hstep
  have hrefl := Exporter.SameFlags.refl s.x
  cases pc with
  | summaryStart o =>
    simp only [TraceSink.summaryStep] at hstep
    split at hstep
    · cases hstep
      exact .ended hrefl (.inl rfl)
    · cases hstep
      exact .goes s.summaryWritten hrefl ⟨rfl, rfl⟩
        (fun _ h => hpc ▸ h) ⟨by simp, by simp, by simp, by simp⟩
  | moveShard stream o =>
    -- whichever way the step goes, no formal path names a completed shard
    have hmoves : ∀ (f : Shard → Shard) (pc : WriterPc), (∀ shard, (f shard).formal = .published →
        shard.formal = .published) → pc.late = false ∧ pc.prepares = true →
        (∀ o', pc.closeOutcome? = some o' → o' = o) →
        pc ≠ .removing ∧ pc ≠ .gateShut ∧ pc ≠ .finalize ∧ (∀ t, pc ≠ .lateInvalidation t) →
        Summarises s ((s.setShard stream f).goto pc) := by
      intro f pc hf hlate hoc hne
      refine ⟨.of_update ⟨rfl, rfl⟩, rfl, fun t => ?_, hlate.1, hlate.2, ⟨hne.1, hne.2.1⟩,
        fun o' h => ?_, .inl rfl, fun t h => absurd h (hne.2.2.2 t), fun h => absurd h hne.2.2.1⟩
      · dsimp only [TraceSink.goto, TraceSink.setShard]
        split
        · exact hf _
        · exact id
      · rw [hpc, hoc o' h]
        rfl
    have hnext : ∀ b : Bool, ((if b then WriterPc.moveShard .profile o
        else .summaryCheck o).late = false ∧ (if b then WriterPc.moveShard .profile o
        else .summaryCheck o).prepares = true) ∧
        (∀ o', (if b then WriterPc.moveShard .profile o
          else .summaryCheck o).closeOutcome? = some o' → o' = o) ∧
        (if b then WriterPc.moveShard .profile o else .summaryCheck o) ≠ .removing ∧
        (if b then WriterPc.moveShard .profile o else .summaryCheck o) ≠ .gateShut ∧
        (if b then WriterPc.moveShard .profile o else .summaryCheck o) ≠ .finalize ∧
        ∀ t, (if b then WriterPc.moveShard .profile o else .summaryCheck o) ≠
          .lateInvalidation t := by
      intro b
      cases b <;> simp [WriterPc.late, WriterPc.prepares, WriterPc.beforeReceipt,
        WriterPc.closeOutcome?, eq_comm]
    have hstay : ∀ pc, (s.setShard stream id).goto pc = s.goto pc := by
      intro pc
      simp [TraceSink.setShard]
    simp only [TraceSink.summaryStep] at hstep
    split at hstep
    · cases hstep
      rw [← hstay]
      exact hmoves id _ (fun _ => id) (hnext _).1 (hnext _).2.1 (hnext _).2.2
    · split at hstep
      · cases hstep
        rw [← hstay]
        exact hmoves id _ (fun _ => id) ⟨rfl, rfl⟩ (by rintro _ ⟨⟩)
          ⟨by simp, by simp, by simp, by simp⟩
      · split at hstep
        · cases hstep
          exact hmoves _ _ (fun _ => by simp) (hnext _).1 (hnext _).2.1 (hnext _).2.2
        · cases hstep
          rw [← hstay]
          exact hmoves id _ (fun _ => id) ⟨rfl, rfl⟩ (by rintro _ ⟨⟩)
            ⟨by simp, by simp, by simp, by simp⟩
        · cases hstep
          exact hmoves _ _ (fun _ => by simp) ⟨rfl, rfl⟩ (by rintro _ ⟨⟩)
            ⟨by simp, by simp, by simp, by simp⟩
  | summaryCheck o =>
    simp only [TraceSink.summaryStep] at hstep
    split at hstep
    · cases hstep
      exact .ended hrefl (.inl rfl)
    · cases hstep
      exact .goes s.summaryWritten hrefl ⟨rfl, rfl⟩
        (fun _ h => hpc ▸ h) ⟨by simp, by simp, by simp, by simp⟩
  | buildSummary stream o =>
    simp only [TraceSink.summaryStep] at hstep
    split at hstep
    · cases hstep
      exact .goes s.summaryWritten hrefl ⟨rfl, rfl⟩
        (fun _ h => hpc ▸ h) ⟨by simp, by simp, by simp, by simp⟩
    · cases hstep
      exact .goes s.summaryWritten hrefl ⟨rfl, rfl⟩ (by rintro _ ⟨⟩)
        ⟨by simp, by simp, by simp, by simp⟩
  | reserve job =>
    obtain ⟨stream, o, record, raw, rfl, rfl⟩ := TraceSink.summaryStep_reserve hstep
    have hx := Exporter.sameFlags_reserveControl stream s.x raw
    split
    · exact .goes s.summaryWritten hx ⟨rfl, rfl⟩ (fun _ h => hpc ▸ h)
        ⟨by simp, by simp, by simp, by simp⟩
    · exact .goes s.summaryWritten hx ⟨rfl, rfl⟩ (fun _ h => hpc ▸ h)
        ⟨by simp, by simp, by simp, by simp⟩
  | refused o =>
    simp only [TraceSink.summaryStep, Option.some.injEq] at hstep
    subst hstep
    exact .ended hrefl (.inr ⟨o, .inl hpc, rfl⟩)
  | dropSummary job =>
    simp only [TraceSink.summaryStep] at hstep
    obtain ⟨-, rfl⟩ := TraceSink.locked_eq_some.mp hstep
    exact .goes s.summaryWritten (Exporter.sameFlags_dropControl s.x) ⟨rfl, rfl⟩
      (fun _ h => hpc ▸ h) ⟨by simp, by simp, by simp, by simp⟩
  | release job written =>
    obtain ⟨stream, o, record, raw, rfl, rfl⟩ := TraceSink.summaryStep_release hstep
    have hx := Exporter.sameFlags_releaseControl stream s.x raw
    split
    · exact .goes s.summaryWritten hx ⟨rfl, rfl⟩ (fun _ h => hpc ▸ h)
        ⟨by simp, by simp, by simp, by simp⟩
    · exact .goes s.summaryWritten hx ⟨rfl, rfl⟩ (by rintro _ ⟨⟩)
        ⟨by simp, by simp, by simp, by simp⟩
  | afterSummary stream o =>
    simp only [TraceSink.summaryStep] at hstep
    split at hstep
    · cases hstep
      exact ⟨.of_update ⟨rfl, rfl⟩, rfl, fun _ h => h, rfl, rfl, ⟨by simp, by simp⟩, by rintro _ ⟨⟩,
        .inr (.inr rfl), fun _ _ => .inl rfl, by simp⟩
    · split at hstep
      all_goals
        cases hstep
        exact .goes s.summaryWritten hrefl ⟨rfl, rfl⟩ (fun _ h => hpc ▸ h)
          ⟨by simp, by simp, by simp, by simp⟩
  | lateInvalidation stream =>
    simp only [TraceSink.summaryStep, Option.some.injEq] at hstep
    subst hstep
    obtain ⟨x, lines, hx, heq⟩ := appendInvalidation_eq cfg s c stream
    rw [heq]
    have hafter : (TraceSink.afterInvalidation cfg .lateInvalidation .finalize stream) = .finalize ∨
        (TraceSink.afterInvalidation cfg .lateInvalidation .finalize stream) =
          .lateInvalidation .profile := by
      cases stream
      · rw [TraceSink.afterInvalidation]
        split
        · exact .inr rfl
        · exact .inl rfl
      · exact .inl rfl
    have hstay : ∀ pc : WriterPc, pc.late = false ∧ pc.prepares = true → pc.closeOutcome? = none →
        pc ≠ .removing ∧ pc ≠ .gateShut → Summarises s ({ s with
          x := x, shard := fun t => { s.shard t with lines := lines t } }.goto pc) :=
      fun pc hlate hoc hne => ⟨.of_update hx.toSameGates, hx.writerFailed, fun _ h => h, hlate.1,
        hlate.2, hne, fun o h => by simp [hoc] at h, .inl rfl, fun _ _ => .inr ⟨rfl, stream, hpc⟩,
        fun _ => .inr (.inr ⟨rfl, stream, hpc⟩)⟩
    rcases hafter with h | h <;> rw [h] <;> exact hstay _ ⟨rfl, rfl⟩ rfl ⟨by simp, by simp⟩
  | setSummaryWritten stream o =>
    cases stream
    all_goals
      simp only [TraceSink.summaryStep, Option.some.injEq] at hstep
      subst hstep
      exact .goes _ hrefl ⟨rfl, rfl⟩ (fun _ h => hpc ▸ h) ⟨by simp, by simp, by simp, by simp⟩
  | setOutcome o =>
    simp only [TraceSink.summaryStep, Option.some.injEq] at hstep
    subst hstep
    exact .ended hrefl (.inr ⟨o, .inr hpc, rfl⟩)
  | _ => simp [TraceSink.summaryStep] at hstep

end Summarises

theorem Loops.prepares {s s' : TraceSink} (h : Loops s s') : s'.writer.prepares = true := by
  rcases h.next with hpc | hpc
  · rw [hpc]
    rfl
  · change (_ || s'.writer.beforeReceipt) = true
    rw [hpc, Bool.or_true]

theorem WriterPc.ends_of_prepares {pc : WriterPc} (h : pc.prepares = true) : pc.ends = false := by
  cases pc <;> first | rfl | cases h

theorem writerStep_cases {cfg : Config} {s s' : TraceSink} {c : Choice}
    (hstep : s.writerStep cfg c = some s') :
    s.runStep cfg c s.writer = some s' ∨ s.summaryStep cfg c s.writer = some s' ∨
      s.finalStep cfg c s.writer = some s' := by
  unfold TraceSink.writerStep at hstep
  split at hstep
  · next h =>
    cases hstep
    exact .inl h
  · split at hstep
    · next h =>
      cases hstep
      exact .inr (.inl h)
    · exact .inr (.inr hstep)

/-- The result the writer claims at the end, unless there is one. -/
def TraceSink.ownClaim (cfg : Config) (s : TraceSink) : WriterPc → Option CloseResult
  | .claiming => some (s.result cfg .drained true)
  | .finalClaim => some (s.result cfg (s.writerOutcome.getD (if s.x.writerFailed then .writerFailure
      else .drained)) (s.summaryWritten .base))
  | _ => none

/-- A step towards the end of the writer. -/
structure Finishes (cfg : Config) (s s' : TraceSink) : Prop extends Frame s s' where
  claim : s'.claim = s.claim ∨ ∃ candidate, s.ownClaim cfg s.writer = some candidate ∧
    s'.claim = some (s.claim.getD candidate)
  closed : s.x.closed = true → s'.x.closed = true

namespace Finishes
variable {cfg : Config} {s s' : TraceSink} {c : Choice}

/-- Most of these steps claim nothing. -/
theorem of_update {x : Exporter} {shard : StreamId → Shard} {flags : StreamId → Bool}
    {outcome : Option CloseOutcome} {lock : Option Party} {pc : WriterPc}
    (hclosing : x.closing = s.x.closing) (hclosed : s.x.closed = true → x.closed = true) :
    Finishes cfg s { s with
      x := x, shard := shard, summaryWritten := flags, writerOutcome := outcome, lock := lock
      writer := pc } :=
  ⟨⟨rfl, rfl, rfl, rfl, rfl, hclosing⟩, .inl rfl, hclosed⟩

theorem of_finalStep (hstep : s.finalStep cfg c s.writer = some s') : Finishes cfg s s' := by
  generalize hpc : s.writer = pc at hstep
  have hrevoke := Exporter.sameGates_markWriterFailure s.x
  have hrevoked : s.x.closed = true → s.x.markWriterFailure.closed = true := fun hc =>
    hrevoke.closed.trans hc
  cases pc with
  | claiming =>
    simp only [TraceSink.finalStep] at hstep
    split at hstep
    · cases hstep
      exact ⟨⟨rfl, rfl, rfl, rfl, rfl, rfl⟩, .inr ⟨_, hpc ▸ rfl, rfl⟩, fun _ => rfl⟩
    · cases hstep
      exact ⟨⟨rfl, rfl, rfl, rfl, rfl, rfl⟩, .inr ⟨_, hpc ▸ rfl, rfl⟩, fun hc => hc⟩
  | finalClaim =>
    simp only [TraceSink.finalStep, Option.some.injEq] at hstep
    subst hstep
    exact ⟨⟨rfl, rfl, rfl, rfl, rfl, rfl⟩, .inr ⟨_, hpc ▸ rfl, rfl⟩, fun hc => hc⟩
  | finalInvalidation stream =>
    simp only [TraceSink.finalStep, Option.some.injEq] at hstep
    subst hstep
    obtain ⟨x, lines, hx, heq⟩ := appendInvalidation_eq cfg s c stream
    rw [heq]
    exact .of_update hx.closing fun hc => hx.closed.trans hc
  | retract published expired =>
    cases published with
    | nil =>
      simp only [TraceSink.finalStep, Option.some.injEq] at hstep
      subst hstep
      exact .of_update rfl id
    | cons stream rest =>
      simp only [TraceSink.finalStep, Option.some.injEq] at hstep
      subst hstep
      split
      · exact .of_update rfl id
      · exact .of_update rfl id
      · obtain ⟨x, lines, hx, heq⟩ := appendInvalidation_eq cfg
          (s.setShard stream fun shard => { shard with reserved := false }) c stream
        rw [heq]
        exact .of_update hx.closing fun hc => hx.closed.trans hc
  | descriptorFailure =>
    simp only [TraceSink.finalStep] at hstep
    obtain ⟨-, rfl⟩ := TraceSink.locked_eq_some.mp hstep
    exact .of_update hrevoke.closing hrevoked
  | publicationFailure =>
    simp only [TraceSink.finalStep] at hstep
    obtain ⟨-, rfl⟩ := TraceSink.locked_eq_some.mp hstep
    exact .of_update hrevoke.closing hrevoked
  | finalException =>
    simp only [TraceSink.finalStep] at hstep
    obtain ⟨-, rfl⟩ := TraceSink.locked_eq_some.mp hstep
    exact .of_update hrevoke.closing hrevoked
  | closing =>
    simp only [TraceSink.finalStep] at hstep
    split at hstep
    all_goals
      obtain ⟨-, rfl⟩ := TraceSink.locked_eq_some.mp hstep
      exact .of_update (x := { s.x with closed := true }) rfl fun _ => rfl
  | finalize | finalInvalidated | flush | eligible | publicationExpired | flushLast =>
    simp only [TraceSink.finalStep] at hstep
    obtain ⟨-, rfl⟩ := TraceSink.locked_eq_some.mp hstep
    exact .of_update rfl id
  | closeDescriptors =>
    simp only [TraceSink.finalStep, Option.some.injEq] at hstep
    subst hstep
    exact .of_update rfl id
  | checkTargets | replace =>
    simp only [TraceSink.finalStep] at hstep
    split at hstep
    all_goals
      cases hstep
      exact .of_update rfl id
  | publicationClaim =>
    simp only [TraceSink.finalStep] at hstep
    split at hstep
    all_goals
      obtain ⟨-, rfl⟩ := TraceSink.locked_eq_some.mp hstep
      exact .of_update rfl id
  | _ => simp [TraceSink.finalStep] at hstep

end Finishes

theorem Frame.of_writerStep {cfg : Config} {s s' : TraceSink} {c : Choice}
    (hstep : s.writerStep cfg c = some s') : Frame s s' := by
  rcases writerStep_cases hstep with hrun | hsummary | hfinal
  · exact (Loops.of_runStep hrun).toFrame
  · exact (Summarises.of_summaryStep hsummary).toFrame
  · exact (Finishes.of_finalStep hfinal).toFrame

/-- What the writer claims is its own result or the claim that stands. -/
theorem writerStep_claim {cfg : Config} {s s' : TraceSink} {c : Choice}
    (hstep : s.writerStep cfg c = some s') : s'.claim = s.claim ∨
      ∃ candidate, s.ownClaim cfg s.writer = some candidate ∧
        s'.claim = some (s.claim.getD candidate) := by
  rcases writerStep_cases hstep with hrun | hsummary | hfinal
  · exact .inl (Loops.of_runStep hrun).claim
  · exact .inl (Summarises.of_summaryStep hsummary).claim
  · exact (Finishes.of_finalStep hfinal).claim

/-! ## The steps of a caller -/

/-- What no caller of `close()` touches. -/
structure Calls (s s' : TraceSink) : Prop where
  writer : s'.writer = s.writer
  shard : s'.shard = s.shard
  summaryWritten : s'.summaryWritten = s.summaryWritten
  now : s'.now = s.now
  abandoned : s.abandoned = true → s'.abandoned = true

/-- The result a caller claims, unless there is one. -/
def TraceSink.callerClaim (cfg : Config) (s : TraceSink) : CloserPc → Option CloseResult
  | .wantCondition _ => some (s.result cfg .writerFailure false)
  | .wantFinal _ =>
    some (s.result cfg (s.writerOutcome.getD .writerFailure) (s.summaryWritten .base))
  | .forced candidate => some candidate
  | .timeoutClaim candidate => some candidate
  | _ => none

theorem Calls.of_closerStep {cfg : Config} {s s' : TraceSink} {id : Nat} {expired : Bool}
    (hstep : s.closerStep cfg id expired = some s') : Calls s s' := by
  unfold TraceSink.closerStep at hstep
  split at hstep
  case h_7 =>
    cases hstep
    exact ⟨rfl, rfl, rfl, rfl, fun _ => rfl⟩
  case h_11 =>
    cases hstep
    exact ⟨rfl, rfl, rfl, rfl, fun _ => rfl⟩
  all_goals
    repeat' split at hstep
  all_goals first
    | cases hstep
      done
    | cases hstep
      exact ⟨rfl, rfl, rfl, rfl, fun ha => ha⟩
    | obtain ⟨-, rfl⟩ := TraceSink.locked_eq_some.mp hstep
      exact ⟨rfl, rfl, rfl, rfl, fun ha => ha⟩

theorem closerStep_claim {cfg : Config} {s s' : TraceSink} {id : Nat} {expired : Bool}
    (hstep : s.closerStep cfg id expired = some s') : s'.claim = s.claim ∨
      ∃ candidate, s.callerClaim cfg (s.closers id) = some candidate ∧
        s'.claim = some (s.claim.getD candidate) ∧
        (∀ deadline, s.closers id = .wantFinal deadline → s.claim = none →
          s.writer = .terminated) ∧
        (∀ deadline, s.closers id = .wantCondition deadline → s.lock = none ∧
          s.x.closed = true) := by
  unfold TraceSink.closerStep at hstep
  split at hstep
  case h_4 deadline hpc =>
    split at hstep
    · split at hstep
      · cases hstep
        exact .inl rfl
      · cases hstep
    · split at hstep
      · obtain ⟨-, rfl⟩ := TraceSink.locked_eq_some.mp hstep
        exact .inl rfl
      · split at hstep
        · next hclosed =>
          obtain ⟨hlock, rfl⟩ := TraceSink.locked_eq_some.mp hstep
          exact .inr ⟨_, hpc ▸ rfl, rfl, by simp [hpc], fun _ _ => ⟨hlock, hclosed⟩⟩
        · obtain ⟨-, rfl⟩ := TraceSink.locked_eq_some.mp hstep
          exact .inl rfl
  case h_6 deadline hpc =>
    split at hstep
    · split at hstep
      · cases hstep
        exact .inl rfl
      · cases hstep
    · split at hstep
      · obtain ⟨-, rfl⟩ := TraceSink.locked_eq_some.mp hstep
        exact .inl rfl
      · next hended =>
        obtain ⟨-, rfl⟩ := TraceSink.locked_eq_some.mp hstep
        exact .inr ⟨_, hpc ▸ rfl, rfl, fun _ _ _ => hended, by simp [hpc]⟩
      · obtain ⟨-, rfl⟩ := TraceSink.locked_eq_some.mp hstep
        exact .inl rfl
  case h_8 candidate hpc =>
    cases hstep
    exact .inr ⟨_, hpc ▸ rfl, rfl, by simp [hpc], by simp [hpc]⟩
  case h_10 candidate hpc =>
    split at hstep
    · cases hstep
      exact .inl rfl
    · cases hstep
      exact .inr ⟨_, hpc ▸ rfl, rfl, by simp [hpc], by simp [hpc]⟩
  all_goals
    repeat' split at hstep
  all_goals first
    | cases hstep
      done
    | cases hstep
      exact .inl rfl

/-- The timeout a caller is about to claim. -/
def CloserPc.candidate? : CloserPc → Option CloseResult
  | forced candidate => some candidate
  | timeoutClaim candidate => some candidate
  | _ => none

/-- A caller prepares its timeout from what the sink shows at that time. -/
theorem closerStep_candidate {cfg : Config} {s s' : TraceSink} {id j : Nat} {expired : Bool}
    {candidate : CloseResult} (hstep : s.closerStep cfg id expired = some s')
    (h : (s'.closers j).candidate? = some candidate) :
    (s.closers j).candidate? = some candidate ∨
      (s.closers id = .forcing ∨ s.closers id = .giveUp) ∧ candidate.closeOutcome = .timeout ∧
        candidate.summaryWritten = false ∧ candidate.profileSummaryWritten =
          (cfg.profileConfig.isSome && s.summaryWritten .profile) := by
  have hother : ∀ (closers : Nat → CloserPc) (pc : CloserPc),
      (closers j).candidate? = some candidate →
      closers = (fun i => if i = id then pc else s.closers i) → pc.candidate? = none →
      (s.closers j).candidate? = some candidate := by
    rintro closers pc h rfl hpc
    dsimp only at h
    split at h
    · rw [hpc] at h
      cases h
    · exact h
  unfold TraceSink.closerStep at hstep
  split at hstep
  case h_7 hpc =>
    cases hstep
    dsimp only [TraceSink.setCloser] at h
    split at h
    · cases h
      exact .inr ⟨.inl hpc, rfl, rfl, rfl⟩
    · exact .inl h
  case h_9 hpc =>
    cases hstep
    dsimp only [TraceSink.setCloser] at h
    split at h
    · cases h
      exact .inr ⟨.inr hpc, rfl, rfl, rfl⟩
    · exact .inl h
  all_goals
    repeat' split at hstep
  all_goals first
    | cases hstep
      done
    | cases hstep
      exact .inl (hother _ _ h rfl rfl)
    | obtain ⟨-, rfl⟩ := TraceSink.locked_eq_some.mp hstep
      exact .inl (hother _ _ h rfl rfl)

end LifecycleProfiler.Sink
