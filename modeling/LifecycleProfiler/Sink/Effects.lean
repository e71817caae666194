import LifecycleProfiler.Sink.Frames

/-! # The effect of a step

Every step of the sink acts on its queues, ledgers and files in one of a few
ways. The inversion lemma below lists them once, each with what it says about
the place of the writer, and the invariants of the queue, the losses and the
files are proved effect by effect. -/

namespace LifecycleProfiler.Sink
open Python Protocol

namespace Exporter

/-- The queues and the ledgers are the same. -/
structure SameBooks (x y : Exporter) : Prop where
  queue : y.queue = x.queue
  inflight : y.inflight = x.inflight
  ledger : y.ledger = x.ledger
  closing : y.closing = x.closing

theorem SameBooks.refl (x : Exporter) : SameBooks x x := ⟨rfl, rfl, rfl, rfl⟩

/-- `close()` seals the open interval of each stream. -/
def sealOpen (cfg : Config) (x : Exporter) : Exporter :=
  let x := x.sealLoss cfg .base
  if cfg.profileConfig.isSome then x.sealLoss cfg .profile else x

end Exporter

/-! ## Where the writer goes -/

/-- The control record a job writes directly, past the queue. -/
def Job.control? : Job → Option (StreamId × Bytes)
  | summary stream _ _ raw => some (stream, raw)
  | _ => none

namespace WriterPc

/-- The control record whose direct write is under way. -/
def control? : WriterPc → Option (StreamId × Bytes)
  | check job _ | stage job | persist job | recordWritten job | dropSummary job
  | release job _ => job.control?
  | _ => none

/-- The summary the writer has built and not yet released. -/
def summary? : WriterPc → Option Job
  | check job _ | stage job | persist job | recordWritten job | reserve job | dropSummary job
  | release job _ => job.control?.map fun _ => job
  | _ => none

/-- The writer handles no record at all. -/
structure Idle (pc : WriterPc) : Prop where
  carries : pc.carries = none
  finishing : pc.finishing = false
  control : pc.control? = none
  summary : pc.summary? = none

/-- The writer goes on with what it handles, or lets go of it. -/
structure Passes (pc pc' : WriterPc) : Prop where
  carries : ∀ rest, pc'.carries = some rest → pc.carries = some rest
  finishing : pc'.finishing = true → pc.finishing = true
  control : pc'.control? = pc.control?
  summary : ∀ job, pc'.summary? = some job → pc.summary? = some job

theorem Passes.refl (pc : WriterPc) : Passes pc pc := ⟨fun _ h => h, fun h => h, rfl, fun _ h => h⟩

theorem Passes.of_idle {pc pc' : WriterPc} (hcontrol : pc.control? = none) (h : pc'.Idle) :
    Passes pc pc' := by
  refine ⟨fun rest hrest => ?_, fun hf => ?_, h.control.trans hcontrol.symm, fun job hjob => ?_⟩
  · rw [h.carries] at hrest
    cases hrest
  · rw [h.finishing] at hf
    cases hf
  · rw [h.summary] at hjob
    cases hjob

theorem Idle.ite {pc pc' : WriterPc} {b : Prop} [Decidable b] (h : pc.Idle) (h' : pc'.Idle) :
    (if b then pc else pc').Idle := by
  split
  · exact h
  · exact h'

end WriterPc

/-- What a step does to the queues, the ledgers and the files. -/
inductive Effect (cfg : Config) (s : TraceSink) (action : TraceSink.Action) (s' : TraceSink) :
    Prop where
  | quiet (hx : s.x.SameBooks s'.x) (hlines : ∀ t, (s'.shard t).lines = (s.shard t).lines)
      (hpc : s.writer.Passes s'.writer)
  | produces (call : TraceSink.Call) (haction : action = .produce call)
      (hx : s'.x = call.run cfg s.x s.now) (hshard : s'.shard = s.shard)
      (hpc : s'.writer = s.writer)
  | seals (hx : s'.x = { s.x.sealOpen cfg with closing := true }) (hshard : s'.shard = s.shard)
      (hpc : s'.writer = s.writer)
  | forces (alreadyTimeout : Bool) (hx : (s.x.forceTimeoutAccounting alreadyTimeout).SameBooks s'.x)
      (hshard : s'.shard = s.shard) (hpc : s'.writer = s.writer)
  | takes (habandoned : s.abandoned = false) (hpc : s.writer = .loop)
      (hx : s'.x = s.x.takeBatch.1) (hshard : s'.shard = s.shard)
      (hpc' : s'.writer = .batch s.x.takeBatch.2)
  | persists (job : Job) (hpc : s.writer = .persist job) (hx : s'.x = s.x)
      (hshard : s'.shard = (s.appendLine job.stream (.record job.record job.raw)).shard)
      (hpc' : s'.writer = TraceSink.writeReturned job)
  | tears (job : Job) (written : Bytes) (hpc : s.writer = .persist job) (hx : s'.x = s.x)
      (hshard : s'.shard = (s.appendLine job.stream (.torn written)).shard)
      (hpc' : s'.writer = TraceSink.writeRaised job)
  | records (job : Job) (q : Queued) (rest : List Queued) (hpc : s.writer = .recordWritten job)
      (hjob : job.carries = some (q :: rest))
      (hx : s'.x = if s.abandoned then s.x else s.x.recordWritten q) (hshard : s'.shard = s.shard)
      (hpc' : s'.writer = if job.isControl then .controls rest else .batch rest)
  | fails (hx : s'.x = s.x.markWriterFailure) (hshard : s'.shard = s.shard)
      (hpc : s.writer.control? = none) (hpc' : s'.writer.Idle)
  | prepares (c : Choice) (haction : action = .writer c) (hpc : s.writer = .preparing)
      (hx : s'.x = (s.x.prepareTimeoutControls cfg s.now).1) (hshard : s'.shard = s.shard)
      (hpc' : s'.writer = .controls (s.x.prepareTimeoutControls cfg s.now).2)
  | expires (hpc : s.writer = .controlsExpired) (hx : s'.x = s.x.expireControls)
      (hshard : s'.shard = s.shard) (hpc' : s'.writer.Idle)
  | builds (stream : StreamId) (closeOutcome : CloseOutcome) (endedNs : Value) (record : Dict)
      (raw : Bytes) (hpc : s.writer = .buildSummary stream closeOutcome) (hx : s'.x = s.x)
      (hrecord : s.x.summaryRecord cfg stream endedNs closeOutcome = .ok (record, raw))
      (hshard : s'.shard = s.shard)
      (hpc' : s'.writer = .reserve (.summary stream closeOutcome record raw))
  | reserves (stream : StreamId) (closeOutcome : CloseOutcome) (record : Dict) (raw : Bytes)
      (hpc : s.writer = .reserve (.summary stream closeOutcome record raw))
      (hx : s'.x = (s.x.reserveControl stream raw).1) (hshard : s'.shard = s.shard)
      (hpc' : s'.writer = if (s.x.reserveControl stream raw).2 then
        .check (.summary stream closeOutcome record raw) false else .refused closeOutcome)
  | drops (job : Job) (hpc : s.writer = .dropSummary job) (hx : s'.x = s.x.dropControl job.stream)
      (hshard : s'.shard = s.shard) (hpc' : s'.writer = .release job false)
  | releases (stream : StreamId) (closeOutcome : CloseOutcome) (record : Dict) (raw : Bytes)
      (written : Bool) (hpc : s.writer = .release (.summary stream closeOutcome record raw) written)
      (hx : s'.x = s.x.releaseControl stream raw) (hshard : s'.shard = s.shard)
      (hpc' : s'.writer = if written then .afterSummary stream closeOutcome else .failing)
  | invalidates (c : Choice) (stream : StreamId) (hpc : s.writer.Idle)
      (hx : s'.x = (s.appendInvalidation cfg c stream).x)
      (hlines : ∀ t, (s'.shard t).lines = ((s.appendInvalidation cfg c stream).shard t).lines)
      (hpc' : s'.writer.Idle)

namespace Effect
variable {cfg : Config} {s s' : TraceSink} {c : Choice} {action : TraceSink.Action}

/-- The writer moves on and nothing else happens. -/
theorem goes {pc : WriterPc} (h : s.writer.Passes pc) : Effect cfg s action (s.goto pc) :=
  .quiet (.refl _) (fun _ => rfl) h

/-- Where a write that raises leaves the writer. -/
theorem passes_writeRaised (job : Job) {pc : WriterPc} (hcontrol : pc.control? = job.control?)
    (hsummary : ∀ j, (job.control?.map fun _ => job) = some j → pc.summary? = some j) :
    pc.Passes (TraceSink.writeRaised job) := by
  cases job with
  | summary => exact ⟨nofun, nofun, hcontrol.symm, hsummary⟩
  | batch => exact .of_idle hcontrol ⟨rfl, rfl, rfl, rfl⟩
  | control => exact .of_idle hcontrol ⟨rfl, rfl, rfl, rfl⟩

theorem of_runStep (hstep : s.runStep cfg c s.writer = some s') : Effect cfg s (.writer c) s' := by
  generalize hpc : s.writer = pc at hstep
  cases pc with
  | loop =>
    have hgoes : ∀ {pc : WriterPc}, pc.Idle → Effect cfg s (.writer c) (s.goto pc) := by
      intro pc h
      exact goes (hpc ▸ .of_idle rfl h)
    simp only [TraceSink.runStep] at hstep
    split at hstep
    · obtain ⟨-, rfl⟩ := TraceSink.locked_eq_some.mp hstep
      exact hgoes ⟨rfl, rfl, rfl, rfl⟩
    · next habandoned =>
      split at hstep
      · obtain ⟨-, rfl⟩ := TraceSink.locked_eq_some.mp hstep
        exact .quiet ⟨rfl, rfl, rfl, rfl⟩ (fun _ => rfl) (.refl _)
      · split at hstep
        · cases hstep
        · split at hstep
          · obtain ⟨-, rfl⟩ := TraceSink.locked_eq_some.mp hstep
            exact hgoes ⟨rfl, rfl, rfl, rfl⟩
          · split at hstep
            · obtain ⟨-, rfl⟩ := TraceSink.locked_eq_some.mp hstep
              exact hgoes ⟨rfl, rfl, rfl, rfl⟩
            · obtain ⟨-, rfl⟩ := TraceSink.locked_eq_some.mp hstep
              exact .takes (by simpa using habandoned) hpc rfl rfl rfl
  | recordWritten job =>
    cases job with
    | summary => simp [TraceSink.runStep] at hstep
    | batch q rest =>
      simp only [TraceSink.runStep] at hstep
      obtain ⟨-, rfl⟩ := TraceSink.locked_eq_some.mp hstep
      exact .records _ q rest hpc rfl rfl rfl rfl
    | control q rest =>
      simp only [TraceSink.runStep] at hstep
      obtain ⟨-, rfl⟩ := TraceSink.locked_eq_some.mp hstep
      exact .records _ q rest hpc rfl rfl rfl rfl
  | persist job =>
    simp only [TraceSink.runStep] at hstep
    split at hstep
    · cases hstep
      exact .persists job hpc rfl rfl rfl
    · cases hstep
      exact .tears job _ hpc rfl rfl rfl
  | failing =>
    simp only [TraceSink.runStep] at hstep
    obtain ⟨-, rfl⟩ := TraceSink.locked_eq_some.mp hstep
    exact .fails rfl rfl (hpc ▸ rfl) ⟨rfl, rfl, rfl, rfl⟩
  | preparing =>
    simp only [TraceSink.runStep] at hstep
    obtain ⟨-, rfl⟩ := TraceSink.locked_eq_some.mp hstep
    exact .prepares c rfl hpc rfl rfl rfl
  | controlsExpired =>
    simp only [TraceSink.runStep] at hstep
    obtain ⟨-, rfl⟩ := TraceSink.locked_eq_some.mp hstep
    exact .expires hpc rfl rfl ⟨rfl, rfl, rfl, rfl⟩
  | check job staged =>
    simp only [TraceSink.runStep] at hstep
    obtain ⟨-, rfl⟩ := TraceSink.locked_eq_some.mp hstep
    refine goes (hpc ▸ ?_)
    split
    · exact passes_writeRaised job rfl fun _ h => h
    · split <;> exact ⟨fun _ h => h, fun h => h, rfl, fun _ h => h⟩
  | stage job =>
    simp only [TraceSink.runStep, Option.some.injEq] at hstep
    subst hstep
    refine goes (hpc ▸ ?_)
    split
    · exact ⟨fun _ h => h, fun h => h, rfl, fun _ h => h⟩
    · exact passes_writeRaised job rfl fun _ h => h
  | batch rest =>
    cases rest with
    | nil =>
      simp only [TraceSink.runStep, Option.some.injEq] at hstep
      subst hstep
      exact goes (hpc ▸ ⟨fun _ h => h, by rintro ⟨⟩, rfl, by rintro _ ⟨⟩⟩)
    | cons q rest =>
      simp only [TraceSink.runStep] at hstep
      obtain ⟨-, rfl⟩ := TraceSink.locked_eq_some.mp hstep
      refine goes (hpc ▸ ?_)
      split
      · exact .of_idle rfl ⟨rfl, rfl, rfl, rfl⟩
      · split
        · exact .of_idle rfl ⟨rfl, rfl, rfl, rfl⟩
        · exact ⟨fun _ h => h, by rintro ⟨⟩, rfl, by rintro _ ⟨⟩⟩
  | controls rest =>
    cases rest with
    | nil =>
      simp only [TraceSink.runStep] at hstep
      split at hstep
      · cases hstep
        exact .quiet (.refl _) (fun _ => rfl) (hpc ▸ .of_idle rfl ⟨rfl, rfl, rfl, rfl⟩)
      · cases hstep
        exact goes (hpc ▸ .of_idle rfl ⟨rfl, rfl, rfl, rfl⟩)
    | cons q rest =>
      simp only [TraceSink.runStep, Option.some.injEq] at hstep
      subst hstep
      refine goes (hpc ▸ ?_)
      split
      · exact ⟨by rintro _ ⟨⟩, fun _ => rfl, rfl, by rintro _ ⟨⟩⟩
      · exact ⟨fun _ h => h, fun _ => rfl, rfl, by rintro _ ⟨⟩⟩
  | started =>
    simp only [TraceSink.runStep] at hstep
    obtain ⟨-, rfl⟩ := TraceSink.locked_eq_some.mp hstep
    refine goes (hpc ▸ ?_)
    split <;> exact ⟨fun _ h => h, by rintro ⟨⟩, rfl, by rintro _ ⟨⟩⟩
  | gate =>
    simp only [TraceSink.runStep] at hstep
    split at hstep
    · cases hstep
      exact goes (hpc ▸ ⟨fun _ h => h, by rintro ⟨⟩, rfl, by rintro _ ⟨⟩⟩)
    · obtain ⟨-, rfl⟩ := TraceSink.locked_eq_some.mp hstep
      refine goes ?_
      rw [hpc]
      split <;> exact ⟨fun _ h => h, by rintro ⟨⟩, rfl, by rintro _ ⟨⟩⟩
  | gateShut =>
    simp only [TraceSink.runStep] at hstep
    obtain ⟨-, rfl⟩ := TraceSink.locked_eq_some.mp hstep
    exact goes (hpc ▸ .of_idle rfl (.ite ⟨rfl, rfl, rfl, rfl⟩ ⟨rfl, rfl, rfl, rfl⟩))
  | drained =>
    simp only [TraceSink.runStep, Option.some.injEq] at hstep
    subst hstep
    exact goes (hpc ▸ .of_idle rfl (.ite ⟨rfl, rfl, rfl, rfl⟩ ⟨rfl, rfl, rfl, rfl⟩))
  | removing =>
    simp only [TraceSink.runStep, Option.some.injEq] at hstep
    subst hstep
    refine .quiet (.refl _) (fun t => ?_) (hpc ▸ .of_idle rfl ⟨rfl, rfl, rfl, rfl⟩)
    dsimp only [TraceSink.goto]
    split <;> rfl
  | timedOut =>
    simp only [TraceSink.runStep, Option.some.injEq] at hstep
    subst hstep
    exact .quiet (.refl _) (fun _ => rfl) (hpc ▸ .of_idle rfl ⟨rfl, rfl, rfl, rfl⟩)
  | _ => simp [TraceSink.runStep] at hstep

/-- An invalidation reads the exporter alone. -/
theorem appendInvalidation_congr {r : TraceSink} (hx : r.x = s.x)
    (hlines : ∀ t, (r.shard t).lines = (s.shard t).lines) (stream : StreamId) :
    (r.appendInvalidation cfg c stream).x = (s.appendInvalidation cfg c stream).x ∧
      ∀ t, ((r.appendInvalidation cfg c stream).shard t).lines =
        ((s.appendInvalidation cfg c stream).shard t).lines := by
  have happend : ∀ (x : Exporter) (line : Line) (t : StreamId),
      (({ r with x := x }.appendLine stream line).shard t).lines =
        (({ s with x := x }.appendLine stream line).shard t).lines := by
    intro x line t
    dsimp only [TraceSink.appendLine, TraceSink.setShard]
    split
    · rw [hlines t]
    · exact hlines t
  unfold TraceSink.appendInvalidation
  rw [hx]
  split
  · split
    · exact ⟨rfl, hlines⟩
    · split
      · exact ⟨rfl, happend _ _⟩
      · exact ⟨rfl, happend _ _⟩
  · exact ⟨hx, hlines⟩

theorem idle_afterInvalidation {pc : StreamId → WriterPc} {done : WriterPc} (stream : StreamId)
    (hpc : (pc .profile).Idle) (hdone : done.Idle) :
    (TraceSink.afterInvalidation cfg pc done stream).Idle := by
  cases stream with
  | base => exact .ite hpc hdone
  | profile => exact hdone

theorem of_summaryStep (hstep : s.summaryStep cfg c s.writer = some s') :
    Effect cfg s (.writer c) s' := by
  generalize hpc : s.writer = pc at hstep
  have hgoes : ∀ {pc' : WriterPc}, pc.control? = none → pc'.Idle →
    Effect cfg s (.writer c) (s.goto pc') := by
    intro pc' hcontrol h
    refine goes ?_
    rw [hpc]
    exact .of_idle hcontrol h
  have hquiet : ∀ {pc' : WriterPc} {outcome : Option CloseOutcome} {flags : StreamId → Bool},
      pc.control? = none → pc'.Idle → Effect cfg s (.writer c) ({ s with
        writerOutcome := outcome, summaryWritten := flags }.goto pc') := by
    intro pc' outcome flags hcontrol h
    refine .quiet (.refl _) (fun _ => rfl) ?_
    rw [hpc]
    exact .of_idle hcontrol h
  cases pc with
  | summaryStart closeOutcome =>
    simp only [TraceSink.summaryStep] at hstep
    split at hstep
    · cases hstep
      exact hquiet rfl ⟨rfl, rfl, rfl, rfl⟩
    · cases hstep
      exact hgoes rfl ⟨rfl, rfl, rfl, rfl⟩
  | moveShard stream closeOutcome =>
    have hnext : ∀ (b : Bool), (if b then WriterPc.moveShard .profile closeOutcome
        else .summaryCheck closeOutcome).Idle :=
          fun b => .ite ⟨rfl, rfl, rfl, rfl⟩ ⟨rfl, rfl, rfl, rfl⟩
    have hmoves : ∀ {pc' : WriterPc} {f : Shard → Shard}, pc'.Idle →
        (∀ shard, (f shard).lines = shard.lines) →
        Effect cfg s (.writer c) ((s.setShard stream f).goto pc') := by
      intro pc' f h hf
      refine .quiet (.refl _) (fun t => ?_) ?_
      · dsimp only [TraceSink.goto, TraceSink.setShard]
        split
        · exact hf _
        · rfl
      · rw [hpc]
        exact .of_idle rfl h
    simp only [TraceSink.summaryStep] at hstep
    split at hstep
    · cases hstep
      exact hgoes rfl (hnext _)
    · split at hstep
      · cases hstep
        exact hgoes rfl ⟨rfl, rfl, rfl, rfl⟩
      · split at hstep
        · cases hstep
          exact hmoves (hnext _) fun _ => rfl
        · cases hstep
          exact hgoes rfl ⟨rfl, rfl, rfl, rfl⟩
        · cases hstep
          exact hmoves ⟨rfl, rfl, rfl, rfl⟩ fun _ => rfl
  | summaryCheck closeOutcome =>
    simp only [TraceSink.summaryStep] at hstep
    split at hstep
    · cases hstep
      exact hquiet rfl ⟨rfl, rfl, rfl, rfl⟩
    · cases hstep
      exact hgoes rfl ⟨rfl, rfl, rfl, rfl⟩
  | buildSummary stream closeOutcome =>
    simp only [TraceSink.summaryStep] at hstep
    split at hstep
    · next record raw hbuilt =>
      cases hstep
      obtain ⟨now, -, hrecord⟩ := Option.map_eq_some_iff.mp hbuilt
      exact .builds stream closeOutcome now record raw hpc rfl hrecord rfl rfl
    · cases hstep
      exact hgoes rfl ⟨rfl, rfl, rfl, rfl⟩
  | reserve job =>
    obtain ⟨stream, closeOutcome, record, raw, rfl, rfl⟩ := TraceSink.summaryStep_reserve hstep
    exact .reserves stream closeOutcome record raw hpc rfl rfl rfl
  | refused closeOutcome =>
    simp only [TraceSink.summaryStep, Option.some.injEq] at hstep
    subst hstep
    exact hquiet rfl ⟨rfl, rfl, rfl, rfl⟩
  | dropSummary job =>
    simp only [TraceSink.summaryStep] at hstep
    obtain ⟨-, rfl⟩ := TraceSink.locked_eq_some.mp hstep
    exact .drops job hpc rfl rfl rfl
  | release job written =>
    obtain ⟨stream, closeOutcome, record, raw, rfl, rfl⟩ := TraceSink.summaryStep_release hstep
    exact .releases stream closeOutcome record raw written hpc rfl rfl rfl
  | afterSummary stream closeOutcome =>
    simp only [TraceSink.summaryStep] at hstep
    split at hstep
    · cases hstep
      exact hquiet rfl ⟨rfl, rfl, rfl, rfl⟩
    · split at hstep
      · cases hstep
        exact hgoes rfl ⟨rfl, rfl, rfl, rfl⟩
      · cases hstep
        exact hgoes rfl ⟨rfl, rfl, rfl, rfl⟩
  | lateInvalidation stream =>
    simp only [TraceSink.summaryStep, Option.some.injEq] at hstep
    subst hstep
    exact .invalidates c stream (hpc ▸ ⟨rfl, rfl, rfl, rfl⟩) rfl (fun _ => rfl)
      (idle_afterInvalidation stream ⟨rfl, rfl, rfl, rfl⟩ ⟨rfl, rfl, rfl, rfl⟩)
  | setSummaryWritten stream closeOutcome =>
    cases stream with
    | base =>
      simp only [TraceSink.summaryStep, Option.some.injEq] at hstep
      subst hstep
      exact hquiet rfl ⟨rfl, rfl, rfl, rfl⟩
    | profile =>
      simp only [TraceSink.summaryStep, Option.some.injEq] at hstep
      subst hstep
      exact hquiet rfl ⟨rfl, rfl, rfl, rfl⟩
  | setOutcome closeOutcome =>
    simp only [TraceSink.summaryStep, Option.some.injEq] at hstep
    subst hstep
    exact hquiet rfl ⟨rfl, rfl, rfl, rfl⟩
  | _ => simp [TraceSink.summaryStep] at hstep

theorem of_finalStep (hstep : s.finalStep cfg c s.writer = some s') :
    Effect cfg s (.writer c) s' := by
  generalize hpc : s.writer = pc at hstep
  have hgoes : ∀ {pc' : WriterPc}, pc.control? = none → pc'.Idle →
    Effect cfg s (.writer c) (s.goto pc') := by
    intro pc' hcontrol h
    refine goes ?_
    rw [hpc]
    exact .of_idle hcontrol h
  have hquiet : ∀ {s' : TraceSink}, pc.control? = none → s.x.SameBooks s'.x →
      (∀ t, (s'.shard t).lines = (s.shard t).lines) → s'.writer.Idle →
        Effect cfg s (.writer c) s' := by
    intro s' hcontrol hx hlines h
    refine .quiet hx hlines ?_
    rw [hpc]
    exact .of_idle hcontrol h
  cases pc with
  | finalInvalidation stream =>
    simp only [TraceSink.finalStep, Option.some.injEq] at hstep
    subst hstep
    exact .invalidates c stream (hpc ▸ ⟨rfl, rfl, rfl, rfl⟩) rfl (fun _ => rfl)
      (idle_afterInvalidation stream ⟨rfl, rfl, rfl, rfl⟩ ⟨rfl, rfl, rfl, rfl⟩)
  | retract published expired =>
    cases published with
    | nil =>
      simp only [TraceSink.finalStep, Option.some.injEq] at hstep
      subst hstep
      exact hgoes rfl (.ite ⟨rfl, rfl, rfl, rfl⟩ ⟨rfl, rfl, rfl, rfl⟩)
    | cons stream rest =>
      simp only [TraceSink.finalStep, Option.some.injEq] at hstep
      subst hstep
      split
      · refine hquiet rfl ⟨rfl, rfl, rfl, rfl⟩ (fun t => ?_) ⟨rfl, rfl, rfl, rfl⟩
        dsimp only [TraceSink.goto, TraceSink.setShard]
        split <;> rfl
      · refine hquiet rfl ⟨rfl, rfl, rfl, rfl⟩ (fun t => ?_) ⟨rfl, rfl, rfl, rfl⟩
        dsimp only [TraceSink.goto, TraceSink.setShard]
        split <;> rfl
      · have hkept : ∀ t, ((s.setShard stream fun shard =>
            { shard with reserved := false }).shard t).lines = (s.shard t).lines := by
          intro t
          dsimp only [TraceSink.setShard]
          split <;> rfl
        obtain ⟨hx, hlines⟩ := @appendInvalidation_congr cfg s c
          (s.setShard stream fun shard => { shard with reserved := false }) rfl hkept stream
        exact .invalidates c stream (hpc ▸ ⟨rfl, rfl, rfl, rfl⟩) hx hlines ⟨rfl, rfl, rfl, rfl⟩
  | descriptorFailure =>
    simp only [TraceSink.finalStep] at hstep
    obtain ⟨-, rfl⟩ := TraceSink.locked_eq_some.mp hstep
    exact .fails rfl rfl (hpc ▸ rfl) ⟨rfl, rfl, rfl, rfl⟩
  | publicationFailure =>
    simp only [TraceSink.finalStep] at hstep
    obtain ⟨-, rfl⟩ := TraceSink.locked_eq_some.mp hstep
    exact .fails rfl rfl (hpc ▸ rfl) ⟨rfl, rfl, rfl, rfl⟩
  | finalException =>
    simp only [TraceSink.finalStep] at hstep
    obtain ⟨-, rfl⟩ := TraceSink.locked_eq_some.mp hstep
    exact .fails rfl rfl (hpc ▸ rfl) ⟨rfl, rfl, rfl, rfl⟩
  | finalize =>
    simp only [TraceSink.finalStep] at hstep
    obtain ⟨-, rfl⟩ := TraceSink.locked_eq_some.mp hstep
    exact hgoes rfl (.ite ⟨rfl, rfl, rfl, rfl⟩ ⟨rfl, rfl, rfl, rfl⟩)
  | closeDescriptors =>
    simp only [TraceSink.finalStep, Option.some.injEq] at hstep
    subst hstep
    exact hgoes rfl (.ite ⟨rfl, rfl, rfl, rfl⟩ ⟨rfl, rfl, rfl, rfl⟩)
  | eligible =>
    simp only [TraceSink.finalStep] at hstep
    obtain ⟨-, rfl⟩ := TraceSink.locked_eq_some.mp hstep
    exact hgoes rfl (.ite ⟨rfl, rfl, rfl, rfl⟩ ⟨rfl, rfl, rfl, rfl⟩)
  | checkTargets =>
    simp only [TraceSink.finalStep] at hstep
    split at hstep
    · cases hstep
      exact hgoes rfl ⟨rfl, rfl, rfl, rfl⟩
    · cases hstep
      refine hgoes rfl ?_
      split <;> exact ⟨rfl, rfl, rfl, rfl⟩
  | replace stream =>
    simp only [TraceSink.finalStep] at hstep
    split at hstep
    · cases hstep
      refine hquiet rfl (.refl _) (fun t => ?_) (.ite ⟨rfl, rfl, rfl, rfl⟩ ⟨rfl, rfl, rfl, rfl⟩)
      dsimp only [TraceSink.goto, TraceSink.setShard]
      split <;> rfl
    · cases hstep
      exact hgoes rfl ⟨rfl, rfl, rfl, rfl⟩
  | publicationClaim =>
    simp only [TraceSink.finalStep] at hstep
    split at hstep
    all_goals
      obtain ⟨-, rfl⟩ := TraceSink.locked_eq_some.mp hstep
      exact hquiet rfl (.refl _) (fun _ => rfl) ⟨rfl, rfl, rfl, rfl⟩
  | claiming =>
    simp only [TraceSink.finalStep] at hstep
    split at hstep
    · cases hstep
      refine hquiet rfl ⟨rfl, rfl, rfl, rfl⟩ (fun t => ?_) ⟨rfl, rfl, rfl, rfl⟩
      dsimp only [TraceSink.goto, TraceSink.setClaim]
      split <;> rfl
    · cases hstep
      exact hquiet rfl (.refl _) (fun _ => rfl) ⟨rfl, rfl, rfl, rfl⟩
  | closing =>
    simp only [TraceSink.finalStep] at hstep
    split at hstep
    all_goals
      obtain ⟨-, rfl⟩ := TraceSink.locked_eq_some.mp hstep
      exact hquiet rfl ⟨rfl, rfl, rfl, rfl⟩ (fun _ => rfl) ⟨rfl, rfl, rfl, rfl⟩
  | finalClaim =>
    simp only [TraceSink.finalStep, Option.some.injEq] at hstep
    subst hstep
    exact hquiet rfl (.refl _) (fun _ => rfl) ⟨rfl, rfl, rfl, rfl⟩
  | finalInvalidated =>
    simp only [TraceSink.finalStep] at hstep
    obtain ⟨-, rfl⟩ := TraceSink.locked_eq_some.mp hstep
    exact hquiet rfl (.refl _) (fun _ => rfl) ⟨rfl, rfl, rfl, rfl⟩
  | flush =>
    simp only [TraceSink.finalStep] at hstep
    obtain ⟨-, rfl⟩ := TraceSink.locked_eq_some.mp hstep
    exact hquiet rfl ⟨rfl, rfl, rfl, rfl⟩ (fun _ => rfl) ⟨rfl, rfl, rfl, rfl⟩
  | flushLast =>
    simp only [TraceSink.finalStep] at hstep
    obtain ⟨-, rfl⟩ := TraceSink.locked_eq_some.mp hstep
    exact hquiet rfl ⟨rfl, rfl, rfl, rfl⟩ (fun _ => rfl) ⟨rfl, rfl, rfl, rfl⟩
  | publicationExpired =>
    simp only [TraceSink.finalStep] at hstep
    obtain ⟨-, rfl⟩ := TraceSink.locked_eq_some.mp hstep
    exact hquiet rfl ⟨rfl, rfl, rfl, rfl⟩ (fun _ => rfl) ⟨rfl, rfl, rfl, rfl⟩
  | _ => simp [TraceSink.finalStep] at hstep

theorem of_writerStep (hstep : s.writerStep cfg c = some s') : Effect cfg s (.writer c) s' := by
  unfold TraceSink.writerStep at hstep
  split at hstep
  · next hrun =>
    cases hstep
    exact of_runStep hrun
  · split at hstep
    · next hsummary =>
      cases hstep
      exact of_summaryStep hsummary
    · exact of_finalStep hstep

theorem of_closerStep {i : Nat} {expired : Bool} (hstep : s.closerStep cfg i expired = some s') :
    Effect cfg s (.closer i expired) s' := by
  unfold TraceSink.closerStep at hstep
  split at hstep
  -- the first lock scope seals the open losses, a forced timeout accounts for
  -- what is pending, and every other step leaves the books alone
  case h_4 deadline _ =>
    split at hstep
    · split at hstep
      · cases hstep
        exact .quiet (.refl _) (fun _ => rfl) (.refl _)
      · cases hstep
    · split at hstep
      · obtain ⟨-, rfl⟩ := TraceSink.locked_eq_some.mp hstep
        exact .quiet (.refl _) (fun _ => rfl) (.refl _)
      · split at hstep
        · obtain ⟨-, rfl⟩ := TraceSink.locked_eq_some.mp hstep
          exact .quiet (.refl _) (fun _ => rfl) (.refl _)
        · obtain ⟨-, rfl⟩ := TraceSink.locked_eq_some.mp hstep
          exact .seals rfl rfl rfl
  case h_7 =>
    cases hstep
    exact .forces _ ⟨rfl, rfl, rfl, rfl⟩ rfl rfl
  all_goals
    repeat' split at hstep
  all_goals first
    | cases hstep
      done
    | cases hstep
      exact .quiet ⟨rfl, rfl, rfl, rfl⟩ (fun _ => rfl) (.refl _)
    | obtain ⟨-, rfl⟩ := TraceSink.locked_eq_some.mp hstep
      exact .quiet ⟨rfl, rfl, rfl, rfl⟩ (fun _ => rfl) (.refl _)

/-- **Every step of the sink has one of these effects.** -/
theorem of_step (hstep : s.step cfg action = some s') : Effect cfg s action s' := by
  cases action with
  | produce call =>
    obtain ⟨-, rfl⟩ := TraceSink.locked_eq_some.mp hstep
    exact .produces call rfl rfl rfl rfl
  | writer choice => exact of_writerStep hstep
  | closer i expired => exact of_closerStep hstep
  | tick ns =>
    cases hstep
    exact .quiet (.refl _) (fun _ => rfl) (.refl _)

end Effect
end LifecycleProfiler.Sink
