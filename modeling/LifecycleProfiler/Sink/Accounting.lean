import LifecycleProfiler.Python.Raise
import LifecycleProfiler.Sink.Conservation

/-! # The accounting of whole runs

The writer's batch and the list in flight agree until the writer is abandoned,
and the controls of a timeout are no data. With that every step of the sink
keeps its records conserved. -/

namespace LifecycleProfiler.Sink
open Python Protocol

namespace TraceSink
variable {cfg : Config} {s s' : TraceSink} {c : Choice}

@[simp] theorem goto_writer (s : TraceSink) (pc : WriterPc) : (s.goto pc).writer = pc := rfl
@[simp] theorem goto_x (s : TraceSink) (pc : WriterPc) : (s.goto pc).x = s.x := rfl
@[simp] theorem goto_abandoned (s : TraceSink) (pc : WriterPc) :
    (s.goto pc).abandoned = s.abandoned := rfl

@[simp] theorem locked_eq_some {scope : TraceSink} :
    s.locked scope = some s' ↔ s.lock = none ∧ scope = s' := by
  unfold locked
  split
  · next h => simp [h]
  · next h => simp [h]

/-- Of the jobs, the close reserves room for summaries alone. -/
theorem summaryStep_reserve {job : Job} (h : s.summaryStep cfg c (.reserve job) = some s') :
    ∃ stream closeOutcome record raw, job = .summary stream closeOutcome record raw ∧
      s' = { s with x := (s.x.reserveControl stream raw).1 }.goto
        (if (s.x.reserveControl stream raw).2 then .check job false else .refused closeOutcome) := by
  cases job with
  | batch => simp [summaryStep] at h
  | control => simp [summaryStep] at h
  | summary stream closeOutcome record raw =>
    obtain ⟨-, rfl⟩ := locked_eq_some.mp h
    exact ⟨stream, closeOutcome, record, raw, rfl, rfl⟩

/-- Of the jobs, the close gives back the room of summaries alone. -/
theorem summaryStep_release {job : Job} {written : Bool}
    (h : s.summaryStep cfg c (.release job written) = some s') :
    ∃ stream closeOutcome record raw, job = .summary stream closeOutcome record raw ∧
      s' = { s with x := s.x.releaseControl stream raw }.goto
        (if written then .afterSummary stream closeOutcome else .failing) := by
  cases job with
  | batch => simp [summaryStep] at h
  | control => simp [summaryStep] at h
  | summary stream closeOutcome record raw =>
    obtain ⟨-, rfl⟩ := locked_eq_some.mp h
    exact ⟨stream, closeOutcome, record, raw, rfl, rfl⟩

end TraceSink

/-- The records a job still has to write, this one first. -/
def Job.carries : Job → Option (List Queued)
  | .batch q rest => some (q :: rest)
  | .control q rest => some (q :: rest)
  | .summary .. => none

/-- The records the writer has taken and not recorded yet. -/
def WriterPc.carries : WriterPc → Option (List Queued)
  | .started | .removing | .gate | .gateShut | .loop => some []
  | .batch rest => some rest
  | .check job _ => job.carries
  | .stage job => job.carries
  | .persist job => job.carries
  | .recordWritten job => job.carries
  | .controls rest => some rest
  | _ => none

def Job.isControl : Job → Bool
  | .control .. => true
  | _ => false

/-- The writer works on the controls of a timeout. -/
def WriterPc.finishing : WriterPc → Bool
  | .check job _ => job.isControl
  | .stage job => job.isControl
  | .persist job => job.isControl
  | .recordWritten job => job.isControl
  | .controls _ => true
  | .controlsExpired => true
  | _ => false

/-- What every step keeps about the records of the sink. -/
structure Accounted (s : TraceSink) : Prop where
  conserved : s.x.Conserved
  carried : s.abandoned = false → ∀ rest, s.writer.carries = some rest → s.x.inflight = rest
  controls : s.writer.finishing = true → ∀ q ∈ s.x.inflight, q.isData = false

namespace Accounted
variable {cfg : Config} {s s' : TraceSink} {c : Choice}

/-- A writer that carries nothing and is not finishing. -/
theorem of_idle (hx : s'.x.Conserved) (hcarries : s'.writer.carries = none)
    (hfinishing : s'.writer.finishing = false) : Accounted s' :=
  ⟨hx, fun _ rest h => by simp [hcarries] at h, fun h => by simp [hfinishing] at h⟩

/-- A step that leaves the exporter alone and carries the same records. -/
theorem of_same (h : Accounted s) (hx : s'.x = s.x) (ha : s'.abandoned = s.abandoned)
    (hcarries : ∀ rest, s'.writer.carries = some rest → s.writer.carries = some rest)
    (hfinishing : s'.writer.finishing = true → s.writer.finishing = true) : Accounted s' := by
  refine ⟨hx ▸ h.conserved, fun habandoned rest hrest => ?_, fun hf => ?_⟩
  · rw [hx]
    exact h.carried (ha ▸ habandoned) rest (hcarries rest hrest)
  · rw [hx]
    exact h.controls (hfinishing hf)

/-- A written record leaves the list in flight, unless the sink is abandoned. -/
theorem recordWritten {q : Queued} {rest : List Queued} (h : Accounted s)
    (hinflight : s.abandoned = false → s.x.inflight = q :: rest)
    (hx : s'.x = if s.abandoned then s.x else s.x.recordWritten q)
    (ha : s'.abandoned = s.abandoned) (hcarries : s'.writer.carries = some rest)
    (hcontrols : s'.writer.finishing = true → ∀ q ∈ s.x.inflight, q.isData = false) :
    Accounted s' := by
  cases habandoned : s.abandoned with
  | true =>
    rw [habandoned, if_pos rfl] at hx
    refine ⟨hx ▸ h.conserved, fun hfalse => ?_, fun hf => hx ▸ hcontrols hf⟩
    rw [ha, habandoned] at hfalse
    cases hfalse
  | false =>
    have hq := hinflight habandoned
    rw [habandoned, if_neg (by simp)] at hx
    have hrest : s'.x.inflight = rest := by
      rw [hx, Exporter.recordWritten, hq]
      simp
    refine ⟨hx ▸ Exporter.conserved_recordWritten h.conserved q, fun _ more hmore => ?_,
      fun hf p hp => ?_⟩
    · rw [hcarries, Option.some.injEq] at hmore
      exact hrest.trans hmore
    · refine hcontrols hf p ?_
      rw [hq]
      exact List.mem_cons_of_mem _ (hrest ▸ hp)

theorem runStep (h : Accounted s) (hstep : s.runStep cfg c s.writer = some s') :
    Accounted s' := by
  generalize hpc : s.writer = pc at hstep
  have hcarried := h.carried
  have hcontrols := h.controls
  rw [hpc] at hcarried hcontrols
  cases pc with
  | loop =>
    simp only [TraceSink.runStep] at hstep
    split at hstep
    · obtain ⟨-, rfl⟩ := TraceSink.locked_eq_some.mp hstep
      exact of_idle h.conserved rfl rfl
    · next habandoned =>
      have hinflight := hcarried (by simpa using habandoned) [] rfl
      split at hstep
      · obtain ⟨-, rfl⟩ := TraceSink.locked_eq_some.mp hstep
        refine ⟨h.conserved, fun _ rest hrest => ?_, fun hf => ?_⟩
        · change s.writer.carries = some rest at hrest
          rw [hpc] at hrest
          cases hrest
          exact hinflight
        · change s.writer.finishing = true at hf
          simp [hpc, WriterPc.finishing] at hf
      · split at hstep
        · cases hstep
        · split at hstep
          · obtain ⟨-, rfl⟩ := TraceSink.locked_eq_some.mp hstep
            exact of_idle h.conserved rfl rfl
          · split at hstep
            · obtain ⟨-, rfl⟩ := TraceSink.locked_eq_some.mp hstep
              exact of_idle h.conserved rfl rfl
            · obtain ⟨-, rfl⟩ := TraceSink.locked_eq_some.mp hstep
              refine ⟨Exporter.conserved_takeBatch h.conserved hinflight, fun _ rest hrest => ?_,
                fun hf => by simp [WriterPc.finishing] at hf⟩
              cases hrest
              rfl
  | failing =>
    simp only [TraceSink.runStep] at hstep
    obtain ⟨-, rfl⟩ := TraceSink.locked_eq_some.mp hstep
    exact of_idle (Exporter.conserved_markWriterFailure h.conserved) rfl rfl
  | recordWritten job =>
    cases job with
    | summary => simp [TraceSink.runStep] at hstep
    | batch q rest =>
      simp only [TraceSink.runStep] at hstep
      obtain ⟨-, rfl⟩ := TraceSink.locked_eq_some.mp hstep
      exact h.recordWritten (fun ha => hcarried ha (q :: rest) rfl) rfl rfl rfl
        (by simp [WriterPc.finishing])
    | control q rest =>
      simp only [TraceSink.runStep] at hstep
      obtain ⟨-, rfl⟩ := TraceSink.locked_eq_some.mp hstep
      exact h.recordWritten (fun ha => hcarried ha (q :: rest) rfl) rfl rfl rfl
        (fun _ => hcontrols rfl)
  | preparing =>
    simp only [TraceSink.runStep] at hstep
    obtain ⟨-, rfl⟩ := TraceSink.locked_eq_some.mp hstep
    refine ⟨Exporter.conserved_prepareTimeoutControls h.conserved s.now, fun _ rest hrest => ?_,
      fun _ => ?_⟩
    · cases hrest
      rfl
    · exact (Exporter.settles_timeoutAdmission h.conserved cfg .base s.now).controls
  | controlsExpired =>
    simp only [TraceSink.runStep] at hstep
    obtain ⟨-, rfl⟩ := TraceSink.locked_eq_some.mp hstep
    exact of_idle (Exporter.conserved_expireControls h.conserved (hcontrols rfl)) rfl rfl
  | batch rest =>
    cases rest with
    | nil =>
      simp only [TraceSink.runStep, Option.some.injEq] at hstep
      subst hstep
      exact h.of_same rfl rfl (by simp [hpc, WriterPc.carries]) (by simp [WriterPc.finishing])
    | cons q rest =>
      simp only [TraceSink.runStep] at hstep
      obtain ⟨-, rfl⟩ := TraceSink.locked_eq_some.mp hstep
      refine h.of_same rfl rfl ?_ ?_ <;> dsimp only [TraceSink.goto]
      · split
        · simp [WriterPc.carries]
        · split <;> simp [hpc, WriterPc.carries, Job.carries]
      · split
        · simp [WriterPc.finishing]
        · split <;> simp [WriterPc.finishing, Job.isControl]
  | controls rest =>
    cases rest with
    | nil =>
      simp only [TraceSink.runStep] at hstep
      split at hstep
      all_goals
        cases hstep
        exact of_idle h.conserved rfl rfl
    | cons q rest =>
      simp only [TraceSink.runStep, Option.some.injEq] at hstep
      subst hstep
      refine h.of_same rfl rfl ?_ ?_ <;> dsimp only [TraceSink.goto] <;> split
      all_goals simp [hpc, WriterPc.carries, Job.carries, WriterPc.finishing]
  | check job staged =>
    simp only [TraceSink.runStep] at hstep
    obtain ⟨-, rfl⟩ := TraceSink.locked_eq_some.mp hstep
    refine h.of_same rfl rfl ?_ ?_ <;> dsimp only [TraceSink.goto]
    all_goals
      split
      · cases job <;> simp [TraceSink.writeRaised, WriterPc.carries, WriterPc.finishing]
      · split <;> simp [hpc, WriterPc.carries, WriterPc.finishing]
  | stage job =>
    simp only [TraceSink.runStep, Option.some.injEq] at hstep
    subst hstep
    refine h.of_same rfl rfl ?_ ?_ <;> dsimp only [TraceSink.goto]
    all_goals
      split
      · simp [hpc, WriterPc.carries, WriterPc.finishing]
      · cases job <;> simp [TraceSink.writeRaised, WriterPc.carries, WriterPc.finishing]
  | persist job =>
    simp only [TraceSink.runStep] at hstep
    split at hstep
    all_goals
      cases hstep
      refine h.of_same rfl rfl ?_ ?_ <;> dsimp only [TraceSink.goto]
      all_goals
        cases job <;> simp [hpc, TraceSink.writeRaised, TraceSink.writeReturned, WriterPc.carries,
          WriterPc.finishing, Job.carries, Job.isControl]
  | started =>
    simp only [TraceSink.runStep] at hstep
    obtain ⟨-, rfl⟩ := TraceSink.locked_eq_some.mp hstep
    refine h.of_same rfl rfl ?_ ?_ <;> dsimp only [TraceSink.goto] <;> split
    all_goals simp [hpc, WriterPc.carries, WriterPc.finishing]
  | gate =>
    simp only [TraceSink.runStep] at hstep
    split at hstep
    · cases hstep
      exact h.of_same rfl rfl (by simp [hpc, WriterPc.carries]) (by simp [WriterPc.finishing])
    · obtain ⟨-, rfl⟩ := TraceSink.locked_eq_some.mp hstep
      refine h.of_same rfl rfl ?_ ?_ <;> dsimp only [TraceSink.goto] <;> split
      all_goals simp [hpc, WriterPc.carries, WriterPc.finishing]
  | gateShut =>
    simp only [TraceSink.runStep] at hstep
    obtain ⟨-, rfl⟩ := TraceSink.locked_eq_some.mp hstep
    refine of_idle h.conserved ?_ ?_ <;> dsimp only [TraceSink.goto] <;> split <;> rfl
  | drained =>
    simp only [TraceSink.runStep, Option.some.injEq] at hstep
    subst hstep
    refine of_idle h.conserved ?_ ?_ <;> dsimp only [TraceSink.goto] <;> split <;> rfl
  | removing =>
    simp only [TraceSink.runStep, Option.some.injEq] at hstep
    subst hstep
    exact of_idle h.conserved rfl rfl
  | timedOut =>
    simp only [TraceSink.runStep, Option.some.injEq] at hstep
    subst hstep
    exact of_idle h.conserved rfl rfl
  | _ => simp [TraceSink.runStep] at hstep

/-- Control records leave the data alone. -/
theorem conserved_appendInvalidation (h : s.x.Conserved) (stream : StreamId) :
    (s.appendInvalidation cfg c stream).x.Conserved := by
  unfold TraceSink.appendInvalidation
  intro t
  split
  · next record raw _ =>
    have hreserve := Exporter.shortfall_reserveControl (s := t) stream s.x raw
    split
    · next x heq =>
      rw [heq] at hreserve
      exact hreserve.trans (h t)
    · next x heq =>
      rw [heq] at hreserve
      split
      · exact (Exporter.shortfall_releaseControl x raw).trans (hreserve.trans (h t))
      · refine (Exporter.shortfall_releaseControl _ raw).trans ?_
        rw [Exporter.shortfall_dropControl]
        exact hreserve.trans (h t)
  · exact h t

theorem summaryStep (h : Accounted s) (hstep : s.summaryStep cfg c s.writer = some s') :
    Accounted s' := by
  generalize s.writer = pc at hstep
  cases pc with
  | summaryStart closeOutcome =>
    simp only [TraceSink.summaryStep] at hstep
    split at hstep <;> cases hstep <;> exact of_idle h.conserved rfl rfl
  | moveShard stream closeOutcome =>
    have hnext : ∀ (b : Bool), (if b then WriterPc.moveShard .profile closeOutcome
        else .summaryCheck closeOutcome).carries = none ∧ (if b then
          WriterPc.moveShard .profile closeOutcome else .summaryCheck closeOutcome).finishing =
            false := by
      intro b
      cases b <;> exact ⟨rfl, rfl⟩
    simp only [TraceSink.summaryStep] at hstep
    split at hstep
    · cases hstep
      exact of_idle h.conserved (hnext _).1 (hnext _).2
    · split at hstep
      · cases hstep
        exact of_idle h.conserved rfl rfl
      · split at hstep
        · cases hstep
          exact of_idle h.conserved (hnext _).1 (hnext _).2
        · cases hstep
          exact of_idle h.conserved rfl rfl
        · cases hstep
          exact of_idle h.conserved rfl rfl
  | summaryCheck closeOutcome =>
    simp only [TraceSink.summaryStep] at hstep
    split at hstep <;> cases hstep <;> exact of_idle h.conserved rfl rfl
  | buildSummary stream closeOutcome =>
    simp only [TraceSink.summaryStep] at hstep
    split at hstep <;> cases hstep <;> exact of_idle h.conserved rfl rfl
  | reserve job =>
    obtain ⟨stream, closeOutcome, record, raw, rfl, rfl⟩ := TraceSink.summaryStep_reserve hstep
    refine of_idle (fun t => ?_) ?_ ?_
    · exact (Exporter.shortfall_reserveControl stream s.x raw).trans (h.conserved t)
    all_goals
      rw [TraceSink.goto_writer]
      split <;> rfl
  | refused closeOutcome =>
    simp only [TraceSink.summaryStep, Option.some.injEq] at hstep
    subst hstep
    exact of_idle h.conserved rfl rfl
  | dropSummary job =>
    simp only [TraceSink.summaryStep] at hstep
    obtain ⟨-, rfl⟩ := TraceSink.locked_eq_some.mp hstep
    exact of_idle (fun t => (Exporter.shortfall_dropControl s.x).trans (h.conserved t)) rfl rfl
  | release job written =>
    obtain ⟨stream, closeOutcome, record, raw, rfl, rfl⟩ := TraceSink.summaryStep_release hstep
    refine of_idle (fun t => ?_) ?_ ?_
    · exact (Exporter.shortfall_releaseControl s.x raw).trans (h.conserved t)
    all_goals
      rw [TraceSink.goto_writer]
      split <;> rfl
  | afterSummary stream closeOutcome =>
    simp only [TraceSink.summaryStep] at hstep
    repeat' split at hstep
    all_goals
      cases hstep
      exact of_idle h.conserved rfl rfl
  | lateInvalidation stream =>
    simp only [TraceSink.summaryStep, Option.some.injEq] at hstep
    subst hstep
    refine of_idle (conserved_appendInvalidation h.conserved stream) ?_ ?_
    all_goals
      rw [TraceSink.goto_writer]
      cases stream
      · rw [TraceSink.afterInvalidation]
        split <;> rfl
      · rfl
  | setSummaryWritten stream closeOutcome =>
    cases stream
    all_goals
      simp only [TraceSink.summaryStep, Option.some.injEq] at hstep
      subst hstep
      exact of_idle h.conserved rfl rfl
  | setOutcome closeOutcome =>
    simp only [TraceSink.summaryStep, Option.some.injEq] at hstep
    subst hstep
    exact of_idle h.conserved rfl rfl
  | _ => simp [TraceSink.summaryStep] at hstep

theorem finalStep (h : Accounted s) (hstep : s.finalStep cfg c s.writer = some s') :
    Accounted s' := by
  have hrevoked : s.revokeReceipt.x.Conserved :=
    Exporter.conserved_markWriterFailure h.conserved
  generalize s.writer = pc at hstep
  cases pc with
  | finalInvalidation stream =>
    simp only [TraceSink.finalStep, Option.some.injEq] at hstep
    subst hstep
    refine of_idle (conserved_appendInvalidation h.conserved stream) ?_ ?_
    all_goals
      rw [TraceSink.goto_writer]
      cases stream
      · rw [TraceSink.afterInvalidation]
        split <;> rfl
      · rfl
  | retract published expired =>
    cases published with
    | nil =>
      simp only [TraceSink.finalStep, Option.some.injEq] at hstep
      subst hstep
      refine of_idle h.conserved ?_ ?_
      all_goals
        rw [TraceSink.goto_writer]
        split <;> rfl
    | cons stream rest =>
      simp only [TraceSink.finalStep, Option.some.injEq] at hstep
      subst hstep
      refine of_idle ?_ rfl rfl
      rw [TraceSink.goto_x]
      split
      · exact h.conserved
      · exact h.conserved
      · exact conserved_appendInvalidation (s := s.setShard stream _) h.conserved stream
  | descriptorFailure =>
    simp only [TraceSink.finalStep] at hstep
    obtain ⟨-, rfl⟩ := TraceSink.locked_eq_some.mp hstep
    exact of_idle hrevoked rfl rfl
  | publicationFailure =>
    simp only [TraceSink.finalStep] at hstep
    obtain ⟨-, rfl⟩ := TraceSink.locked_eq_some.mp hstep
    exact of_idle hrevoked rfl rfl
  | finalException =>
    simp only [TraceSink.finalStep] at hstep
    obtain ⟨-, rfl⟩ := TraceSink.locked_eq_some.mp hstep
    exact of_idle hrevoked rfl rfl
  | finalize =>
    simp only [TraceSink.finalStep] at hstep
    obtain ⟨-, rfl⟩ := TraceSink.locked_eq_some.mp hstep
    refine of_idle h.conserved ?_ ?_ <;> rw [TraceSink.goto_writer] <;> split <;> rfl
  | closeDescriptors =>
    simp only [TraceSink.finalStep, Option.some.injEq] at hstep
    subst hstep
    refine of_idle h.conserved ?_ ?_ <;> rw [TraceSink.goto_writer] <;> split <;> rfl
  | eligible =>
    simp only [TraceSink.finalStep] at hstep
    obtain ⟨-, rfl⟩ := TraceSink.locked_eq_some.mp hstep
    refine of_idle h.conserved ?_ ?_ <;> rw [TraceSink.goto_writer] <;> split <;> rfl
  | checkTargets =>
    simp only [TraceSink.finalStep] at hstep
    split at hstep
    · cases hstep
      exact of_idle h.conserved rfl rfl
    · cases hstep
      refine of_idle h.conserved ?_ ?_ <;> rw [TraceSink.goto_writer] <;> split <;> rfl
  | replace stream =>
    simp only [TraceSink.finalStep] at hstep
    split at hstep
    · cases hstep
      refine of_idle h.conserved ?_ ?_ <;> rw [TraceSink.goto_writer] <;> split <;> rfl
    · cases hstep
      exact of_idle h.conserved rfl rfl
  | publicationClaim =>
    simp only [TraceSink.finalStep] at hstep
    split at hstep
    all_goals
      obtain ⟨-, rfl⟩ := TraceSink.locked_eq_some.mp hstep
      exact of_idle h.conserved rfl rfl
  | claiming =>
    simp only [TraceSink.finalStep] at hstep
    split at hstep
    all_goals
      cases hstep
      exact of_idle (fun t => h.conserved t) rfl rfl
  | closing =>
    simp only [TraceSink.finalStep] at hstep
    split at hstep
    all_goals
      obtain ⟨-, rfl⟩ := TraceSink.locked_eq_some.mp hstep
      exact of_idle (fun t => h.conserved t) rfl rfl
  | finalClaim =>
    simp only [TraceSink.finalStep, Option.some.injEq] at hstep
    subst hstep
    exact of_idle h.conserved rfl rfl
  | finalInvalidated =>
    simp only [TraceSink.finalStep] at hstep
    obtain ⟨-, rfl⟩ := TraceSink.locked_eq_some.mp hstep
    exact of_idle h.conserved rfl rfl
  | flush =>
    simp only [TraceSink.finalStep] at hstep
    obtain ⟨-, rfl⟩ := TraceSink.locked_eq_some.mp hstep
    exact of_idle (fun t => h.conserved t) rfl rfl
  | flushLast =>
    simp only [TraceSink.finalStep] at hstep
    obtain ⟨-, rfl⟩ := TraceSink.locked_eq_some.mp hstep
    exact of_idle (fun t => h.conserved t) rfl rfl
  | publicationExpired =>
    simp only [TraceSink.finalStep] at hstep
    obtain ⟨-, rfl⟩ := TraceSink.locked_eq_some.mp hstep
    exact of_idle (fun t => h.conserved t) rfl rfl
  | _ => simp [TraceSink.finalStep] at hstep

theorem writerStep (h : Accounted s) (hstep : s.writerStep cfg c = some s') : Accounted s' := by
  unfold TraceSink.writerStep at hstep
  split at hstep
  · next hrun =>
    cases hstep
    exact h.runStep hrun
  · split at hstep
    · next hsummary =>
      cases hstep
      exact h.summaryStep hsummary
    · exact h.finalStep hstep

/-- A step that keeps the writer and what is in flight. -/
theorem of_inflight (h : Accounted s) (hx : s'.x.Conserved)
    (hinflight : s'.x.inflight = s.x.inflight)
    (hw : s'.writer = s.writer) (ha : s'.abandoned = false → s.abandoned = false) :
    Accounted s' := by
  refine ⟨hx, fun habandoned rest hrest => ?_, fun hf => ?_⟩
  · rw [hinflight]
    exact h.carried (ha habandoned) rest (hw ▸ hrest)
  · rw [hinflight]
    exact h.controls (hw ▸ hf)

theorem closerStep {i : Nat} {expired : Bool} (h : Accounted s)
    (hstep : s.closerStep cfg i expired = some s') : Accounted s' := by
  unfold TraceSink.closerStep at hstep
  split at hstep
  -- the first lock scope seals the open losses, a forced timeout accounts for
  -- what is pending, and every other step leaves the exporter alone
  case h_4 deadline _ =>
    split at hstep
    · split at hstep
      · cases hstep
        exact h.of_inflight h.conserved rfl rfl id
      · cases hstep
    · split at hstep
      · obtain ⟨-, rfl⟩ := TraceSink.locked_eq_some.mp hstep
        exact h.of_inflight h.conserved rfl rfl id
      · split at hstep
        · obtain ⟨-, rfl⟩ := TraceSink.locked_eq_some.mp hstep
          exact h.of_inflight h.conserved rfl rfl id
        · obtain ⟨-, rfl⟩ := TraceSink.locked_eq_some.mp hstep
          refine h.of_inflight (fun t => ?_) ?_ rfl id
          · dsimp only [TraceSink.setCloser]
            split
            · exact (Exporter.shortfall_sealLoss _).trans
                ((Exporter.shortfall_sealLoss s.x).trans (h.conserved t))
            · exact (Exporter.shortfall_sealLoss s.x).trans (h.conserved t)
          · dsimp only [TraceSink.setCloser]
            split
            · exact ((Exporter.admits_sealLoss s.x).trans (Exporter.admits_sealLoss _)).inflight
            · exact (Exporter.admits_sealLoss s.x).inflight
  case h_7 =>
    cases hstep
    refine ⟨fun t => ?_, fun ha => by simp [TraceSink.setCloser] at ha, fun _ q hq => ?_⟩
    · exact Exporter.conserved_forceTimeoutAccounting h.conserved _ t
    · dsimp only [TraceSink.setCloser, Exporter.forceTimeoutAccounting] at hq
      split at hq <;> simp [Exporter.dropPending, Exporter.clearPending,
        Exporter.countDiagnostic] at hq
  case h_11 =>
    cases hstep
    exact h.of_inflight h.conserved rfl rfl fun ha => by cases ha
  case h_6 =>
    split at hstep
    · split at hstep
      · cases hstep
        exact h.of_inflight h.conserved rfl rfl id
      · cases hstep
    · split at hstep
      all_goals
        obtain ⟨-, rfl⟩ := TraceSink.locked_eq_some.mp hstep
        exact h.of_inflight h.conserved rfl rfl id
  all_goals
    repeat' split at hstep
  all_goals
    cases hstep
    try exact h.of_inflight (fun t => h.conserved t) rfl rfl id

theorem step {action : TraceSink.Action} (h : Accounted s) (hstep : s.step cfg action = some s') :
    Accounted s' := by
  cases action with
  | produce call =>
    obtain ⟨-, rfl⟩ := TraceSink.locked_eq_some.mp hstep
    exact h.of_inflight (Exporter.conserved_call h.conserved s.now call)
      (Exporter.admits_call s.x s.now call).inflight rfl id
  | writer choice => exact h.writerStep hstep
  | closer i expired => exact h.closerStep hstep
  | tick ns =>
    cases hstep
    exact h.of_inflight h.conserved rfl rfl id

theorem initial (h : TraceSink.Initial cfg s) : Accounted s := by
  obtain ⟨pid, startedNs, now, h⟩ := h
  simp only [TraceSink.opened, bind_eq_ok, pure_eq_ok] at h
  obtain ⟨⟨base, baseRaw⟩, -, ⟨profile, profileRaw⟩, -, rfl⟩ := h
  refine ⟨fun t => ?_, fun _ rest hrest => ?_, fun hf => by simp [WriterPc.finishing] at hf⟩
  · cases t <;> rfl
  · cases hrest
    rfl

end Accounted

/-- The run lemma. -/
theorem accounted_of_reachable {cfg : Config} {s : TraceSink} (h : TraceSink.Reachable cfg s) :
    Accounted s :=
  h.invariant (fun _ => Accounted.initial) fun _ _ _ hs _ hstep => hs.step hstep

/-- **Conservation**: in every state of every run, and so whenever the lock is
free, each stream has written or dropped every sequence number it gave out, but
for the records that are queued or in flight. -/
theorem attempted_eq_accounted {cfg : Config} {s : TraceSink} (h : TraceSink.Reachable cfg s) :
    (∀ stream, (s.x.ledger stream).attempted = Exporter.writtenData stream (s.x.ledger stream) +
      (s.x.ledger stream).droppedData + s.x.pendingData stream) ∧
    ((∀ stream, s.x.pendingData stream = 0) → s.x.countsReconcile cfg = true) := by
  have hbalance : ∀ stream, (s.x.ledger stream).attempted =
      Exporter.writtenData stream (s.x.ledger stream) + (s.x.ledger stream).droppedData +
        s.x.pendingData stream := by
    intro stream
    have hzero := (accounted_of_reachable h).conserved stream
    unfold Exporter.shortfall at hzero
    omega
  refine ⟨hbalance, fun hnone => ?_⟩
  have hreconciles : ∀ stream, s.x.reconciles stream = true := by
    intro stream
    rw [Exporter.reconciles, decide_eq_true_eq, hbalance stream, hnone stream, Nat.add_zero]
  simp [Exporter.countsReconcile, hreconciles]

namespace Sample

theorem parentCommit_hex : isHex 40 "0000000000000000000000000000000000000001" = true := by decide
theorem coreCommit_hex : isHex 40 "0000000000000000000000000000000000000002" = true := by decide
theorem pluginCommit_hex : isHex 40 "0000000000000000000000000000000000000003" = true := by decide
theorem runId_hex : isHex 32 "0d0d0d0d0d0d0d0d0d0d0d0d0d0d0d0d" = true := by decide

def provenance : RuntimeProvenance where
  profilerParentCommit := "0000000000000000000000000000000000000001"
  runtimeCoreCommit := "0000000000000000000000000000000000000002"
  devicePluginCommit := "0000000000000000000000000000000000000003"
  profilerParentCommit_hex := parentCommit_hex
  runtimeCoreCommit_hex := coreCommit_hex
  devicePluginCommit_hex := pluginCommit_hex

/-- A sink with a profile stream. The digests are those of the three contents
that its runs reach, told apart by their lengths. -/
def cfg : Config where
  processUuid := "0a0a0a0a0a0a0a0a0a0a0a0a0a0a0a0a"
  clockDomainId := "0b0b0b0b0b0b0b0b0b0b0b0b0b0b0b0b"
  provenance := provenance
  communicationMode := kvRecoveryCommunicationMode
  profileConfig := some ⟨"0d0d0d0d0d0d0d0d0d0d0d0d0d0d0d0d", runId_hex⟩
  usesNativeWrite := true
  sha256 := fun content => match content.length with
    | 734 => "c9cb55fb65a06551447ec856aeb4ef4b1e4210f1b093a9c7f90254abc8d68d58"
    | 1548 => "ba10ccf68f1b1482dbe86fd74027900a1a202703110789ac670ada81cbc11f7f"
    | _ => "0a70623b7cbf5a73ea6c731bd14309610548297ce90573cd8597d7958e0fa8cf"

/-- The sink its constructor returns at time 100. -/
def start : TraceSink :=
  match TraceSink.opened cfg 7 (.int 90) 100 with
  | .ok s => s
  | .error _ => { shard := fun _ => { lines := [] }, now := 0 }

def edge (evidenceSource : String) : EdgeDraft where
  traceId := "0c0c0c0c0c0c0c0c0c0c0c0c0c0c0c0c"
  fromEventId := "0a0a0a0a0a0a0a0a0a0a0a0a0a0a0a0a:e:0"
  toEventId := "0a0a0a0a0a0a0a0a0a0a0a0a0a0a0a0a:e:1"
  edgeKind := "program_order"
  evidenceSource := evidenceSource

/-- One accepted edge, then one that the builder refuses. -/
def produced : List TraceSink.Action :=
  [.produce (.edge (edge "instrumented_execution_context") (some (.int 110))),
   .produce (.edge (edge "") (some (.int 120)))]

/-- The next `n` steps of the writer, all of them successful. -/
def writer (n : Nat) : List TraceSink.Action :=
  List.replicate n (.writer { clock := some (.int 200) })

def closer (n : Nat) : List TraceSink.Action := List.replicate n (.closer 0 false)

theorem initial_start : TraceSink.Initial cfg start := by
  refine ⟨7, .int 90, 100, ?_⟩
  have hok : (TraceSink.opened cfg 7 (.int 90) 100).isOk = true := by decide +kernel
  unfold start
  split
  · assumption
  · next h => simp [h, Except.isOk, Except.toBool] at hok

end Sample

/-- One edge is in flight and one is lost. -/
theorem attempted_eq_accounted_inflight :
    let s := General.run (TraceSink.step Sample.cfg) Sample.start
      (Sample.writer 2 ++ Sample.produced ++ Sample.writer 3)
    (s.x.ledger .base).attempted = 2 ∧ s.x.pendingData .base = 1 ∧
      ∀ stream, (s.x.ledger stream).attempted = Exporter.writtenData stream (s.x.ledger stream) +
        (s.x.ledger stream).droppedData + s.x.pendingData stream :=
  ⟨by decide +kernel, by decide +kernel, (attempted_eq_accounted
    ((General.Reach.init Sample.initial_start).run (by decide +kernel))).1⟩

end LifecycleProfiler.Sink
