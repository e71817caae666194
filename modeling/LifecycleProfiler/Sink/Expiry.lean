import LifecycleProfiler.Sink.Maximal
import LifecycleProfiler.Sink.Winner
import LifecycleProfiler.Sink.Publication

/-! # Losses of a timeout

The writer prepares the loss intervals of a timeout only after the deadline it
tests before each of them, so it gives up at the first. What it has prepared
never reaches a file. -/

namespace LifecycleProfiler.Sink
open Python Protocol

/-- The writer is past its main loop and has no line to write. -/
def WriterPc.winds : WriterPc → Bool
  | .preparing | .controls _ | .controlsExpired | .timedOut | .finalize | .finalInvalidation _
  | .finalInvalidated | .closeDescriptors | .descriptorFailure | .flush | .eligible | .checkTargets
  | .replace _ | .publicationClaim | .claiming | .retract .. | .publicationExpired
  | .publicationFailure | .flushLast | .finalException | .closing | .finalClaim
  | .terminated => true
  | _ => false

/-- A file grows by lines that are neither data nor losses. -/
def Adds (s s' : TraceSink) : Prop :=
  ∀ t, ∃ more, (s'.shard t).lines = (s.shard t).lines ++ more ∧
    ∀ line ∈ more, line.record?.bind markOf = none

namespace Adds
variable {cfg : Config} {s s' s'' : TraceSink}

theorem of_lines (h : ∀ t, (s'.shard t).lines = (s.shard t).lines) : Adds s s' := fun t =>
  ⟨[], by rw [h t, List.append_nil], nofun⟩

theorem trans (h : Adds s s') (h' : Adds s' s'') : Adds s s'' := by
  intro t
  obtain ⟨more, hlines, hmore⟩ := h t
  obtain ⟨rest, hlines', hrest⟩ := h' t
  refine ⟨more ++ rest, by rw [hlines', hlines, List.append_assoc], fun line hline => ?_⟩
  exact (List.mem_append.mp hline).elim (hmore line) (hrest line)

theorem of_appendLine {x : Exporter} {stream : StreamId} {line : Line}
    (hline : line.record?.bind markOf = none) :
    Adds s ({ s with x := x }.appendLine stream line) := by
  intro t
  unfold TraceSink.appendLine TraceSink.setShard
  dsimp only
  split
  · exact ⟨[line], rfl, fun l hl => List.mem_singleton.mp hl ▸ hline⟩
  · exact ⟨[], (List.append_nil _).symm, nofun⟩

theorem of_appendInvalidation (c : Choice) (stream : StreamId) :
    Adds s (s.appendInvalidation cfg c stream) := by
  unfold TraceSink.appendInvalidation
  split
  · next record raw hrecord =>
    obtain ⟨now, -, hsummary⟩ := Option.map_eq_some_iff.mp hrecord
    split
    · exact of_lines fun _ => rfl
    · split
      · exact of_appendLine (Exporter.markOf_summaryRecord hsummary)
      · exact of_appendLine rfl
  · exact of_lines fun _ => rfl

/-- Only a writer that has a line to write adds data or losses. -/
theorem of_step {action : TraceSink.Action} (hwinds : s.writer.winds = true)
    (hstep : s.step cfg action = some s') : Adds s s' := by
  have hjob : ∀ job, s.writer ≠ .persist job := by
    intro job hpc
    rw [hpc] at hwinds
    cases hwinds
  cases Effect.of_step hstep with
  | quiet _ hlines => exact of_lines hlines
  | persists job hpc => exact absurd hpc (hjob job)
  | tears job _ hpc => exact absurd hpc (hjob job)
  | invalidates c stream _ _ hlines =>
    intro t
    rw [hlines t]
    exact of_appendInvalidation c stream t
  | produces _ _ _ hshard | seals _ hshard | forces _ _ hshard | takes _ _ _ hshard
  | records _ _ _ _ _ _ hshard | fails _ hshard | prepares _ _ _ _ hshard | expires _ _ hshard
  | builds _ _ _ _ _ _ _ _ hshard | reserves _ _ _ _ _ _ hshard | drops _ _ _ hshard
  | releases _ _ _ _ _ _ _ hshard => exact of_lines fun t => by rw [hshard]

end Adds

namespace WriterPc
variable {cfg : Config} {s s' : TraceSink} {c : Choice}

theorem winds_runStep (horder : Orderly s) (hwinds : s.writer.winds = true)
    (hstep : s.runStep cfg c s.writer = some s') : s'.writer.winds = true := by
  have hlate := horder.late
  generalize hpc : s.writer = pc at hstep hwinds hlate
  cases pc with
  | preparing =>
    simp only [TraceSink.runStep] at hstep
    obtain ⟨-, rfl⟩ := TraceSink.locked_eq_some.mp hstep
    rfl
  | controls rest =>
    -- the deadline that led here is still behind
    have hreached : s.deadlineReached = true := hlate rfl
    cases rest with
    | nil =>
      simp only [TraceSink.runStep, hreached, Bool.true_or, if_true, Option.some.injEq] at hstep
      exact hstep ▸ rfl
    | cons q rest =>
      simp only [TraceSink.runStep, hreached, if_true, Option.some.injEq] at hstep
      exact hstep ▸ rfl
  | controlsExpired =>
    simp only [TraceSink.runStep] at hstep
    obtain ⟨-, rfl⟩ := TraceSink.locked_eq_some.mp hstep
    rfl
  | timedOut =>
    simp only [TraceSink.runStep, Option.some.injEq] at hstep
    exact hstep ▸ rfl
  | _ => simp [winds, TraceSink.runStep] at hwinds hstep

theorem winds_summaryStep (hwinds : s.writer.winds = true) :
    s.summaryStep cfg c s.writer ≠ some s' := by
  intro hstep
  generalize s.writer = pc at hstep hwinds
  cases pc <;> simp [winds, TraceSink.summaryStep] at hwinds hstep

theorem winds_afterInvalidation {pc : StreamId → WriterPc} {done : WriterPc} (stream : StreamId)
    (hpc : ∀ t, (pc t).winds = true) (hdone : done.winds = true) :
    (TraceSink.afterInvalidation cfg pc done stream).winds = true := by
  cases stream with
  | base =>
    rw [TraceSink.afterInvalidation]
    split
    · exact hpc _
    · exact hdone
  | profile => exact hdone

theorem winds_finalStep (hstep : s.finalStep cfg c s.writer = some s') :
    s'.writer.winds = true := by
  generalize s.writer = pc at hstep
  cases pc with
  | finalInvalidation stream =>
    simp only [TraceSink.finalStep, Option.some.injEq] at hstep
    subst hstep
    exact winds_afterInvalidation stream (fun _ => rfl) rfl
  | closeDescriptors =>
    simp only [TraceSink.finalStep, Option.some.injEq] at hstep
    subst hstep
    dsimp only [TraceSink.goto]
    split <;> rfl
  | checkTargets =>
    simp only [TraceSink.finalStep] at hstep
    split at hstep
    · cases hstep
      rfl
    · cases hstep
      dsimp only [TraceSink.goto]
      split <;> rfl
  | replace stream =>
    simp only [TraceSink.finalStep] at hstep
    split at hstep
    · cases hstep
      dsimp only [TraceSink.goto]
      split <;> rfl
    · cases hstep
      rfl
  | publicationClaim =>
    simp only [TraceSink.finalStep] at hstep
    split at hstep
    all_goals
      obtain ⟨-, rfl⟩ := TraceSink.locked_eq_some.mp hstep
      rfl
  | claiming =>
    simp only [TraceSink.finalStep] at hstep
    split at hstep
    all_goals
      cases hstep
      rfl
  | retract published expired =>
    cases published with
    | nil =>
      simp only [TraceSink.finalStep, Option.some.injEq] at hstep
      subst hstep
      dsimp only [TraceSink.goto]
      split <;> rfl
    | cons stream rest =>
      simp only [TraceSink.finalStep, Option.some.injEq] at hstep
      subst hstep
      rfl
  | closing =>
    simp only [TraceSink.finalStep] at hstep
    split at hstep
    all_goals
      obtain ⟨-, rfl⟩ := TraceSink.locked_eq_some.mp hstep
      rfl
  | finalClaim =>
    simp only [TraceSink.finalStep, Option.some.injEq] at hstep
    subst hstep
    rfl
  | finalize | eligible =>
    simp only [TraceSink.finalStep] at hstep
    obtain ⟨-, rfl⟩ := TraceSink.locked_eq_some.mp hstep
    dsimp only [TraceSink.goto]
    split <;> rfl
  | finalInvalidated | descriptorFailure | flush | publicationExpired | publicationFailure
  | flushLast | finalException =>
    simp only [TraceSink.finalStep] at hstep
    obtain ⟨-, rfl⟩ := TraceSink.locked_eq_some.mp hstep
    rfl
  | _ => simp [TraceSink.finalStep] at hstep

/-- A writer that winds down goes on winding down. -/
theorem winds_step {action : TraceSink.Action} (horder : Orderly s) (hwinds : s.writer.winds = true)
    (hstep : s.step cfg action = some s') : s'.writer.winds = true := by
  cases action with
  | produce call =>
    obtain ⟨-, rfl⟩ := TraceSink.locked_eq_some.mp hstep
    exact hwinds
  | tick ns =>
    cases hstep
    exact hwinds
  | closer i expired =>
    rw [(Calls.of_closerStep hstep).writer]
    exact hwinds
  | writer c =>
    rcases writerStep_cases hstep with hrun | hsummary | hfinal
    · exact winds_runStep horder hwinds hrun
    · exact absurd hsummary (winds_summaryStep hwinds)
    · exact winds_finalStep hfinal

end WriterPc

namespace TraceSink
variable {cfg : Config} {s s' : TraceSink}

/-- From the preparation of the controls on, no data or loss reaches a file. -/
theorem adds_of_winds (h : Reachable cfg s) (hwinds : s.writer.winds = true)
    (hlater : General.Reach (step cfg) (· = s) (fun _ _ => True) s') : Adds s s' := by
  have hall : s'.writer.winds = true ∧ Reachable cfg s' ∧ Adds s s' := by
    induction hlater with
    | init heq =>
      subst heq
      exact ⟨hwinds, h, .of_lines fun _ => rfl⟩
    | step _ hok hstep ih =>
      obtain ⟨hwinds, hreach, hadds⟩ := ih
      exact ⟨WriterPc.winds_step (orderly_of_reachableWhen hreach) hwinds hstep,
        hreach.step hok hstep, hadds.trans (.of_step hwinds hstep)⟩
  exact hall.2.2

/-- The loss intervals a timeout prepares at this point. -/
def timeoutLosses (cfg : Config) (s : TraceSink) : List Queued :=
  (s.x.prepareTimeoutControls cfg s.now).2.filter fun q =>
    match markOf q.record with
    | some (.loss reason _ _) => reason = LossReason.closeTimeout.wire
    | _ => false

/-- The control has been written to its file since the first state. -/
def ControlWritten (s s' : TraceSink) (control : Queued) : Prop :=
  .record control.record control.raw ∈
    (s'.shard control.stream).lines.drop (s.shard control.stream).lines.length

end TraceSink

/-- **Timeout losses.** In no run does a loss interval that the writer prepares
at the close cutoff reach a file, whatever succeeds and however the clock moves. -/
theorem timeout_losses_discarded {cfg : Config} {s s' : TraceSink} (h : TraceSink.Reachable cfg s)
    (hentered : s.writer = .preparing)
    (hlater : General.Reach (TraceSink.step cfg) (· = s) (fun _ _ => True) s') {control : Queued}
    (hcontrol : control ∈ s.timeoutLosses cfg) : ¬ s.ControlWritten s' control := by
  intro hwritten
  obtain ⟨more, hlines, hmore⟩ :=
    TraceSink.adds_of_winds h (by rw [hentered]; rfl) hlater control.stream
  rw [TraceSink.ControlWritten, hlines, List.drop_left] at hwritten
  have hunmarked : markOf control.record = none := hmore _ hwritten
  have hloss := (List.mem_filter.mp hcontrol).2
  rw [hunmarked] at hloss
  cases hloss

def WriterPc.isPreparing : WriterPc → Bool
  | preparing => true
  | _ => false

theorem WriterPc.eq_preparing {pc : WriterPc} (h : pc.isPreparing = true) : pc = .preparing := by
  cases pc <;> first | rfl | cases h

namespace Sample

/-- An edge is pending when the deadline of a close passes. -/
def cutOff : TraceSink :=
  General.run (TraceSink.step cfg) start
    (writer 2 ++ produced.take 1 ++ closer 4 ++ [.tick 2000000000] ++ writer 1)

/-- The writer runs to its end. -/
def cutOffEnded : TraceSink := General.run (TraceSink.step cfg) cutOff (writer 12)

theorem cutOff_preparing : cutOff.writer = .preparing :=
  WriterPc.eq_preparing (by decide +kernel)

end Sample

theorem timeout_losses_discarded_edge : ∃ control ∈ Sample.cutOff.timeoutLosses Sample.cfg,
    ¬ Sample.cutOff.ControlWritten Sample.cutOffEnded control := by
  have hreach : TraceSink.Reachable Sample.cfg Sample.cutOff :=
    (General.Reach.init Sample.initial_start).run (.of_forall (fun _ _ => trivial) _ _)
  have hlater : General.Reach (TraceSink.step Sample.cfg) (· = Sample.cutOff) (fun _ _ => True)
      Sample.cutOffEnded :=
    (General.Reach.init (.refl Sample.cutOff)).run (.of_forall (fun _ _ => trivial) _ _)
  have hone : (Sample.cutOff.timeoutLosses Sample.cfg).length = 1 := by decide +kernel
  obtain ⟨control, hcontrol⟩ := List.length_eq_one_iff.mp hone
  have hmem : control ∈ Sample.cutOff.timeoutLosses Sample.cfg := by rw [hcontrol]; simp
  exact ⟨control, hmem, timeout_losses_discarded hreach Sample.cutOff_preparing hlater hmem⟩

/-- All calls succeed and nobody abandons the writer, which prepares one loss
interval and ends without a further line. -/
theorem timeout_loss_unwritten :
    ¬ ∀ (cfg : Config) (s s' : TraceSink),
      TraceSink.ReachableWhen cfg (fun _ => TraceSink.Succeeds) s → s.writer = .preparing →
      General.Reach (TraceSink.step cfg) (· = s) (fun _ => TraceSink.Succeeds) s' →
      s'.abandoned = false → s'.writer = .terminated →
      ∀ control ∈ s.timeoutLosses cfg, s.ControlWritten s' control := by
  intro hclaim
  have hwritten := hclaim Sample.cfg Sample.cutOff Sample.cutOffEnded
    ((General.Reach.init Sample.initial_start).run (by decide +kernel)) Sample.cutOff_preparing
    ((General.Reach.init (.refl Sample.cutOff)).run (by decide +kernel)) (by decide +kernel)
    (WriterPc.eq_terminated (by decide +kernel))
  have hone : (Sample.cutOff.timeoutLosses Sample.cfg).length = 1 := by decide +kernel
  obtain ⟨control, hcontrol⟩ := List.length_eq_one_iff.mp hone
  have hmem := hwritten control (by rw [hcontrol]; simp)
  have hlength : ∀ t, (Sample.cutOffEnded.shard t).lines.length ≤
      (Sample.cutOff.shard t).lines.length := by
    intro t
    cases t <;> decide +kernel
  rw [TraceSink.ControlWritten, List.drop_eq_nil_of_le (hlength _)] at hmem
  cases hmem

end LifecycleProfiler.Sink
