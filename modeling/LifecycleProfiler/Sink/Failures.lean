import LifecycleProfiler.Sink.Losses
import LifecycleProfiler.Sink.Receipt

/-! # The writer failures over whole runs

The failures of the writer are counted where it is marked as failed and nowhere
else, and no step takes the mark back. -/

namespace LifecycleProfiler.Sink
open Python Protocol

namespace Exporter

/-- As many failures as before. -/
structure SameFailures (x y : Exporter) : Prop where
  writerFailures : ∀ t, (y.ledger t).writerFailures = (x.ledger t).writerFailures

section SameFailures
variable {cfg : Config} {x y z : Exporter} {stream : StreamId}

theorem SameFailures.refl (x : Exporter) : SameFailures x x := ⟨fun _ => rfl⟩

theorem SameFailures.trans (hxy : SameFailures x y) (hyz : SameFailures y z) : SameFailures x z :=
  ⟨fun t => (hyz.writerFailures t).trans (hxy.writerFailures t)⟩

theorem sameFailures_modify (x : Exporter) {f : Ledger → Ledger}
    (hf : ∀ l, (f l).writerFailures = l.writerFailures) : SameFailures x (x.modify stream f) := by
  refine ⟨fun t => ?_⟩
  rw [modify_ledger]
  split
  · exact hf _
  · rfl

theorem sameFailures_dropControl (x : Exporter) (stream : StreamId) :
    SameFailures x (x.dropControl stream) := sameFailures_modify x fun _ => rfl

theorem sameFailures_countDiagnostic (x : Exporter) (reason : String) :
    SameFailures x (x.countDiagnostic reason) := ⟨fun _ => rfl⟩

theorem sameFailures_enqueue {q : Queued} (h : x.enqueue q = some y) : SameFailures x y := by
  unfold enqueue at h
  split at h
  · cases h
  · cases h
    have hqueue : SameFailures x { x with queue := x.queue ++ [q] } := ⟨fun _ => rfl⟩
    exact hqueue.trans (sameFailures_modify _ fun _ => rfl)

/-! ## Producers -/

theorem sameFailures_sealLoss (cfg : Config) (x : Exporter) (stream : StreamId) :
    SameFailures x (x.sealLoss cfg stream) := by
  unfold sealLoss
  split
  · exact .refl x
  · next current _ =>
    have hclosed : SameFailures x (x.modify stream fun l => { l with
        nextLossIntervalSeq := (x.ledger stream).nextLossIntervalSeq + 1, openLoss := none }) :=
      sameFailures_modify x fun _ => rfl
    dsimp only
    split
    · exact hclosed.trans (sameFailures_dropControl _ stream)
    · next record raw _ =>
      refine hclosed.trans ?_
      cases henqueued : enqueue _ (lossControl stream record raw) with
      | none => exact sameFailures_dropControl _ stream
      | some y => exact sameFailures_enqueue henqueued

theorem sameFailures_noteDrop (cfg : Config) (x : Exporter) (stream : StreamId) (recordSeq : Nat)
    (recordType : RecordType) (reason : LossReason) (observedNs : Nat) :
    SameFailures x (x.noteDrop cfg stream recordSeq recordType reason observedNs) := by
  have hcounted : SameFailures x ((x.modify stream fun l => { l with
      droppedData := l.droppedData + 1 }).countDiagnostic reason.wire) :=
    (sameFailures_modify x (f := fun l => { l with droppedData := l.droppedData + 1 })
      fun _ => rfl).trans (sameFailures_countDiagnostic _ _)
  unfold noteDrop
  dsimp only
  split
  · exact hcounted.trans (sameFailures_modify _ fun _ => rfl)
  · exact (hcounted.trans (sameFailures_sealLoss cfg _ stream)).trans
      (sameFailures_modify _ fun _ => rfl)

theorem sameFailures_allocate (x : Exporter) (stream : StreamId) :
    SameFailures x (x.allocate stream) := sameFailures_modify x fun _ => rfl

theorem sameFailures_writeRecord {ρ : Type} {recordSeq observedNs : Nat} {recordType : RecordType}
    {reserved : Bool} (encoded : Except PyError (Dict × Bytes × ρ)) :
    SameFailures x
      (x.writeRecord cfg stream recordSeq recordType reserved observedNs encoded).1 := by
  unfold writeRecord
  split
  · exact sameFailures_noteDrop ..
  · split
    · exact sameFailures_noteDrop ..
    · unfold admitOrLose
      split
      · exact sameFailures_noteDrop ..
      · have hsealed := sameFailures_sealLoss cfg x stream
        dsimp only
        split
        · exact hsealed.trans (sameFailures_noteDrop ..)
        · next hfits => exact hsealed.trans (sameFailures_enqueue hfits)

theorem sameFailures_writeBase {ρ : Type} {recordType : RecordType} {reserved : Bool}
    {clock : Option Value} {now : Nat} (encode : Nat → Nat → Except PyError (Dict × Bytes × ρ)) :
    SameFailures x (x.writeBase cfg recordType reserved clock now encode).1 := by
  unfold writeBase
  split
  · exact .refl x
  · split
    · exact sameFailures_countDiagnostic x _
    · have hallocated := sameFailures_allocate x .base
      dsimp only
      split
      · exact (hallocated.trans (sameFailures_countDiagnostic _ _)).trans (sameFailures_noteDrop ..)
      · exact hallocated.trans (sameFailures_writeRecord _)

theorem sameFailures_sealOpen (cfg : Config) (x : Exporter) : SameFailures x (x.sealOpen cfg) := by
  unfold sealOpen
  dsimp only
  split
  · exact (sameFailures_sealLoss cfg x .base).trans (sameFailures_sealLoss cfg _ .profile)
  · exact sameFailures_sealLoss cfg x .base

/-- A producer call counts no failure. -/
theorem sameFailures_call (cfg : Config) (x : Exporter) (now : Nat) (call : TraceSink.Call) :
    SameFailures x (call.run cfg x now) := by
  cases call with
  | event draft clock => exact sameFailures_writeBase _
  | edge draft clock => exact sameFailures_writeBase _
  | profile recordType timestampNs fields clock =>
    unfold TraceSink.Call.run writeKvRecoveryProfile
    dsimp only
    split
    · exact .refl x
    · split
      · exact sameFailures_countDiagnostic x _
      · split
        · exact sameFailures_countDiagnostic x _
        · split
          · exact .refl x
          · have hallocated := sameFailures_allocate x .profile
            split
            · exact hallocated.trans (sameFailures_noteDrop ..)
            · exact hallocated.trans (sameFailures_writeRecord _)
  | drop recordType timestampNs reason clock =>
    unfold TraceSink.Call.run dropKvRecoveryProfile
    dsimp only
    split
    · exact .refl x
    · split
      · exact .refl x
      · exact (sameFailures_allocate x .profile).trans (sameFailures_noteDrop ..)
  | span =>
    unfold TraceSink.Call.run newSpanId
    dsimp only
    split
    · exact .refl x
    · exact ⟨fun _ => rfl⟩
  | diagnostic reason =>
    unfold TraceSink.Call.run deferDiagnostic
    dsimp only
    split
    · exact .refl x
    · exact sameFailures_countDiagnostic x _

/-! ## The writer -/

theorem sameFailures_foldl {α : Type} {f : Exporter → α → Exporter}
    (hf : ∀ x a, SameFailures x (f x a)) (x : Exporter) (l : List α) :
      SameFailures x (l.foldl f x) := by
  induction l generalizing x with
  | nil => exact .refl x
  | cons a rest ih => exact (hf x a).trans (ih _)

theorem sameFailures_dropPending (x : Exporter) : SameFailures x x.dropPending := by
  refine (sameFailures_foldl (fun x q => ?_) x (x.inflight ++ x.queue)).trans ⟨fun _ => rfl⟩
  unfold accountUnwritten
  split
  · exact sameFailures_modify x fun _ => rfl
  · exact sameFailures_dropControl x q.stream

/-- A failure is marked. -/
theorem markWriterFailure_failed (x : Exporter) : x.markWriterFailure.writerFailed = true :=
  (sameFlags_dropPending _).writerFailed

theorem sameFailures_forceTimeoutAccounting (x : Exporter) (alreadyTimeout : Bool) :
    SameFailures x (x.forceTimeoutAccounting alreadyTimeout) := by
  unfold forceTimeoutAccounting
  dsimp only
  split
  · exact sameFailures_dropPending x
  · exact (sameFailures_dropPending x).trans ⟨fun _ => rfl⟩

theorem sameFailures_recordWritten {q : Queued} {rest : List Queued} (h : x.inflight = q :: rest) :
    SameFailures x (x.recordWritten q) := by
  unfold recordWritten
  rw [h]
  simp only [Queued.same_self, Bool.not_true, Bool.false_eq_true, if_false]
  have hinflight : SameFailures x { x with inflight := rest } := ⟨fun _ => rfl⟩
  exact hinflight.trans (sameFailures_modify _ fun _ => rfl)

theorem sameFailures_reserveControl (x : Exporter) (stream : StreamId) (raw : Bytes) :
    SameFailures x (x.reserveControl stream raw).1 := by
  unfold reserveControl
  split
  · exact sameFailures_dropControl x stream
  · dsimp only
    exact sameFailures_modify x fun _ => rfl

theorem sameFailures_releaseControl (x : Exporter) (stream : StreamId) (raw : Bytes) :
    SameFailures x (x.releaseControl stream raw) := sameFailures_modify x fun _ => rfl

theorem sameFailures_expireControls (x : Exporter) : SameFailures x x.expireControls :=
  (sameFailures_foldl (fun x q => sameFailures_dropControl x q.stream) x x.inflight).trans
    ⟨fun _ => rfl⟩

theorem TimeoutStage.sameFailures {observedNs : Nat} {a : Admitted}
    (h : TimeoutStage cfg x observedNs a) : SameFailures x a.x := by
  have hadmits : ∀ (a : Admitted) (q : Queued), SameFailures a.x (a.admitControl q).x := by
    intro a q
    unfold Admitted.admitControl
    split
    · exact sameFailures_dropControl a.x q.stream
    · exact .refl a.x
  induction h with
  | start =>
    exact (sameFailures_foldl (fun x (q : Queued) => sameFailures_dropControl x q.stream) x _).trans
      ⟨fun _ => rfl⟩
  | existing _ _ ih => exact ih.trans (hadmits _ _)
  | @group a stream g _ _ ih =>
    have hcounted : ∀ dropped lossSeq, SameFailures a.x (a.x.modify stream fun l => { l with
        droppedData := l.droppedData + dropped, nextLossIntervalSeq := lossSeq }) :=
      fun _ _ => sameFailures_modify a.x fun _ => rfl
    refine ih.trans ?_
    unfold Admitted.admitGroup timeoutLossControl
    dsimp only
    split
    · next heq =>
      split at heq
      · cases heq
        exact (hcounted _ _).trans (sameFailures_dropControl _ stream)
      · cases heq
    · next heq =>
      split at heq
      · cases heq
      · cases heq
        exact (hcounted _ _).trans (hadmits { a with x := _ } _)

theorem sameFailures_prepareTimeoutControls (cfg : Config) (x : Exporter) (observedNs : Nat) :
    SameFailures x (x.prepareTimeoutControls cfg observedNs).1 :=
  (stage_timeoutAdmission cfg x observedNs).sameFailures.trans ⟨fun _ => rfl⟩

end SameFailures

end Exporter

/-! ## Runs -/

theorem sameFailures_appendInvalidation (cfg : Config) (s : TraceSink) (c : Choice)
    (stream : StreamId) : s.x.SameFailures (s.appendInvalidation cfg c stream).x := by
  unfold TraceSink.appendInvalidation
  split
  · next record raw _ =>
    have hsame := Exporter.sameFailures_reserveControl s.x stream raw
    split
    · next x heq =>
      rw [heq] at hsame
      exact hsame
    · next x heq =>
      rw [heq] at hsame
      split
      · exact hsame.trans (Exporter.sameFailures_releaseControl x stream raw)
      · exact (hsame.trans (Exporter.sameFailures_dropControl x stream)).trans
          (Exporter.sameFailures_releaseControl _ stream raw)
  · exact .refl _

/-- A step counts no failure, or marks the writer as failed. -/
theorem Effect.failures {cfg : Config} {s s' : TraceSink} {action : TraceSink.Action}
    (haccounted : Accounted s) (h : Effect cfg s action s') :
    s.x.SameFailures s'.x ∨ s'.x.writerFailed = true := by
  cases h with
  | quiet hx _ _ => exact .inl ⟨fun t => by rw [hx.ledger]⟩
  | produces call haction hx _ _ => exact .inl (hx ▸ Exporter.sameFailures_call cfg s.x s.now call)
  | seals hx _ _ =>
    exact .inl (hx ▸ (Exporter.sameFailures_sealOpen cfg s.x).trans ⟨fun _ => rfl⟩)
  | forces alreadyTimeout hx _ _ =>
    refine .inl ((Exporter.sameFailures_forceTimeoutAccounting s.x alreadyTimeout).trans ⟨fun t => ?_⟩)
    rw [hx.ledger]
  | takes _ _ hx _ _ => exact .inl (hx ▸ ⟨fun _ => rfl⟩)
  | persists _ _ hx _ _ => exact .inl (hx ▸ .refl _)
  | tears _ _ _ hx _ _ => exact .inl (hx ▸ .refl _)
  | records job q rest hpc hjob hx _ _ =>
    cases ha : s.abandoned with
    | true =>
      rw [ha, if_pos rfl] at hx
      exact .inl (hx ▸ .refl _)
    | false =>
      rw [ha, if_neg (by simp)] at hx
      have hinflight := haccounted.carried ha (q :: rest) (by rw [hpc]; exact hjob)
      exact .inl (hx ▸ Exporter.sameFailures_recordWritten hinflight)
  | fails hx _ _ _ => exact .inr (hx ▸ Exporter.markWriterFailure_failed s.x)
  | prepares _ _ _ hx _ _ =>
    exact .inl (hx ▸ Exporter.sameFailures_prepareTimeoutControls cfg s.x s.now)
  | expires _ hx _ _ => exact .inl (hx ▸ Exporter.sameFailures_expireControls s.x)
  | builds _ _ _ _ _ _ hx _ _ _ => exact .inl (hx ▸ .refl _)
  | reserves stream _ _ raw _ hx _ _ =>
    exact .inl (hx ▸ Exporter.sameFailures_reserveControl s.x stream raw)
  | drops job _ hx _ _ => exact .inl (hx ▸ Exporter.sameFailures_dropControl s.x job.stream)
  | releases stream _ _ raw _ _ hx _ _ =>
    exact .inl (hx ▸ Exporter.sameFailures_releaseControl s.x stream raw)
  | invalidates c stream _ hx _ _ => exact .inl (hx ▸ sameFailures_appendInvalidation cfg s c stream)

/-- The end of the writer prepares no summary any more. -/
theorem prepares_of_finalStep {cfg : Config} {s s' : TraceSink} {c : Choice}
    (hstep : s.finalStep cfg c s.writer = some s') : s'.writer.prepares = false := by
  have hinvalidated : ∀ stream, (TraceSink.afterInvalidation cfg .finalInvalidation
      .finalInvalidated stream).prepares = false := by
    intro stream
    cases stream with
    | base =>
      rw [TraceSink.afterInvalidation]
      split <;> rfl
    | profile => rfl
  unfold TraceSink.finalStep at hstep
  split at hstep
  all_goals
    repeat' split at hstep
  all_goals first
    | cases hstep
      done
    | obtain ⟨-, rfl⟩ := TraceSink.locked_eq_some.mp hstep
      rfl
    | cases hstep
      exact hinvalidated _
    | cases hstep
      rfl

/-- Until the close is decided, a writer that is not marked has not failed. -/
def Unfailing (s : TraceSink) : Prop :=
  s.writer.prepares = true → s.x.writerFailed = false → ∀ t, (s.x.ledger t).writerFailures = 0

namespace Unfailing
variable {cfg : Config} {s s' : TraceSink}

theorem step {action : TraceSink.Action} (h : Unfailing s) (horder : Orderly s)
    (haccounted : Accounted s) (hreceipts : Receipts cfg s) (hopen : TraceSink.Undecided s')
    (hstep : s.step cfg action = some s') : Unfailing s' := by
  intro hprepares hfailed t
  rcases (Effect.of_step hstep).failures haccounted with hsame | hmarked
  · -- the writer was preparing, and not marked
    have hbefore : s.writer.prepares = true ∧ s.x.writerFailed = false := by
      cases action with
      | produce call =>
        obtain ⟨-, rfl⟩ := TraceSink.locked_eq_some.mp hstep
        have hflags : (call.run cfg s.x s.now).writerFailed = s.x.writerFailed :=
          (Exporter.admits_call s.x s.now call).writerFailed
        exact ⟨hprepares, hflags.symm.trans hfailed⟩
      | closer i expired =>
        have hcalls := Calls.of_closerStep hstep
        have hflags := (TraceSink.closerStep_undecided horder hstep hopen).1
        exact ⟨hcalls.writer ▸ hprepares, hflags.symm.trans hfailed⟩
      | tick ns =>
        cases hstep
        exact ⟨hprepares, hfailed⟩
      | writer c =>
        rcases writerStep_cases hstep with hrun | hsummary | hfinal
        · have hearly : s.writer.beforeReceipt = true := by
            cases hpc : s.writer <;> first | rfl | simp [hpc, TraceSink.runStep] at hrun
          refine ⟨?_, (hreceipts.early hearly).2⟩
          show (_ || s.writer.beforeReceipt) = true
          rw [hearly, Bool.or_true]
        · have hflags := (Summarises.of_summaryStep hsummary).writerFailed
          refine ⟨?_, hflags.symm.trans hfailed⟩
          cases hpc : s.writer <;> first | rfl | simp [hpc, TraceSink.summaryStep] at hsummary
        · rw [prepares_of_finalStep hfinal] at hprepares
          cases hprepares
    rw [hsame.writerFailures]
    exact h hbefore.1 hbefore.2 t
  · cases hmarked.symm.trans hfailed

theorem initial (h : TraceSink.Initial cfg s) : Unfailing s := by
  obtain ⟨pid, startedNs, now, h⟩ := h
  simp only [TraceSink.opened, bind_eq_ok, pure_eq_ok] at h
  obtain ⟨⟨base, baseRaw⟩, -, ⟨profile, profileRaw⟩, -, rfl⟩ := h
  exact fun _ _ t => rfl

/-- The run lemma. -/
theorem of_reachable {ok : TraceSink → TraceSink.Action → Prop}
    (h : TraceSink.ReachableWhen cfg ok s) : TraceSink.Undecided s → Unfailing s := by
  refine h.invariant_over (I := fun s => TraceSink.Undecided s → Unfailing s)
    (J := fun s => Orderly s ∧ Accounted s ∧ (TraceSink.Undecided s → Receipts cfg s))
      (fun s hs => ?_) (fun _ hs _ => initial hs) fun s a s' hJ hs _ hstep _ hopen => ?_
  · exact ⟨TraceSink.orderly_of_reachableWhen hs,
      accounted_of_reachable (hs.mono fun _ _ _ => trivial), .of_reachable hs⟩
  · have hbefore := TraceSink.undecided_of_step hstep hopen
    exact (hs hbefore).step hJ.1 hJ.2.1 (hJ.2.2 hbefore) hopen hstep

end Unfailing
end LifecycleProfiler.Sink
