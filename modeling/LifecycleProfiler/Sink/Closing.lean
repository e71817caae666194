import LifecycleProfiler.Sink.Frames

/-! # Closing the sink

The locks, the deadline and the completion claim. The deadline is set once, the
claim is never replaced, and what a caller returns is the claim. -/

namespace LifecycleProfiler.Sink
open Python Protocol

namespace CloserPc

/-- The caller holds the condition lock between two steps. -/
def forces : CloserPc → Bool
  | forcing | forced _ => true
  | _ => false

/-- The caller holds the close lock and has not given up. -/
def holds : CloserPc → Bool
  | wantCondition _ | joining _ | wantFinal _ | forcing | forced _ => true
  | _ => false

/-- A caller that may have set the deadline, and has claimed nothing yet. -/
def waits : CloserPc → Bool
  | joining _ | wantFinal _ | forcing | forced _ | giveUp | timeoutClaim _ => true
  | _ => false

/-- The caller waits for the writer to close. -/
def joins : CloserPc → Bool
  | joining _ | wantFinal _ => true
  | _ => false

/-- What the caller has claimed or read. -/
def result? : CloserPc → Option CloseResult
  | storeAbandoned r | storeClosed r | storeOutcome r | returned r => some r
  | _ => none

end CloserPc

/-- What every step keeps about locks, deadline and claim. -/
structure Orderly (s : TraceSink) : Prop where
  writerLock : s.lock = some .writer ↔ s.writer = .claiming ∨ s.writer = .finalClaim
  closerLock : ∀ i, s.lock = some (.closer i) ↔ (s.closers i).forces = true
  holder : ∀ i, (s.closers i).holds = true → s.closeLock = some i
  once : s.closeDeadlineNs ≠ none → s.claim = none →
    ∃ i, s.closeLock = some i ∧ (s.closers i).waits = true
  abandoned : s.abandoned = true → s.claim = none → ∃ i r, s.closers i = .forced r
  closed : s.x.closed = true → s.claim = none →
    (∃ i r, s.closers i = .forced r) ∨ s.writer = .finalClaim ∨ s.writer = .terminated
  shutdown : s.writer = .finalClaim ∨ s.writer = .terminated → s.x.closed = true
  terminated : s.writer = .terminated → s.claim = none → s.x.closing = false
  joined : ∀ i, (s.closers i).joins = true → s.x.closing = true
  won : ∀ i r, (s.closers i).result? = some r → s.claim = some r
  late : s.writer.late = true → s.deadlineReached = true
  shut : s.writer = .gateShut → s.abandoned = true ∨ s.deadlineReached = true
  removing : s.writer = .removing → s.abandoned = true
  summarises : ∀ o, s.writer.closeOutcome? = some o → o = .drained ∧ s.x.closing = true

namespace Orderly
variable {cfg : Config} {s s' : TraceSink} {c : Choice}

/-- A step of the writer that touches neither lock nor claim. -/
theorem of_frame (h : Orderly s) (hf : Frame s s') (hclaim : s'.claim = s.claim)
    (hlock : s'.lock = s.lock) (hclosed : s'.x.closed = s.x.closed) (hs : s.writer.ends = false)
    (hends : s'.writer.ends = false) (hlate : s'.writer.late = true → s.deadlineReached = true)
    (hshut : s'.writer = .gateShut → s.abandoned = true ∨ s.deadlineReached = true)
    (hremoving : s'.writer = .removing → s.abandoned = true)
    (hoc : ∀ o, s'.writer.closeOutcome? = some o → o = .drained ∧ s.x.closing = true) :
    Orderly s' := by
  have hne : ∀ pc : WriterPc, pc.ends = false →
      pc ≠ .claiming ∧ pc ≠ .finalClaim ∧ pc ≠ .terminated := by
    intro pc hpc
    refine ⟨?_, ?_, ?_⟩ <;> rintro rfl <;> cases hpc
  obtain ⟨hs1, hs2, hs3⟩ := hne _ hs
  obtain ⟨he1, he2, he3⟩ := hne _ hends
  refine ⟨?_, ?_, ?_, ?_, ?_, ?_, fun ht => (ht.elim he2 he3).elim, fun ht => absurd ht he3, ?_, ?_,
    ?_, ?_, ?_, ?_⟩
  · rw [hlock, h.writerLock]
    simp [hs1, hs2, he1, he2]
  · rw [hlock, hf.closers]
    exact h.closerLock
  · rw [hf.closers, hf.closeLock]
    exact h.holder
  · rw [hf.closeDeadlineNs, hclaim, hf.closeLock, hf.closers]
    exact h.once
  · rw [hf.abandoned, hclaim, hf.closers]
    exact h.abandoned
  · rw [hclosed, hclaim, hf.closers]
    intro hc hn
    rcases h.closed hc hn with hi | hi | hi
    · exact .inl hi
    · exact absurd hi hs2
    · exact absurd hi hs3
  · rw [hf.closers, hf.closing]
    exact h.joined
  · rw [hf.closers, hclaim]
    exact h.won
  · rw [hf.deadlineReached]
    exact hlate
  · rw [hf.abandoned, hf.deadlineReached]
    exact hshut
  · rw [hf.abandoned]
    exact hremoving
  · rw [hf.closing]
    exact hoc

theorem runStep (h : Orderly s) (hstep : s.runStep cfg c s.writer = some s') : Orderly s' := by
  have hl := Loops.of_runStep hstep
  have hends : s.writer.ends = false := by
    cases hpc : s.writer <;> first | rfl | simp [hpc, TraceSink.runStep] at hstep
  refine h.of_frame hl.toFrame hl.claim hl.lock hl.closed hends
    (WriterPc.ends_of_prepares hl.prepares) (fun hlate => ?_) hl.shut hl.removing fun o ho => ?_
  · rcases hl.late hlate with hl | hl | ⟨hpc, ha⟩
    · exact h.late hl
    · exact hl
    · exact (h.shut hpc).resolve_left (by simp [ha])
  · rcases hl.closeOutcome o ho with ho | ho | ⟨hlate, hn⟩
    · exact h.summarises o ho
    · exact ho
    · simp [h.late hlate] at hn

theorem summaryStep (h : Orderly s) (hstep : s.summaryStep cfg c s.writer = some s') :
    Orderly s' := by
  have hl := Summarises.of_summaryStep hstep
  have hends : s.writer.ends = false := by
    cases hpc : s.writer <;> first | rfl | simp [hpc, TraceSink.summaryStep] at hstep
  exact h.of_frame hl.toFrame hl.claim hl.lock hl.closed hends
    (WriterPc.ends_of_prepares hl.prepares) (by simp [hl.late]) (fun hpc => absurd hpc hl.gates.2)
      (fun hpc => absurd hpc hl.gates.1)
    fun o ho => h.summarises o (hl.closeOutcome o ho)

/-- A step towards the end of the writer. -/
theorem of_final (h : Orderly s) {x : Exporter} {shard : StreamId → Shard} {flags : StreamId → Bool}
    {outcome : Option CloseOutcome} {pc : WriterPc} (hx : Exporter.SameGates s.x x)
    (hs : s.writer.ends = false)
    (hpc : pc.ends = false ∧ pc.late = false ∧ pc.closeOutcome? = none)
    (hne : pc ≠ .gateShut ∧ pc ≠ .removing) :
    Orderly { s with
      x := x, shard := shard, summaryWritten := flags, writerOutcome := outcome, writer := pc } :=
  h.of_frame ⟨rfl, rfl, rfl, rfl, rfl, hx.closing⟩ rfl rfl hx.closed hs hpc.1 (by simp [hpc.2.1])
    (fun hg => absurd hg hne.1) (fun hr => absurd hr hne.2) (by simp [hpc.2.2])

/-- The writer takes the lock at the end of a scope that claims in the next step. -/
theorem of_lock (h : Orderly s) {closed : Bool} {pc : WriterPc} (hlock : s.lock = none)
    (hpc : pc = .claiming ∧ closed = s.x.closed ∧ s.writer.ends = false ∨
      pc = .finalClaim ∧ closed = true) :
    Orderly { s with x := { s.x with closed := closed }, lock := some .writer, writer := pc } := by
  have hfree : ∀ i, (s.closers i).forces = false := by
    intro i
    rw [← Bool.not_eq_true, ← h.closerLock, hlock]
    exact nofun
  refine ⟨?_, fun i => ?_, h.holder, h.once, h.abandoned, fun hc hn => ?_, ?_, ?_, h.joined, h.won,
    ?_, ?_, ?_, ?_⟩
  · rcases hpc with ⟨rfl, -⟩ | ⟨rfl, -⟩ <;> simp
  · simp [hfree i]
  · rcases hpc with ⟨rfl, rfl, hends⟩ | ⟨rfl, rfl⟩
    · rcases h.closed hc hn with hi | hi | hi
      · exact .inl hi
      · simp [hi, WriterPc.ends] at hends
      · simp [hi, WriterPc.ends] at hends
    · exact .inr (.inl rfl)
  · rcases hpc with ⟨rfl, -⟩ | ⟨rfl, rfl⟩
    · rintro (hf | hf) <;> cases hf
    · exact fun _ => rfl
  all_goals rcases hpc with ⟨rfl, -⟩ | ⟨rfl, -⟩ <;> exact nofun

/-- The writer claims, or finds a claim, and gives the lock back. -/
theorem of_claim (h : Orderly s) (closed : Bool) {shard : StreamId → Shard}
    {candidate : CloseResult}
    {pc : WriterPc} (hs : s.writer = .claiming ∨ s.writer = .finalClaim)
    (hpc : pc.ends = false ∨ pc = .terminated ∧ closed = true)
    (hne : pc.late = false ∧ pc.closeOutcome? = none ∧ pc ≠ .gateShut ∧ pc ≠ .removing) :
    Orderly { s with
      x := { s.x with closed := closed }, shard := shard
      claim := some (s.claim.getD candidate), lock := none, writer := pc } := by
  have hlock := h.writerLock.mpr hs
  refine ⟨?_, fun i => ?_, h.holder, fun _ => nofun, fun _ => nofun, fun _ => nofun, ?_,
    fun _ => nofun, h.joined, fun i r hr => ?_, ?_, ?_, ?_, ?_⟩
  · simp only [reduceCtorEq, false_iff, not_or]
    rcases hpc with hpc | ⟨rfl, -⟩
    · constructor <;> rintro rfl <;> cases hpc
    · exact ⟨nofun, nofun⟩
  · have hi := h.closerLock i
    rw [hlock] at hi
    simpa using hi
  · rcases hpc with hpc | ⟨-, rfl⟩
    · rintro (rfl | rfl) <;> cases hpc
    · exact fun _ => rfl
  · simp [h.won i r hr]
  · simp [hne.1]
  · exact fun hg => absurd hg hne.2.2.1
  · exact fun hr => absurd hr hne.2.2.2
  · simp [hne.2.1]

theorem finalStep (h : Orderly s) (hstep : s.finalStep cfg c s.writer = some s') : Orderly s' := by
  generalize hpc : s.writer = pc at hstep
  have hrevoke := Exporter.sameGates_markWriterFailure s.x
  cases pc with
  | finalize =>
    simp only [TraceSink.finalStep] at hstep
    obtain ⟨-, rfl⟩ := TraceSink.locked_eq_some.mp hstep
    split <;> exact h.of_final ⟨rfl, rfl⟩ (hpc ▸ rfl) ⟨rfl, rfl, rfl⟩ ⟨by simp, by simp⟩
  | finalInvalidation stream =>
    simp only [TraceSink.finalStep, Option.some.injEq] at hstep
    subst hstep
    obtain ⟨x, lines, hx, heq⟩ := appendInvalidation_eq cfg s c stream
    rw [heq]
    refine h.of_final hx.toSameGates (hpc ▸ rfl) ?_ ?_
    all_goals
      cases stream
      · rw [TraceSink.afterInvalidation]
        split <;> simp [WriterPc.ends, WriterPc.late, WriterPc.closeOutcome?]
      · simp [TraceSink.afterInvalidation, WriterPc.ends, WriterPc.late, WriterPc.closeOutcome?]
  | finalInvalidated =>
    simp only [TraceSink.finalStep] at hstep
    obtain ⟨-, rfl⟩ := TraceSink.locked_eq_some.mp hstep
    exact h.of_final ⟨rfl, rfl⟩ (hpc ▸ rfl) ⟨rfl, rfl, rfl⟩ ⟨by simp, by simp⟩
  | closeDescriptors =>
    simp only [TraceSink.finalStep, Option.some.injEq] at hstep
    subst hstep
    split <;> exact h.of_final ⟨rfl, rfl⟩ (hpc ▸ rfl) ⟨rfl, rfl, rfl⟩ ⟨by simp, by simp⟩
  | descriptorFailure =>
    simp only [TraceSink.finalStep] at hstep
    obtain ⟨-, rfl⟩ := TraceSink.locked_eq_some.mp hstep
    exact h.of_final hrevoke (hpc ▸ rfl) ⟨rfl, rfl, rfl⟩ ⟨by simp, by simp⟩
  | flush =>
    simp only [TraceSink.finalStep] at hstep
    obtain ⟨-, rfl⟩ := TraceSink.locked_eq_some.mp hstep
    exact h.of_final (x := s.x.takePendingDiagnostics.1) ⟨rfl, rfl⟩ (hpc ▸ rfl) ⟨rfl, rfl, rfl⟩
      ⟨by simp, by simp⟩
  | eligible =>
    simp only [TraceSink.finalStep] at hstep
    obtain ⟨-, rfl⟩ := TraceSink.locked_eq_some.mp hstep
    split <;> exact h.of_final ⟨rfl, rfl⟩ (hpc ▸ rfl) ⟨rfl, rfl, rfl⟩ ⟨by simp, by simp⟩
  | checkTargets =>
    simp only [TraceSink.finalStep] at hstep
    split at hstep
    · cases hstep
      exact h.of_final ⟨rfl, rfl⟩ (hpc ▸ rfl) ⟨rfl, rfl, rfl⟩ ⟨by simp, by simp⟩
    · cases hstep
      split <;> exact h.of_final ⟨rfl, rfl⟩ (hpc ▸ rfl) ⟨rfl, rfl, rfl⟩ ⟨by simp, by simp⟩
  | replace stream =>
    simp only [TraceSink.finalStep] at hstep
    split at hstep
    · cases hstep
      split <;> exact h.of_final ⟨rfl, rfl⟩ (hpc ▸ rfl) ⟨rfl, rfl, rfl⟩ ⟨by simp, by simp⟩
    · cases hstep
      exact h.of_final ⟨rfl, rfl⟩ (hpc ▸ rfl) ⟨rfl, rfl, rfl⟩ ⟨by simp, by simp⟩
  | publicationClaim =>
    simp only [TraceSink.finalStep] at hstep
    split at hstep
    · obtain ⟨-, rfl⟩ := TraceSink.locked_eq_some.mp hstep
      exact h.of_final ⟨rfl, rfl⟩ (hpc ▸ rfl) ⟨rfl, rfl, rfl⟩ ⟨by simp, by simp⟩
    · obtain ⟨hlock, rfl⟩ := TraceSink.locked_eq_some.mp hstep
      exact h.of_lock hlock (.inl ⟨rfl, rfl, hpc ▸ rfl⟩)
  | claiming =>
    simp only [TraceSink.finalStep] at hstep
    split at hstep
    · cases hstep
      exact h.of_claim _ (.inl hpc) (.inl rfl) ⟨rfl, rfl, by simp, by simp⟩
    · cases hstep
      exact h.of_claim _ (.inl hpc) (.inl rfl) ⟨rfl, rfl, by simp, by simp⟩
  | retract published expired =>
    cases published with
    | nil =>
      simp only [TraceSink.finalStep, Option.some.injEq] at hstep
      subst hstep
      split <;> exact h.of_final ⟨rfl, rfl⟩ (hpc ▸ rfl) ⟨rfl, rfl, rfl⟩ ⟨by simp, by simp⟩
    | cons stream rest =>
      simp only [TraceSink.finalStep, Option.some.injEq] at hstep
      subst hstep
      split
      · exact h.of_final ⟨rfl, rfl⟩ (hpc ▸ rfl) ⟨rfl, rfl, rfl⟩ ⟨by simp, by simp⟩
      · exact h.of_final ⟨rfl, rfl⟩ (hpc ▸ rfl) ⟨rfl, rfl, rfl⟩ ⟨by simp, by simp⟩
      · obtain ⟨x, lines, hx, heq⟩ := appendInvalidation_eq cfg
          (s.setShard stream fun shard => { shard with reserved := false }) c stream
        rw [heq]
        exact h.of_final (x := x) ⟨hx.closing, hx.closed⟩ (hpc ▸ rfl) ⟨rfl, rfl, rfl⟩
          ⟨by simp, by simp⟩
  | publicationExpired =>
    simp only [TraceSink.finalStep] at hstep
    obtain ⟨-, rfl⟩ := TraceSink.locked_eq_some.mp hstep
    exact h.of_final (x := s.x.countDiagnostic "close_timeout") ⟨rfl, rfl⟩ (hpc ▸ rfl)
      ⟨rfl, rfl, rfl⟩ ⟨by simp, by simp⟩
  | publicationFailure =>
    simp only [TraceSink.finalStep] at hstep
    obtain ⟨-, rfl⟩ := TraceSink.locked_eq_some.mp hstep
    exact h.of_final hrevoke (hpc ▸ rfl) ⟨rfl, rfl, rfl⟩ ⟨by simp, by simp⟩
  | flushLast =>
    simp only [TraceSink.finalStep] at hstep
    obtain ⟨-, rfl⟩ := TraceSink.locked_eq_some.mp hstep
    exact h.of_final (x := s.x.takePendingDiagnostics.1) ⟨rfl, rfl⟩ (hpc ▸ rfl) ⟨rfl, rfl, rfl⟩
      ⟨by simp, by simp⟩
  | finalException =>
    simp only [TraceSink.finalStep] at hstep
    obtain ⟨-, rfl⟩ := TraceSink.locked_eq_some.mp hstep
    exact h.of_final hrevoke (hpc ▸ rfl) ⟨rfl, rfl, rfl⟩ ⟨by simp, by simp⟩
  | closing =>
    simp only [TraceSink.finalStep] at hstep
    split at hstep
    · obtain ⟨hlock, rfl⟩ := TraceSink.locked_eq_some.mp hstep
      exact h.of_lock hlock (.inr ⟨rfl, rfl⟩)
    · next hclaim =>
      obtain ⟨hlock, rfl⟩ := TraceSink.locked_eq_some.mp hstep
      refine ⟨?_, h.closerLock, h.holder, h.once, h.abandoned, fun _ _ => .inr (.inr rfl),
        fun _ => rfl, fun _ hn => ?_, h.joined, h.won, by rintro ⟨⟩, by simp, by simp,
        by rintro _ ⟨⟩⟩
      · simp [TraceSink.goto, hlock]
      · have hopen : s.x.closing ≠ true := fun hclosing => hclaim ⟨hn, hclosing⟩
        simpa using hopen
  | finalClaim =>
    simp only [TraceSink.finalStep, Option.some.injEq] at hstep
    subst hstep
    exact h.of_claim s.x.closed (.inr hpc) (.inr ⟨rfl, h.shutdown (.inl hpc)⟩)
      ⟨rfl, rfl, by simp, by simp⟩
  | _ => simp [TraceSink.finalStep] at hstep

theorem writerStep (h : Orderly s) (hstep : s.writerStep cfg c = some s') : Orderly s' := by
  rcases writerStep_cases hstep with hrun | hsummary | hfinal
  · exact h.runStep hrun
  · exact h.summaryStep hsummary
  · exact h.finalStep hfinal

/-! ## Callers -/

/-- Only one caller holds the condition lock. -/
theorem forces_iff (h : Orderly s) {i : Nat} {l : Option Party} (hl : s.lock = l) :
    (s.closers i).forces = true ↔ l = some (.closer i) := hl ▸ (h.closerLock i).symm

/-- A forced caller is another one than a caller that does not force. -/
theorem forced_setCloser {id : Nat} {pc : CloserPc} (hforces : (s.closers id).forces = false)
    (h : ∃ i r, s.closers i = .forced r) : ∃ i r, (s.setCloser id pc).closers i = .forced r := by
  obtain ⟨i, r, hi⟩ := h
  have hne : i ≠ id := by
    rintro rfl
    simp [hi, CloserPc.forces] at hforces
  exact ⟨i, r, by simp [TraceSink.setCloser, hne, hi]⟩

/-- A caller moves on and claims nothing. -/
theorem of_setCloser (h : Orderly s) {id : Nat} {pc : CloserPc}
    (hforces : (s.closers id).forces = false ∧ pc.forces = false)
    (hholds : pc.holds = true → s.closeLock = some id)
    (hwaits : (s.closers id).waits = true → pc.waits = true)
    (hjoins : pc.joins = true → s.x.closing = true) (hresult : pc.result? = none) :
    Orderly (s.setCloser id pc) := by
  have hcloser : ∀ i, (s.setCloser id pc).closers i = if i = id then pc else s.closers i :=
    fun _ => rfl
  refine ⟨h.writerLock, fun i => ?_, fun i hi => ?_, fun hd hn => ?_,
    fun ha hn => forced_setCloser hforces.1 (h.abandoned ha hn),
    fun hc hn => (h.closed hc hn).imp_left (forced_setCloser hforces.1), h.shutdown, h.terminated,
    fun i hi => ?_, fun i r hr => ?_, h.late, h.shut, h.removing, h.summarises⟩
  · refine (h.closerLock i).trans ?_
    rw [hcloser]
    split
    · next hi => rw [hi, hforces.1, hforces.2]
    · rfl
  · rw [hcloser] at hi
    split at hi
    · next heq => exact heq ▸ hholds hi
    · exact h.holder i hi
  · obtain ⟨i, hlock, hi⟩ := h.once hd hn
    refine ⟨i, hlock, ?_⟩
    rw [hcloser]
    split
    · next heq => exact hwaits (heq ▸ hi)
    · exact hi
  · rw [hcloser] at hi
    split at hi
    · exact hjoins hi
    · exact h.joined i hi
  · rw [hcloser] at hr
    split at hr
    · simp [hresult] at hr
    · exact h.won i r hr

/-- A caller that has a result: the claim stands whatever it stores after it. -/
theorem of_result (h : Orderly s) {id : Nat} {r : CloseResult} {lock : Option Party}
    (pc : CloserPc) (x : Exporter) (closeLock : Option Nat) (abandoned : Bool)
    (outcome : Option CloseOutcome) (hclaim : s.claim = none ∨ s.claim = some r)
    (hpc : pc.forces = false ∧ pc.holds = false ∧ pc.joins = false)
    (hresult : ∀ r', pc.result? = some r' → r' = r)
    (hcloseLock : closeLock = s.closeLock ∨ s.closeLock = some id ∧ closeLock = none)
    (hlock : lock = s.lock ∧ (s.closers id).forces = false ∨
      lock = none ∧ s.lock = some (.closer id))
    (habandoned : s.abandoned = true → abandoned = true)
    (hx : x.closing = s.x.closing ∧ (s.x.closed = true → x.closed = true)) :
    Orderly { s with
      claim := some r, lock := lock, closeLock := closeLock, abandoned := abandoned, x := x
      writerOutcome := outcome, closers := fun i => if i = id then pc else s.closers i } := by
  refine ⟨?_, fun i => ?_, fun i hi => ?_, fun _ => nofun, fun _ => nofun, fun _ => nofun,
    fun hw => hx.2 (h.shutdown hw), fun _ => nofun, fun i hi => ?_, fun i r' hr => ?_, h.late,
    fun hs => (h.shut hs).imp_left habandoned, fun hr => habandoned (h.removing hr),
    fun o ho => ?_⟩
  · refine Iff.trans ?_ h.writerLock
    rcases hlock with ⟨rfl, -⟩ | ⟨rfl, hl⟩
    · rfl
    · simp [hl]
  · rcases hlock with ⟨rfl, hf⟩ | ⟨rfl, hl⟩
    · refine (h.closerLock i).trans ?_
      dsimp only
      split
      · next heq => rw [heq, hf, hpc.1]
      · rfl
    · dsimp only
      split
      · simp [hpc.1]
      · next hne =>
        rw [h.forces_iff hl]
        simpa using fun heq : id = i => hne heq.symm
  · dsimp only at hi ⊢
    split at hi
    · simp [hpc.2.1] at hi
    · next hne =>
      have hi := h.holder i hi
      rcases hcloseLock with rfl | ⟨hid, -⟩
      · exact hi
      · rw [hi, Option.some.injEq] at hid
        exact absurd hid hne
  · dsimp only at hi ⊢
    rw [hx.1]
    split at hi
    · simp [hpc.2.2] at hi
    · exact h.joined i hi
  · dsimp only at hr ⊢
    split at hr
    · rw [hresult r' hr]
    · have hwon := h.won i r' hr
      rcases hclaim with hclaim | hclaim
      · rw [hclaim] at hwon
        cases hwon
      · rw [← hwon, hclaim]
  · dsimp only
    rw [hx.1]
    exact h.summarises o ho

/-- A caller returns the claim, its own if there was none. -/
theorem claimAndReturn (h : Orderly s) {id : Nat} {candidate : CloseResult}
    (hforces : (s.closers id).forces = false) : Orderly (s.claimAndReturn id candidate) := by
  refine h.of_result (.returned (s.claim.getD candidate)) _ _ _ _ ?_ ⟨rfl, rfl, rfl⟩
    (fun r' hr => ?_)
    ?_ (.inl ⟨rfl, hforces⟩) (fun ha => ha) ⟨rfl, fun hc => hc⟩
  · cases hclaim : s.claim
    · exact .inl rfl
    · exact .inr rfl
  · exact (Option.some.inj hr).symm
  · unfold TraceSink.setClaim
    dsimp only
    split
    · next hl => exact .inr ⟨hl, rfl⟩
    · exact .inl rfl

theorem returnResult (h : Orderly s) {id : Nat} {r : CloseResult} (hclaim : s.claim = some r)
    (hforces : (s.closers id).forces = false) : Orderly (s.returnResult id r) := by
  have hsame : s.claimAndReturn id r = s.returnResult id r := by
    simp [TraceSink.claimAndReturn, TraceSink.setClaim, hclaim, TraceSink.returnResult,
      TraceSink.setCloser]
  exact hsame ▸ h.claimAndReturn hforces

/-- The caller that gets the close lock finds no deadline of another. -/
theorem takeCloseLock (h : Orderly s) {id : Nat} {deadline : Nat} (hfree : s.closeLock = none)
    (hpc : s.closers id = .wantCloseLock deadline) :
    Orderly ({ s with closeLock := some id }.setCloser id (.wantCondition deadline)) := by
  have hlocked : Orderly { s with closeLock := some id } := by
    refine ⟨h.writerLock, h.closerLock, fun i hi => ?_, fun hd hn => ?_, h.abandoned, h.closed,
      h.shutdown, h.terminated, h.joined, h.won, h.late, h.shut, h.removing, h.summarises⟩
    · have hi := h.holder i hi
      rw [hfree] at hi
      cases hi
    · obtain ⟨i, hi, -⟩ := h.once hd hn
      rw [hfree] at hi
      cases hi
  have hforces : (s.closers id).forces = false := by
    rw [hpc]
    rfl
  exact hlocked.of_setCloser ⟨hforces, rfl⟩ (fun _ => rfl) (fun hw => by
    change (s.closers id).waits = true at hw
    simp [hpc, CloserPc.waits] at hw) nofun rfl

/-- A caller before the first lock scope finds the deadline unset. -/
theorem deadline_unset (h : Orderly s) {id deadline : Nat}
    (hpc : s.closers id = .wantCondition deadline) (hclaim : s.claim = none) :
    s.closeDeadlineNs = none := by
  cases hd : s.closeDeadlineNs with
  | none => rfl
  | some d =>
    obtain ⟨i, hi, hw⟩ := h.once (by simp [hd]) hclaim
    have hid := h.holder id (by rw [hpc]; rfl)
    rw [hi, Option.some.injEq] at hid
    simp [hid, hpc, CloserPc.waits] at hw

/-- The first lock scope of `close()`: the deadline is set and producers stop. -/
theorem beginClose (h : Orderly s) {id deadline : Nat} {x : Exporter}
    (hpc : s.closers id = .wantCondition deadline) (hclaim : s.claim = none)
    (hopen : s.x.closed = false) (hx : Exporter.SameFlags s.x x) : Orderly ({ s with
      closeDeadlineNs := some deadline, x := { x with closing := true } }.setCloser id
        (.joining deadline)) := by
  have hunset := h.deadline_unset hpc hclaim
  have hnever : s.deadlineReached = false := by
    rw [TraceSink.deadlineReached, hunset]
    rfl
  have hforces : (s.closers id).forces = false := by
    rw [hpc]
    rfl
  have hcloser : ∀ i, ({ s with
      closeDeadlineNs := some deadline, x := { x with closing := true } }.setCloser id
        (.joining deadline)).closers i = if i = id then .joining deadline else s.closers i :=
    fun _ => rfl
  refine ⟨h.writerLock, fun i => ?_, fun i hi => ?_, fun _ _ => ⟨id, ?_, ?_⟩,
    fun ha hn => forced_setCloser hforces (h.abandoned ha hn), fun hc hn => ?_, fun hw => ?_,
    fun hw hn => ?_, fun _ _ => rfl, fun i r hr => ?_, fun hl => ?_, fun hs => ?_, h.removing,
    fun o ho => ⟨(h.summarises o ho).1, rfl⟩⟩
  · refine (h.closerLock i).trans ?_
    rw [hcloser]
    split
    · next heq =>
      rw [heq, hforces]
      rfl
    · rfl
  · rw [hcloser] at hi
    split at hi
    · next heq => exact heq ▸ h.holder id (by rw [hpc]; rfl)
    · exact h.holder i hi
  · exact h.holder id (by rw [hpc]; rfl)
  · simp [hcloser, CloserPc.waits]
  · exact (h.closed (hx.closed ▸ hc) hn).imp_left (forced_setCloser hforces)
  · exact hx.closed.trans (h.shutdown hw)
  · simp [h.shutdown (.inr hw)] at hopen
  · rw [hcloser] at hr
    split at hr
    · cases hr
    · exact h.won i r hr
  · have hl := h.late hl
    simp [hnever] at hl
  · have hs := h.shut hs
    simp only [hnever, Bool.false_eq_true, or_false] at hs
    exact .inl hs

/-- The caller that finds no claim keeps the lock to force a timeout. -/
theorem beginForce (h : Orderly s) {id deadline : Nat} (hpc : s.closers id = .wantFinal deadline)
    (hlock : s.lock = none) :
    Orderly ({ s with lock := some (.closer id) }.setCloser id .forcing) := by
  have hfree : ∀ i, (s.closers i).forces = false := by
    intro i
    rw [← Bool.not_eq_true, h.forces_iff hlock]
    exact nofun
  have hcloser : ∀ i, ({ s with lock := some (.closer id) }.setCloser id .forcing).closers i =
      if i = id then .forcing else s.closers i := fun _ => rfl
  have hnever : ∀ i r, s.closers i ≠ .forced r := by
    intro i r hi
    have := hfree i
    simp [hi, CloserPc.forces] at this
  have hwriter := h.writerLock
  rw [hlock] at hwriter
  refine ⟨?_, fun i => ?_, fun i hi => ?_, fun hd hn => ?_, fun ha hn => ?_, fun hc hn => ?_,
    h.shutdown, h.terminated, fun i hi => ?_, fun i r hr => ?_, h.late, h.shut, h.removing,
    h.summarises⟩
  · simpa [TraceSink.setCloser] using hwriter
  · rw [hcloser]
    split
    · next heq => simp [TraceSink.setCloser, heq, CloserPc.forces]
    · next hne =>
      simp only [TraceSink.setCloser, hfree i, Option.some.injEq, Party.closer.injEq,
        Bool.false_eq_true, iff_false]
      exact fun heq => hne heq.symm
  · rw [hcloser] at hi
    split at hi
    · next heq => exact heq ▸ h.holder id (by rw [hpc]; rfl)
    · exact h.holder i hi
  · obtain ⟨i, hi, hw⟩ := h.once hd hn
    refine ⟨i, hi, ?_⟩
    rw [hcloser]
    split
    · rfl
    · exact hw
  · obtain ⟨i, r, hi⟩ := h.abandoned ha hn
    exact absurd hi (hnever i r)
  · rcases h.closed hc hn with ⟨i, r, hi⟩ | hw
    · exact absurd hi (hnever i r)
    · exact .inr hw
  · rw [hcloser] at hi
    split at hi
    · cases hi
    · exact h.joined i hi
  · rw [hcloser] at hr
    split at hr
    · cases hr
    · exact h.won i r hr

/-- The forced timeout, still in the scope of the lock. -/
theorem force (h : Orderly s) {id : Nat} {x : Exporter} {r : CloseResult}
    {outcome : Option CloseOutcome} (hpc : s.closers id = .forcing)
    (hx : Exporter.SameGates s.x x) : Orderly ({ s with
      x := { x with closed := true }, writerOutcome := outcome, abandoned := true }.setCloser id
        (.forced r)) := by
  have hcloser : ∀ i, ({ s with
      x := { x with closed := true }, writerOutcome := outcome, abandoned := true }.setCloser id
        (.forced r)).closers i = if i = id then .forced r else s.closers i := fun _ => rfl
  have hforced : ∃ i r', ({ s with
      x := { x with closed := true }, writerOutcome := outcome, abandoned := true }.setCloser id
        (.forced r)).closers i = .forced r' := ⟨id, r, by simp [hcloser]⟩
  refine ⟨h.writerLock, fun i => ?_, fun i hi => ?_, fun hd hn => ?_, fun _ _ => hforced,
    fun _ _ => .inl hforced, fun _ => rfl, fun hw hn => ?_, fun i hi => ?_, fun i r' hr => ?_,
    h.late, fun _ => .inl rfl, fun _ => rfl, fun o ho => ?_⟩
  · refine (h.closerLock i).trans ?_
    rw [hcloser]
    split
    · next heq => simp [heq, hpc, CloserPc.forces]
    · rfl
  · rw [hcloser] at hi
    split at hi
    · next heq => exact heq ▸ h.holder id (by rw [hpc]; rfl)
    · exact h.holder i hi
  · obtain ⟨i, hi, hw⟩ := h.once hd hn
    refine ⟨i, hi, ?_⟩
    rw [hcloser]
    split
    · rfl
    · exact hw
  · exact hx.closing.trans (h.terminated hw hn)
  · rw [hcloser] at hi
    split at hi
    · cases hi
    · exact hx.closing.trans (h.joined i hi)
  · rw [hcloser] at hr
    split at hr
    · cases hr
    · exact h.won i r' hr
  · exact ⟨(h.summarises o ho).1, hx.closing.trans (h.summarises o ho).2⟩

theorem closerStep {id : Nat} {expired : Bool} (h : Orderly s)
    (hstep : s.closerStep cfg id expired = some s') : Orderly s' := by
  -- a caller that gives up keeps what it has set, and claims nothing yet
  have hgiveUp : (s.closers id).forces = false → Orderly (s.setCloser id .giveUp) := fun hf =>
    h.of_setCloser ⟨hf, rfl⟩ nofun (fun _ => rfl) nofun rfl
  unfold TraceSink.closerStep at hstep
  split at hstep
  case h_1 hpc =>
    cases hstep
    exact h.of_setCloser ⟨by rw [hpc]; rfl, rfl⟩ nofun (by simp [hpc, CloserPc.waits]) nofun rfl
  case h_2 deadline hpc =>
    split at hstep
    · next r hclaim =>
      cases hstep
      exact h.returnResult hclaim (by rw [hpc]; rfl)
    · cases hstep
      exact h.of_setCloser ⟨by rw [hpc]; rfl, rfl⟩ nofun (by simp [hpc, CloserPc.waits]) nofun rfl
  case h_3 deadline hpc =>
    split at hstep
    · split at hstep
      · cases hstep
        exact hgiveUp (by rw [hpc]; rfl)
      · cases hstep
    · split at hstep
      · next hfree =>
        cases hstep
        exact h.takeCloseLock hfree hpc
      · cases hstep
  case h_4 deadline hpc =>
    split at hstep
    · split at hstep
      · cases hstep
        exact hgiveUp (by rw [hpc]; rfl)
      · cases hstep
    · split at hstep
      · next r hclaim =>
        obtain ⟨-, rfl⟩ := TraceSink.locked_eq_some.mp hstep
        exact h.returnResult hclaim (by rw [hpc]; rfl)
      · next hclaim =>
        split at hstep
        · obtain ⟨-, rfl⟩ := TraceSink.locked_eq_some.mp hstep
          exact h.claimAndReturn (by rw [hpc]; rfl)
        · next hopen =>
          obtain ⟨-, rfl⟩ := TraceSink.locked_eq_some.mp hstep
          refine h.beginClose hpc hclaim (by simpa using hopen) ?_
          split
          · exact ((Exporter.admits_sealLoss s.x).trans (Exporter.admits_sealLoss _)).sameFlags
          · exact (Exporter.admits_sealLoss s.x).sameFlags
  case h_5 deadline hpc =>
    have hjoined : Orderly (s.setCloser id (.wantFinal deadline)) :=
      h.of_setCloser ⟨by rw [hpc]; rfl, rfl⟩ (fun _ => h.holder id (by rw [hpc]; rfl))
        (fun _ => rfl) (fun _ => h.joined id (by rw [hpc]; rfl)) rfl
    split at hstep
    · cases hstep
      exact hjoined
    · split at hstep
      · cases hstep
        exact hjoined
      · cases hstep
  case h_6 deadline hpc =>
    split at hstep
    · split at hstep
      · cases hstep
        exact hgiveUp (by rw [hpc]; rfl)
      · cases hstep
    · split at hstep
      · next r hclaim =>
        obtain ⟨-, rfl⟩ := TraceSink.locked_eq_some.mp hstep
        exact h.returnResult hclaim (by rw [hpc]; rfl)
      · obtain ⟨-, rfl⟩ := TraceSink.locked_eq_some.mp hstep
        exact h.claimAndReturn (by rw [hpc]; rfl)
      · obtain ⟨hlock, rfl⟩ := TraceSink.locked_eq_some.mp hstep
        exact h.beginForce hpc hlock
  case h_7 hpc =>
    cases hstep
    exact h.force hpc (Exporter.sameGates_forceTimeoutAccounting s.x _)
  case h_8 candidate hpc =>
    cases hstep
    have hlock := (h.closerLock id).mpr (by rw [hpc]; rfl)
    refine h.of_result (.returned (s.claim.getD candidate)) _ _ _ _ ?_ ⟨rfl, rfl, rfl⟩
      (fun r' hr => (Option.some.inj hr).symm) ?_ (.inr ⟨rfl, hlock⟩) (fun ha => ha)
      ⟨rfl, fun hc => hc⟩
    · cases hclaim : s.claim
      · exact .inl rfl
      · exact .inr rfl
    · refine .inr ⟨h.holder id (by rw [hpc]; rfl), ?_⟩
      exact if_pos (h.holder id (by rw [hpc]; rfl))
  case h_9 hpc =>
    cases hstep
    exact h.of_setCloser ⟨by rw [hpc]; rfl, rfl⟩ nofun (fun _ => rfl) nofun rfl
  case h_10 candidate hpc =>
    split at hstep
    · next r hclaim =>
      cases hstep
      exact h.returnResult hclaim (by rw [hpc]; rfl)
    · next hclaim =>
      cases hstep
      have hset : s.setClaim candidate = { s with claim := some candidate } := by
        rw [TraceSink.setClaim, hclaim]
        rfl
      rw [hset]
      exact h.of_result _ s.x _ _ _ (.inl hclaim) ⟨rfl, rfl, rfl⟩
        (fun r' hr => (Option.some.inj hr).symm) (.inl rfl) (.inl ⟨rfl, by rw [hpc]; rfl⟩)
        (fun ha => ha) ⟨rfl, fun hc => hc⟩
  case h_11 r hpc =>
    cases hstep
    have hclaim := h.won id r (by rw [hpc]; rfl)
    have hdone := h.of_result (.storeClosed r) s.x s.closeLock true s.writerOutcome
      (.inr hclaim) ⟨rfl, rfl, rfl⟩
      (fun r' hr => (Option.some.inj hr).symm) (.inl rfl) (.inl ⟨rfl, by rw [hpc]; rfl⟩)
      (fun _ => rfl) ⟨rfl, fun hc => hc⟩
    rwa [← hclaim] at hdone
  case h_12 r hpc =>
    cases hstep
    have hclaim := h.won id r (by rw [hpc]; rfl)
    have hdone := h.of_result (.storeOutcome r) { s.x with closed := true } s.closeLock
      s.abandoned s.writerOutcome (.inr hclaim) ⟨rfl, rfl, rfl⟩
      (fun r' hr => (Option.some.inj hr).symm) (.inl rfl) (.inl ⟨rfl, by rw [hpc]; rfl⟩)
      (fun ha => ha) ⟨rfl, fun _ => rfl⟩
    rwa [← hclaim] at hdone
  case h_13 r hpc =>
    cases hstep
    have hclaim := h.won id r (by rw [hpc]; rfl)
    have hdone := h.of_result (.returned r) s.x
      (if s.closeLock = some id then none else s.closeLock) s.abandoned (some .timeout)
        (.inr hclaim) ⟨rfl, rfl, rfl⟩ (fun r' hr => (Option.some.inj hr).symm) ?_
      (.inl ⟨rfl, by rw [hpc]; rfl⟩) (fun ha => ha) ⟨rfl, fun hc => hc⟩
    · rwa [← hclaim] at hdone
    · split
      · next hl => exact .inr ⟨hl, rfl⟩
      · exact .inl rfl
  case h_14 => cases hstep

/-- A step that changes what producers and the clock change. -/
theorem of_produce (h : Orderly s) {x : Exporter} {now : Nat} (hx : Exporter.SameFlags s.x x)
    (hnow : s.now ≤ now) : Orderly { s with x := x, now := now } := by
  have hreached : s.deadlineReached = true →
      ({ s with x := x, now := now } : TraceSink).deadlineReached = true := by
    unfold TraceSink.deadlineReached
    cases s.closeDeadlineNs with
    | none => exact id
    | some d =>
      simp only [Option.any_some, decide_eq_true_eq]
      exact fun hd => hd.trans hnow
  exact ⟨h.writerLock, h.closerLock, h.holder, h.once, h.abandoned,
    fun hc => h.closed (hx.closed ▸ hc), fun hw => hx.closed.trans (h.shutdown hw),
    fun hw hn => hx.closing.trans (h.terminated hw hn), fun i hi => hx.closing.trans
      (h.joined i hi),
    h.won, fun hl => hreached (h.late hl), fun hs => (h.shut hs).imp_right hreached, h.removing,
    fun o ho => ⟨(h.summarises o ho).1, hx.closing.trans (h.summarises o ho).2⟩⟩

theorem step {action : TraceSink.Action} (h : Orderly s) (hstep : s.step cfg action = some s') :
    Orderly s' := by
  cases action with
  | produce call =>
    obtain ⟨-, rfl⟩ := TraceSink.locked_eq_some.mp hstep
    exact h.of_produce (Exporter.admits_call s.x s.now call).sameFlags (Nat.le_refl s.now)
  | writer choice => exact h.writerStep hstep
  | closer i expired => exact h.closerStep hstep
  | tick ns =>
    cases hstep
    exact h.of_produce (.refl s.x) (Nat.le_add_right s.now ns)

theorem initial (h : TraceSink.Initial cfg s) : Orderly s := by
  obtain ⟨pid, startedNs, now, h⟩ := h
  simp only [TraceSink.opened, bind_eq_ok, pure_eq_ok] at h
  obtain ⟨⟨base, baseRaw⟩, -, ⟨profile, profileRaw⟩, -, rfl⟩ := h
  refine ⟨?_, fun i => ?_, by rintro _ ⟨⟩, fun hd => absurd rfl hd, by simp, by simp, ?_, by simp,
    by rintro _ ⟨⟩, by rintro _ _ ⟨⟩, by rintro ⟨⟩, by simp, by simp, by rintro _ ⟨⟩⟩
  · exact ⟨by simp, fun hw => hw.elim (by simp) (by simp)⟩
  · exact ⟨by simp, by rintro ⟨⟩⟩
  · exact fun hw => hw.elim (by simp) (by simp)

end Orderly
end LifecycleProfiler.Sink
