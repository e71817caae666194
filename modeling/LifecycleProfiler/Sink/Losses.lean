import LifecycleProfiler.Sink.Capacity
import LifecycleProfiler.Sink.Streams

/-! # The open intervals over whole runs

Only producers and the first scope of `close()` touch an open interval or the
next number of a stream. Once the sink is closing no interval is open. -/

namespace LifecycleProfiler.Sink
open Python Protocol

namespace Exporter

/-- The open intervals and the next numbers are the same. -/
structure SameLosses (x y : Exporter) : Prop where
  openLoss : ∀ t, (y.ledger t).openLoss = (x.ledger t).openLoss
  nextRecordSeq : ∀ t, (y.ledger t).nextRecordSeq = (x.ledger t).nextRecordSeq
  closing : y.closing = x.closing

section SameLosses
variable {cfg : Config} {x y z : Exporter} {stream : StreamId}

theorem SameLosses.refl (x : Exporter) : SameLosses x x := ⟨fun _ => rfl, fun _ => rfl, rfl⟩

theorem SameLosses.trans (hxy : SameLosses x y) (hyz : SameLosses y z) : SameLosses x z :=
  ⟨fun t => (hyz.openLoss t).trans (hxy.openLoss t),
    fun t => (hyz.nextRecordSeq t).trans (hxy.nextRecordSeq t), hyz.closing.trans hxy.closing⟩

theorem SameBooks.sameLosses (h : SameBooks x y) : SameLosses x y :=
  ⟨fun t => by rw [h.ledger], fun t => by rw [h.ledger], h.closing⟩

theorem sameLosses_modify (x : Exporter) {f : Ledger → Ledger}
    (hopen : ∀ l, (f l).openLoss = l.openLoss)
    (hnext : ∀ l, (f l).nextRecordSeq = l.nextRecordSeq) :
    SameLosses x (x.modify stream f) := by
  refine ⟨fun t => ?_, fun t => ?_, rfl⟩
  · rw [modify_ledger]
    split
    · exact hopen _
    · rfl
  · rw [modify_ledger]
    split
    · exact hnext _
    · rfl

theorem sameLosses_dropControl (x : Exporter) (stream : StreamId) :
    SameLosses x (x.dropControl stream) := sameLosses_modify x (fun _ => rfl) fun _ => rfl

theorem sameLosses_foldl {α : Type} {f : Exporter → α → Exporter}
    (hf : ∀ x a, SameLosses x (f x a)) (x : Exporter) (l : List α) :
      SameLosses x (l.foldl f x) := by
  induction l generalizing x with
  | nil => exact .refl x
  | cons a rest ih => exact (hf x a).trans (ih _)

theorem sameLosses_dropPending (x : Exporter) : SameLosses x x.dropPending := by
  refine (sameLosses_foldl (fun x q => ?_) x (x.inflight ++ x.queue)).trans
    ⟨fun _ => rfl, fun _ => rfl, rfl⟩
  unfold accountUnwritten
  split
  · refine sameLosses_modify x ?_ ?_ <;> exact fun _ => rfl
  · exact sameLosses_dropControl x q.stream

theorem sameLosses_markWriterFailure (x : Exporter) : SameLosses x x.markWriterFailure := by
  have hcounted : SameLosses x (({ x with
      ledger := fun s => { x.ledger s with writerFailures := (x.ledger s).writerFailures + 1 }
      writerFailed := true } : Exporter).countDiagnostic "writer_failure") :=
    ⟨fun _ => rfl, fun _ => rfl, rfl⟩
  exact hcounted.trans (sameLosses_dropPending _)

theorem sameLosses_forceTimeoutAccounting (x : Exporter) (alreadyTimeout : Bool) :
    SameLosses x (x.forceTimeoutAccounting alreadyTimeout) := by
  unfold forceTimeoutAccounting
  dsimp only
  split
  · exact sameLosses_dropPending x
  · exact (sameLosses_dropPending x).trans ⟨fun _ => rfl, fun _ => rfl, rfl⟩

theorem sameLosses_recordWritten {q : Queued} {rest : List Queued} (h : x.inflight = q :: rest) :
    SameLosses x (x.recordWritten q) := by
  unfold recordWritten
  rw [h]
  simp only [Queued.same_self, Bool.not_true, Bool.false_eq_true, if_false]
  have hinflight : SameLosses x { x with inflight := rest } := ⟨fun _ => rfl, fun _ => rfl, rfl⟩
  refine hinflight.trans (sameLosses_modify _ ?_ ?_) <;> exact fun _ => rfl

theorem sameLosses_reserveControl (x : Exporter) (stream : StreamId) (raw : Bytes) :
    SameLosses x (x.reserveControl stream raw).1 := by
  unfold reserveControl
  split
  · exact sameLosses_dropControl x stream
  · dsimp only
    refine sameLosses_modify x ?_ ?_ <;> exact fun _ => rfl

theorem sameLosses_releaseControl (x : Exporter) (stream : StreamId) (raw : Bytes) :
    SameLosses x (x.releaseControl stream raw) := sameLosses_modify x (fun _ => rfl) fun _ => rfl

theorem sameLosses_expireControls (x : Exporter) : SameLosses x x.expireControls :=
  (sameLosses_foldl (fun x q => sameLosses_dropControl x q.stream) x x.inflight).trans
    ⟨fun _ => rfl, fun _ => rfl, rfl⟩

theorem TimeoutStage.sameLosses {observedNs : Nat} {a : Admitted}
    (h : TimeoutStage cfg x observedNs a) : SameLosses x a.x := by
  have hadmits : ∀ (a : Admitted) (q : Queued), SameLosses a.x (a.admitControl q).x := by
    intro a q
    unfold Admitted.admitControl
    split
    · exact sameLosses_dropControl a.x q.stream
    · exact .refl a.x
  induction h with
  | start =>
    exact (sameLosses_foldl (fun x (q : Queued) => sameLosses_dropControl x q.stream) x _).trans
      ⟨fun _ => rfl, fun _ => rfl, rfl⟩
  | existing _ _ ih => exact ih.trans (hadmits _ _)
  | @group a stream g _ _ ih =>
    have hcounted : ∀ dropped lossSeq, SameLosses a.x (a.x.modify stream fun l => { l with
        droppedData := l.droppedData + dropped, nextLossIntervalSeq := lossSeq }) := by
      intro dropped lossSeq
      refine sameLosses_modify a.x ?_ ?_ <;> exact fun _ => rfl
    refine ih.trans ?_
    unfold Admitted.admitGroup timeoutLossControl
    dsimp only
    split
    · next heq =>
      split at heq
      · cases heq
        exact (hcounted _ _).trans (sameLosses_dropControl _ stream)
      · cases heq
    · next heq =>
      split at heq
      · cases heq
      · cases heq
        exact (hcounted _ _).trans (hadmits { a with x := _ } _)

theorem sameLosses_prepareTimeoutControls (cfg : Config) (x : Exporter) (observedNs : Nat) :
    SameLosses x (x.prepareTimeoutControls cfg observedNs).1 :=
  (stage_timeoutAdmission cfg x observedNs).sameLosses.trans ⟨fun _ => rfl, fun _ => rfl, rfl⟩


/-- `close()` leaves no interval open. -/
theorem sealOpen_openLoss (hprofile : (x.ledger .profile).openLoss ≠ none →
    cfg.profileConfig.isSome = true) (t : StreamId) :
      ((x.sealOpen cfg).ledger t).openLoss = none := by
  have hbase := seals cfg x .base
  have hprofiles := seals cfg (x.sealLoss cfg .base) .profile
  unfold sealOpen
  dsimp only
  split
  · cases t with
    | base =>
      exact (congrArg Ledger.openLoss (hprofiles.others .base nofun).ledger).trans hbase.openLoss
    | profile => exact hprofiles.openLoss
  · next hconfig =>
    cases t with
    | base => exact hbase.openLoss
    | profile =>
      rw [(hbase.others .profile nofun).ledger]
      by_contra hne
      exact hconfig (hprofile hne)

/-- Where a call opens an interval, the stream takes records. -/
theorem Produced.opens {call : TraceSink.Call} (h : Produced cfg x call y) (t : StreamId)
    (hne : (y.ledger t).openLoss ≠ none) : (x.ledger t).openLoss ≠ none ∨ Open cfg x t := by
  cases h.advances t with
  | same hsame => exact .inl (hsame.ledger ▸ hne)
  | loses hopen | refuses _ hopen | admits _ hopen => exact .inr hopen

end SameLosses

end Exporter

/-! ## Runs -/

/-- An invalidation leaves the pending records and the open intervals alone. -/
theorem appendInvalidation_losses (cfg : Config) (s : TraceSink) (c : Choice) (stream : StreamId) :
    s.x.SameLosses (s.appendInvalidation cfg c stream).x ∧
      (s.appendInvalidation cfg c stream).x.pending = s.x.pending := by
  have hreserve : ∀ raw, (s.x.reserveControl stream raw).1.pending = s.x.pending := by
    intro raw
    unfold Exporter.reserveControl
    split <;> rfl
  unfold TraceSink.appendInvalidation
  split
  · next record raw _ =>
    have hsame := Exporter.sameLosses_reserveControl s.x stream raw
    have hpending := hreserve raw
    split
    · next x heq =>
      rw [heq] at hsame hpending
      exact ⟨hsame, hpending⟩
    · next x heq =>
      rw [heq] at hsame hpending
      split
      · exact ⟨hsame.trans (Exporter.sameLosses_releaseControl x stream raw), hpending⟩
      · exact ⟨(hsame.trans (Exporter.sameLosses_dropControl x stream)).trans
          (Exporter.sameLosses_releaseControl _ stream raw), hpending⟩
  · exact ⟨.refl _, rfl⟩

/-- What a step does to the open intervals. -/
theorem Effect.losses {cfg : Config} {s s' : TraceSink} {action : TraceSink.Action}
    (haccounted : Accounted s) (h : Effect cfg s action s') : s.x.SameLosses s'.x ∨
      (∃ call, action = .produce call ∧ s'.x = call.run cfg s.x s.now) ∨
        s'.x = { s.x.sealOpen cfg with closing := true } := by
  cases h with
  | quiet hx _ _ => exact .inl hx.sameLosses
  | produces call haction hx _ _ => exact .inr (.inl ⟨call, haction, hx⟩)
  | seals hx _ _ => exact .inr (.inr hx)
  | forces alreadyTimeout hx _ _ =>
    exact .inl ((Exporter.sameLosses_forceTimeoutAccounting s.x alreadyTimeout).trans hx.sameLosses)
  | takes _ _ hx _ _ => exact .inl (hx ▸ ⟨fun _ => rfl, fun _ => rfl, rfl⟩)
  | persists _ _ hx _ _ => exact .inl (hx ▸ .refl _)
  | tears _ _ _ hx _ _ => exact .inl (hx ▸ .refl _)
  | records job q rest hpc hjob hx _ _ =>
    cases ha : s.abandoned with
    | true =>
      rw [ha, if_pos rfl] at hx
      exact .inl (hx ▸ .refl _)
    | false =>
      rw [ha, if_neg (by simp)] at hx
      have hinflight := haccounted.carried ha (q :: rest) (by rw [hpc]; exact hjob)
      exact .inl (hx ▸ Exporter.sameLosses_recordWritten hinflight)
  | fails hx _ _ _ => exact .inl (hx ▸ Exporter.sameLosses_markWriterFailure s.x)
  | prepares _ _ _ hx _ _ =>
    exact .inl (hx ▸ Exporter.sameLosses_prepareTimeoutControls cfg s.x s.now)
  | expires _ hx _ _ => exact .inl (hx ▸ Exporter.sameLosses_expireControls s.x)
  | builds _ _ _ _ _ _ hx _ _ _ => exact .inl (hx ▸ .refl _)
  | reserves stream _ _ raw _ hx _ _ =>
    exact .inl (hx ▸ Exporter.sameLosses_reserveControl s.x stream raw)
  | drops job _ hx _ _ => exact .inl (hx ▸ Exporter.sameLosses_dropControl s.x job.stream)
  | releases stream _ _ raw _ _ hx _ _ =>
    exact .inl (hx ▸ Exporter.sameLosses_releaseControl s.x stream raw)
  | invalidates c stream _ hx _ _ => exact .inl (hx ▸ (appendInvalidation_losses cfg s c stream).1)

/-- An interval is open only while its stream takes records. -/
def Opens (cfg : Config) (s : TraceSink) : Prop := ∀ t, (s.x.ledger t).openLoss ≠ none →
  s.x.closing = false ∧ (t = .profile → cfg.profileConfig.isSome = true)

/-- The run lemma. -/
theorem opens_of_reachable {cfg : Config} {s : TraceSink} (h : TraceSink.Reachable cfg s) :
    Opens cfg s := by
  refine h.invariant_over (J := Accounted) (fun _ hs => accounted_of_reachable hs) (fun s hs => ?_)
    fun s action s' haccounted hs _ hstep _ => ?_
  · obtain ⟨pid, startedNs, now, hs⟩ := hs
    simp only [TraceSink.opened, bind_eq_ok, pure_eq_ok] at hs
    obtain ⟨⟨base, baseRaw⟩, -, ⟨profile, profileRaw⟩, -, rfl⟩ := hs
    exact fun t hne => absurd rfl hne
  · rcases (Effect.of_step hstep).losses haccounted with hsame | ⟨call, -, hx⟩ | hx
    · intro t hne
      rw [hsame.closing]
      exact hs t (hsame.openLoss t ▸ hne)
    · intro t hne
      rw [hx] at hne ⊢
      rw [(Exporter.admits_call s.x s.now call).closing]
      rcases (Exporter.produced_call cfg s.x s.now call).opens t hne with hold | hopen
      · exact hs t hold
      · exact ⟨hopen.closing, hopen.profile⟩
    · intro t hne
      rw [hx] at hne
      exact absurd (Exporter.sealOpen_openLoss (fun hne => (hs .profile hne).2 rfl) t) hne

end LifecycleProfiler.Sink
