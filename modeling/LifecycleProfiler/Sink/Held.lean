import LifecycleProfiler.Sink.Maximal

/-! # The records a sink holds

A record is held by a file, by the writer on its way there, or by the queue. A
property of records is kept by every step once the records that enter have it:
those a call admits, those `close()` seals, the controls of a timeout, and the
summaries. -/

namespace LifecycleProfiler.Sink
open Python Protocol

namespace TraceSink

/-- Every record the sink holds has the property. -/
structure Holds (P : Dict → Prop) (s : TraceSink) : Prop where
  lines : ∀ t, ∀ line ∈ (s.shard t).lines, ∀ record, line.record? = some record → P record
  carried : ∀ q ∈ s.writer.carries.getD [], P q.record
  pending : ∀ q ∈ s.x.pending, P q.record
  summary : ∀ job, s.writer.summary? = some job → P job.record

namespace Holds
variable {P : Dict → Prop} {cfg : Config} {s s' : TraceSink}

theorem carried_of_passes (h : Holds P s) (hpasses : s.writer.Passes s'.writer) :
    ∀ q ∈ s'.writer.carries.getD [], P q.record := by
  intro q hq
  cases hrest : s'.writer.carries with
  | none =>
    rw [hrest] at hq
    cases hq
  | some rest =>
    rw [hrest] at hq
    refine h.carried q ?_
    rwa [hpasses.carries rest hrest]

/-- The writer passes on, and nothing new is pending or filed. -/
theorem of_passes (h : Holds P s) (hpasses : s.writer.Passes s'.writer)
    (hlines : ∀ t, ∀ line ∈ (s'.shard t).lines, ∀ record, line.record? = some record → P record)
    (hpending : ∀ q ∈ s'.x.pending, P q.record) : Holds P s' :=
  ⟨hlines, h.carried_of_passes hpasses, hpending, fun job hjob =>
    h.summary job (hpasses.summary job hjob)⟩

/-- A line more in one of the files. -/
theorem appends (h : Holds P s) (stream : StreamId) (line : Line)
    (hline : ∀ record, line.record? = some record → P record) (x : Exporter) (t : StreamId) :
    ∀ l ∈ (({ s with x := x }.appendLine stream line).shard t).lines, ∀ record,
      l.record? = some record → P record := by
  intro l hl
  unfold appendLine setShard at hl
  dsimp only at hl
  split at hl
  · rcases List.mem_append.mp hl with hl | hl
    · exact h.lines t l hl
    · exact List.mem_singleton.mp hl ▸ hline
  · exact h.lines t l hl

theorem appendInvalidation (h : Holds P s) (c : Choice) (stream t : StreamId)
    (hsummary : ∀ stream closeOutcome endedNs record raw,
      s.x.summaryRecord cfg stream endedNs closeOutcome = .ok (record, raw) → P record) :
    ∀ line ∈ ((s.appendInvalidation cfg c stream).shard t).lines, ∀ record,
      line.record? = some record → P record := by
  unfold TraceSink.appendInvalidation
  split
  · next record raw hrecord =>
    obtain ⟨now, -, hbuilt⟩ := Option.map_eq_some_iff.mp hrecord
    split
    · exact h.lines t
    · split
      · exact h.appends stream (.record record raw)
          (fun r hr => Option.some.inj hr ▸ hsummary _ _ _ _ _ hbuilt) _ t
      · exact h.appends stream (.torn _) nofun _ t
  · exact h.lines t

/-- **What a step holds** was held before, or is one of the records that enter. -/
theorem effect {action : TraceSink.Action} (h : Holds P s) (haccounted : Accounted s)
    (hproduces : ∀ call, action = .produce call →
      ∀ q ∈ (call.run cfg s.x s.now).pending, P q.record)
    (hseals : ∀ q ∈ (s.x.sealOpen cfg).pending, P q.record)
    (hcontrols : ∀ q ∈ (s.x.prepareTimeoutControls cfg s.now).1.pending, P q.record)
    (hsummary : ∀ stream closeOutcome endedNs record raw,
      s.x.summaryRecord cfg stream endedNs closeOutcome = .ok (record, raw) → P record)
    (heffect : Effect cfg s action s') : Holds P s' := by
  cases heffect with
  | quiet hx hlines hpc =>
    refine h.of_passes hpc (fun t line hline => h.lines t line (hlines t ▸ hline)) fun q hq => ?_
    rw [Exporter.pending, hx.inflight, hx.queue] at hq
    exact h.pending q hq
  | produces call haction hx hshard hpc =>
    refine h.of_passes (hpc ▸ .refl _) (hshard ▸ h.lines) ?_
    rw [hx]
    exact hproduces call haction
  | seals hx hshard hpc =>
    refine h.of_passes (hpc ▸ .refl _) (hshard ▸ h.lines) ?_
    rw [hx]
    exact hseals
  | forces alreadyTimeout hx hshard hpc =>
    obtain ⟨hinflight, hqueue⟩ := Exporter.forceTimeoutAccounting_pending s.x alreadyTimeout
    refine h.of_passes (hpc ▸ .refl _) (hshard ▸ h.lines) ?_
    rw [Exporter.pending, hx.inflight, hx.queue, hinflight, hqueue]
    simp
  | takes habandoned hpc hx hshard hpc' =>
    have hinflight := haccounted.carried habandoned [] (by rw [hpc]; rfl)
    have hpending : s.x.pending = s.x.takeBatch.2 ++ (Exporter.splitBatch 0 0 s.x.queue).2 := by
      rw [Exporter.pending, hinflight, List.nil_append]
      exact (Exporter.splitBatch_append 0 0 s.x.queue).symm
    refine ⟨hshard ▸ h.lines, ?_, ?_, ?_⟩
    · rw [hpc']
      exact fun q hq => h.pending q (hpending ▸ List.mem_append_left _ hq)
    · intro q hq
      rw [hx] at hq
      exact h.pending q (hpending ▸ hq)
    · rw [hpc']
      rintro _ ⟨⟩
  | persists job hpc hx hshard hpc' =>
    have hpasses : s.writer.Passes s'.writer := by
      rw [hpc, hpc']
      cases job <;> exact ⟨fun _ h => h, fun h => h, rfl, fun _ h => h⟩
    have hjob : P job.record := by
      cases job with
      | batch q rest => exact h.carried q (by rw [hpc]; exact List.mem_cons_self)
      | control q rest => exact h.carried q (by rw [hpc]; exact List.mem_cons_self)
      | summary stream o record raw => exact h.summary _ (by rw [hpc]; rfl)
    refine h.of_passes hpasses ?_ (hx ▸ h.pending)
    rw [hshard]
    exact h.appends job.stream (.record job.record job.raw)
      (fun r hr => Option.some.inj hr ▸ hjob) s.x
  | tears job written hpc hx hshard hpc' =>
    refine h.of_passes ?_ ?_ (hx ▸ h.pending)
    · rw [hpc, hpc']
      cases job <;> exact ⟨by rintro _ ⟨⟩, by rintro ⟨⟩, rfl, fun _ h => h⟩
    · rw [hshard]
      exact h.appends job.stream (.torn written) (by rintro _ ⟨⟩) s.x
  | records job q rest hpc hjob hx hshard hpc' =>
    have hcarries : s.writer.carries = some (q :: rest) := by rw [hpc]; exact hjob
    have hcarries' : s'.writer.carries = some rest := by
      rw [hpc']
      split <;> rfl
    refine ⟨hshard ▸ h.lines, ?_, ?_, ?_⟩
    · rw [hcarries']
      exact fun p hp => h.carried p (by rw [hcarries]; exact List.mem_cons_of_mem _ hp)
    · cases ha : s.abandoned with
      | true =>
        rw [ha, if_pos rfl] at hx
        exact hx ▸ h.pending
      | false =>
        rw [ha, if_neg (by simp)] at hx
        have hinflight := haccounted.carried ha (q :: rest) hcarries
        intro p hp
        rw [hx, Exporter.pending, Exporter.recordWritten_inflight hinflight,
          Exporter.recordWritten_queue hinflight] at hp
        refine h.pending p ?_
        rw [Exporter.pending, hinflight]
        exact List.mem_cons_of_mem _ hp
    · rw [hpc']
      split <;> rintro _ ⟨⟩
  | fails hx hshard hpc hpc' =>
    refine h.of_passes (.of_idle hpc hpc') (hshard ▸ h.lines) ?_
    rw [hx]
    rintro _ ⟨⟩
  | prepares c haction hpc hx hshard hpc' =>
    refine ⟨hshard ▸ h.lines, ?_, hx ▸ hcontrols, ?_⟩
    · rw [hpc']
      exact fun q hq => hcontrols q (List.mem_append_left _ hq)
    · rw [hpc']
      rintro _ ⟨⟩
  | expires hpc hx hshard hpc' =>
    refine h.of_passes (.of_idle (hpc ▸ rfl) hpc') (hshard ▸ h.lines) fun q hq => ?_
    have hqueue : s.x.expireControls.queue = s.x.queue :=
      (Exporter.sameTotals_dropControls s.x s.x.inflight).queue
    rw [hx, Exporter.pending, hqueue] at hq
    exact h.pending q (List.mem_append_right _ hq)
  | builds stream o endedNs record raw hpc hx hrecord hshard hpc' =>
    refine ⟨hshard ▸ h.lines, ?_, hx ▸ h.pending, fun job hjob => ?_⟩
    · rw [hpc']
      rintro _ ⟨⟩
    · rw [hpc'] at hjob
      cases hjob
      exact hsummary _ _ _ _ _ hrecord
  | reserves stream o record raw hpc hx hshard hpc' =>
    have hpending : s'.x.pending = s.x.pending := by
      rw [hx]
      unfold Exporter.reserveControl
      split <;> rfl
    refine ⟨hshard ▸ h.lines, ?_, hpending ▸ h.pending, fun job hjob => ?_⟩
    · rw [hpc']
      split <;> rintro _ ⟨⟩
    · rw [hpc'] at hjob
      split at hjob
      · exact h.summary job (by rw [hpc]; exact hjob)
      · cases hjob
  | drops job hpc hx hshard hpc' =>
    refine h.of_passes ?_ (hshard ▸ h.lines) (hx ▸ h.pending)
    rw [hpc, hpc']
    exact ⟨by rintro _ ⟨⟩, by rintro ⟨⟩, rfl, fun _ h => h⟩
  | releases stream o record raw written hpc hx hshard hpc' =>
    refine ⟨hshard ▸ h.lines, ?_, hx ▸ h.pending, ?_⟩
    · rw [hpc']
      split <;> rintro _ ⟨⟩
    · rw [hpc']
      split <;> rintro _ ⟨⟩
  | invalidates c stream hpc hx hlines hpc' =>
    refine h.of_passes (.of_idle hpc.control hpc') (fun t line hline => ?_) ?_
    · exact h.appendInvalidation c stream t hsummary line (hlines t ▸ hline)
    · rw [hx, (appendInvalidation_losses cfg s c stream).2]
      exact h.pending

end Holds
end TraceSink

end LifecycleProfiler.Sink
