import LifecycleProfiler.Sink.Journal

/-! # The file behind a drained receipt

The receipt of a drained close freezes the files of its streams. With no control
dropped the ranges of such a file are exact, and its summary is always true of
the lines before it. -/

namespace LifecycleProfiler.Sink
open Python Protocol General

/-! ## What a drained receipt freezes -/

/-- The counters a receipt reports of a stream. -/
def CloseResult.attemptedOf (r : CloseResult) : StreamId → Nat
  | .base => r.attemptedDataCount
  | .profile => r.profileAttemptedDataCount

def CloseResult.droppedDataOf (r : CloseResult) : StreamId → Nat
  | .base => r.droppedDataCount
  | .profile => r.profileDroppedDataCount

def CloseResult.droppedControlOf (r : CloseResult) : StreamId → Nat
  | .base => r.droppedControlCount
  | .profile => r.profileDroppedControlCount

/-- A complete file, and an exporter with nothing open behind it that the
receipt has been read from. -/
def Frozen (cfg : Config) (r : CloseResult) (lines : List Line) (t : StreamId) : Prop :=
  ∃ x content tail, Complete cfg x lines t 2 content tail ∧ (x.ledger t).openLoss = none ∧
    x.Conserved ∧ r.attemptedOf t = (x.ledger t).attempted ∧
      r.droppedControlOf t = (x.ledger t).droppedControl ∧
        r.droppedDataOf t = (x.ledger t).droppedData

/-- Every drained receipt with a summary freezes the files of its streams. -/
def Freezes (cfg : Config) (s : TraceSink) : Prop :=
  ∀ r, s.claim = some r → r.closeOutcome = .drained → r.summaryWritten = true →
    (s.writer = .closing ∨ s.writer = .terminated) ∧
      ∀ t ∈ TraceSink.streams cfg, Frozen cfg r (s.shard t).lines t

namespace Freezes
variable {cfg : Config} {s s' : TraceSink} {c : Choice}

theorem frozen_result (hfiled : Filed cfg s) (haccounted : Accounted s) (hopens : Opens cfg s)
    (hflag : s.summaryWritten .base = true) (hkeeps : s.writer.keeps = true)
    (closeOutcome : CloseOutcome) (written : Bool) : ∀ t ∈ TraceSink.streams cfg,
      Frozen cfg (s.result cfg closeOutcome written) (s.shard t).lines t := by
  intro t ht
  obtain ⟨content, tail, hcomplete⟩ := hfiled.receipt hflag hkeeps t ht
  refine ⟨s.x, content, tail, hcomplete, ?_, haccounted.conserved, ?_⟩
  · by_contra hne
    have hopened := (hopens t hne).1
    exact absurd (hopened.symm.trans hcomplete.closing) nofun
  · cases t with
    | base => exact ⟨rfl, rfl, rfl⟩
    | profile =>
      have hsome := (TraceSink.mem_streams.mp ht).resolve_left nofun
      simp [TraceSink.result, CloseResult.attemptedOf, CloseResult.droppedControlOf,
        CloseResult.droppedDataOf, hsome]

theorem finalStep (h : Freezes cfg s) (hfiled : TraceSink.Undecided s → Filed cfg s)
    (horder : Orderly s) (haccounted : Accounted s) (hopens : Opens cfg s)
    (hstep : s.finalStep cfg c s.writer = some s') : Freezes cfg s' := by
  -- a claim made before this step leaves the writer at its last two places
  have hother : s'.claim = s.claim → s.writer ≠ .closing → Freezes cfg s' := by
    intro hclaim hw r hr hd hwritten
    rcases (h r (hclaim ▸ hr) hd hwritten).1 with hc | hc
    · exact absurd hc hw
    · simp [hc, TraceSink.finalStep] at hstep
  cases hpc : s.writer with
  | claiming =>
    rw [hpc] at hstep
    simp only [TraceSink.finalStep] at hstep
    split at hstep
    · next hopen =>
      cases hstep
      intro r hr hd hwritten
      have hundecided := TraceSink.undecided_of_claiming horder (.inl hpc) hopen
      have hall := hfiled hundecided
      have hflag := hall.passed (by rw [hpc]; rfl)
      have hset : s.claim.getD (s.result cfg .drained true) = r := Option.some.inj hr
      rw [hopen, Option.getD_none] at hset
      subst hset
      refine ⟨.inl rfl, fun t ht => ?_⟩
      have hfrozen := frozen_result hall haccounted hopens hflag (by rw [hpc]; rfl) .drained true t ht
      simpa [TraceSink.goto, ht] using hfrozen
    · next hclaimed =>
      cases hstep
      intro r hr hd hwritten
      obtain ⟨r', hr'⟩ := Option.ne_none_iff_exists'.mp hclaimed
      have hset : s.claim.getD (s.result cfg .drained true) = r := Option.some.inj hr
      rw [hr', Option.getD_some] at hset
      subst hset
      rcases (h r' hr' hd hwritten).1 with hc | hc <;> simp [hpc] at hc
  | finalClaim =>
    rw [hpc] at hstep
    simp only [TraceSink.finalStep, Option.some.injEq] at hstep
    subst hstep
    intro r hr hd hwritten
    have hset : s.claim.getD (s.result cfg (s.writerOutcome.getD (if s.x.writerFailed then
        .writerFailure else .drained)) (s.summaryWritten .base)) = r := Option.some.inj hr
    cases hclaim : s.claim with
    | none =>
      rw [hclaim, Option.getD_none] at hset
      subst hset
      have hall := hfiled (TraceSink.undecided_of_claiming horder (.inr hpc) hclaim)
      exact ⟨.inr rfl, frozen_result hall haccounted hopens hwritten (by rw [hpc]; rfl) _ _⟩
    | some r' =>
      rw [hclaim, Option.getD_some] at hset
      subst hset
      rcases (h r' hclaim hd hwritten).1 with hc | hc <;> simp [hpc] at hc
  | closing =>
    rw [hpc] at hstep
    simp only [TraceSink.finalStep] at hstep
    split at hstep
    · next hopen =>
      obtain ⟨-, rfl⟩ := TraceSink.locked_eq_some.mp hstep
      intro r hr
      rw [show s.claim = none from hopen.1] at hr
      cases hr
    · obtain ⟨-, rfl⟩ := TraceSink.locked_eq_some.mp hstep
      exact fun r hr hd hwritten => ⟨.inr rfl, (h r hr hd hwritten).2⟩
  | _ =>
    refine hother ?_ (by simp [hpc])
    rcases (Finishes.of_finalStep hstep).claim with hclaim | ⟨candidate, hcandidate, -⟩
    · exact hclaim
    · simp [hpc, TraceSink.ownClaim] at hcandidate

theorem step {action : TraceSink.Action} (h : Freezes cfg s)
    (hfiled : TraceSink.Undecided s → Filed cfg s) (horder : Orderly s) (haccounted : Accounted s)
    (hopens : Opens cfg s) (hcandidates : TraceSink.Candidates s)
    (hstep : s.step cfg action = some s') : Freezes cfg s' := by
  cases action with
  | produce call =>
    obtain ⟨-, rfl⟩ := TraceSink.locked_eq_some.mp hstep
    exact h
  | tick ns =>
    cases hstep
    exact h
  | closer i expired =>
    have hcalls := Calls.of_closerStep hstep
    intro r hr hd hwritten
    rw [hcalls.writer, hcalls.shard]
    cases hclaim : s.claim with
    | none =>
      exact absurd hd (TraceSink.closerStep_drained horder hcandidates hclaim hstep hr).1
    | some r' =>
      have hstands := TraceSink.claim_stands hclaim hstep
      rw [hr, Option.some.injEq] at hstands
      exact h r (hstands ▸ hclaim) hd hwritten
  | writer c =>
    -- the main loop and the summary claim nothing, and never run after a claim of the writer
    have hbefore : s'.claim = s.claim → (s.writer ≠ .closing ∧ s.writer ≠ .terminated) →
        Freezes cfg s' := by
      intro hclaim hw r hr hd hwritten
      rcases (h r (hclaim ▸ hr) hd hwritten).1 with hc | hc
      · exact absurd hc hw.1
      · exact absurd hc hw.2
    rcases writerStep_cases hstep with hrun | hsummary | hfinal
    · refine hbefore (Loops.of_runStep hrun).claim ⟨?_, ?_⟩
      all_goals
        intro hw
        simp [hw, TraceSink.runStep] at hrun
    · refine hbefore (Summarises.of_summaryStep hsummary).claim ⟨?_, ?_⟩
      all_goals
        intro hw
        simp [hw, TraceSink.summaryStep] at hsummary
    · exact h.finalStep hfiled horder haccounted hopens hfinal

theorem initial (h : TraceSink.Initial cfg s) : Freezes cfg s := by
  obtain ⟨pid, startedNs, now, h⟩ := h
  simp only [TraceSink.opened, bind_eq_ok, pure_eq_ok] at h
  obtain ⟨⟨base, baseRaw⟩, -, ⟨profile, profileRaw⟩, -, rfl⟩ := h
  exact fun r hr => by cases hr

/-- The run lemma. -/
theorem of_reachable {ok : TraceSink → TraceSink.Action → Prop}
    (h : TraceSink.ReachableWhen cfg ok s) : Freezes cfg s := by
  refine h.invariant_over
    (J := fun s => (TraceSink.Undecided s → Filed cfg s) ∧ Orderly s ∧ Accounted s ∧ Opens cfg s ∧
      TraceSink.Candidates s) (fun s hs => ?_) (fun _ hs => initial hs)
      fun _ _ _ hJ hs _ hstep _ => hs.step hJ.1 hJ.2.1 hJ.2.2.1 hJ.2.2.2.1 hJ.2.2.2.2 hstep
  have hall : TraceSink.Reachable cfg s := hs.mono fun _ _ _ => trivial
  exact ⟨.of_reachable hs, TraceSink.orderly_of_reachableWhen hs, accounted_of_reachable hall,
    opens_of_reachable hall, .of_reachable hs⟩

end Freezes

/-! ## Reading the file -/

/-- The sequence numbers a mark reports as lost. -/
def Mark.lost : Mark → ℤ
  | .data .. => 0
  | .loss _ first last => last - first + 1

/-- A file reads as the marks of its entries. -/
theorem filterMap_lines (content : List Entry) :
    (content.map Entry.line).filterMap (fun line => line.record?.bind markOf) =
      marksOf content := by
  rw [List.filterMap_map]
  rfl

theorem recordType_ne_of_markOf {record : Dict} {k : RecordType} {seq : ℤ}
    (h : markOf record = some (.data k seq)) : k ≠ .lossInterval := by
  unfold markOf at h
  split at h
  · split at h
    · split at h <;> cases h
    · split at h
      · next htype _ =>
        cases h
        rintro rfl
        unfold dataTypeOf at htype
        split at htype <;> cases htype
      · cases h
  · cases h

section Reading
variable {cfg : Config} {t : StreamId} {content : List Entry} {l : Ledger}

/-- The data categories of a stream, counted together. -/
theorem countP_data (marks : List Mark) :
    marks.countP (fun m => isDataOf t m.recordType) = Exporter.writtenData t
      { written := fun k => marks.countP fun m => m.recordType = k } := by
  induction marks with
  | nil => cases t <;> rfl
  | cons m rest ih =>
    cases t
    all_goals
      simp only [Exporter.writtenData, totalCount, List.countP_cons] at ih ⊢
      rw [ih]
      generalize m.recordType = k
      cases k
    all_goals first
      | simp [isDataOf]
        done
      | simp [isDataOf]
        omega
      | next k =>
        cases k <;> simp [isDataOf] <;> omega

/-- A data mark covers one number, and a loss the numbers it reports. -/
theorem points_marks (hmarks : ∀ m ∈ marksOf content,
    isDataOf t m.recordType = true ∨ m.recordType = .lossInterval) :
    points ((marksOf content).map Mark.span) =
      (marksOf content).countP (fun m => isDataOf t m.recordType) +
        ((marksOf content).map Mark.lost).sum := by
  induction content with
  | nil => rfl
  | cons e rest ih =>
    cases hmark : markOf e.1 with
    | none =>
      have hrest : marksOf (e :: rest) = marksOf rest := List.filterMap_cons_none hmark
      rw [hrest] at hmarks ⊢
      exact ih hmarks
    | some m =>
      have hrest : marksOf (e :: rest) = m :: marksOf rest := List.filterMap_cons_some hmark
      rw [hrest] at hmarks ⊢
      have htail := ih fun m hm => hmarks m (List.mem_cons_of_mem _ hm)
      have hhead := hmarks m List.mem_cons_self
      rw [List.map_cons, points_cons, htail, List.countP_cons, List.map_cons, List.sum_cons]
      cases m with
      | data k seq =>
        have hdata : isDataOf t k = true :=
          hhead.resolve_right (recordType_ne_of_markOf hmark)
        simp [Mark.span, Mark.lost, Mark.recordType, hdata]
        omega
      | loss reason first last =>
        have hloss : isDataOf t .lossInterval = false := by cases t <;> rfl
        simp [Mark.span, Mark.lost, Mark.recordType, hloss]
        omega

end Reading

/-- **Every sequence number of a drained stream is in its file once**: with no
control dropped, the data records and the loss intervals tile the numbers given
out, in file order, whatever the producers, the clock and the writes did. -/
theorem drained_shard_tiles {cfg : Config} {s : TraceSink} (h : TraceSink.Reachable cfg s)
    {r : CloseResult} (hr : s.claim = some r) (hdrained : r.closeOutcome = .drained)
    (hwritten : r.summaryWritten = true) {t : StreamId} (ht : t ∈ TraceSink.streams cfg)
    (hcontrol : r.droppedControlOf t = 0) :
    Tiles 0 ((s.fileMarks t).map Mark.span) (r.attemptedOf t : ℤ) ∧
      (∀ k : ℤ, (s.fileMarks t).countP (fun m => decide (m.span.1 ≤ k ∧ k ≤ m.span.2)) =
        if 0 ≤ k ∧ k < r.attemptedOf t then 1 else 0) ∧
      (r.attemptedOf t : ℤ) = (s.fileMarks t).countP (fun m => isDataOf t m.recordType) +
        ((s.fileMarks t).map Mark.lost).sum := by
  obtain ⟨x, content, tail, hcomplete, hopen, -, hattempted, hdropped, -⟩ :=
    ((Freezes.of_reachable h) r hr hdrained hwritten).2 t ht
  obtain ⟨e, rfl, y, endedNs, hrecord, -⟩ := hcomplete.written (by cases t <;> decide)
  have hmarks : s.fileMarks t = marksOf content := by
    rw [TraceSink.fileMarks, hcomplete.lines, filterMap_lines, marksOf_append,
      marksOf_singleton_none (Exporter.markOf_summaryRecord hrecord), List.append_nil]
  have htiles := hcomplete.journal.tiles (hdropped.symm.trans hcontrol)
  have hspans : x.spans t = [] := by
    rw [Exporter.spans, Exporter.own, hcomplete.pending, hopen]
    rfl
  rw [hspans, List.append_nil, ← hcomplete.attempted, ← hattempted] at htiles
  rw [hmarks]
  refine ⟨htiles, fun k => ?_, ?_⟩
  · rw [← htiles.countP k, List.countP_map]
    rfl
  · rw [← points_marks hcomplete.journal.counted.typed, htiles.points, sub_zero]

namespace Sample

/-- One edge reaches the file, one is lost, and the sink is closed in time. -/
@[irreducible] def drained : TraceSink :=
  General.run (TraceSink.step cfg) start (writer 2 ++ produced ++ closer 4 ++ writer 41)

theorem reachable_drained : TraceSink.Reachable cfg drained := by
  unfold drained
  exact (General.Reach.init initial_start).run (.of_forall (fun _ _ => trivial) _ _)

/-- The receipt of that close. -/
theorem claim_drained : ∃ r, drained.claim = some r ∧ r.closeOutcome = .drained ∧
    r.summaryWritten = true ∧ r.attemptedOf .base = 2 ∧ r.droppedControlOf .base = 0 := by
  have hclaim : drained.claim.any (fun r => r.closeOutcome == .drained && r.summaryWritten &&
      r.attemptedOf .base == 2 && r.droppedControlOf .base == 0) = true := by decide +kernel
  obtain ⟨r, hr, h⟩ := (Option.any_eq_true _ _).mp hclaim
  simp only [Bool.and_eq_true, beq_iff_eq] at h
  exact ⟨r, hr, h.1.1.1, h.1.1.2, h.1.2, h.2⟩

end Sample

theorem drained_shard_tiles_produced :
    Sample.drained.fileMarks .base = [.data .edge 0, .loss "serialization_failure" 1 1] ∧
      Tiles 0 ((Sample.drained.fileMarks .base).map Mark.span) 2 := by
  obtain ⟨r, hr, hdrained, hwritten, hattempted, hcontrol⟩ := Sample.claim_drained
  have hmarks : Sample.drained.fileMarks .base =
      [.data .edge 0, .loss "serialization_failure" 1 1] := by decide +kernel
  have hbase : StreamId.base ∈ TraceSink.streams Sample.cfg :=
    TraceSink.mem_streams.mpr (.inl rfl)
  obtain ⟨htiles, -⟩ :=
    drained_shard_tiles Sample.reachable_drained hr hdrained hwritten hbase hcontrol
  have htwo : ((2 : Nat) : ℤ) = 2 := rfl
  rw [hattempted, htwo] at htiles
  exact ⟨hmarks, htiles⟩

/-- What a true summary of a part of a file says. -/
structure Truthful (t : StreamId) (content : List Entry) (r : CloseResult)
    (l : Ledger) : Prop where
  attempted : l.attempted = r.attemptedOf t
  written : ∀ k, l.written k = (marksOf content).countP fun m => m.recordType = k
  droppedData : l.attempted =
    (marksOf content).countP (fun m => isDataOf t m.recordType) + l.droppedData
  droppedControl : l.droppedControl = r.droppedControlOf t
  hashed : l.hashed = bytesOf content

/-- **The summary of a drained stream is true of its file**: the last line is a
summary built from counters that agree with the lines before it, category by
category, and its digest is taken over exactly their bytes. -/
theorem drained_summary_truthful {cfg : Config} {s : TraceSink} (h : TraceSink.Reachable cfg s)
    {r : CloseResult} (hr : s.claim = some r) (hdrained : r.closeOutcome = .drained)
    (hwritten : r.summaryWritten = true) {t : StreamId} (ht : t ∈ TraceSink.streams cfg) :
    ∃ content summary x endedNs, (s.shard t).lines = (content ++ [summary]).map Entry.line ∧
      (∀ e ∈ content, lineOf t e.1 = .ok e.2) ∧
      Exporter.summaryRecord cfg x t endedNs .drained = .ok summary ∧
      Truthful t content r (x.ledger t) := by
  obtain ⟨x, content, tail, hcomplete, -, hconserved, hattempted, hdropped, -⟩ :=
    ((Freezes.of_reachable h) r hr hdrained hwritten).2 t ht
  obtain ⟨e, rfl, y, endedNs, hrecord, hcounts, hcontrol, -⟩ :=
    hcomplete.written (by cases t <;> decide)
  have hcounted := hcomplete.journal.counted
  refine ⟨content, e, y, endedNs, hcomplete.lines, hcounted.encoded, hrecord, ?_⟩
  have hdata : (marksOf content).countP (fun m => isDataOf t m.recordType) =
      Exporter.writtenData t (x.ledger t) := by
    rw [countP_data]
    cases t <;> simp [Exporter.writtenData, hcounted.written]
  have hpending : x.pendingData t = 0 := by
    have hnone : x.inflight ++ x.queue = [] := hcomplete.pending
    rw [Exporter.pendingData, hnone, List.countP_nil]
  have hbalance := hconserved t
  rw [Exporter.shortfall, hpending] at hbalance
  refine ⟨hcounts.attempted.symm.trans hattempted.symm, fun k => ?_, ?_,
    hcontrol.trans hdropped.symm, ?_⟩
  · rw [← hcounts.written]
    exact hcounted.written k
  · rw [hdata, ← hcounts.attempted, ← hcounts.droppedData]
    omega
  · exact hcounts.hashed.symm.trans hcounted.hashed

theorem drained_summary_truthful_produced : ∃ content summary x endedNs,
    (Sample.drained.shard .base).lines = (content ++ [summary]).map Entry.line ∧
      Exporter.summaryRecord Sample.cfg x .base endedNs .drained = .ok summary ∧
        (x.ledger .base).hashed = bytesOf content := by
  obtain ⟨r, hr, hdrained, hwritten, -⟩ := Sample.claim_drained
  have hbase : StreamId.base ∈ TraceSink.streams Sample.cfg :=
    TraceSink.mem_streams.mpr (.inl rfl)
  obtain ⟨content, summary, x, endedNs, hlines, -, hrecord, htruthful⟩ :=
    drained_summary_truthful Sample.reachable_drained hr hdrained hwritten hbase
  exact ⟨content, summary, x, endedNs, hlines, hrecord, htruthful.hashed⟩

end LifecycleProfiler.Sink
