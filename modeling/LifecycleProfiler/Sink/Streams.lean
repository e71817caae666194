import LifecycleProfiler.Sink.Producers

/-! # One stream at a time

The two streams share a queue, and nothing else: what a lock scope does to the
records and the open interval of one stream leaves the other's alone. The
inversions below say what sealing and losing do to the stream itself. -/

namespace LifecycleProfiler.Sink
open Python Protocol

namespace Exporter
variable {cfg : Config} {x y z : Exporter} {stream t : StreamId}

/-- The pending records of a stream, in the order they will be written. -/
def own (x : Exporter) (t : StreamId) : List Queued := x.pending.filter fun q => q.stream = t

/-- The counters of the stream have not moved. -/
structure SameCounts (l l' : Ledger) : Prop where
  attempted : l'.attempted = l.attempted
  written : l'.written = l.written
  droppedData : l'.droppedData = l.droppedData
  hashed : l'.hashed = l.hashed

theorem SameCounts.trans {l l' l'' : Ledger} (h : SameCounts l l') (h' : SameCounts l' l'') :
    SameCounts l l'' :=
  ⟨h'.attempted.trans h.attempted, h'.written.trans h.written, h'.droppedData.trans h.droppedData,
    h'.hashed.trans h.hashed⟩

/-- Nothing of the stream has changed. -/
structure SameStream (t : StreamId) (x y : Exporter) : Prop where
  own : y.own t = x.own t
  ledger : y.ledger t = x.ledger t

theorem SameStream.refl (t : StreamId) (x : Exporter) : SameStream t x x := ⟨rfl, rfl⟩

theorem SameStream.trans (hxy : SameStream t x y) (hyz : SameStream t y z) : SameStream t x z :=
  ⟨hyz.own.trans hxy.own, hyz.ledger.trans hxy.ledger⟩

theorem own_congr (hinflight : y.inflight = x.inflight) (hqueue : y.queue = x.queue) :
    y.own t = x.own t := by
  rw [own, own, pending, pending, hinflight, hqueue]

theorem SameBooks.sameStream (h : SameBooks x y) (t : StreamId) : SameStream t x y :=
  ⟨own_congr h.inflight h.queue, by rw [h.ledger]⟩

theorem sameStream_modify (x : Exporter) {f : Ledger → Ledger} (ht : t ≠ stream) :
    SameStream t x (x.modify stream f) := ⟨rfl, by rw [modify_ledger, if_neg ht]⟩

/-- What an admitted record changes: it is the last one pending of its stream,
and no field beside the three totals moves. -/
structure Enqueued (x y : Exporter) (q : Queued) : Prop where
  others : ∀ t ≠ q.stream, SameStream t x y
  own : y.own q.stream = x.own q.stream ++ [q]
  openLoss : (y.ledger q.stream).openLoss = (x.ledger q.stream).openLoss
  nextRecordSeq : (y.ledger q.stream).nextRecordSeq = (x.ledger q.stream).nextRecordSeq
  droppedControl : (y.ledger q.stream).droppedControl = (x.ledger q.stream).droppedControl
  counts : SameCounts (x.ledger q.stream) (y.ledger q.stream)

theorem enqueued {q : Queued} (h : x.enqueue q = some y) : Enqueued x y q := by
  unfold enqueue at h
  split at h
  · cases h
  · cases h
    have hown : ∀ {f : Ledger → Ledger} (t : StreamId),
        ({ x with queue := x.queue ++ [q] }.modify q.stream f).own t =
          x.own t ++ if q.stream = t then [q] else [] := by
      intro f t
      simp only [own, pending, modify_inflight, modify_queue, ← List.append_assoc,
        List.filter_append, List.filter_cons, List.filter_nil, decide_eq_true_eq]
    refine ⟨fun t ht => ⟨?_, ?_⟩, ?_, ?_, ?_, ?_, ?_⟩
    · rw [hown, if_neg fun h => ht h.symm, List.append_nil]
    · rw [modify_ledger, if_neg ht]
    · rw [hown, if_pos rfl]
    all_goals
      rw [modify_ledger, if_pos rfl]
    exact ⟨rfl, rfl, rfl, rfl⟩

/-- What sealing does: the interval becomes a pending control, or a dropped one
when no record of it can be built or no slot is left. -/
structure Seals (cfg : Config) (stream : StreamId) (x y : Exporter) : Prop where
  others : ∀ t ≠ stream, SameStream t x y
  openLoss : (y.ledger stream).openLoss = none
  nextRecordSeq : (y.ledger stream).nextRecordSeq = (x.ledger stream).nextRecordSeq
  outcome :
    ((x.ledger stream).openLoss = none ∧ y.own stream = x.own stream ∧
      (y.ledger stream).droppedControl = (x.ledger stream).droppedControl) ∨
    ((x.ledger stream).openLoss ≠ none ∧ y.own stream = x.own stream ∧
      (y.ledger stream).droppedControl = (x.ledger stream).droppedControl + 1) ∨
    ∃ loss record raw, (x.ledger stream).openLoss = some loss ∧
      lossRecord cfg stream (x.ledger stream).nextLossIntervalSeq loss = .ok (record, raw) ∧
        y.own stream = x.own stream ++ [lossControl stream record raw] ∧
          (y.ledger stream).droppedControl = (x.ledger stream).droppedControl

theorem seals (cfg : Config) (x : Exporter) (stream : StreamId) :
    Seals cfg stream x (x.sealLoss cfg stream) := by
  unfold sealLoss
  split
  · next hnone => exact ⟨fun t _ => .refl t x, hnone, rfl, .inl ⟨hnone, rfl, rfl⟩⟩
  · next loss hloss =>
    have hne : (x.ledger stream).openLoss ≠ none := by simp [hloss]
    have hdropped : ∀ lossSeq, Seals cfg stream x ((x.modify stream fun l => { l with
        nextLossIntervalSeq := lossSeq, openLoss := none }).dropControl stream) := by
      intro lossSeq
      refine ⟨fun t ht => (sameStream_modify x ht).trans (sameStream_modify _ ht), ?_, ?_,
        .inr (.inl ⟨hne, rfl, ?_⟩)⟩
      all_goals simp [dropControl]
    dsimp only
    split
    · exact hdropped _
    · next record raw hrecord =>
      cases hq : Exporter.enqueue _ (lossControl stream record raw) with
      | none =>
        rw [Option.getD_none]
        exact hdropped _
      | some y =>
        rw [Option.getD_some]
        have h := enqueued hq
        have hopened := h.openLoss
        have hnext := h.nextRecordSeq
        have hcontrol := h.droppedControl
        simp only [lossControl, modify_ledger, if_true] at hopened hnext hcontrol
        exact ⟨fun t ht => (sameStream_modify x ht).trans (h.others t ht), hopened, hnext,
          .inr (.inr ⟨loss, record, raw, hloss, hrecord, h.own, hcontrol⟩)⟩

/-- Sealing counts nothing but intervals. -/
theorem sameCounts_sealLoss (cfg : Config) (x : Exporter) (stream : StreamId) :
    SameCounts (x.ledger stream) ((x.sealLoss cfg stream).ledger stream) := by
  unfold sealLoss
  split
  · exact ⟨rfl, rfl, rfl, rfl⟩
  · dsimp only
    split
    · refine ⟨?_, ?_, ?_, ?_⟩
      all_goals simp [dropControl]
    · next record raw _ =>
      cases hq : Exporter.enqueue _ (lossControl stream record raw) with
      | none =>
        rw [Option.getD_none]
        refine ⟨?_, ?_, ?_, ?_⟩
        all_goals simp [dropControl]
      | some y =>
        rw [Option.getD_some]
        have hcounts := (enqueued hq).counts
        simp only [lossControl, modify_ledger, if_true] at hcounts
        exact ⟨hcounts.attempted, hcounts.written, hcounts.droppedData, hcounts.hashed⟩

/-- What losing a record does: it extends the open interval when that has its
reason and ends right before it, and otherwise seals it and opens another. -/
structure Loses (cfg : Config) (stream : StreamId) (recordSeq : Nat) (recordType : RecordType)
    (reason : LossReason) (observedNs : Nat) (x y : Exporter) : Prop where
  others : ∀ t ≠ stream, SameStream t x y
  nextRecordSeq : (y.ledger stream).nextRecordSeq = (x.ledger stream).nextRecordSeq
  attempted : (y.ledger stream).attempted = (x.ledger stream).attempted
  written : (y.ledger stream).written = (x.ledger stream).written
  droppedData : (y.ledger stream).droppedData = (x.ledger stream).droppedData + 1
  hashed : (y.ledger stream).hashed = (x.ledger stream).hashed
  outcome :
    (∃ loss, (x.ledger stream).openLoss = some loss ∧ loss.reason = reason ∧
      recordSeq = loss.lastRecordSeq + 1 ∧ y.own stream = x.own stream ∧
      (y.ledger stream).openLoss = some (OpenLoss.extend loss recordSeq recordType observedNs) ∧
      (y.ledger stream).droppedControl = (x.ledger stream).droppedControl) ∨
    ((∀ loss, (x.ledger stream).openLoss = some loss → loss.reason = reason →
        recordSeq ≠ loss.lastRecordSeq + 1) ∧
      ∃ z, Seals cfg stream x z ∧ y.own stream = z.own stream ∧
        (y.ledger stream).openLoss = some (newLoss recordSeq recordType reason observedNs) ∧
        (y.ledger stream).droppedControl = (z.ledger stream).droppedControl)

theorem loses (cfg : Config) (x : Exporter) (stream : StreamId) (recordSeq : Nat)
    (recordType : RecordType) (reason : LossReason) (observedNs : Nat) :
    Loses cfg stream recordSeq recordType reason observedNs x
      (x.noteDrop cfg stream recordSeq recordType reason observedNs) := by
  let x₁ := (x.modify stream fun l => { l with droppedData := l.droppedData + 1 }).countDiagnostic
    reason.wire
  have hothers : ∀ t ≠ stream, SameStream t x x₁ := by
    intro t ht
    exact ⟨rfl, if_neg ht⟩
  have hopened : (x₁.ledger stream).openLoss = (x.ledger stream).openLoss := by
    simp [x₁, countDiagnostic]
  have hnext : (x₁.ledger stream).nextRecordSeq = (x.ledger stream).nextRecordSeq := by
    simp [x₁, countDiagnostic]
  have hcontrol : (x₁.ledger stream).droppedControl = (x.ledger stream).droppedControl := by
    simp [x₁, countDiagnostic]
  have hlossSeq : (x₁.ledger stream).nextLossIntervalSeq =
      (x.ledger stream).nextLossIntervalSeq := by
    simp [x₁, countDiagnostic]
  have hcounts : (x₁.ledger stream).attempted = (x.ledger stream).attempted ∧
      (x₁.ledger stream).written = (x.ledger stream).written ∧
      (x₁.ledger stream).droppedData = (x.ledger stream).droppedData + 1 ∧
      (x₁.ledger stream).hashed = (x.ledger stream).hashed := by
    simp [x₁, countDiagnostic]
  obtain ⟨hattempted, hwritten, hdropped, hhashed⟩ := hcounts
  unfold noteDrop
  dsimp only
  split
  · next loss hfilter =>
    replace hfilter := (congrArg (Option.filter _) hopened).symm.trans hfilter
    obtain ⟨hloss, hcond⟩ := Option.filter_eq_some_iff.mp hfilter
    obtain ⟨hreason, hseq⟩ := of_decide_eq_true hcond
    refine ⟨fun t ht => (hothers t ht).trans (sameStream_modify _ ht), ?_, ?_, ?_, ?_, ?_,
      .inl ⟨loss, hloss, hreason, hseq, rfl, ?_, ?_⟩⟩
    all_goals rw [modify_ledger, if_pos rfl]
    all_goals assumption
  · next hfilter =>
    replace hfilter := (congrArg (Option.filter _) hopened).symm.trans hfilter
    have hs := seals cfg x₁ stream
    have hsealed := sameCounts_sealLoss cfg x₁ stream
    refine ⟨fun t ht => ((hothers t ht).trans (hs.others t ht)).trans (sameStream_modify _ ht), ?_,
      ?_, ?_, ?_, ?_, .inr ⟨fun loss hloss hreason hseq => ?_, x₁.sealLoss cfg stream,
        ⟨?_, hs.openLoss, ?_, ?_⟩, rfl, ?_, ?_⟩⟩
    · rw [modify_ledger, if_pos rfl]
      exact hs.nextRecordSeq.trans hnext
    · rw [modify_ledger, if_pos rfl]
      exact hsealed.attempted.trans hattempted
    · rw [modify_ledger, if_pos rfl]
      exact hsealed.written.trans hwritten
    · rw [modify_ledger, if_pos rfl]
      exact hsealed.droppedData.trans hdropped
    · rw [modify_ledger, if_pos rfl]
      exact hsealed.hashed.trans hhashed
    · have := Option.filter_eq_none_iff.mp hfilter loss hloss
      simp [hreason, hseq] at this
    · exact fun t ht => (hothers t ht).trans (hs.others t ht)
    · exact hs.nextRecordSeq.trans hnext
    · rw [← hopened, ← hcontrol, ← hlossSeq]
      exact hs.outcome
    · rw [modify_ledger, if_pos rfl]
    · rw [modify_ledger, if_pos rfl]

/-! ## A call, seen from one stream -/

theorem allocate_nextRecordSeq (x : Exporter) (stream : StreamId) :
    ((x.allocate stream).ledger stream).nextRecordSeq = (x.ledger stream).nextRecordSeq + 1 := by
  rw [allocate, modify_ledger, if_pos rfl]

theorem allocate_ledger_of_ne (x : Exporter) (ht : t ≠ stream) :
    (x.allocate stream).ledger t = x.ledger t := by
  rw [allocate, modify_ledger, if_neg ht]

/-- What a call does to a stream: nothing, or its next number is given out and
the record lost, lost after the losses before it have been sealed, or admitted. -/
inductive Advances (cfg : Config) (call : TraceSink.Call) (x y : Exporter)
    (t : StreamId) : Prop where
  | same (h : SameStream t x y)
  | loses {x₁ : Exporter} {recordType : RecordType} {reason : LossReason} {observedNs : Nat}
      (hopen : Open cfg x t) (hx₁ : SameBooks (x.allocate t) x₁)
      (hl : Loses cfg t (x.ledger t).nextRecordSeq recordType reason observedNs x₁ y)
  | refuses {q : Queued} {observedNs : Nat} (hstream : q.stream = t) (hopen : Open cfg x t)
      (hfailed : x.writerFailed = false) (hq : Fresh cfg x call q)
      (hcan : (x.allocate t).canEnqueue q.raw q.reserved t = true)
      (hfull : ((x.allocate t).sealLoss cfg t).enqueue q = none)
      (hl : Loses cfg t (x.ledger t).nextRecordSeq q.recordType .queueOverflow observedNs
        ((x.allocate t).sealLoss cfg t) y)
  | admits {q : Queued} (hstream : q.stream = t) (hopen : Open cfg x t) (hq : Fresh cfg x call q)
      (he : Enqueued ((x.allocate t).sealLoss cfg t) y q)

theorem Produced.advances {call : TraceSink.Call} (h : Produced cfg x call y) (t : StreamId) :
    Advances cfg call x y t := by
  have hother : ∀ {x₁ y : Exporter} {stream : StreamId}, t ≠ stream →
      SameBooks (x.allocate stream) x₁ → SameStream t x₁ y → Advances cfg call x y t := by
    intro x₁ y stream ht hx₁ hsame
    have hallocated : SameStream t x (x.allocate stream) := ⟨rfl, allocate_ledger_of_ne x ht⟩
    exact .same ((hallocated.trans (hx₁.sameStream t)).trans hsame)
  cases h with
  | quiet hxy => exact .same (hxy.sameStream t)
  | @drops x₁ stream recordType reason observedNs hopen hx₁ _ =>
    have hl := loses cfg x₁ stream (x.ledger stream).nextRecordSeq recordType reason observedNs
    by_cases ht : t = stream
    · subst ht
      exact .loses hopen hx₁ hl
    · exact hother ht hx₁ (hl.others t ht)
  | @admits q observedNs ρ reference hopen hfailed hq =>
    have hs := seals cfg (x.allocate q.stream) q.stream
    by_cases ht : t = q.stream
    · subst ht
      unfold admitOrLose
      split
      · exact .loses hopen (.refl _) (loses ..)
      · next hcan =>
        dsimp only
        split
        · next hfull => exact .refuses rfl hopen hfailed hq (by simpa using hcan) hfull (loses ..)
        · next hadmitted => exact .admits rfl hopen hq (enqueued hadmitted)
    · unfold admitOrLose
      split
      · exact hother ht (.refl _) ((loses ..).others t ht)
      · dsimp only
        split
        · exact hother ht (.refl _) ((hs.others t ht).trans ((loses ..).others t ht))
        · next hadmitted =>
          exact hother ht (.refl _) ((hs.others t ht).trans ((enqueued hadmitted).others t ht))

end Exporter
end LifecycleProfiler.Sink
