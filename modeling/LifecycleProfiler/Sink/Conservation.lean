import LifecycleProfiler.Sink.Steps

/-! # Conservation of data records

Every sequence number a stream has given out is written, dropped or pending.
The lock scopes adjust the counters by hand, so each has a lemma here on what
it does to the difference. -/

namespace LifecycleProfiler.Sink
open Python Protocol

namespace Exporter
variable {cfg : Config} {x : Exporter} {stream s : StreamId}

/-! ## Reading an updated exporter -/

@[simp] theorem modify_ledger (x : Exporter) (stream s : StreamId) (f : Ledger → Ledger) :
    (x.modify stream f).ledger s = if s = stream then f (x.ledger s) else x.ledger s := rfl

@[simp] theorem modify_queue (x : Exporter) (stream : StreamId) (f : Ledger → Ledger) :
    (x.modify stream f).queue = x.queue := rfl

@[simp] theorem modify_inflight (x : Exporter) (stream : StreamId) (f : Ledger → Ledger) :
    (x.modify stream f).inflight = x.inflight := rfl

@[simp] theorem countDiagnostic_ledger (x : Exporter) (reason : String) :
    (x.countDiagnostic reason).ledger = x.ledger := rfl

@[simp] theorem countDiagnostic_queue (x : Exporter) (reason : String) :
    (x.countDiagnostic reason).queue = x.queue := rfl

@[simp] theorem countDiagnostic_inflight (x : Exporter) (reason : String) :
    (x.countDiagnostic reason).inflight = x.inflight := rfl

/-! ## What admission leaves alone -/

/-- The queue and the ledgers may differ, the rest of the exporter does not. -/
structure Admits (x y : Exporter) : Prop where
  inflight : y.inflight = x.inflight
  closing : y.closing = x.closing
  closed : y.closed = x.closed
  writerFailed : y.writerFailed = x.writerFailed

theorem Admits.refl (x : Exporter) : Admits x x := ⟨rfl, rfl, rfl, rfl⟩

theorem Admits.trans {x y z : Exporter} (hxy : Admits x y) (hyz : Admits y z) : Admits x z :=
  ⟨hyz.inflight.trans hxy.inflight, hyz.closing.trans hxy.closing, hyz.closed.trans hxy.closed,
    hyz.writerFailed.trans hxy.writerFailed⟩

theorem admits_modify (x : Exporter) (stream : StreamId) (f : Ledger → Ledger) :
    Admits x (x.modify stream f) := ⟨rfl, rfl, rfl, rfl⟩

theorem admits_countDiagnostic (x : Exporter) (reason : String) :
    Admits x (x.countDiagnostic reason) := ⟨rfl, rfl, rfl, rfl⟩

theorem admits_enqueue {q : Queued} {y : Exporter} (h : x.enqueue q = some y) : Admits x y := by
  unfold enqueue at h
  split at h
  · cases h
  · cases h
    exact ⟨rfl, rfl, rfl, rfl⟩

theorem admits_sealLoss (x : Exporter) : Admits x (x.sealLoss cfg stream) := by
  unfold sealLoss
  split
  · exact .refl x
  · dsimp only
    split
    · exact (admits_modify ..).trans (admits_modify ..)
    · rename_i record raw hrecord
      cases hq : Exporter.enqueue _ (lossControl stream record raw) with
      | none =>
        rw [Option.getD_none]
        exact (admits_modify ..).trans (admits_modify ..)
      | some y =>
        rw [Option.getD_some]
        exact (admits_modify ..).trans (admits_enqueue hq)

theorem admits_noteDrop (x : Exporter) (recordSeq : Nat) (recordType : RecordType)
    (reason : LossReason) (observedNs : Nat) :
    Admits x (x.noteDrop cfg stream recordSeq recordType reason observedNs) := by
  have hdrop := (admits_modify x stream fun l => { l with
    droppedData := l.droppedData + 1 }).trans (admits_countDiagnostic _ reason.wire)
  unfold noteDrop
  dsimp only
  split
  · exact hdrop.trans (admits_modify ..)
  · exact (hdrop.trans (admits_sealLoss _)).trans (admits_modify ..)

theorem admits_writeRecord {ρ : Type} (x : Exporter) (recordSeq : Nat) (recordType : RecordType)
    (reserved : Bool) (observedNs : Nat) (encoded : Except PyError (Dict × Bytes × ρ)) :
    Admits x (x.writeRecord cfg stream recordSeq recordType reserved observedNs encoded).1 := by
  unfold writeRecord
  split
  · exact admits_noteDrop ..
  · split
    · exact admits_noteDrop ..
    · unfold admitOrLose
      split
      · exact admits_noteDrop ..
      · dsimp only
        split
        · exact (admits_sealLoss x).trans (admits_noteDrop ..)
        · next hq => exact (admits_sealLoss x).trans (admits_enqueue hq)

theorem admits_writeBase {ρ : Type} (x : Exporter) (recordType : RecordType) (reserved : Bool)
    (clock : Option Value) (now : Nat) (encode : Nat → Nat → Except PyError (Dict × Bytes × ρ)) :
    Admits x (x.writeBase cfg recordType reserved clock now encode).1 := by
  unfold writeBase
  split
  · exact .refl x
  · split
    · exact admits_countDiagnostic ..
    · dsimp only
      split
      · exact ((admits_modify ..).trans (admits_countDiagnostic ..)).trans (admits_noteDrop ..)
      · exact (admits_modify ..).trans (admits_writeRecord ..)

theorem admits_call (x : Exporter) (now : Nat) (call : TraceSink.Call) :
    Admits x (call.run cfg x now) := by
  cases call with
  | event draft clock => exact admits_writeBase ..
  | edge draft clock => exact admits_writeBase ..
  | profile recordType timestampNs fields clock =>
    unfold TraceSink.Call.run writeKvRecoveryProfile
    dsimp only
    split
    · exact .refl x
    · split
      · exact admits_countDiagnostic ..
      · split
        · exact admits_countDiagnostic ..
        · split
          · exact .refl x
          · split
            · exact (admits_modify ..).trans (admits_noteDrop ..)
            · exact (admits_modify ..).trans (admits_writeRecord ..)
  | drop recordType timestampNs reason clock =>
    unfold TraceSink.Call.run dropKvRecoveryProfile
    dsimp only
    split
    · exact .refl x
    · split
      · exact .refl x
      · exact (admits_modify ..).trans (admits_noteDrop ..)
  | span =>
    unfold TraceSink.Call.run newSpanId
    dsimp only
    split
    · exact .refl x
    · exact ⟨rfl, rfl, rfl, rfl⟩
  | diagnostic reason =>
    unfold TraceSink.Call.run deferDiagnostic
    dsimp only
    split
    · exact .refl x
    · exact admits_countDiagnostic ..

/-! ## The difference -/

/-- The data records of a stream that are queued or in flight. -/
def pendingData (x : Exporter) (stream : StreamId) : Nat :=
  (x.inflight ++ x.queue).countP fun q => q.stream = stream && q.isData

/-- Sequence numbers given out and not accounted for. -/
def shortfall (x : Exporter) (stream : StreamId) : Int :=
  (x.ledger stream).attempted - writtenData stream (x.ledger stream) -
    (x.ledger stream).droppedData - x.pendingData stream

def Conserved (x : Exporter) : Prop := ∀ stream, x.shortfall stream = 0

/-- With the counters of a stream unchanged, the pending records decide. -/
theorem shortfall_of_pending {x y : Exporter}
    (hl : (y.ledger s).attempted = (x.ledger s).attempted)
    (hw : writtenData s (y.ledger s) = writtenData s (x.ledger s))
    (hd : (y.ledger s).droppedData = (x.ledger s).droppedData) :
    y.shortfall s = x.shortfall s + x.pendingData s - y.pendingData s := by
  rw [shortfall, shortfall, hl, hw, hd]
  omega

theorem shortfall_congr {x y : Exporter} (hl : (y.ledger s).attempted = (x.ledger s).attempted)
    (hw : writtenData s (y.ledger s) = writtenData s (x.ledger s))
    (hd : (y.ledger s).droppedData = (x.ledger s).droppedData)
    (hp : y.pendingData s = x.pendingData s) : y.shortfall s = x.shortfall s := by
  rw [shortfall_of_pending hl hw hd, hp]
  omega

@[simp] theorem shortfall_countDiagnostic (x : Exporter) (reason : String) :
    (x.countDiagnostic reason).shortfall s = x.shortfall s := rfl

@[simp] theorem shortfall_dropControl (x : Exporter) :
    (x.dropControl stream).shortfall s = x.shortfall s := by
  refine shortfall_congr ?_ ?_ ?_ rfl
  all_goals
    simp only [dropControl, modify_ledger]
    split <;> rfl

theorem shortfall_enqueue {q : Queued} {y : Exporter} (h : x.enqueue q = some y) :
    y.shortfall s = x.shortfall s - if q.stream = s ∧ q.isData = true then 1 else 0 := by
  unfold enqueue at h
  split at h
  · cases h
  · cases h
    rw [shortfall_of_pending (x := x)]
    · simp only [pendingData, modify_queue, modify_inflight, ← List.append_assoc,
        List.countP_append, List.countP_singleton, Bool.and_eq_true, decide_eq_true_eq]
      split <;> omega
    all_goals
      rw [modify_ledger]
      split <;> rfl

theorem shortfall_sealLoss (x : Exporter) :
    (x.sealLoss cfg stream).shortfall s = x.shortfall s := by
  have hopen : ∀ lossSeq, (x.modify stream fun l => { l with
      nextLossIntervalSeq := lossSeq, openLoss := none }).shortfall s = x.shortfall s := by
    intro lossSeq
    refine shortfall_congr ?_ ?_ ?_ rfl
    all_goals
      rw [modify_ledger]
      split <;> rfl
  unfold sealLoss
  split
  · rfl
  · dsimp only
    split
    · rw [shortfall_dropControl, hopen]
    · rename_i record raw hrecord
      cases hq : Exporter.enqueue _ (lossControl stream record raw) with
      | none => rw [Option.getD_none, shortfall_dropControl, hopen]
      | some y =>
        have hdata : (lossControl stream record raw).isData = false := by
          cases stream <;> rfl
        rw [Option.getD_some, shortfall_enqueue hq, hopen]
        simp [hdata]

theorem shortfall_allocate (x : Exporter) :
    (x.allocate stream).shortfall s = x.shortfall s + if s = stream then 1 else 0 := by
  unfold shortfall
  have hp : (x.allocate stream).pendingData s = x.pendingData s := rfl
  have hw : writtenData s ((x.allocate stream).ledger s) = writtenData s (x.ledger s) := by
    rw [allocate, modify_ledger]
    split <;> rfl
  rw [hp, hw]
  simp only [allocate, modify_ledger]
  split
  all_goals
    push_cast
    omega

theorem shortfall_noteDrop (x : Exporter) (recordSeq : Nat) (recordType : RecordType)
    (reason : LossReason) (observedNs : Nat) :
    (x.noteDrop cfg stream recordSeq recordType reason observedNs).shortfall s =
      x.shortfall s - if s = stream then 1 else 0 := by
  have hdrop : ((x.modify stream fun l => { l with
      droppedData := l.droppedData + 1 }).countDiagnostic reason.wire).shortfall s =
      x.shortfall s - if s = stream then 1 else 0 := by
    rw [shortfall_countDiagnostic]
    unfold shortfall
    simp only [modify_ledger]
    have hp : (x.modify stream fun l => { l with droppedData := l.droppedData + 1 }).pendingData s =
      x.pendingData s := rfl
    rw [hp]
    cases s <;> split <;> simp [writtenData] <;> omega
  have hopen : ∀ (y : Exporter) (loss : Option OpenLoss),
      (y.modify stream fun l => { l with openLoss := loss }).shortfall s = y.shortfall s := by
    intro y loss
    refine shortfall_congr ?_ ?_ ?_ rfl
    all_goals
      rw [modify_ledger]
      split <;> rfl
  unfold noteDrop
  dsimp only
  split
  · rw [hopen, hdrop]
  · rw [hopen, shortfall_sealLoss, hdrop]

/-! ## Producer calls -/

/-- Writing or losing the record whose number was given out last. -/
theorem shortfall_admit {ρ : Type} (x : Exporter) (q : Queued) (recordSeq observedNs : Nat)
    (reference : ρ) (hdata : q.isData = true) :
    (x.admitOrLose cfg q recordSeq observedNs reference).1.shortfall s =
      x.shortfall s - if s = q.stream then 1 else 0 := by
  unfold admitOrLose
  split
  · exact shortfall_noteDrop x recordSeq q.recordType .queueOverflow observedNs
  · dsimp only
    split
    · rw [shortfall_noteDrop, shortfall_sealLoss]
    · next y hy =>
      rw [shortfall_enqueue hy, shortfall_sealLoss]
      simp only [hdata, and_true, eq_comm]

theorem shortfall_writeRecord {ρ : Type} (x : Exporter) (recordSeq : Nat) (recordType : RecordType)
    (reserved : Bool) (observedNs : Nat) (encoded : Except PyError (Dict × Bytes × ρ))
    (hdata : isDataOf stream recordType = true) :
    (x.writeRecord cfg stream recordSeq recordType reserved observedNs encoded).1.shortfall s =
      x.shortfall s - if s = stream then 1 else 0 := by
  unfold writeRecord
  split
  · exact shortfall_noteDrop ..
  · split
    · exact shortfall_noteDrop ..
    · exact shortfall_admit x _ _ _ _ hdata

theorem conserved_writeBase {ρ : Type} (hx : Conserved x) (recordType : RecordType)
    (reserved : Bool) (clock : Option Value) (now : Nat)
    (encode : Nat → Nat → Except PyError (Dict × Bytes × ρ))
    (hdata : isDataOf .base recordType = true) :
    Conserved (x.writeBase cfg recordType reserved clock now encode).1 := by
  intro s
  unfold writeBase
  split
  · exact hx s
  · split
    · exact hx s
    · dsimp only
      split
      · rw [shortfall_noteDrop, shortfall_countDiagnostic, shortfall_allocate, hx s]
        omega
      · rw [shortfall_writeRecord _ _ _ _ _ _ hdata, shortfall_allocate, hx s]
        omega

theorem conserved_writeKvRecoveryProfile (hx : Conserved x) (recordType : ProfileRecordType)
    (timestampNs : Value) (fields : Dict) (clock : Option Value) (now : Nat) :
    Conserved (x.writeKvRecoveryProfile cfg recordType timestampNs fields clock now).1 := by
  intro s
  unfold writeKvRecoveryProfile
  split
  · exact hx s
  · split
    · exact hx s
    · split
      · exact hx s
      · split
        · exact hx s
        · dsimp only
          split
          · rw [shortfall_noteDrop, shortfall_allocate, hx s]
            omega
          · rw [shortfall_writeRecord _ _ _ _ _ _ rfl, shortfall_allocate, hx s]
            omega

theorem conserved_dropKvRecoveryProfile (hx : Conserved x) (recordType : ProfileRecordType)
    (timestampNs : Value) (reason : LossReason) (clock : Option Value) (now : Nat) :
    Conserved (x.dropKvRecoveryProfile cfg recordType timestampNs reason clock now).1 := by
  intro s
  unfold dropKvRecoveryProfile
  split
  · exact hx s
  · split
    · exact hx s
    · dsimp only
      rw [shortfall_noteDrop, shortfall_allocate, hx s]
      omega

theorem conserved_call (hx : Conserved x) (now : Nat) (call : TraceSink.Call) :
    Conserved (call.run cfg x now) := by
  cases call with
  | event draft clock => exact conserved_writeBase hx .event _ _ _ _ rfl
  | edge draft clock => exact conserved_writeBase hx .edge _ _ _ _ rfl
  | profile recordType timestampNs fields clock =>
    exact conserved_writeKvRecoveryProfile hx recordType timestampNs fields clock now
  | drop recordType timestampNs reason clock =>
    exact conserved_dropKvRecoveryProfile hx recordType timestampNs reason clock now
  | span =>
    unfold TraceSink.Call.run newSpanId
    dsimp only
    split <;> exact hx
  | diagnostic reason =>
    unfold TraceSink.Call.run deferDiagnostic
    dsimp only
    split
    · exact hx
    · exact fun s => hx s

/-! ## The writer and the timeouts -/

theorem splitBatch_append (records bytes : Nat) (queue : List Queued) :
    (splitBatch records bytes queue).1 ++ (splitBatch records bytes queue).2 = queue := by
  induction queue generalizing records bytes with
  | nil => rfl
  | cons q rest ih =>
    rw [splitBatch]
    split
    · rfl
    · exact congrArg (q :: ·) (ih _ _)

/-- The batch leaves the queue and is in flight, when nothing else was. -/
theorem conserved_takeBatch (hx : Conserved x) (hinflight : x.inflight = []) :
    Conserved x.takeBatch.1 := by
  intro s
  rw [← hx s]
  refine shortfall_congr rfl rfl rfl ?_
  simp only [pendingData, takeBatch, splitBatch_append, hinflight, List.nil_append]

theorem clearPending_pendingData (x : Exporter) : x.clearPending.pendingData s = 0 := rfl

theorem accountUnwritten_pendingData (x : Exporter) (q : Queued) :
    (x.accountUnwritten q).pendingData s = x.pendingData s := by
  unfold accountUnwritten
  split <;> rfl

theorem shortfall_accountUnwritten (x : Exporter) (q : Queued) :
    (x.accountUnwritten q).shortfall s =
      x.shortfall s - if q.stream = s ∧ q.isData = true then 1 else 0 := by
  unfold accountUnwritten
  split
  · next hdata =>
    simp only [shortfall, modify_ledger, hdata, and_true, eq_comm (a := q.stream)]
    have hp : (x.modify q.stream fun l => { l with
        droppedData := l.droppedData + 1 }).pendingData s = x.pendingData s := rfl
    rw [hp]
    cases s <;> split <;> simp [writtenData] <;> omega
  · next hdata =>
    rw [shortfall_dropControl]
    simp [hdata]

/-- Accounting for some records makes up for forgetting them. -/
theorem shortfall_foldl_accountUnwritten (x : Exporter) (records : List Queued) :
    (records.foldl accountUnwritten x).shortfall s =
      x.shortfall s - records.countP fun q => q.stream = s && q.isData := by
  induction records generalizing x with
  | nil => simp
  | cons q rest ih =>
    rw [List.foldl_cons, ih, shortfall_accountUnwritten, List.countP_cons]
    simp only [Bool.and_eq_true, decide_eq_true_eq]
    split
    all_goals
      push_cast
      omega

theorem foldl_accountUnwritten_pendingData (x : Exporter) (records : List Queued) :
    (records.foldl accountUnwritten x).pendingData s = x.pendingData s := by
  induction records generalizing x with
  | nil => rfl
  | cons q rest ih => rw [List.foldl_cons, ih, accountUnwritten_pendingData]

theorem shortfall_clearPending (x : Exporter) :
    x.clearPending.shortfall s = x.shortfall s + x.pendingData s := by
  have h := shortfall_of_pending (s := s) (x := x) (y := x.clearPending) rfl rfl rfl
  rw [h, clearPending_pendingData]
  omega

theorem conserved_dropPending (hx : Conserved x) : Conserved x.dropPending := by
  intro s
  rw [dropPending, shortfall_clearPending, foldl_accountUnwritten_pendingData,
    shortfall_foldl_accountUnwritten, hx s, pendingData]
  omega

theorem conserved_markWriterFailure (hx : Conserved x) : Conserved x.markWriterFailure :=
  conserved_dropPending fun s => hx s

theorem conserved_forceTimeoutAccounting (hx : Conserved x) (alreadyTimeout : Bool) :
    Conserved (x.forceTimeoutAccounting alreadyTimeout) := by
  unfold forceTimeoutAccounting
  dsimp only
  split
  · exact conserved_dropPending hx
  · exact fun s => conserved_dropPending hx s

/-- A written data record counts once, in the category of its stream. -/
theorem writtenData_recorded {l l' : Ledger} (recordType : RecordType)
    (hwritten : ∀ t, l'.written t =
      if t = recordType ∧ (isDataOf stream recordType = true ∨ t = RecordType.lossInterval) then
        l.written t + 1 else l.written t) :
    writtenData stream l' =
      writtenData stream l + if isDataOf stream recordType = true then 1 else 0 := by
  cases stream with
  | base => cases recordType <;> simp [writtenData, isDataOf, hwritten] <;> omega
  | profile =>
    cases recordType with
    | data t => cases t <;> simp [writtenData, isDataOf, totalCount, hwritten] <;> omega
    | _ => simp [writtenData, isDataOf, hwritten]

theorem conserved_recordWritten (hx : Conserved x) (q : Queued) :
    Conserved (x.recordWritten q) := by
  unfold recordWritten
  split
  · exact conserved_markWriterFailure hx
  · next first rest hinflight =>
    split
    · exact conserved_markWriterFailure hx
    · next hsame =>
      have hfirst : first.stream = q.stream ∧ first.isData = q.isData := by
        simp only [Queued.same, Bool.not_eq_true', Bool.not_eq_false, Bool.and_eq_true,
          beq_iff_eq] at hsame
        obtain ⟨⟨⟨⟨⟨-, htype⟩, -⟩, -⟩, -⟩, hstream⟩ := hsame
        exact ⟨hstream, by rw [Queued.isData, Queued.isData, htype, hstream]⟩
      intro s
      have hold := hx s
      simp only [shortfall, pendingData, hinflight, List.cons_append, List.countP_cons,
        hfirst.1, hfirst.2] at hold
      by_cases hs : s = q.stream
      · subst hs
        rw [shortfall, writtenData_recorded (l := x.ledger q.stream) q.recordType
          (fun t => by rw [modify_ledger, if_pos rfl]; rfl)]
        simp only [pendingData, modify_ledger, modify_queue, modify_inflight, if_true, decide_true,
          Bool.true_and, Queued.isData] at hold ⊢
        push_cast at hold ⊢
        omega
      · have hs' : ¬ q.stream = s := fun h => hs h.symm
        simp only [shortfall, pendingData, modify_ledger, modify_queue, modify_inflight, if_neg hs]
        simpa [hs'] using hold

/-- Cutting into groups loses no record. -/
theorem consecutiveGroups_flatten (group rest : List Queued) :
    (consecutiveGroups group rest).flatten = group ++ rest := by
  induction rest generalizing group with
  | nil =>
    rw [consecutiveGroups]
    split
    · next h => simp [List.isEmpty_iff.mp h]
    · simp
  | cons q rest ih =>
    rw [consecutiveGroups]
    split
    · rw [List.flatten_cons, ih, List.singleton_append]
    · rw [ih, List.append_assoc, List.singleton_append]

theorem foldl_dropControl (x : Exporter) (records : List Queued) :
    (records.foldl (fun x q => x.dropControl q.stream) x).shortfall s = x.shortfall s ∧
      (records.foldl (fun x q => x.dropControl q.stream) x).pendingData s = x.pendingData s := by
  induction records generalizing x with
  | nil => exact ⟨rfl, rfl⟩
  | cons q rest ih =>
    rw [List.foldl_cons, (ih _).1, (ih _).2, shortfall_dropControl]
    exact ⟨rfl, rfl⟩

/-- What the timeout keeps while it accounts for the pending data. -/
structure Admitted.Settles (a : Admitted) (s : StreamId) (owed : Int) : Prop where
  shortfall : a.x.shortfall s = owed
  pending : a.x.pendingData s = 0
  controls : ∀ q ∈ a.controls, q.isData = false

theorem Admitted.Settles.admitControl {a : Admitted} {owed : Int} {q : Queued}
    (h : a.Settles s owed) (hq : q.isData = false) : (a.admitControl q).Settles s owed := by
  unfold Admitted.admitControl
  split
  · exact ⟨by rw [shortfall_dropControl, h.shortfall], h.pending, h.controls⟩
  · refine ⟨h.shortfall, h.pending, fun p hp => ?_⟩
    rcases List.mem_append.mp hp with hp | hp
    · exact h.controls p hp
    · exact List.mem_singleton.mp hp ▸ hq

theorem Admitted.Settles.admitGroup {a : Admitted} {owed : Int} (h : a.Settles s owed)
    (cfg : Config) (stream : StreamId) (observedNs : Nat) (group : List Queued) :
    (a.admitGroup cfg stream observedNs group).Settles s
      (owed - if s = stream then (group.length : Int) else 0) := by
  have hdrop : ∀ lossSeq, (a.x.modify stream fun l => { l with
      droppedData := l.droppedData + group.length
      nextLossIntervalSeq := lossSeq }).shortfall s =
      owed - if s = stream then (group.length : Int) else 0 := by
    intro lossSeq
    rw [← h.shortfall]
    unfold Exporter.shortfall
    simp only [modify_ledger]
    have hp : (a.x.modify stream fun l => { l with
        droppedData := l.droppedData + group.length
        nextLossIntervalSeq := lossSeq }).pendingData s = a.x.pendingData s := rfl
    rw [hp]
    cases s <;> split <;> simp [writtenData] <;> omega
  unfold Admitted.admitGroup timeoutLossControl
  dsimp only
  split
  · next x heq =>
    split at heq
    · cases heq
      exact ⟨by rw [shortfall_dropControl]; exact hdrop _, h.pending, h.controls⟩
    · cases heq
  · next x control heq =>
    split at heq
    · cases heq
    · next record raw hrecord =>
      cases heq
      refine Admitted.Settles.admitControl ⟨hdrop _, h.pending, h.controls⟩ ?_
      cases stream <;> rfl

theorem Admitted.Settles.admitControls {a : Admitted} {owed : Int} {records : List Queued}
    (h : a.Settles s owed) (hrecords : ∀ q ∈ records, q.isData = false) :
    (records.foldl Admitted.admitControl a).Settles s owed := by
  induction records generalizing a with
  | nil => exact h
  | cons q rest ih =>
    exact ih (h.admitControl (hrecords q List.mem_cons_self)) fun p hp =>
      hrecords p (List.mem_cons_of_mem _ hp)

theorem Admitted.Settles.admitGroups {a : Admitted} {owed : Int} (h : a.Settles s owed)
    (cfg : Config) (stream : StreamId) (observedNs : Nat) (groups : List (List Queued)) :
    (groups.foldl (Admitted.admitGroup cfg stream observedNs) a).Settles s
      (owed - if s = stream then (groups.flatten.length : Int) else 0) := by
  induction groups generalizing a owed with
  | nil => simpa using h
  | cons group rest ih =>
    have hrest := ih (h.admitGroup cfg stream observedNs group)
    have howed : (owed - if s = stream then (group.length : Int) else 0) -
        (if s = stream then (rest.flatten.length : Int) else 0) =
        owed - if s = stream then ((group :: rest).flatten.length : Int) else 0 := by
      rw [List.flatten_cons, List.length_append]
      split
      all_goals
        push_cast
        omega
    exact howed ▸ hrest

theorem settles_timeoutAdmission (hx : Conserved x) (cfg : Config) (s : StreamId)
    (observedNs : Nat) :
    (x.timeoutAdmission cfg observedNs).Settles s 0 := by
  -- what the cleared queues owe is the pending data of the stream
  have howed : ∀ records : List Queued, ({ x := (records.foldl (fun x q =>
      x.dropControl q.stream) x).clearPending } : Admitted).Settles s (x.pendingData s) := by
    intro records
    refine ⟨?_, rfl, by simp⟩
    dsimp only
    rw [shortfall_clearPending, (foldl_dropControl x records).1, (foldl_dropControl x records).2,
      hx s]
    omega
  have hexisting : ∀ q ∈ (x.inflight ++ x.queue).filter
      (fun q => decide (q.recordType = RecordType.lossInterval)), q.isData = false := by
    intro q hq
    have htype := of_decide_eq_true (List.mem_filter.mp hq).2
    rw [Queued.isData, htype]
    cases q.stream <;> rfl
  have hdone := (((howed ((x.inflight ++ x.queue).filter fun q =>
      !(q.recordType = RecordType.lossInterval || q.isData))).admitControls
    hexisting).admitGroups cfg .base observedNs
      (consecutiveGroups [] ((x.inflight ++ x.queue).filter fun q =>
        q.stream = StreamId.base && q.isData))).admitGroups cfg .profile observedNs
      (consecutiveGroups [] ((x.inflight ++ x.queue).filter fun q =>
        q.stream = StreamId.profile && q.isData))
  rw [consecutiveGroups_flatten, consecutiveGroups_flatten, List.nil_append, List.nil_append,
    ← List.countP_eq_length_filter, ← List.countP_eq_length_filter] at hdone
  have hzero : ((x.pendingData s : Int) -
      (if s = StreamId.base then ((x.inflight ++ x.queue).countP fun q =>
        q.stream = StreamId.base && q.isData : Int) else 0)) -
      (if s = StreamId.profile then ((x.inflight ++ x.queue).countP fun q =>
        q.stream = StreamId.profile && q.isData : Int) else 0) = 0 := by
    cases s <;> simp [pendingData]
  exact hzero ▸ hdone

theorem conserved_prepareTimeoutControls (hx : Conserved x) (observedNs : Nat) :
    Conserved (x.prepareTimeoutControls cfg observedNs).1 := by
  intro s
  have h := settles_timeoutAdmission hx cfg s observedNs
  have hcontrols : (x.timeoutAdmission cfg observedNs).inflight.pendingData s =
      (x.timeoutAdmission cfg observedNs).x.pendingData s := by
    have hnone : (x.timeoutAdmission cfg observedNs).controls.countP
        (fun q => decide (q.stream = s) && q.isData) = 0 := by
      refine List.countP_eq_zero.mpr fun q hq => ?_
      simp [h.controls q hq]
    have hpending := h.pending
    simp only [pendingData, List.countP_append] at hpending ⊢
    change List.countP _ (x.timeoutAdmission cfg observedNs).controls + _ = _
    rw [hnone]
    change 0 + List.countP _ (x.timeoutAdmission cfg observedNs).x.queue = _
    omega
  rw [← h.shortfall]
  exact shortfall_congr rfl rfl rfl hcontrols

/-- Controls are not data. -/
theorem conserved_expireControls (hx : Conserved x)
    (hcontrols : ∀ q ∈ x.inflight, q.isData = false) : Conserved x.expireControls := by
  intro s
  obtain ⟨hs, hp⟩ := foldl_dropControl (s := s) x x.inflight
  have hqueue : ∀ (x : Exporter) (records : List Queued),
      (records.foldl (fun x q => x.dropControl q.stream) x).queue = x.queue := by
    intro x records
    induction records generalizing x with
    | nil => rfl
    | cons q rest ih => exact ih _
  rw [← hx s, ← hs]
  refine shortfall_congr rfl rfl rfl ?_
  rw [hp]
  simp only [pendingData, expireControls, List.nil_append, List.countP_append, hqueue]
  have hnone : x.inflight.countP (fun q => decide (q.stream = s) && q.isData) = 0 := by
    refine List.countP_eq_zero.mpr fun q hq => ?_
    simp [hcontrols q hq]
  rw [hnone, Nat.zero_add]

theorem shortfall_reserveControl (stream : StreamId) (x : Exporter) (raw : Bytes) :
    (x.reserveControl stream raw).1.shortfall s = x.shortfall s := by
  unfold reserveControl
  split
  · exact shortfall_dropControl x
  · refine shortfall_congr ?_ ?_ ?_ rfl
    all_goals
      rw [modify_ledger]
      split <;> rfl

theorem shortfall_releaseControl (x : Exporter) (raw : Bytes) :
    (x.releaseControl stream raw).shortfall s = x.shortfall s := by
  refine shortfall_congr ?_ ?_ ?_ rfl
  all_goals
    rw [releaseControl, modify_ledger]
    split <;> rfl

end Exporter
end LifecycleProfiler.Sink
