import LifecycleProfiler.Sink.Producers

/-! # The budget of the exporter

Three totals of each stream are adjusted by hand wherever a record enters or
leaves. Each lock scope keeps them equal to what is queued or in flight, within
the two capacities, and the record limit turns those into one of bytes. -/

namespace LifecycleProfiler.Sink
open Python Protocol

/-- **A loss interval is short**: 128 of them fit into a batch. -/
theorem length_lossRecord {cfg : Config} {stream : StreamId} {lossSeq : Nat} {loss : OpenLoss}
    {record : Dict} {raw : Bytes} (h : Exporter.lossRecord cfg stream lossSeq loss =
      .ok (record, raw)) :
    raw.length ≤ maxLossBytes := by
  cases stream with
  | base =>
    simp only [Exporter.lossRecord, bind_eq_ok, pure_eq_ok, Prod.mk.injEq] at h
    obtain ⟨record, hrecord, raw, hraw, rfl, rfl⟩ := h
    exact length_baseLossLine hrecord hraw
  | profile =>
    simp only [Exporter.lossRecord, bind_eq_ok, pure_eq_ok, Prod.mk.injEq] at h
    obtain ⟨record, hrecord, raw, hraw, rfl, rfl⟩ := h
    exact length_profileLossLine hrecord hraw

/-! ## The totals -/

/-- The totals kept for a stream. -/
inductive Total where
  | ordinary
  | reserved
  | bytes

/-- What a record adds to a total. -/
def Total.measure : Total → Queued → Nat
  | ordinary, q => if q.reserved then 0 else 1
  | reserved, q => if q.reserved then 1 else 0
  | bytes, q => q.raw.length

/-- The total as the sink tracks it. -/
def Ledger.total (l : Ledger) : Total → Int
  | .ordinary => l.ordinaryQueued
  | .reserved => l.reservedQueued
  | .bytes => l.queuedBytes

/-- What the records of a stream add up to. -/
def tally (k : Total) (t : StreamId) (records : List Queued) : Nat :=
  (records.map fun q => if q.stream = t then k.measure q else 0).sum

/-- The summed raw lengths of a batch, whatever the stream. -/
def rawBytes (records : List Queued) : Nat := (records.map fun q => q.raw.length).sum

section tally
variable {k : Total} {t : StreamId} {q : Queued} {records : List Queued}

@[simp] theorem tally_nil : tally k t [] = 0 := rfl

@[simp] theorem tally_cons :
    tally k t (q :: records) = (if q.stream = t then k.measure q else 0) + tally k t records := rfl

@[simp] theorem tally_append (before after : List Queued) :
    tally k t (before ++ after) = tally k t before + tally k t after := by
  simp [tally]

@[simp] theorem rawBytes_cons : rawBytes (q :: records) = q.raw.length + rawBytes records := rfl

/-- Every record counts in one class. -/
theorem length_eq_tally (records : List Queued) :
    records.length = tally .ordinary .base records + tally .reserved .base records +
      (tally .ordinary .profile records + tally .reserved .profile records) := by
  induction records with
  | nil => rfl
  | cons q rest ih =>
    simp only [tally_cons, List.length_cons, Total.measure]
    cases q.stream <;> cases q.reserved <;> simp <;> omega

/-- A bound on each record bounds the bytes by the number of records. -/
theorem tally_bytes_le {bound : Nat} (h : ∀ q ∈ records, q.raw.length ≤ bound) :
    tally .bytes t records ≤ bound * (tally .ordinary t records + tally .reserved t records) := by
  induction records with
  | nil => exact Nat.zero_le _
  | cons q rest ih =>
    have hq := h q List.mem_cons_self
    have hrest := ih fun p hp => h p (List.mem_cons_of_mem _ hp)
    simp only [tally_cons, Total.measure]
    by_cases ht : q.stream = t
    · cases q.reserved
      all_goals
        simp only [if_pos ht, Bool.false_eq_true, if_false, if_true, Nat.mul_add, Nat.mul_one,
          Nat.mul_zero] at hrest ⊢
        omega
    · simp only [if_neg ht, Nat.zero_add]
      exact hrest

theorem rawBytes_le {bound : Nat} (h : ∀ q ∈ records, q.raw.length ≤ bound) :
    rawBytes records ≤ bound * records.length := by
  induction records with
  | nil => exact Nat.zero_le _
  | cons q rest ih =>
    have hq := h q List.mem_cons_self
    have hrest := ih fun p hp => h p (List.mem_cons_of_mem _ hp)
    rw [rawBytes_cons, List.length_cons, Nat.mul_succ]
    omega

theorem tally_eq_zero_of_reserved (h : ∀ q ∈ records, q.reserved = true) :
    tally .ordinary t records = 0 := by
  induction records with
  | nil => rfl
  | cons q rest ih =>
    have hrest := ih fun p hp => h p (List.mem_cons_of_mem _ hp)
    simp [Total.measure, h q List.mem_cons_self, hrest]

end tally

namespace Exporter
variable {cfg : Config} {x y : Exporter} {stream : StreamId}

/-- What the sink keeps about its totals while no control is written directly. -/
structure Budget (x : Exporter) : Prop where
  tracked : ∀ t k, (x.ledger t).total k = tally k t x.pending
  ordinary : ∀ t, tally .ordinary t x.pending ≤ dataCapacityRecords
  reserved : ∀ t, tally .reserved t x.pending ≤ reservedCapacityRecords
  line : ∀ q ∈ x.pending, q.raw.length ≤ maxRecordBytes
  control : ∀ q ∈ x.pending, q.recordType = .lossInterval →
    q.reserved = true ∧ q.raw.length ≤ maxLossBytes
  batch : x.inflight.length ≤ maxBatchRecords ∧ rawBytes x.inflight ≤ maxBatchBytes

/-- The pending records and the totals are the same. -/
structure SameTotals (x y : Exporter) : Prop where
  inflight : y.inflight = x.inflight
  queue : y.queue = x.queue
  total : ∀ t k, (y.ledger t).total k = (x.ledger t).total k

theorem SameTotals.refl (x : Exporter) : SameTotals x x := ⟨rfl, rfl, fun _ _ => rfl⟩

theorem SameTotals.trans {z : Exporter} (hxy : SameTotals x y) (hyz : SameTotals y z) :
    SameTotals x z :=
  ⟨hyz.inflight.trans hxy.inflight, hyz.queue.trans hxy.queue,
    fun t k => (hyz.total t k).trans (hxy.total t k)⟩

theorem SameTotals.pending (h : SameTotals x y) : y.pending = x.pending := by
  rw [Exporter.pending, h.inflight, h.queue, Exporter.pending]

theorem SameBooks.sameTotals (h : SameBooks x y) : SameTotals x y :=
  ⟨h.inflight, h.queue, fun t k => by rw [h.ledger]⟩

/-- An update of the other fields of a ledger. -/
theorem sameTotals_modify {f : Ledger → Ledger} (hf : ∀ l k, (f l).total k = l.total k) :
    SameTotals x (x.modify stream f) := by
  refine ⟨rfl, rfl, fun t k => ?_⟩
  rw [modify_ledger]
  split
  · exact hf _ k
  · rfl

theorem sameTotals_dropControl (x : Exporter) : SameTotals x (x.dropControl stream) :=
  sameTotals_modify fun _ k => by cases k <;> rfl

theorem Budget.of_same (hx : Budget x) (h : SameTotals x y) : Budget y := by
  have hp := h.pending
  refine ⟨fun t k => ?_, fun t => ?_, fun t => ?_, ?_, ?_, ?_⟩
  · rw [h.total, hp]
    exact hx.tracked t k
  · exact hp ▸ hx.ordinary t
  · exact hp ▸ hx.reserved t
  · exact hp ▸ hx.line
  · exact hp ▸ hx.control
  · exact h.inflight ▸ hx.batch

/-- Nothing is pending and nothing tracked. -/
theorem budget_empty (hinflight : x.inflight = []) (hqueue : x.queue = [])
    (htotal : ∀ t k, (x.ledger t).total k = 0) : Budget x := by
  have hp : x.pending = [] := by rw [pending, hinflight, hqueue, List.nil_append]
  refine ⟨fun t k => ?_, fun t => ?_, fun t => ?_, fun q hq => ?_, fun q hq => ?_, ?_⟩
  · rw [htotal, hp]
    rfl
  · rw [hp]
    exact Nat.zero_le _
  · rw [hp]
    exact Nat.zero_le _
  · simp [hp] at hq
  · simp [hp] at hq
  · rw [hinflight]
    exact ⟨Nat.zero_le _, Nat.zero_le _⟩

/-! ## Admission -/

/-- What an admitted record passed. -/
theorem enqueue_eq_some {q : Queued} (h : x.enqueue q = some y) :
    x.canEnqueue q.raw q.reserved q.stream = true ∧
      y = { x with queue := x.queue ++ [q] }.modify q.stream fun l => { l with
        queuedBytes := l.queuedBytes + q.raw.length
        reservedQueued := if q.reserved then l.reservedQueued + 1 else l.reservedQueued
        ordinaryQueued := if q.reserved then l.ordinaryQueued else l.ordinaryQueued + 1 } := by
  unfold enqueue at h
  split at h
  · cases h
  · next hcan =>
    cases h
    exact ⟨by simpa using hcan, rfl⟩

/-- What the count test says of the pending records. -/
theorem Budget.room (hx : Budget x) {raw : Bytes} {reserved : Bool}
    (h : x.canEnqueue raw reserved stream = true) :
    (reserved = true → tally .reserved stream x.pending < reservedCapacityRecords) ∧
      (reserved = false → tally .ordinary stream x.pending < dataCapacityRecords) := by
  have hr : (x.ledger stream).reservedQueued = tally .reserved stream x.pending :=
    hx.tracked stream .reserved
  have ho : (x.ledger stream).ordinaryQueued = tally .ordinary stream x.pending :=
    hx.tracked stream .ordinary
  unfold canEnqueue at h
  simp only [Bool.and_eq_true] at h
  obtain ⟨-, hcount⟩ := h
  refine ⟨fun hreserved => ?_, fun hreserved => ?_⟩
  · rw [if_pos hreserved, decide_eq_true_eq, hr] at hcount
    exact Int.ofNat_lt.mp hcount
  · rw [if_neg (by simp [hreserved]), decide_eq_true_eq, ho] at hcount
    exact Int.ofNat_lt.mp hcount

theorem Budget.enqueue (hx : Budget x) {q : Queued} (h : x.enqueue q = some y)
    (hline : q.raw.length ≤ maxRecordBytes)
    (hcontrol : q.recordType = .lossInterval → q.reserved = true ∧ q.raw.length ≤ maxLossBytes) :
    Budget y := by
  obtain ⟨hcan, rfl⟩ := enqueue_eq_some h
  obtain ⟨hreserved, hordinary⟩ := hx.room hcan
  have hp : ∀ {f : Ledger → Ledger},
    ({ x with queue := x.queue ++ [q] }.modify q.stream f).pending =
      x.pending ++ [q] := List.append_assoc .. |>.symm
  refine ⟨fun t k => ?_, fun t => ?_, fun t => ?_, fun p hpq => ?_, fun p hpq => ?_, hx.batch⟩
  · have hold := hx.tracked t k
    rw [hp, tally_append, modify_ledger]
    by_cases ht : t = q.stream
    · subst ht
      rw [if_pos rfl]
      cases k <;> cases hr : q.reserved <;>
        simp only [Ledger.total, Total.measure, tally_cons, tally_nil, hr] at hold ⊢ <;> simp <;>
          omega
    · have ht' : ¬ q.stream = t := fun h => ht h.symm
      rw [if_neg ht, tally_cons, if_neg ht', tally_nil]
      exact hold
  · rw [hp, tally_append, tally_cons, tally_nil]
    have hold := hx.ordinary t
    by_cases ht : q.stream = t
    · subst ht
      cases hr : q.reserved
      · have hroom := hordinary hr
        simp only [Total.measure, hr]
        simp
        omega
      · simpa [Total.measure, hr] using hold
    · simpa [ht] using hold
  · rw [hp, tally_append, tally_cons, tally_nil]
    have hold := hx.reserved t
    by_cases ht : q.stream = t
    · subst ht
      cases hr : q.reserved
      · simpa [Total.measure, hr] using hold
      · have hroom := hreserved hr
        simp only [Total.measure, hr]
        simp
        omega
    · simpa [ht] using hold
  · rw [hp] at hpq
    rcases List.mem_append.mp hpq with hpq | hpq
    · exact hx.line p hpq
    · exact List.mem_singleton.mp hpq ▸ hline
  · rw [hp] at hpq
    rcases List.mem_append.mp hpq with hpq | hpq
    · exact hx.control p hpq
    · exact List.mem_singleton.mp hpq ▸ hcontrol

theorem length_lossControl {lossSeq : Nat} {loss : OpenLoss} {record : Dict} {raw : Bytes}
    (h : lossRecord cfg stream lossSeq loss = .ok (record, raw)) :
    (lossControl stream record raw).raw.length ≤ maxRecordBytes ∧
      ((lossControl stream record raw).recordType = .lossInterval →
        (lossControl stream record raw).reserved = true ∧
          (lossControl stream record raw).raw.length ≤ maxLossBytes) := by
  have hlength := length_lossRecord h
  exact ⟨Nat.le_trans hlength (by decide), fun _ => ⟨rfl, hlength⟩⟩

theorem Budget.sealLoss (hx : Budget x) (cfg : Config) (stream : StreamId) :
    Budget (x.sealLoss cfg stream) := by
  have hopen : ∀ lossSeq, Budget (x.modify stream fun l => { l with
      nextLossIntervalSeq := lossSeq, openLoss := none }) := fun lossSeq =>
    hx.of_same (sameTotals_modify fun _ k => by cases k <;> rfl)
  unfold Exporter.sealLoss
  split
  · exact hx
  · dsimp only
    split
    · exact (hopen _).of_same (sameTotals_dropControl _)
    · next record raw hrecord =>
      cases hq : Exporter.enqueue _ (lossControl stream record raw) with
      | none =>
        rw [Option.getD_none]
        exact (hopen _).of_same (sameTotals_dropControl _)
      | some y =>
        rw [Option.getD_some]
        obtain ⟨hline, hcontrol⟩ := length_lossControl hrecord
        exact (hopen _).enqueue hq hline hcontrol

theorem Budget.countDiagnostic (hx : Budget x) (reason : String) :
    Budget (x.countDiagnostic reason) := hx.of_same ⟨rfl, rfl, fun _ _ => rfl⟩

theorem Budget.noteDrop (hx : Budget x) (recordSeq : Nat) (recordType : RecordType)
    (reason : LossReason) (observedNs : Nat) :
    Budget (x.noteDrop cfg stream recordSeq recordType reason observedNs) := by
  have hdrop : Budget ((x.modify stream fun l => { l with
      droppedData := l.droppedData + 1 }).countDiagnostic reason.wire) :=
    (hx.of_same (sameTotals_modify fun _ k => by cases k <;> rfl)).countDiagnostic _
  unfold Exporter.noteDrop
  dsimp only
  split
  · exact hdrop.of_same (sameTotals_modify fun _ k => by cases k <;> rfl)
  · exact (hdrop.sealLoss cfg stream).of_same (sameTotals_modify fun _ k => by cases k <;> rfl)

theorem budget_allocate (hx : Budget x) (stream : StreamId) : Budget (x.allocate stream) :=
  hx.of_same (sameTotals_modify fun _ k => by cases k <;> rfl)

/-- Producers stay within the budget. -/
theorem Budget.produced {call : TraceSink.Call} (hx : Budget x) (h : Produced cfg x call y) :
    Budget y := by
  cases h with
  | quiet h => exact hx.of_same h.sameTotals
  | @drops x₁ stream recordType reason observedNs hopen hx₁ hdata =>
    exact ((budget_allocate hx stream).of_same hx₁.sameTotals).noteDrop ..
  | @admits q observedNs ρ reference hopen hfailed hq =>
    have hallocated := budget_allocate hx q.stream
    unfold admitOrLose
    split
    · exact hallocated.noteDrop ..
    · dsimp only
      split
      · exact (hallocated.sealLoss ..).noteDrop ..
      · next hadmitted =>
        refine (hallocated.sealLoss ..).enqueue hadmitted hq.line.length fun htype => ?_
        have hdata := hq.data
        rw [Queued.isData, htype] at hdata
        cases hs : q.stream <;> simp [hs, isDataOf] at hdata

/-! ## A closing sink admits nothing -/

theorem sameTotals_sealLoss (hclosing : x.closing = true) (cfg : Config) (stream : StreamId) :
    SameTotals x (x.sealLoss cfg stream) := by
  have hopen : ∀ lossSeq, SameTotals x (x.modify stream fun l => { l with
      nextLossIntervalSeq := lossSeq, openLoss := none }) := fun lossSeq =>
    sameTotals_modify fun _ k => by cases k <;> rfl
  unfold Exporter.sealLoss
  split
  · exact .refl x
  · dsimp only
    split
    · exact (hopen _).trans (sameTotals_dropControl _)
    · next record raw hrecord =>
      cases hq : Exporter.enqueue _ (lossControl stream record raw) with
      | none =>
        rw [Option.getD_none]
        exact (hopen _).trans (sameTotals_dropControl _)
      | some y =>
        have hcan := (enqueue_eq_some hq).1
        have hclosing' : (x.modify stream fun l => { l with
          nextLossIntervalSeq := (x.ledger stream).nextLossIntervalSeq + 1
          openLoss := none }).closing = true := hclosing
        simp [canEnqueue, hclosing'] at hcan

theorem sameTotals_sealOpen (hclosing : x.closing = true) (cfg : Config) :
    SameTotals x (x.sealOpen cfg) := by
  have hbase := sameTotals_sealLoss hclosing cfg .base
  unfold sealOpen
  dsimp only
  split
  · refine hbase.trans (sameTotals_sealLoss ?_ cfg .profile)
    exact (admits_sealLoss x).closing.trans hclosing
  · exact hbase

theorem Budget.sealOpen (hx : Budget x) (cfg : Config) : Budget (x.sealOpen cfg) := by
  unfold Exporter.sealOpen
  dsimp only
  split
  · exact (hx.sealLoss cfg .base).sealLoss cfg .profile
  · exact hx.sealLoss cfg .base

theorem sameTotals_produced {call : TraceSink.Call} (hclosing : x.closing = true)
    (h : Produced cfg x call y) : SameTotals x y := by
  cases h with
  | quiet h => exact h.sameTotals
  | drops hopen =>
    rw [hopen.closing] at hclosing
    cases hclosing
  | admits hopen =>
    rw [hopen.closing] at hclosing
    cases hclosing

/-! ## The batch -/

/-- Only the first record of a batch is taken without the byte test. -/
theorem splitBatch_le {records bytes : Nat} {queue : List Queued}
    (hrecords : records ≤ maxBatchRecords)
    (hbytes : bytes ≤ maxBatchBytes) (hfirst : records = 0 → bytes = 0)
    (hline : ∀ q ∈ queue, q.raw.length ≤ maxRecordBytes) :
    records + (splitBatch records bytes queue).1.length ≤ maxBatchRecords ∧
      bytes + rawBytes (splitBatch records bytes queue).1 ≤ maxBatchBytes := by
  induction queue generalizing records bytes with
  | nil => exact ⟨hrecords, hbytes⟩
  | cons q rest ih =>
    have hq := hline q List.mem_cons_self
    rw [splitBatch]
    split
    · exact ⟨hrecords, hbytes⟩
    · next hfits =>
      rw [not_or, not_and, not_le, not_lt] at hfits
      have hnext : bytes + q.raw.length ≤ maxBatchBytes := by
        by_cases hzero : records = 0
        · have hmax : maxRecordBytes ≤ maxBatchBytes := by decide
          have := hfirst hzero
          omega
        · exact hfits.2 (Nat.pos_of_ne_zero hzero)
      have hrest := @ih (records + 1) (bytes + q.raw.length) hfits.1 hnext
        (by omega) fun p hp => hline p (List.mem_cons_of_mem _ hp)
      dsimp only at hrest ⊢
      rw [List.length_cons, rawBytes_cons]
      omega

/-- What the writer would take next. -/
theorem Budget.batch_le (hx : Budget x) :
    x.takeBatch.2.length ≤ maxBatchRecords ∧ rawBytes x.takeBatch.2 ≤ maxBatchBytes := by
  have h := @splitBatch_le 0 0 x.queue (by decide) (by decide)
    (fun _ => rfl) fun q hq => hx.line q (List.mem_append_right _ hq)
  rw [Nat.zero_add, Nat.zero_add] at h
  exact h

theorem Budget.takeBatch (hx : Budget x) (hinflight : x.inflight = []) : Budget x.takeBatch.1 := by
  have hp : x.takeBatch.1.pending = x.pending := by
    have hsplit := splitBatch_append 0 0 x.queue
    rw [pending, pending, hinflight, List.nil_append]
    exact hsplit
  refine ⟨fun t k => ?_, fun t => ?_, fun t => ?_, ?_, ?_, hx.batch_le⟩
  · rw [hp]
    exact hx.tracked t k
  · exact hp ▸ hx.ordinary t
  · exact hp ▸ hx.reserved t
  · exact hp ▸ hx.line
  · exact hp ▸ hx.control

theorem recordWritten_inflight {q : Queued} {rest : List Queued} (h : x.inflight = q :: rest) :
    (x.recordWritten q).inflight = rest := by
  simp only [Exporter.recordWritten, h, Queued.same_self, Bool.not_true,
    Bool.false_eq_true, if_false]
  rfl

theorem recordWritten_queue {q : Queued} {rest : List Queued} (h : x.inflight = q :: rest) :
    (x.recordWritten q).queue = x.queue := by
  simp only [Exporter.recordWritten, h, Queued.same_self, Bool.not_true,
    Bool.false_eq_true, if_false]
  rfl

/-- The first record in flight leaves with what it counted for. -/
theorem Budget.recordWritten {q : Queued} {rest : List Queued} (hx : Budget x)
    (hinflight : x.inflight = q :: rest) : Budget (x.recordWritten q) := by
  have hold : x.pending = q :: (rest ++ x.queue) := by rw [pending, hinflight, List.cons_append]
  have hnew : (x.recordWritten q).pending = rest ++ x.queue := by
    rw [pending, recordWritten_inflight hinflight, recordWritten_queue hinflight]
  have hbatch := hx.batch
  rw [hinflight, List.length_cons, rawBytes_cons] at hbatch
  refine ⟨fun t k => ?_, fun t => ?_, fun t => ?_, fun p hp => ?_, fun p hp => ?_, ?_⟩
  · have htracked := hx.tracked t k
    rw [hold, tally_cons] at htracked
    rw [hnew]
    simp only [Exporter.recordWritten, hinflight, Queued.same_self, Bool.not_true,
      Bool.false_eq_true, if_false, modify_ledger]
    by_cases ht : t = q.stream
    · subst ht
      rw [if_pos rfl] at htracked ⊢
      cases k <;> cases hr : q.reserved <;>
        simp only [Ledger.total, Total.measure, hr, Bool.false_eq_true, if_false, if_true]
          at htracked ⊢ <;> push_cast at htracked ⊢ <;> omega
    · have ht' : ¬ q.stream = t := fun h => ht h.symm
      rw [if_neg ht', Nat.zero_add] at htracked
      rw [if_neg ht]
      exact htracked
  · have h := hx.ordinary t
    rw [hold, tally_cons] at h
    rw [hnew]
    omega
  · have h := hx.reserved t
    rw [hold, tally_cons] at h
    rw [hnew]
    omega
  · exact hx.line p (hold ▸ List.mem_cons_of_mem _ (hnew ▸ hp))
  · exact hx.control p (hold ▸ List.mem_cons_of_mem _ (hnew ▸ hp))
  · rw [recordWritten_inflight hinflight]
    omega

/-! ## Failures -/

theorem budget_clearPending (x : Exporter) : Budget x.clearPending :=
  budget_empty rfl rfl fun _ k => by cases k <;> rfl

theorem budget_markWriterFailure (x : Exporter) : Budget x.markWriterFailure :=
  budget_clearPending _

theorem budget_forceTimeoutAccounting (x : Exporter) (alreadyTimeout : Bool) :
    Budget (x.forceTimeoutAccounting alreadyTimeout) := by
  unfold forceTimeoutAccounting
  dsimp only
  split
  · exact budget_clearPending _
  · exact (budget_clearPending _).of_same ⟨rfl, rfl, fun _ _ => rfl⟩

theorem forceTimeoutAccounting_pending (x : Exporter) (alreadyTimeout : Bool) :
    (x.forceTimeoutAccounting alreadyTimeout).inflight = [] ∧
      (x.forceTimeoutAccounting alreadyTimeout).queue = [] := by
  unfold forceTimeoutAccounting
  dsimp only
  split <;> exact ⟨rfl, rfl⟩

/-! ## The controls of a timeout -/

/-- The loss intervals that are pending when the timeout is prepared. -/
def existingControls (x : Exporter) : List Queued :=
  x.pending.filter fun q => q.recordType = .lossInterval

/-- The pending data of a stream, in the groups that become one control each. -/
def timeoutGroups (x : Exporter) (stream : StreamId) : List (List Queued) :=
  consecutiveGroups [] (x.pending.filter fun q => q.stream = stream && q.isData)

/-- The queues are empty and nothing is admitted yet. -/
def timeoutStart (x : Exporter) : Admitted where
  x := ((x.pending.filter fun q => !(q.recordType = .lossInterval || q.isData)).foldl
    (fun x q => x.dropControl q.stream) x).clearPending

/-- Between two admissions of the timeout. -/
inductive TimeoutStage (cfg : Config) (x : Exporter) (observedNs : Nat) : Admitted → Prop where
  | start : TimeoutStage cfg x observedNs x.timeoutStart
  | existing {a : Admitted} {q : Queued} (h : TimeoutStage cfg x observedNs a)
      (hq : q ∈ x.existingControls) : TimeoutStage cfg x observedNs (a.admitControl q)
  | group {a : Admitted} {stream : StreamId} {group : List Queued}
      (h : TimeoutStage cfg x observedNs a) (hgroup : group ∈ x.timeoutGroups stream) :
      TimeoutStage cfg x observedNs (a.admitGroup cfg stream observedNs group)

/-- The admission goes through stages. -/
theorem stage_timeoutAdmission (cfg : Config) (x : Exporter) (observedNs : Nat) :
    TimeoutStage cfg x observedNs (x.timeoutAdmission cfg observedNs) := by
  have hexisting : ∀ (records : List Queued) (a : Admitted),
    (∀ q ∈ records, q ∈ x.existingControls) →
      TimeoutStage cfg x observedNs a →
      TimeoutStage cfg x observedNs (records.foldl Admitted.admitControl a) := by
    intro records
    induction records with
    | nil => exact fun a _ h => h
    | cons q rest ih =>
      intro a hmem h
      exact ih _ (fun p hp => hmem p (List.mem_cons_of_mem _ hp))
        (h.existing (hmem q List.mem_cons_self))
  have hgroups : ∀ (stream : StreamId) (groups : List (List Queued)) (a : Admitted),
      (∀ group ∈ groups, group ∈ x.timeoutGroups stream) → TimeoutStage cfg x observedNs a →
      TimeoutStage cfg x observedNs
        (groups.foldl (Admitted.admitGroup cfg stream observedNs) a) := by
    intro stream groups
    induction groups with
    | nil => exact fun a _ h => h
    | cons group rest ih =>
      intro a hmem h
      exact ih _ (fun g hg => hmem g (List.mem_cons_of_mem _ hg))
        (h.group (hmem group List.mem_cons_self))
  exact hgroups .profile (x.timeoutGroups .profile) _ (fun _ hg => hg)
    (hgroups .base (x.timeoutGroups .base) _ (fun _ hg => hg)
      (hexisting x.existingControls _ (fun _ hq => hq) .start))

/-- What every stage keeps. -/
structure Admitted.Holds (a : Admitted) : Prop where
  queue : a.x.queue = []
  ordinary : ∀ t, (a.x.ledger t).ordinaryQueued = 0
  counts : ∀ t, a.counts t = tally .reserved t a.controls
  bytes : ∀ t, a.bytes t = tally .bytes t a.controls
  room : ∀ t, a.counts t ≤ reservedCapacityRecords
  control : ∀ q ∈ a.controls, q.recordType = .lossInterval ∧ q.reserved = true ∧
    q.raw.length ≤ maxLossBytes

theorem Admitted.Holds.admitControl {a : Admitted} {q : Queued} (h : a.Holds)
    (hq : q.recordType = .lossInterval ∧ q.reserved = true ∧ q.raw.length ≤ maxLossBytes) :
    (a.admitControl q).Holds := by
  unfold Admitted.admitControl
  split
  · refine ⟨h.queue, fun t => ?_, h.counts, h.bytes, h.room, h.control⟩
    rw [dropControl, modify_ledger]
    split <;> exact h.ordinary t
  · next hroom =>
    rw [not_or, not_le] at hroom
    refine ⟨h.queue, h.ordinary, fun t => ?_, fun t => ?_, fun t => ?_, fun p hp => ?_⟩
    · have hold := h.counts t
      by_cases ht : t = q.stream
      · subst ht
        simp [Total.measure, hq.2.1, hold]
      · have ht' : ¬ q.stream = t := fun h => ht h.symm
        simp [ht, ht', hold]
    · have hold := h.bytes t
      by_cases ht : t = q.stream
      · subst ht
        simp [Total.measure, hold]
      · have ht' : ¬ q.stream = t := fun h => ht h.symm
        simp [ht, ht', hold]
    · dsimp only
      by_cases ht : t = q.stream
      · rw [if_pos ht, ht]
        exact hroom.1
      · rw [if_neg ht]
        exact h.room t
    · rcases List.mem_append.mp hp with hp | hp
      · exact h.control p hp
      · exact List.mem_singleton.mp hp ▸ hq

theorem Admitted.Holds.admitGroup {a : Admitted} (h : a.Holds) (cfg : Config) (stream : StreamId)
    (observedNs : Nat) (group : List Queued) :
    (a.admitGroup cfg stream observedNs group).Holds := by
  have hopen : ∀ dropped lossSeq, Admitted.Holds { a with x := a.x.modify stream fun l => { l with
      droppedData := l.droppedData + dropped, nextLossIntervalSeq := lossSeq } } := by
    intro dropped lossSeq
    refine ⟨h.queue, fun t => ?_, h.counts, h.bytes, h.room, h.control⟩
    rw [modify_ledger]
    split <;> exact h.ordinary t
  unfold Admitted.admitGroup timeoutLossControl
  dsimp only
  split
  · next x heq =>
    split at heq
    · cases heq
      refine ⟨h.queue, fun t => ?_, h.counts, h.bytes, h.room, h.control⟩
      rw [dropControl, modify_ledger, modify_ledger]
      split <;> exact h.ordinary t
    · cases heq
  · next x control heq =>
    split at heq
    · cases heq
    · next record raw hrecord =>
      cases heq
      exact (hopen _ _).admitControl ⟨rfl, rfl, length_lossRecord hrecord⟩

theorem Budget.holds (hx : Budget x) {observedNs : Nat} {a : Admitted}
    (h : TimeoutStage cfg x observedNs a) : a.Holds := by
  induction h with
  | start =>
    exact ⟨rfl, fun _ => rfl, fun _ => rfl, fun _ => rfl, fun _ => Nat.zero_le _, nofun⟩
  | existing _ hq ih =>
    obtain ⟨hmem, htype⟩ := List.mem_filter.mp hq
    have htype := of_decide_eq_true htype
    exact ih.admitControl ⟨htype, hx.control _ hmem htype⟩
  | group _ _ ih => exact ih.admitGroup ..

/-- The budget of the controls is one of records, the bytes follow. -/
theorem Admitted.Holds.bytes_le {a : Admitted} (h : a.Holds) (t : StreamId) :
    a.bytes t ≤ maxLossBytes * a.counts t := by
  have hbytes := tally_bytes_le (t := t) fun q hq => (h.control q hq).2.2
  have hordinary := tally_eq_zero_of_reserved (t := t) fun q hq => (h.control q hq).2.1
  rw [hordinary, Nat.zero_add] at hbytes
  rw [h.bytes t, h.counts t]
  exact hbytes

/-- Both streams' controls fit into one batch. -/
theorem Admitted.Holds.batch {a : Admitted} (h : a.Holds) :
    a.controls.length ≤ maxBatchRecords ∧ rawBytes a.controls ≤ maxBatchBytes := by
  have hordinary := fun t => tally_eq_zero_of_reserved (t := t) fun q hq => (h.control q hq).2.1
  have hlength := length_eq_tally a.controls
  rw [hordinary .base, hordinary .profile, ← h.counts, ← h.counts] at hlength
  have hbase := h.room .base
  have hprofile := h.room .profile
  have hbytes := rawBytes_le fun q hq => (h.control q hq).2.2
  have hcapacity : reservedCapacityRecords + reservedCapacityRecords ≤ maxBatchRecords := by decide
  have hmax : maxLossBytes * maxBatchRecords ≤ maxBatchBytes := by decide
  have hcount : a.controls.length ≤ maxBatchRecords := by omega
  exact ⟨hcount, Nat.le_trans hbytes (Nat.le_trans (Nat.mul_le_mul_left _ hcount) hmax)⟩

theorem Budget.prepareTimeoutControls (hx : Budget x) (cfg : Config) (observedNs : Nat) :
    Budget (x.prepareTimeoutControls cfg observedNs).1 ∧
      (x.prepareTimeoutControls cfg observedNs).1.queue = [] ∧
      ∀ q ∈ (x.prepareTimeoutControls cfg observedNs).1.inflight, q.reserved = true := by
  have h := hx.holds (stage_timeoutAdmission cfg x observedNs)
  have hqueue : (x.prepareTimeoutControls cfg observedNs).1.queue = [] := h.queue
  have hp : (x.prepareTimeoutControls cfg observedNs).1.pending =
      (x.timeoutAdmission cfg observedNs).controls := by
    rw [pending, hqueue, List.append_nil]
    rfl
  have hordinary := fun t => tally_eq_zero_of_reserved (t := t) fun q hq => (h.control q hq).2.1
  refine ⟨⟨fun t k => ?_, fun t => ?_, fun t => ?_, fun q hq => ?_, fun q hq => ?_, h.batch⟩,
    hqueue, fun q hq => (h.control q hq).2.1⟩
  · rw [hp]
    cases k with
    | ordinary =>
      rw [hordinary t]
      exact h.ordinary t
    | reserved =>
      rw [← h.counts t]
      rfl
    | bytes =>
      rw [← h.bytes t]
      rfl
  · rw [hp, hordinary t]
    exact Nat.zero_le _
  · rw [hp, ← h.counts t]
    exact h.room t
  · have hmax : maxLossBytes ≤ maxRecordBytes := by decide
    have := (h.control q (hp ▸ hq)).2.2
    omega
  · exact fun _ => (h.control q (hp ▸ hq)).2

theorem sameTotals_dropControls (x : Exporter) (records : List Queued) :
    SameTotals x (records.foldl (fun x q => x.dropControl q.stream) x) := by
  induction records generalizing x with
  | nil => exact .refl x
  | cons q rest ih => exact (sameTotals_dropControl x).trans (ih _)

theorem Budget.expireControls (hx : Budget x) (hqueue : x.queue = [])
    (hreserved : ∀ q ∈ x.inflight, q.reserved = true) : Budget x.expireControls := by
  have hdrops := sameTotals_dropControls x x.inflight
  refine budget_empty rfl (hdrops.queue.trans hqueue) fun t k => ?_
  have hordinary := hx.tracked t .ordinary
  rw [pending, hqueue, List.append_nil, tally_eq_zero_of_reserved hreserved] at hordinary
  cases k with
  | ordinary => exact (hdrops.total t .ordinary).trans hordinary
  | reserved => rfl
  | bytes => rfl

/-! ## Controls written directly -/

theorem sameTotals_release_reserved (hx : Budget x) {raw : Bytes}
    (h : (x.reserveControl stream raw).2 = true) :
    SameTotals x ((x.reserveControl stream raw).1.releaseControl stream raw) := by
  have hr : (x.ledger stream).reservedQueued = tally .reserved stream x.pending :=
    hx.tracked stream .reserved
  have hb : (x.ledger stream).queuedBytes = tally .bytes stream x.pending :=
    hx.tracked stream .bytes
  unfold reserveControl at h ⊢
  split
  · next hfull => simp [hfull] at h
  · refine ⟨rfl, rfl, fun t k => ?_⟩
    rw [releaseControl, modify_ledger, modify_ledger]
    by_cases ht : t = stream
    · subst ht
      cases k <;> simp only [Ledger.total, if_true] <;> omega
    · simp only [if_neg ht]

theorem sameTotals_reserve_refused {raw : Bytes}
    (h : (x.reserveControl stream raw).2 = false) :
    SameTotals x (x.reserveControl stream raw).1 := by
  unfold reserveControl at h ⊢
  split
  · exact sameTotals_dropControl x
  · next hroom => simp [hroom] at h

theorem sameTotals_release_congr {raw : Bytes} (h : SameTotals x y) :
    SameTotals (x.releaseControl stream raw) (y.releaseControl stream raw) := by
  refine ⟨h.inflight, h.queue, fun t k => ?_⟩
  have hr := h.total t .reserved
  have hb := h.total t .bytes
  have hk := h.total t k
  simp only [releaseControl, modify_ledger]
  split
  · simp only [Ledger.total] at hr hb
    cases k
    · exact hk
    · simp only [Ledger.total, hr]
    · simp only [Ledger.total, hb]
  · exact hk

/-- Releasing a control of a sink without records leaves nothing behind. -/
theorem Budget.release_empty (hx : Budget x) (hinflight : x.inflight = []) (hqueue : x.queue = [])
    (stream : StreamId) (raw : Bytes) : Budget (x.releaseControl stream raw) := by
  have hp : x.pending = [] := by rw [pending, hinflight, hqueue, List.nil_append]
  refine budget_empty hinflight hqueue fun t k => ?_
  have hr : (x.ledger t).reservedQueued = 0 := by
    simpa [hp, Ledger.total] using hx.tracked t .reserved
  have hb : (x.ledger t).queuedBytes = 0 := by
    simpa [hp, Ledger.total] using hx.tracked t .bytes
  have hk : (x.ledger t).total k = 0 := by
    simpa [hp] using hx.tracked t k
  simp only [releaseControl, modify_ledger]
  split
  · cases k
    · exact hk
    · simp [Ledger.total, hr]
    · simp [Ledger.total, hb]
  · exact hk

end Exporter
end LifecycleProfiler.Sink
