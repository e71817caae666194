import LifecycleProfiler.Sink.Capacity
import LifecycleProfiler.Sink.Streams

/-! # Maximal loss intervals

Neighbouring losses of one reason belong into one interval. The sink splits them
in two places: sealing an overflow interval may use up the last reserved slot
before the terminal event that caused the sealing is admitted, and a timeout
does not look at the intervals that are sealed already. -/

namespace LifecycleProfiler.Sink
open Python Protocol

theorem wire_injective {r r' : LossReason} (h : r.wire = r'.wire) : r = r' := by
  cases r <;> cases r' <;> first | rfl | exact absurd h (by decide)

/-! ## The book of intervals -/

/-- The intervals reported below a number: each is well formed, and no two of
one reason are neighbours. -/
structure Book (reported : Mark → Prop) (n : Nat) : Prop where
  range : ∀ reason first last, reported (.loss reason first last) → first ≤ last ∧ last < n
  maximal : ∀ reason first last first' last', reported (.loss reason first last) →
    reported (.loss reason first' last') → last + 1 ≠ first'

/-- The open interval ends the numbers, and no reported one could be part of it.
With no interval open, the last number is not a reported loss. -/
def Border (reported : Mark → Prop) (n : Nat) (closing : Bool) : Option OpenLoss → Prop
  | some loss => loss.firstRecordSeq ≤ loss.lastRecordSeq ∧ loss.lastRecordSeq + 1 = n ∧
      ∀ reason first last, reported (.loss reason first last) →
        last < loss.firstRecordSeq ∧ (reason = loss.reason.wire → last + 1 ≠ loss.firstRecordSeq)
  | none => closing = false → ∀ reason first last, reported (.loss reason first last) → last + 1 < n

section Book
variable {reported reported' : Mark → Prop} {n : Nat} {closing : Bool} {loss : OpenLoss}

theorem Book.of_le (h : Book reported n) (hle : ∀ m, reported' m → reported m) :
    Book reported' n :=
  ⟨fun r a b hm => h.range r a b (hle _ hm),
    fun r a b a' b' hm hm' => h.maximal r a b a' b' (hle _ hm) (hle _ hm')⟩

theorem Border.of_le {opened : Option OpenLoss} {closing' : Bool}
    (h : Border reported n closing opened) (hle : ∀ m, reported' m → reported m)
    (hclosing : closing' = false → closing = false) : Border reported' n closing' opened := by
  cases opened with
  | none => exact fun hc r a b hm => h (hclosing hc) r a b (hle _ hm)
  | some loss => exact ⟨h.1, h.2.1, fun r a b hm => h.2.2 r a b (hle _ hm)⟩

/-- Sealing the open interval. -/
theorem Book.seals (h : Book reported n) (hborder : Border reported n closing (some loss))
    (hle : ∀ m, reported' m → reported m ∨
      m = .loss loss.reason.wire loss.firstRecordSeq loss.lastRecordSeq) : Book reported' n := by
  obtain ⟨hwf, hend, hapart⟩ := hborder
  refine ⟨fun r a b hm => ?_, fun r a b a' b' hm hm' => ?_⟩
  · rcases hle _ hm with hm | hm
    · exact h.range r a b hm
    · cases hm
      exact ⟨by omega, by omega⟩
  · rcases hle _ hm with hm | hm
    · rcases hle _ hm' with hm' | hm'
      · exact h.maximal r a b a' b' hm hm'
      · cases hm'
        exact (hapart _ a b hm).2 rfl
    · cases hm
      rcases hle _ hm' with hm' | hm'
      · have hrange := h.range _ a' b' hm'
        have := (hapart _ a' b' hm').1
        omega
      · cases hm'
        omega

theorem Book.grows (h : Book reported n) : Book reported (n + 1) :=
  ⟨fun r a b hm => ⟨(h.range r a b hm).1, by have := (h.range r a b hm).2; omega⟩, h.maximal⟩

/-- A number that is no loss follows. -/
theorem Border.accepted (h : Book reported n) : Border reported (n + 1) closing none := by
  intro _ r a b hm
  have := (h.range r a b hm).2
  omega

/-- The open interval takes the next number. -/
theorem Border.extends (h : Border reported n closing (some loss)) (recordType : RecordType)
    (observedNs : Nat) :
    Border reported (n + 1) closing
      (some (Exporter.OpenLoss.extend loss n recordType observedNs)) := by
  obtain ⟨hwf, hend, hapart⟩ := h
  refine ⟨?_, rfl, hapart⟩
  show loss.firstRecordSeq ≤ n
  omega

/-- A new interval opens at the next number. -/
theorem Border.opens (h : Book reported n) {recordType : RecordType} {reason : LossReason}
    {observedNs : Nat} (hne : ∀ first last, reported (.loss reason.wire first last) →
      last + 1 ≠ n) :
    Border reported (n + 1) closing
      (some (Exporter.newLoss n recordType reason observedNs)) := by
  refine ⟨Nat.le_refl n, rfl, fun r a b hm => ⟨(h.range r a b hm).2, ?_⟩⟩
  rintro rfl
  exact hne a b hm

end Book

/-! ## The book of a stream -/

/-- The number of a data record. -/
def seqOf (q : Queued) : Nat := q.recordSeq.getD 0

namespace Exporter
variable {cfg : Config} {x y : Exporter} {t : StreamId} {n : Nat} {outside : Mark → Prop}

/-- The pending data of a stream is in order, below a number. -/
structure Numbered (x : Exporter) (t : StreamId) (n : Nat) : Prop where
  below : ∀ q ∈ x.own t, q.isData = true → ∃ k, q.recordSeq = some k ∧ k < n
  sorted : ((x.own t).filter fun q => q.isData).Pairwise fun p q => seqOf p < seqOf q

theorem Numbered.of_sublist (h : Numbered x t n) (hown : (y.own t).Sublist (x.own t)) :
    Numbered y t n :=
  ⟨fun q hq => h.below q (hown.subset hq), h.sorted.sublist (hown.filter _)⟩

theorem Numbered.grows (h : Numbered x t n) : Numbered x t (n + 1) := by
  refine ⟨fun q hq hdata => ?_, h.sorted⟩
  obtain ⟨k, hk, hlt⟩ := h.below q hq hdata
  exact ⟨k, hk, by omega⟩

theorem Numbered.appends {q : Queued} (h : Numbered x t n) (hown : y.own t = x.own t ++ [q])
    (hq : q.isData = true → q.recordSeq = some n) : Numbered y t (n + 1) := by
  refine ⟨fun p hp hdata => ?_, ?_⟩
  · rw [hown] at hp
    rcases List.mem_append.mp hp with hp | hp
    · exact h.grows.below p hp hdata
    · obtain rfl := List.mem_singleton.mp hp
      exact ⟨n, hq hdata, Nat.lt_succ_self n⟩
  · rw [hown, List.filter_append]
    refine List.pairwise_append.mpr ⟨h.sorted, ?_, fun p hp r hr => ?_⟩
    · rw [List.filter_singleton]
      cases q.isData
      · exact .nil
      · exact List.pairwise_singleton ..
    · obtain ⟨hp, hdata⟩ := List.mem_filter.mp hp
      obtain ⟨hr, hdata'⟩ := List.mem_filter.mp hr
      obtain rfl := List.mem_singleton.mp hr
      obtain ⟨k, hk, hlt⟩ := h.below p hp hdata
      rw [seqOf, seqOf, hk, hq hdata']
      exact hlt

theorem Numbered.seals {stream : StreamId} (h : Numbered x stream n)
    (hs : Seals cfg stream x y) : Numbered y stream n := by
  rcases hs.outcome with ⟨-, hown, -⟩ | ⟨-, hown, -⟩ | ⟨loss, record, raw, -, -, hown, -⟩
  · exact h.of_sublist (hown ▸ .refl _)
  · exact h.of_sublist (hown ▸ .refl _)
  · have hdata : (lossControl stream record raw).isData = false := by
      cases stream <;> rfl
    refine ⟨fun q hq hd => ?_, ?_⟩
    · rw [hown] at hq
      rcases List.mem_append.mp hq with hq | hq
      · exact h.below q hq hd
      · obtain rfl := List.mem_singleton.mp hq
        rw [hdata] at hd
        cases hd
    · rw [hown, List.filter_append, List.filter_singleton, hdata]
      simpa using h.sorted

/-- The marks of a stream: those outside the queue, and those pending. -/
def reports (outside : Mark → Prop) (x : Exporter) (t : StreamId) (m : Mark) : Prop :=
  outside m ∨ ∃ q ∈ x.own t, markOf q.record = some m

theorem reports_congr (h : y.own t = x.own t) :
    reports outside y t = reports outside x t := by
  funext m
  rw [reports, reports, h]

theorem reports_append {q : Queued} {m : Mark} (hown : y.own t = x.own t ++ [q])
    (h : reports outside y t m) : reports outside x t m ∨ markOf q.record = some m := by
  rcases h with h | ⟨p, hp, hm⟩
  · exact .inl (.inl h)
  · rw [hown] at hp
    rcases List.mem_append.mp hp with hp | hp
    · exact .inl (.inr ⟨p, hp, hm⟩)
    · obtain rfl := List.mem_singleton.mp hp
      exact .inr hm

/-- The intervals of a stream below a number, with the open one at their end. -/
structure Apart (outside : Mark → Prop) (x : Exporter) (t : StreamId) (n : Nat) : Prop where
  book : Book (reports outside x t) n
  border : Border (reports outside x t) n x.closing (x.ledger t).openLoss
  numbered : Numbered x t n

theorem Apart.of_same (h : Apart outside x t n) (hown : y.own t = x.own t)
    (hopenLoss : (y.ledger t).openLoss = (x.ledger t).openLoss)
    (hclosing : y.closing = false → x.closing = false) : Apart outside y t n := by
  have hreports := @reports_congr _ _ _ outside hown
  refine ⟨hreports ▸ h.book, ?_, h.numbered.of_sublist (hown ▸ .refl _)⟩
  rw [hopenLoss, hreports]
  exact h.border.of_le (fun _ hm => hm) hclosing

/-- Sealing leaves a book with no interval open. -/
theorem Apart.seals {stream : StreamId} (h : Apart outside x stream n)
    (hs : Seals cfg stream x y) : Book (reports outside y stream) n := by
  have hborder := h.border
  rcases hs.outcome with ⟨-, hown, -⟩ | ⟨-, hown, -⟩ | ⟨loss, record, raw, hloss, hrecord, hown, -⟩
  · exact @reports_congr _ _ _ outside hown ▸ h.book
  · exact @reports_congr _ _ _ outside hown ▸ h.book
  · rw [hloss] at hborder
    refine h.book.seals hborder fun m hm => (reports_append hown hm).imp_right fun hm => ?_
    have hmark : markOf (lossControl stream record raw).record = _ := markOf_lossRecord hrecord
    rw [hmark] at hm
    exact (Option.some.inj hm).symm

/-- A neighbour at the end of a sealed book is the interval sealed last. -/
theorem Apart.neighbour {stream : StreamId} (h : Apart outside x stream n)
    (hs : Seals cfg stream x y) (hclosing : x.closing = false) {reason : String} {first last : Int}
    (hm : reports outside y stream (.loss reason first last)) (hend : last + 1 = n) :
    ∃ loss record raw, (x.ledger stream).openLoss = some loss ∧ loss.reason.wire = reason ∧
      lossRecord cfg stream (x.ledger stream).nextLossIntervalSeq loss = .ok (record, raw) ∧
        y.own stream = x.own stream ++ [lossControl stream record raw] := by
  have hborder := h.border
  have hold : reports outside x stream (.loss reason first last) → False := by
    intro hm
    cases hopen : (x.ledger stream).openLoss with
    | none =>
      rw [hopen] at hborder
      have := hborder hclosing _ _ _ hm
      omega
    | some loss =>
      rw [hopen] at hborder
      obtain ⟨hwf, hlast, hapart⟩ := hborder
      have := (hapart _ _ _ hm).1
      omega
  rcases hs.outcome with ⟨-, hown, -⟩ | ⟨-, hown, -⟩ | ⟨loss, record, raw, hloss, hrecord, hown, -⟩
  · exact (hold (@reports_congr _ _ _ outside hown ▸ hm)).elim
  · exact (hold (@reports_congr _ _ _ outside hown ▸ hm)).elim
  · rcases reports_append hown hm with hm | hm
    · exact (hold hm).elim
    · have hmark : markOf (lossControl stream record raw).record = _ := markOf_lossRecord hrecord
      rw [hmark, Option.some.injEq, Mark.loss.injEq] at hm
      exact ⟨loss, record, raw, hloss, hm.1, hrecord, hown⟩

/-- Losing a record when no interval is open. -/
theorem Book.loses {stream : StreamId} {recordType : RecordType} {reason : LossReason}
    {observedNs : Nat} (h : Book (reports outside x stream) n) (hnumbered : Numbered x stream n)
    (hnone : (x.ledger stream).openLoss = none)
    (hne : ∀ first last, reports outside x stream (.loss reason.wire first last) → last + 1 ≠ n)
    (hl : Loses cfg stream n recordType reason observedNs x y) :
    Apart outside y stream (n + 1) := by
  rcases hl.outcome with ⟨loss, hloss, -⟩ | ⟨-, z, hs, hown, hopened, -⟩
  · rw [hnone] at hloss
    cases hloss
  · have hown' : y.own stream = x.own stream := by
      rcases hs.outcome with ⟨-, h, -⟩ | ⟨h, -⟩ | ⟨loss, record, raw, hloss, -⟩
      · exact hown.trans h
      · exact absurd hnone h
      · rw [hnone] at hloss
        cases hloss
    have hreports := @reports_congr _ _ _ outside hown'
    refine ⟨hreports ▸ h.grows, ?_, (hnumbered.of_sublist (hown' ▸ .refl _)).grows⟩
    rw [hopened, hreports]
    exact .opens h hne

/-- Losing a record. -/
theorem Apart.loses {stream : StreamId} {recordType : RecordType} {reason : LossReason}
    {observedNs : Nat} (h : Apart outside x stream n) (hclosing : x.closing = false)
    (hl : Loses cfg stream n recordType reason observedNs x y) :
    Apart outside y stream (n + 1) := by
  have hborder := h.border
  rcases hl.outcome with ⟨loss, hloss, -, -, hown, hopened, -⟩ | ⟨hnot, z, hs, hown, hopened, -⟩
  · have hreports := @reports_congr _ _ _ outside hown
    rw [hloss] at hborder
    refine ⟨hreports ▸ h.book.grows, ?_, (h.numbered.of_sublist (hown ▸ .refl _)).grows⟩
    rw [hopened, hreports]
    exact hborder.extends recordType observedNs
  · have hreports := @reports_congr _ _ _ outside hown
    refine ⟨hreports ▸ (h.seals hs).grows, ?_,
      ((h.numbered.seals hs).of_sublist (hown ▸ .refl _)).grows⟩
    rw [hopened, hreports]
    refine .opens (h.seals hs) fun first last hm hend => ?_
    -- the neighbour has been sealed right now, and would have been extended
    obtain ⟨loss, record, raw, hloss, hreason, -⟩ := h.neighbour hs hclosing hm hend
    rw [hloss] at hborder
    exact hnot loss hloss (wire_injective hreason) hborder.2.1.symm

/-- An admitted data record. -/
theorem Apart.admits {q : Queued} {z : Exporter} (h : Apart outside x q.stream n)
    (hs : Seals cfg q.stream x z) (he : Enqueued z y q)
    (hseq : q.recordSeq = some n) (hmark : markOf q.record = some (.data q.recordType n)) :
    Apart outside y q.stream (n + 1) := by
  have hbook := h.seals hs
  have hle : ∀ reason first last, reports outside y q.stream (.loss reason first last) →
      reports outside z q.stream (.loss reason first last) := by
    intro reason first last hm
    rcases reports_append he.own hm with hm | hm
    · exact hm
    · rw [hmark] at hm
      cases hm
  have hnew : Book (reports outside y q.stream) n :=
    ⟨fun r a b hm => hbook.range r a b (hle _ _ _ hm),
      fun r a b a' b' hm hm' => hbook.maximal r a b a' b' (hle _ _ _ hm) (hle _ _ _ hm')⟩
  refine ⟨hnew.grows, ?_, (h.numbered.seals hs).appends he.own fun _ => hseq⟩
  rw [he.openLoss, hs.openLoss]
  exact .accepted hnew

/-! ## Producer calls -/

/-- The call that splits a run of overflow losses: a valid terminal event finds
one reserved slot, and sealing the open overflow interval takes it. -/
def splitsLoss (cfg : Config) (x : Exporter) : TraceSink.Call → Bool
  | .event draft clock =>
    !(x.writerFailed || x.closing || x.closed) && decide (draft.eventName ∈ terminalEvents) &&
      decide ((x.ledger .base).reservedQueued + 1 = reservedCapacityRecords) &&
      ((x.ledger .base).openLoss.any fun loss => loss.reason == .queueOverflow &&
        (lossRecord cfg .base (x.ledger .base).nextLossIntervalSeq loss).isOk) &&
      (clock.bind (asUint uint64Max)).any fun ns =>
        (encodeEvent cfg draft (x.ledger .base).nextRecordSeq ns).isOk
  | _ => false

/-- A total counts the stream's own records only. -/
theorem tally_own (k : Total) (x : Exporter) (t : StreamId) :
    tally k t x.pending = tally k t (x.own t) := by
  rw [own]
  induction x.pending with
  | nil => rfl
  | cons q rest ih =>
    by_cases hq : q.stream = t
    · rw [List.filter_cons, if_pos (decide_eq_true hq), tally_cons, tally_cons, ih]
    · rw [List.filter_cons, if_neg (by simpa using hq), tally_cons, if_neg hq, ih, Nat.zero_add]

/-- Only the last reserved slot can be missing after the sealing. -/
theorem Budget.last_slot {q : Queued} {record : Dict} {raw : Bytes}
    (hx : Budget x) (hline : IsLine q.raw) (hcan : x.canEnqueue q.raw q.reserved q.stream = true)
    (hown : (x.sealLoss cfg q.stream).own q.stream =
      x.own q.stream ++ [lossControl q.stream record raw])
    (hfull : (x.sealLoss cfg q.stream).enqueue q = none) :
    q.reserved = true ∧ (x.ledger q.stream).reservedQueued + 1 = reservedCapacityRecords := by
  have hy := hx.sealLoss cfg q.stream
  have hflags : Admits x (x.sealLoss cfg q.stream) := admits_sealLoss x
  have htotal : ∀ k, ((x.sealLoss cfg q.stream).ledger q.stream).total k =
      (x.ledger q.stream).total k + k.measure (lossControl q.stream record raw) := by
    intro k
    have hstream : (lossControl q.stream record raw).stream = q.stream := rfl
    rw [hy.tracked, hx.tracked, tally_own, tally_own, hown, tally_append, tally_cons, tally_nil,
      if_pos hstream]
    push_cast
    omega
  have hcannot : (x.sealLoss cfg q.stream).canEnqueue q.raw q.reserved q.stream = false := by
    unfold Exporter.enqueue at hfull
    split at hfull
    · next h => simpa using h
    · cases hfull
  rw [hy.canEnqueue_eq q.stream hline, hflags.writerFailed, hflags.closing, hflags.closed]
    at hcannot
  rw [hx.canEnqueue_eq q.stream hline, Bool.and_eq_true] at hcan
  obtain ⟨hopen, hroom⟩ := hcan
  rw [hopen, Bool.true_and] at hcannot
  have hreserved := htotal .reserved
  have hordinary := htotal .ordinary
  simp only [Ledger.total, Total.measure, lossControl, if_true] at hreserved hordinary
  cases hr : q.reserved with
  | true =>
    simp only [hr, if_true, decide_eq_true_eq, decide_eq_false_iff_not] at hroom hcannot
    exact ⟨rfl, by omega⟩
  | false =>
    simp only [hr, Bool.false_eq_true, if_false, decide_eq_true_eq,
      decide_eq_false_iff_not] at hroom hcannot
    omega

/-- What the allocation of a number leaves alone. -/
theorem Apart.allocates {x₁ : Exporter} (h : Apart outside x t n)
    (hx₁ : SameBooks (x.allocate stream) x₁) : Apart outside x₁ t n := by
  refine h.of_same (own_congr hx₁.inflight hx₁.queue) ?_ fun hc => hx₁.closing ▸ hc
  rw [hx₁.ledger, allocate, modify_ledger]
  split <;> rfl

/-- The last reserved slot went to the interval before the terminal event. -/
theorem splitsLoss_of_refused {call : TraceSink.Call} {q : Queued} {loss : OpenLoss}
    {record : Dict} {raw : Bytes} (hx : Budget x) (hopen : Open cfg x q.stream)
    (hfailed : x.writerFailed = false) (hq : Fresh cfg x call q)
    (hcan : (x.allocate q.stream).canEnqueue q.raw q.reserved q.stream = true)
    (hfull : ((x.allocate q.stream).sealLoss cfg q.stream).enqueue q = none)
    (hloss : (x.ledger q.stream).openLoss = some loss) (hreason : loss.reason = .queueOverflow)
    (hrecord : lossRecord cfg q.stream (x.ledger q.stream).nextLossIntervalSeq loss =
      .ok (record, raw))
    (hown : ((x.allocate q.stream).sealLoss cfg q.stream).own q.stream =
      (x.allocate q.stream).own q.stream ++ [lossControl q.stream record raw]) :
    splitsLoss cfg x call = true := by
  obtain ⟨hreserved, hslot⟩ :=
    Budget.last_slot (budget_allocate hx q.stream) hq.line hcan hown hfull
  obtain ⟨hbase, draft, clock, ns, ref, rfl, hterminal, hns, hencoded⟩ := hq.terminal hreserved
  rw [hbase] at hslot hloss hrecord
  have hslot' : (x.ledger .base).reservedQueued + 1 = reservedCapacityRecords := by
    simpa [allocate] using hslot
  simp [splitsLoss, hfailed, hopen.closing, hopen.closed, hterminal, hslot', hloss, hreason,
    hrecord, hns, hencoded, Except.isOk, Except.toBool]

/-- The next number of each stream bounds its book. -/
def ApartAll (F : StreamId → Mark → Prop) (x : Exporter) : Prop :=
  ∀ t, Apart (F t) x t (x.ledger t).nextRecordSeq

/-- **Every call that splits no loss keeps the intervals apart.** -/
theorem ApartAll.produced {F : StreamId → Mark → Prop} {call : TraceSink.Call} (hx : Budget x)
    (h : ApartAll F x) (hsplit : splitsLoss cfg x call = false) (hclosing : y.closing = x.closing)
    (hy : Produced cfg x call y) : ApartAll F y := by
  intro t
  have hstream := (h t).allocates (SameBooks.refl (x.allocate t))
  have hs := seals cfg (x.allocate t) t
  have hnext := hs.nextRecordSeq.trans (allocate_nextRecordSeq x t)
  cases hy.advances t with
  | same hsame =>
    rw [hsame.ledger]
    exact (h t).of_same hsame.own (by rw [hsame.ledger]) fun hc => hclosing ▸ hc
  | loses hopen hx₁ hl =>
    rw [hl.nextRecordSeq, hx₁.ledger, allocate_nextRecordSeq]
    exact ((h t).allocates hx₁).loses (hx₁.closing.trans hopen.closing) hl
  | refuses hq hopen hfailed hfresh hcan hfull hl =>
    subst hq
    rw [hl.nextRecordSeq, hnext]
    refine Book.loses (hstream.seals hs) (hstream.numbered.seals hs) hs.openLoss
      (fun first last hm hend => ?_) hl
    -- the neighbour has been sealed right now, into the last reserved slot
    obtain ⟨loss, record, raw, hloss, hreason, hrecord, hown⟩ :=
      hstream.neighbour hs hopen.closing hm hend
    rw [allocate, modify_ledger, if_pos rfl] at hloss hrecord
    have hsplits := splitsLoss_of_refused hx hopen hfailed hfresh hcan hfull hloss
      (wire_injective hreason) hrecord hown
    rw [hsplit] at hsplits
    cases hsplits
  | admits hq hopen hfresh he =>
    subst hq
    rw [he.nextRecordSeq, hnext]
    exact hstream.admits hs he hfresh.seq hfresh.mark

end Exporter

end LifecycleProfiler.Sink
