import LifecycleProfiler.General.Tiling
import LifecycleProfiler.Sink.Intervals

/-! # The ranges of a stream

A data record stands for its own number and a loss interval for the numbers it
reports. What a file holds, what is pending behind it and the open interval at
the end tile the numbers a stream has given out, for as long as no control of
the stream has been dropped. -/

namespace LifecycleProfiler.Sink
open Python Protocol General

/-- The sequence numbers a mark stands for. -/
def Mark.span : Mark → ℤ × ℤ
  | .data _ recordSeq => (recordSeq, recordSeq)
  | .loss _ first last => (first, last)

/-- The category a mark is counted under. -/
def Mark.recordType : Mark → RecordType
  | .data recordType _ => recordType
  | .loss .. => .lossInterval

/-- A whole line of a shard: the record and its bytes. -/
abbrev Entry := Dict × Bytes

def Entry.line (e : Entry) : Line := .record e.1 e.2

/-- The marks of a part of a file, in its order. -/
def marksOf (content : List Entry) : List Mark := content.filterMap fun e => markOf e.1

/-- The bytes of a part of a file. -/
def bytesOf (content : List Entry) : Bytes := content.flatMap Prod.snd

section Entries
variable {content rest : List Entry} {e : Entry}

@[simp] theorem marksOf_append : marksOf (content ++ rest) = marksOf content ++ marksOf rest :=
  List.filterMap_append ..

@[simp] theorem bytesOf_append : bytesOf (content ++ rest) = bytesOf content ++ bytesOf rest :=
  List.flatMap_append ..

@[simp] theorem marksOf_nil : marksOf [] = [] := rfl
@[simp] theorem bytesOf_nil : bytesOf [] = [] := rfl

@[simp] theorem bytesOf_singleton : bytesOf [e] = e.2 := by simp [bytesOf]

theorem marksOf_singleton {m : Mark} (h : markOf e.1 = some m) : marksOf [e] = [m] := by
  simp [marksOf, h]

theorem marksOf_singleton_none (h : markOf e.1 = none) : marksOf [e] = [] := by
  simp [marksOf, h]

end Entries

/-- The `record_type` of the first line of a shard. -/
def startTypeOf : StreamId → String
  | .base => "process_start"
  | .profile => "profile_start"

/-- The first line of a shard, and marked lines behind it. -/
def Started (t : StreamId) (content : List Entry) : Prop :=
  ∃ e rest, content = e :: rest ∧ e.1.get "record_type" = .str (startTypeOf t) ∧
    ∀ e' ∈ rest, (markOf e'.1).isSome = true

/-- What a ledger says of the part of a file it has counted: its bytes, its
records by category, and lines that encode their records. -/
structure Counted (t : StreamId) (content : List Entry) (l : Ledger) : Prop where
  hashed : l.hashed = bytesOf content
  written : ∀ k, l.written k = (marksOf content).countP fun m => m.recordType = k
  encoded : ∀ e ∈ content, lineOf t e.1 = .ok e.2
  typed : ∀ m ∈ marksOf content, isDataOf t m.recordType = true ∨ m.recordType = .lossInterval
  started : Started t content

theorem Counted.of_same {t : StreamId} {content : List Entry} {l l' : Ledger}
    (h : Counted t content l) (hhashed : l'.hashed = l.hashed) (hwritten : l'.written = l.written) :
    Counted t content l' :=
  ⟨hhashed.trans h.hashed, fun k => hwritten ▸ h.written k, h.encoded, h.typed, h.started⟩

namespace Exporter

/-- A pending record of the stream has a mark of its own category, and its bytes
are its line. -/
structure Marked (t : StreamId) (q : Queued) : Prop where
  encoded : lineOf t q.record = .ok q.raw
  mark : ∃ m, markOf q.record = some m ∧ m.recordType = q.recordType
  typed : isDataOf t q.recordType = true ∨ q.recordType = .lossInterval

def openSpan : Option OpenLoss → List (ℤ × ℤ)
  | some loss => [((loss.firstRecordSeq : ℤ), (loss.lastRecordSeq : ℤ))]
  | none => []

/-- The numbers of a stream that no file holds yet: those pending, and the open
interval behind them. -/
def spans (x : Exporter) (t : StreamId) : List (ℤ × ℤ) :=
  ((x.own t).filterMap fun q => markOf q.record).map Mark.span ++
    openSpan (x.ledger t).openLoss

variable {cfg : Config} {x y z : Exporter} {t stream : StreamId} {n : Nat}
variable {front : List (ℤ × ℤ)} {content : List Entry}

theorem spans_congr (hown : y.own t = x.own t)
    (hopen : (y.ledger t).openLoss = (x.ledger t).openLoss) : y.spans t = x.spans t := by
  rw [spans, spans, hown, hopen]

/-- A pending record more, with no interval open. -/
theorem spans_append {q : Queued} {m : Mark} (hown : y.own t = x.own t ++ [q])
    (hmark : markOf q.record = some m) (hx : (x.ledger t).openLoss = none)
    (hy : (y.ledger t).openLoss = none) : y.spans t = x.spans t ++ [m.span] := by
  simp [spans, hown, hx, hy, hmark, openSpan, List.filterMap_append]

/-! ## What the lock scopes do to the ranges -/

theorem Seals.droppedControl_le (hs : Seals cfg stream x y) :
    (x.ledger stream).droppedControl ≤ (y.ledger stream).droppedControl := by
  rcases hs.outcome with ⟨-, -, h⟩ | ⟨-, -, h⟩ | ⟨_, _, _, -, -, -, h⟩
  all_goals omega

/-- Sealing moves the open interval behind the pending records. -/
theorem Seals.spans (hs : Seals cfg stream x y)
    (hcontrol : (y.ledger stream).droppedControl = (x.ledger stream).droppedControl) :
    y.spans stream = x.spans stream := by
  rcases hs.outcome with ⟨hnone, hown, -⟩ | ⟨-, -, hdropped⟩ |
    ⟨loss, record, raw, hloss, hrecord, hown, -⟩
  · exact spans_congr hown (hs.openLoss.trans hnone.symm)
  · omega
  · have hmark : markOf (lossControl stream record raw).record = _ := markOf_lossRecord hrecord
    simp [Exporter.spans, hown, hs.openLoss, hloss, openSpan, List.filterMap_append, hmark,
      Mark.span]

theorem Seals.marked (hs : Seals cfg stream x y) (h : ∀ q ∈ x.own stream, Marked stream q) :
    ∀ q ∈ y.own stream, Marked stream q := by
  rcases hs.outcome with ⟨-, hown, -⟩ | ⟨-, hown, -⟩ | ⟨loss, record, raw, -, hrecord, hown, -⟩
  · exact hown ▸ h
  · exact hown ▸ h
  · intro q hq
    rw [hown] at hq
    rcases List.mem_append.mp hq with hq | hq
    · exact h q hq
    · obtain rfl := List.mem_singleton.mp hq
      exact ⟨line_lossRecord hrecord, ⟨_, markOf_lossRecord hrecord, rfl⟩, .inr rfl⟩

theorem Loses.droppedControl_le {recordType : RecordType} {reason : LossReason} {observedNs : Nat}
    (hl : Loses cfg stream n recordType reason observedNs x y) :
    (x.ledger stream).droppedControl ≤ (y.ledger stream).droppedControl := by
  rcases hl.outcome with ⟨_, -, -, -, -, -, h⟩ | ⟨-, z, hs, -, -, h⟩
  · exact h.ge
  · exact hs.droppedControl_le.trans h.ge

/-- A lost record takes the next number, in the open interval or in a new one. -/
theorem Loses.tiles {recordType : RecordType} {reason : LossReason} {observedNs : Nat}
    (hl : Loses cfg stream n recordType reason observedNs x y)
    (hcontrol : (y.ledger stream).droppedControl = (x.ledger stream).droppedControl)
    (h : Tiles 0 (front ++ x.spans stream) (n : ℤ)) :
    Tiles 0 (front ++ y.spans stream) ((n : ℤ) + 1) := by
  rcases hl.outcome with ⟨loss, hloss, -, -, hown, hopen, -⟩ | ⟨-, z, hs, hown, hopen, hdropped⟩
  · rw [Exporter.spans, hloss, openSpan, ← List.append_assoc] at h
    rw [Exporter.spans, hown, hopen, OpenLoss.extend, openSpan, ← List.append_assoc]
    exact h.extend
  · have hsame := hs.spans (by have := hs.droppedControl_le; omega)
    rw [← hsame] at h
    have hnew : y.spans stream = z.spans stream ++ [((n : ℤ), (n : ℤ))] := by
      simp [Exporter.spans, hown, hopen, hs.openLoss, openSpan, newLoss]
    rw [hnew, ← List.append_assoc]
    exact h.snoc le_rfl

theorem Loses.marked {recordType : RecordType} {reason : LossReason} {observedNs : Nat}
    (hl : Loses cfg stream n recordType reason observedNs x y)
    (h : ∀ q ∈ x.own stream, Marked stream q) : ∀ q ∈ y.own stream, Marked stream q := by
  rcases hl.outcome with ⟨_, -, -, -, hown, -, -⟩ | ⟨-, z, hs, hown, -, -⟩
  · exact hown ▸ h
  · exact hown ▸ hs.marked h

theorem Fresh.marked {call : TraceSink.Call} {q : Queued} (h : Fresh cfg x call q) :
    Marked q.stream q := by
  refine ⟨h.encoded, ⟨_, h.mark, rfl⟩, .inl ?_⟩
  exact h.data

/-! ## The journal of a stream -/

/-- A part of a file and the exporter behind it: the counters are those of the
part, and with what is pending it tiles the numbers below `n`. -/
structure Journal (content : List Entry) (x : Exporter) (t : StreamId) (n : Nat) : Prop where
  counted : Counted t content (x.ledger t)
  pending : ∀ q ∈ x.own t, Marked t q
  tiles : (x.ledger t).droppedControl = 0 →
    Tiles 0 ((marksOf content).map Mark.span ++ x.spans t) (n : ℤ)

namespace Journal

theorem of_same (h : Journal content x t n) (hown : y.own t = x.own t)
    (hcounted : Counted t content (y.ledger t))
    (hopen : (y.ledger t).openLoss = (x.ledger t).openLoss)
    (hcontrol : (x.ledger t).droppedControl ≤ (y.ledger t).droppedControl) :
    Journal content y t n := by
  refine ⟨hcounted, hown ▸ h.pending, fun hzero => ?_⟩
  rw [spans_congr hown hopen]
  exact h.tiles (by omega)

theorem of_sameStream (h : Journal content x t n) (hsame : SameStream t x y) :
    Journal content y t n := by
  have hledger := hsame.ledger
  exact h.of_same hsame.own (hledger ▸ h.counted) (by rw [hledger]) (by rw [hledger])

theorem allocates {x₁ : Exporter} (h : Journal content x t n)
    (hx₁ : SameBooks (x.allocate stream) x₁) : Journal content x₁ t n := by
  have hsame : ∀ {α : Type} (f : Ledger → α),
      (∀ l : Ledger, f { l with
        nextRecordSeq := l.nextRecordSeq + 1, attempted := l.attempted + 1 } = f l) →
      f (x₁.ledger t) = f (x.ledger t) := by
    intro α f hf
    rw [hx₁.ledger, allocate, modify_ledger]
    split
    · exact hf _
    · rfl
  exact h.of_same (own_congr hx₁.inflight hx₁.queue)
    (h.counted.of_same (hsame Ledger.hashed fun _ => rfl) (hsame Ledger.written fun _ => rfl))
    (hsame Ledger.openLoss fun _ => rfl) (hsame Ledger.droppedControl fun _ => rfl).ge

theorem seals (h : Journal content x t n) (stream : StreamId) :
    Journal content (x.sealLoss cfg stream) t n := by
  have hs := Exporter.seals cfg x stream
  by_cases ht : t = stream
  · subst ht
    have hcounts := sameCounts_sealLoss cfg x t
    refine ⟨h.counted.of_same hcounts.hashed hcounts.written, hs.marked h.pending, fun hzero => ?_⟩
    have hle := hs.droppedControl_le
    rw [hs.spans (by omega)]
    exact h.tiles (by omega)
  · exact h.of_sameStream (hs.others t ht)

theorem loses {recordType : RecordType} {reason : LossReason} {observedNs : Nat}
    (h : Journal content x t n) (hl : Loses cfg t n recordType reason observedNs x y) :
    Journal content y t (n + 1) := by
  refine ⟨h.counted.of_same hl.hashed hl.written, hl.marked h.pending, fun hzero => ?_⟩
  have hle := hl.droppedControl_le
  exact hl.tiles (by omega) (h.tiles (by omega))

theorem admits {q : Queued} (h : Journal content x q.stream n) (he : Enqueued x y q)
    (hq : Marked q.stream q) (hmark : markOf q.record = some (.data q.recordType n))
    (hopen : (x.ledger q.stream).openLoss = none) : Journal content y q.stream (n + 1) := by
  refine ⟨h.counted.of_same he.counts.hashed he.counts.written, fun p hp => ?_, fun hzero => ?_⟩
  · rw [he.own] at hp
    rcases List.mem_append.mp hp with hp | hp
    · exact h.pending p hp
    · exact List.mem_singleton.mp hp ▸ hq
  · rw [spans_append he.own hmark hopen (he.openLoss.trans hopen), ← List.append_assoc]
    exact (h.tiles (he.droppedControl ▸ hzero)).snoc le_rfl

/-- **A producer call keeps the journal**, and gives each number it takes a range. -/
theorem produced {call : TraceSink.Call} (h : Journal content x t (x.ledger t).nextRecordSeq)
    (hy : Produced cfg x call y) : Journal content y t (y.ledger t).nextRecordSeq := by
  have hallocated := h.allocates (SameBooks.refl (x.allocate t))
  have hs := Exporter.seals cfg (x.allocate t) t
  have hnext := hs.nextRecordSeq.trans (allocate_nextRecordSeq x t)
  cases hy.advances t with
  | same hsame => exact hsame.ledger ▸ h.of_sameStream hsame
  | loses hopen hx₁ hl =>
    rw [hl.nextRecordSeq, hx₁.ledger, allocate_nextRecordSeq]
    exact (h.allocates hx₁).loses hl
  | refuses hq hopen hfailed hfresh hcan hfull hl =>
    subst hq
    rw [hl.nextRecordSeq, hnext]
    exact (hallocated.seals _).loses hl
  | admits hq hopen hfresh he =>
    subst hq
    rw [he.nextRecordSeq, hnext]
    exact (hallocated.seals _).admits he hfresh.marked hfresh.mark hs.openLoss

/-- The first pending record of a stream reaches the file and is counted. -/
theorem records {q : Queued} {rest : List Queued} (h : Journal content x t n)
    (hinflight : x.inflight = q :: rest) :
    Journal (if q.stream = t then content ++ [(q.record, q.raw)] else content)
      (x.recordWritten q) t n := by
  have hown : x.own t = (if q.stream = t then [q] else []) ++ (x.recordWritten q).own t := by
    rw [own, own, Exporter.pending, Exporter.pending, recordWritten_inflight hinflight,
      recordWritten_queue hinflight, hinflight, List.cons_append, List.filter_cons]
    by_cases ht : q.stream = t <;> simp [ht]
  have hledger : (x.recordWritten q).ledger t = if t = q.stream then { x.ledger t with
      queuedBytes := (x.ledger t).queuedBytes - q.raw.length
      reservedQueued := if q.reserved then (x.ledger t).reservedQueued - 1
        else (x.ledger t).reservedQueued
      ordinaryQueued := if q.reserved then (x.ledger t).ordinaryQueued
        else (x.ledger t).ordinaryQueued - 1
      hashed := (x.ledger t).hashed ++ q.raw
      written := fun k => if k = q.recordType ∧ (q.isData = true ∨ k = RecordType.lossInterval) then
        (x.ledger t).written k + 1 else (x.ledger t).written k } else x.ledger t := by
    unfold recordWritten
    rw [hinflight]
    simp only [Queued.same_self, Bool.not_true, Bool.false_eq_true, if_false, modify_ledger]
  by_cases ht : q.stream = t
  · subst ht
    rw [if_pos rfl] at hown hledger
    have hq := h.pending q (hown ▸ List.mem_append_left _ (List.mem_singleton_self q))
    obtain ⟨m, hmark, htype⟩ := hq.mark
    have hmarks : marksOf (content ++ [(q.record, q.raw)]) = marksOf content ++ [m] := by
      rw [marksOf_append, marksOf_singleton hmark]
    rw [if_pos rfl]
    refine ⟨⟨?_, fun k => ?_, fun e he => ?_, fun m' hm' => ?_, ?_⟩,
      fun p hp => ?_, fun hzero => ?_⟩
    · rw [hledger, bytesOf_append, bytesOf_singleton, ← h.counted.hashed]
    · -- a control is counted under its own category
      have hcounts : k = q.recordType → q.isData = true ∨ k = RecordType.lossInterval := by
        rintro rfl
        exact hq.typed
      rw [hledger, hmarks, List.countP_append, ← h.counted.written, List.countP_singleton, htype]
      by_cases hk : k = q.recordType
      · simp [hk, hk ▸ hcounts hk]
      · simp [hk, Ne.symm hk]
    · rcases List.mem_append.mp he with he | he
      · exact h.counted.encoded e he
      · exact List.mem_singleton.mp he ▸ hq.encoded
    · rw [hmarks] at hm'
      rcases List.mem_append.mp hm' with hm' | hm'
      · exact h.counted.typed m' hm'
      · rw [List.mem_singleton.mp hm', htype]
        exact hq.typed
    · obtain ⟨e, rest, hcontent, hstart, hrest⟩ := h.counted.started
      refine ⟨e, rest ++ [(q.record, q.raw)], by rw [hcontent, List.cons_append], hstart, ?_⟩
      intro e' he'
      rcases List.mem_append.mp he' with he' | he'
      · exact hrest e' he'
      · rw [List.mem_singleton.mp he', hmark]
        rfl
    · exact h.pending p (hown ▸ List.mem_append_right _ hp)
    · have htiles := h.tiles (by simpa [hledger] using hzero)
      simpa [spans, hown, hledger, hmarks, hmark] using htiles
  · rw [if_neg ht]
    rw [if_neg ht, List.nil_append] at hown
    rw [if_neg (Ne.symm ht)] at hledger
    exact h.of_sameStream ⟨hown.symm, hledger⟩

end Journal
end Exporter
end LifecycleProfiler.Sink
