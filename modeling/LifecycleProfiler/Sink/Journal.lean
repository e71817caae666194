import LifecycleProfiler.Sink.Failures
import LifecycleProfiler.Sink.Maximal
import LifecycleProfiler.Sink.Publication
import LifecycleProfiler.Sink.Ranges

/-! # The journal of a whole run

Until a timeout or a failure ends the drained path, a file holds whole lines:
the part the counters speak of, the record in flight whose line has landed, and
the summary once it has been written. -/

namespace LifecycleProfiler.Sink
open Python Protocol General

/-! ## Places of the writer -/

namespace WriterPc

/-- The record whose line is in its file while it is still in flight. -/
def landed? : WriterPc → Option Queued
  | recordWritten (.batch q _) => some q
  | _ => none

/-- The writer works on the queue, and no summary has begun. -/
def filing : WriterPc → Bool
  | started | gate | loop | batch _ | check (.batch ..) _ | stage (.batch ..) | persist (.batch ..)
  | recordWritten (.batch ..) => true
  | _ => false

/-- How many summaries of a drained close have been written. -/
def summaries : WriterPc → Option Nat
  | drained | summaryStart _ | moveShard .. | summaryCheck _ | buildSummary .base _ => some 0
  | reserve (.summary .base ..) | check (.summary .base ..) _ | stage (.summary .base ..)
  | persist (.summary .base ..) => some 0
  | release (.summary .base ..) true | afterSummary .base _ | buildSummary .profile _ => some 1
  | reserve (.summary .profile ..) | check (.summary .profile ..) _ | stage (.summary .profile ..)
  | persist (.summary .profile ..) => some 1
  | release (.summary .profile ..) true | afterSummary .profile _ | setSummaryWritten ..
  | setOutcome _ => some 2
  | _ => none

/-- The receipt is not about to be taken back. -/
def keeps : WriterPc → Bool
  | retract .. | publicationFailure | publicationExpired | finalInvalidation _
  | finalInvalidated => false
  | _ => true

/-- The writer has found the shards complete, and has not claimed yet. -/
def publishes : WriterPc → Bool
  | checkTargets | replace _ | publicationClaim | claiming => true
  | _ => false

end WriterPc

/-- The order in which the summaries are written. -/
def StreamId.rank : StreamId → Nat
  | .base => 0
  | .profile => 1

/-! ## Files -/

/-- A file of whole lines, the first part of which is what the counters speak of. -/
structure Files (x : Exporter) (lines : List Line) (t : StreamId) (content tail : List Entry) :
    Prop where
  lines : lines = (content ++ tail).map Entry.line
  journal : Exporter.Journal content x t (x.ledger t).nextRecordSeq
  attempted : (x.ledger t).attempted = (x.ledger t).nextRecordSeq

/-- A summary line that states the counters of a ledger. -/
def States (cfg : Config) (t : StreamId) (l : Ledger) (e : Entry) : Prop :=
  ∃ x endedNs, Exporter.summaryRecord cfg x t endedNs .drained = .ok e ∧
    Exporter.SameCounts (x.ledger t) l ∧ (x.ledger t).droppedControl = l.droppedControl ∧
      (x.ledger t).writerFailures = 0

/-- Nothing is pending any more, and the summary is in the file once `n` of them
have been written. -/
structure Complete (cfg : Config) (x : Exporter) (lines : List Line) (t : StreamId) (n : Nat)
    (content tail : List Entry) : Prop extends Files x lines t content tail where
  pending : x.pending = []
  closing : x.closing = true
  written : t.rank < n → ∃ e, tail = [e] ∧ States cfg t (x.ledger t) e
  unwritten : n ≤ t.rank → tail = []

section Files
variable {cfg : Config} {x y : Exporter} {lines : List Line} {t : StreamId} {n : Nat}
variable {content tail : List Entry}

theorem Files.of_sameStream (h : Files x lines t content tail)
    (hsame : Exporter.SameStream t x y) : Files y lines t content tail :=
  ⟨h.lines, hsame.ledger ▸ h.journal.of_sameStream hsame, hsame.ledger ▸ h.attempted⟩

theorem Complete.of_sameBooks (h : Complete cfg x lines t n content tail)
    (hsame : Exporter.SameBooks x y) : Complete cfg y lines t n content tail := by
  refine ⟨h.toFiles.of_sameStream (hsame.sameStream t), ?_, hsame.closing.trans h.closing,
    hsame.ledger ▸ h.written, h.unwritten⟩
  rw [Exporter.pending, hsame.inflight, hsame.queue]
  exact h.pending

/-- Counters, open interval and dropped controls as before. -/
structure SameShare (l l' : Ledger) : Prop extends Exporter.SameCounts l l' where
  nextRecordSeq : l'.nextRecordSeq = l.nextRecordSeq
  openLoss : l'.openLoss = l.openLoss
  droppedControl : l'.droppedControl = l.droppedControl

theorem States.of_sameShare {l l' : Ledger} {e : Entry} (h : States cfg t l e)
    (hsame : SameShare l l') : States cfg t l' e := by
  obtain ⟨x, endedNs, hrecord, hcounts, hcontrol, hfailures⟩ := h
  exact ⟨x, endedNs, hrecord, hcounts.trans hsame.toSameCounts,
    hcontrol.trans hsame.droppedControl.symm, hfailures⟩

/-- The writer's own budget moves. -/
theorem Complete.of_sameShare (h : Complete cfg x lines t n content tail)
    (hpending : y.pending = x.pending) (hclosing : y.closing = x.closing)
    (hsame : SameShare (x.ledger t) (y.ledger t)) : Complete cfg y lines t n content tail := by
  have hown : y.own t = x.own t := by rw [Exporter.own, Exporter.own, hpending]
  refine ⟨⟨h.lines, ?_, ?_⟩, hpending.trans h.pending, hclosing.trans h.closing, fun hrank => ?_,
    h.unwritten⟩
  · rw [hsame.nextRecordSeq]
    exact h.journal.of_same hown (h.journal.counted.of_same hsame.hashed hsame.written)
      hsame.openLoss hsame.droppedControl.ge
  · rw [hsame.attempted, hsame.nextRecordSeq]
    exact h.attempted
  · obtain ⟨e, htail, hstates⟩ := h.written hrank
    exact ⟨e, htail, hstates.of_sameShare hsame⟩

end Files

namespace Exporter
variable {cfg : Config} {x y : Exporter} {t : StreamId}

theorem sameShare_modify (x : Exporter) (stream : StreamId) {f : Ledger → Ledger}
    (hf : ∀ l, SameShare l (f l)) : SameShare (x.ledger t) ((x.modify stream f).ledger t) := by
  rw [modify_ledger]
  split
  · exact hf _
  · exact ⟨⟨rfl, rfl, rfl, rfl⟩, rfl, rfl, rfl⟩

theorem sameShare_reserveControl {stream : StreamId} {raw : Bytes}
    (h : (x.reserveControl stream raw).2 = true) :
    SameShare (x.ledger t) ((x.reserveControl stream raw).1.ledger t) := by
  unfold reserveControl at h ⊢
  split at h
  · cases h
  · next hroom =>
    rw [if_neg hroom]
    dsimp only
    refine sameShare_modify x stream ?_
    exact fun _ => ⟨⟨rfl, rfl, rfl, rfl⟩, rfl, rfl, rfl⟩

/-- What a record costs the counters of a stream, it costs its next number. -/
theorem Produced.attempted {call : TraceSink.Call} (h : Produced cfg x call y)
    (hx : (x.ledger t).attempted = (x.ledger t).nextRecordSeq) :
    (y.ledger t).attempted = (y.ledger t).nextRecordSeq := by
  have hallocated : ((x.allocate t).ledger t).attempted = (x.ledger t).nextRecordSeq + 1 := by
    rw [allocate, modify_ledger, if_pos rfl, ← hx]
  have hs := seals cfg (x.allocate t) t
  have hcounts := sameCounts_sealLoss cfg (x.allocate t) t
  cases h.advances t with
  | same hsame => rw [hsame.ledger, hx]
  | loses hopen hx₁ hl =>
    rw [hl.attempted, hl.nextRecordSeq, hx₁.ledger, allocate_nextRecordSeq, hallocated]
  | refuses hq hopen hfailed hfresh hcan hfull hl =>
    rw [hl.attempted, hl.nextRecordSeq, hcounts.attempted, hs.nextRecordSeq,
      allocate_nextRecordSeq, hallocated]
  | admits hq hopen hfresh he =>
    subst hq
    rw [he.counts.attempted, he.nextRecordSeq, hcounts.attempted, hs.nextRecordSeq,
      allocate_nextRecordSeq, hallocated]

theorem recordWritten_attempted {q : Queued} {rest : List Queued} (h : x.inflight = q :: rest) :
    ((x.recordWritten q).ledger t).attempted = (x.ledger t).attempted := by
  unfold recordWritten
  rw [h]
  simp only [Queued.same_self, Bool.not_true, Bool.false_eq_true, if_false, modify_ledger]
  split <;> rfl

/-- A call after `close()` has begun leaves the books alone. -/
theorem Produced.sameBooks {call : TraceSink.Call} (h : Produced cfg x call y)
    (hclosing : x.closing = true) : SameBooks x y := by
  cases h with
  | quiet hxy => exact hxy
  | drops hopen _ _ => simp [hopen.closing] at hclosing
  | admits hopen _ _ => simp [hopen.closing] at hclosing

theorem sealLoss_eq_self {stream : StreamId} (h : (x.ledger stream).openLoss = none) :
    x.sealLoss cfg stream = x := by
  unfold sealLoss
  rw [h]

theorem sealOpen_eq_self (h : ∀ t, (x.ledger t).openLoss = none) : x.sealOpen cfg = x := by
  unfold sealOpen
  rw [sealLoss_eq_self (h .base)]
  dsimp only
  split
  · exact sealLoss_eq_self (h .profile)
  · rfl

end Exporter

section Sealing
variable {cfg : Config} {x : Exporter} {lines : List Line} {t : StreamId}
variable {content tail : List Entry}

theorem Files.seals (h : Files x lines t content tail) (stream : StreamId) :
    Files (x.sealLoss cfg stream) lines t content tail := by
  have hs := Exporter.seals cfg x stream
  by_cases ht : t = stream
  · subst ht
    refine ⟨h.lines, hs.nextRecordSeq ▸ h.journal.seals t, ?_⟩
    rw [(Exporter.sameCounts_sealLoss cfg x t).attempted, hs.nextRecordSeq]
    exact h.attempted
  · exact h.of_sameStream (hs.others t ht)

/-- The first scope of `close()`. -/
theorem Files.sealOpen (h : Files x lines t content tail) :
    Files { x.sealOpen cfg with closing := true } lines t content tail := by
  refine Files.of_sameStream (x := x.sealOpen cfg) ?_ ⟨rfl, rfl⟩
  unfold Exporter.sealOpen
  dsimp only
  split
  · exact (h.seals .base).seals .profile
  · exact h.seals .base

end Sealing

/-! ## The files of a run -/

/-- The line of the record in flight, once it has landed in its file. -/
def TraceSink.landed (s : TraceSink) (t : StreamId) : List Entry :=
  match s.writer.landed? with
  | some q => if q.stream = t then [(q.record, q.raw)] else []
  | none => []

/-- What the files hold until the close is decided. -/
structure Filed (cfg : Config) (s : TraceSink) : Prop where
  filing : s.writer.filing = true → ∀ t ∈ TraceSink.streams cfg, ∃ content,
    Files s.x (s.shard t).lines t content (s.landed t)
  summing : ∀ n, s.writer.summaries = some n → ∀ t ∈ TraceSink.streams cfg, ∃ content tail,
    Complete cfg s.x (s.shard t).lines t n content tail
  built : ∀ n stream o record raw, s.writer.summaries = some n →
    s.writer.summary? = some (.summary stream o record raw) →
      States cfg stream (s.x.ledger stream) (record, raw)
  receipt : s.summaryWritten .base = true → s.writer.keeps = true →
    ∀ t ∈ TraceSink.streams cfg, ∃ content tail,
      Complete cfg s.x (s.shard t).lines t 2 content tail
  passed : s.writer.publishes = true → s.summaryWritten .base = true

namespace Filed
variable {cfg : Config} {s s' : TraceSink} {c : Choice}

theorem filing_eq_false {pc : WriterPc} {n : Nat} (h : pc.summaries = some n) :
    pc.filing = false ∧ pc.publishes = false := by
  unfold WriterPc.summaries at h
  split at h
  all_goals first | exact ⟨rfl, rfl⟩ | cases h

theorem summaries_eq_none {pc : WriterPc} (h : pc.filing = true) :
    pc.summaries = none ∧ pc.publishes = false := by
  unfold WriterPc.filing at h
  split at h
  all_goals first | exact ⟨rfl, rfl⟩ | cases h

/-- The drained path is lost. -/
theorem of_lost (hpc : s'.writer.filing = false ∧ s'.writer.summaries = none ∧
    s'.writer.publishes = false) (hflag : s'.summaryWritten .base = false) : Filed cfg s' := by
  obtain ⟨hfiling, hsummaries, hpublishes⟩ := hpc
  refine ⟨fun h => ?_, fun n h => ?_, fun n _ _ _ _ h => ?_, fun h => ?_, fun h => ?_⟩
  · simp [hfiling] at h
  · simp [hsummaries] at h
  · simp [hsummaries] at h
  · simp [hflag] at h
  · simp [hpublishes] at h

theorem of_filing (hpc : s'.writer.filing = true) (hflag : s'.summaryWritten .base = false)
    (hfiles : ∀ t ∈ TraceSink.streams cfg, ∃ content,
      Files s'.x (s'.shard t).lines t content (s'.landed t)) : Filed cfg s' := by
  obtain ⟨hsummaries, hpublishes⟩ := summaries_eq_none hpc
  refine ⟨fun _ => hfiles, fun n h => ?_, fun n _ _ _ _ h => ?_, fun h => ?_, fun h => ?_⟩
  · simp [hsummaries] at h
  · simp [hsummaries] at h
  · simp [hflag] at h
  · simp [hpublishes] at h

theorem of_summing {n : Nat} (hpc : s'.writer.summaries = some n)
    (hflag : s'.summaryWritten .base = true → n = 2)
    (hcomplete : ∀ t ∈ TraceSink.streams cfg, ∃ content tail,
      Complete cfg s'.x (s'.shard t).lines t n content tail)
    (hbuilt : ∀ stream o record raw, s'.writer.summary? = some (.summary stream o record raw) →
      States cfg stream (s'.x.ledger stream) (record, raw)) : Filed cfg s' := by
  obtain ⟨hfiling, hpublishes⟩ := filing_eq_false hpc
  refine ⟨fun h => ?_, fun n' h => ?_, fun n' stream o record raw _ => hbuilt stream o record raw,
    fun h _ => hflag h ▸ hcomplete, fun h => ?_⟩
  · simp [hfiling] at h
  · obtain rfl : n = n' := Option.some.inj (hpc.symm.trans h)
    exact hcomplete
  · simp [hpublishes] at h

/-- The writer moves on among the places of the queue. -/
theorem goto_filing (h : Filed cfg s) {pc : WriterPc} (hs : s.writer.filing = true)
    (hlanded : s.writer.landed? = none) (hpc : pc.filing = true) (hlanded' : pc.landed? = none)
    (hflag : s.summaryWritten .base = false) : Filed cfg (s.goto pc) := by
  refine of_filing hpc hflag fun t ht => ?_
  have hfiles := h.filing hs t ht
  rw [TraceSink.landed, hlanded] at hfiles
  rw [TraceSink.landed, TraceSink.goto_writer, hlanded']
  exact hfiles

/-- The writer moves on among the places of the summaries. -/
theorem goto_summing (h : Filed cfg s) {pc : WriterPc} {n : Nat} (hs : s.writer.summaries = some n)
    (hpc : pc.summaries = some n) (hsummary : ∀ job, pc.summary? = some job →
      s.writer.summary? = some job) (hflag : s.summaryWritten .base = false) :
    Filed cfg (s.goto pc) := by
  refine of_summing hpc (fun ht => ?_) (h.summing n hs) fun stream o record raw hjob =>
    h.built n stream o record raw hs (hsummary _ hjob)
  exact absurd (hflag.symm.trans ht) nofun

/-- A line more in the file of a stream. -/
theorem appendLine_lines (s : TraceSink) (stream t : StreamId) (line : Line) :
    ((s.appendLine stream line).shard t).lines =
      (s.shard t).lines ++ if t = stream then [line] else [] := by
  unfold TraceSink.appendLine TraceSink.setShard
  dsimp only
  split
  · rfl
  · rw [List.append_nil]

/-- The line of a record in flight lands in its file. -/
theorem lands (h : Filed cfg s) {q : Queued} {rest : List Queued}
    (hpc : s.writer = .persist (.batch q rest)) (hflag : s.summaryWritten .base = false) :
    Filed cfg ((s.appendLine q.stream (.record q.record q.raw)).goto
      (.recordWritten (.batch q rest))) := by
  refine of_filing rfl hflag fun t ht => ?_
  obtain ⟨content, hfiles⟩ := h.filing (by rw [hpc]; rfl) t ht
  rw [TraceSink.landed, hpc] at hfiles
  refine ⟨content, ?_, hfiles.journal, hfiles.attempted⟩
  have hlines := hfiles.lines
  have hlanded : ((s.appendLine q.stream (.record q.record q.raw)).goto
      (.recordWritten (.batch q rest))).landed t =
        if q.stream = t then [(q.record, q.raw)] else [] := rfl
  rw [hlanded]
  show ((s.appendLine q.stream (.record q.record q.raw)).shard t).lines = _
  rw [appendLine_lines, hlines]
  by_cases hstream : q.stream = t
  · subst hstream
    simp [WriterPc.landed?, Entry.line]
  · simp [WriterPc.landed?, hstream, Ne.symm hstream]

/-- The summary lands in its file. -/
theorem summarises (h : Filed cfg s) {stream : StreamId} {o : CloseOutcome} {record : Dict}
    {raw : Bytes} (hpc : s.writer = .persist (.summary stream o record raw))
    (hflag : s.summaryWritten .base = false) :
    Filed cfg ((s.appendLine stream (.record record raw)).goto
      (.release (.summary stream o record raw) true)) := by
  have hbefore : s.writer.summaries = some stream.rank := by
    rw [hpc]
    cases stream <;> rfl
  have hafter : (WriterPc.release (.summary stream o record raw) true).summaries =
      some (stream.rank + 1) := by cases stream <;> rfl
  have hstates : States cfg stream (s.x.ledger stream) (record, raw) :=
    h.built _ stream o record raw hbefore (by rw [hpc]; rfl)
  refine of_summing hafter (fun ht => absurd (hflag.symm.trans ht) nofun) (fun t ht => ?_)
    fun stream' o' record' raw' hjob => ?_
  · obtain ⟨content, tail, hcomplete⟩ := h.summing _ hbefore t ht
    have hlines := hcomplete.lines
    by_cases hstream : t = stream
    · subst hstream
      rw [hcomplete.unwritten le_rfl] at hlines
      refine ⟨content, [(record, raw)], ⟨?_, hcomplete.journal, hcomplete.attempted⟩,
        hcomplete.pending, hcomplete.closing, fun _ => ⟨_, rfl, hstates⟩, fun hrank => ?_⟩
      · show ((s.appendLine t (.record record raw)).shard t).lines = _
        rw [appendLine_lines, hlines]
        simp [Entry.line]
      · omega
    · refine ⟨content, tail, ⟨?_, hcomplete.journal, hcomplete.attempted⟩, hcomplete.pending,
        hcomplete.closing, fun hrank => hcomplete.written ?_, fun hrank => hcomplete.unwritten ?_⟩
      · show ((s.appendLine stream (.record record raw)).shard t).lines = _
        rw [appendLine_lines, if_neg hstream, List.append_nil, hlines]
      all_goals
        have hne : t.rank ≠ stream.rank := by
          cases t <;> cases stream <;> simp_all [StreamId.rank]
        omega
  · cases hjob
    exact hstates

/-- The record in flight is counted. -/
theorem counts (h : Filed cfg s) {q : Queued} {rest : List Queued}
    (hpc : s.writer = .recordWritten (.batch q rest)) (hinflight : s.x.inflight = q :: rest)
    (hflag : s.summaryWritten .base = false) :
    Filed cfg ({ s with x := s.x.recordWritten q }.goto (.batch rest)) := by
  refine of_filing rfl hflag fun t ht => ?_
  obtain ⟨content, hfiles⟩ := h.filing (by rw [hpc]; rfl) t ht
  have hlanded : s.landed t = if q.stream = t then [(q.record, q.raw)] else [] := by
    rw [TraceSink.landed, hpc]
    rfl
  have hsame := Exporter.sameLosses_recordWritten hinflight
  refine ⟨if q.stream = t then content ++ [(q.record, q.raw)] else content, ?_, ?_, ?_⟩
  · rw [show TraceSink.landed _ t = [] from rfl, List.append_nil]
    refine hfiles.lines.trans ?_
    rw [hlanded]
    split
    · rfl
    · rw [List.append_nil]
  · rw [TraceSink.goto_x, hsame.nextRecordSeq t]
    exact hfiles.journal.records hinflight
  · rw [TraceSink.goto_x, hsame.nextRecordSeq t, Exporter.recordWritten_attempted hinflight]
    exact hfiles.attempted

theorem runStep (h : Filed cfg s) (horder : Orderly s) (haccounted : Accounted s)
    (hreceipts : Receipts cfg s) (ha : s.abandoned = false)
    (hstep : s.runStep cfg c s.writer = some s') : Filed cfg s' := by
  have hflag : s.summaryWritten .base = false := by
    refine (hreceipts.early ?_).1 .base
    cases hpc : s.writer <;> first | rfl | simp [hpc, TraceSink.runStep] at hstep
  have hlost : ∀ {x : Exporter} {shard : StreamId → Shard} {outcome : Option CloseOutcome}
      {pc : WriterPc}, pc.filing = false ∧ pc.summaries = none ∧ pc.publishes = false →
      Filed cfg { s with x := x, shard := shard, writerOutcome := outcome, writer := pc } :=
    fun hpc => of_lost hpc hflag
  have hraised : ∀ {shard : StreamId → Shard} (job : Job),
      Filed cfg { s with shard := shard, writer := TraceSink.writeRaised job } := by
    intro shard job
    cases job <;> exact hlost ⟨rfl, rfl, rfl⟩
  have hfiling := @h.goto_filing
  have hsumming := @h.goto_summing
  generalize hpc : s.writer = pc at hstep hfiling hsumming
  cases pc with
  | started =>
    simp only [TraceSink.runStep] at hstep
    obtain ⟨-, rfl⟩ := TraceSink.locked_eq_some.mp hstep
    rw [if_neg (by simp [ha])]
    exact hfiling rfl rfl rfl rfl hflag
  | removing =>
    simp only [TraceSink.runStep, Option.some.injEq] at hstep
    subst hstep
    exact hlost ⟨rfl, rfl, rfl⟩
  | gate =>
    simp only [TraceSink.runStep] at hstep
    split at hstep
    · cases hstep
      exact hfiling rfl rfl rfl rfl hflag
    · obtain ⟨-, rfl⟩ := TraceSink.locked_eq_some.mp hstep
      split
      · exact hlost ⟨rfl, rfl, rfl⟩
      · exact hfiling rfl rfl rfl rfl hflag
  | gateShut =>
    simp only [TraceSink.runStep] at hstep
    obtain ⟨-, rfl⟩ := TraceSink.locked_eq_some.mp hstep
    split <;> exact hlost ⟨rfl, rfl, rfl⟩
  | loop =>
    simp only [TraceSink.runStep] at hstep
    split at hstep
    · obtain ⟨-, rfl⟩ := TraceSink.locked_eq_some.mp hstep
      exact hlost ⟨rfl, rfl, rfl⟩
    · split at hstep
      · obtain ⟨-, rfl⟩ := TraceSink.locked_eq_some.mp hstep
        refine of_filing (by rw [hpc]; rfl) hflag fun t ht => ?_
        obtain ⟨content, hfiles⟩ := h.filing (by rw [hpc]; rfl) t ht
        exact ⟨content, hfiles.of_sameStream ⟨rfl, rfl⟩⟩
      · split at hstep
        · cases hstep
        · next hwork =>
          split at hstep
          · obtain ⟨-, rfl⟩ := TraceSink.locked_eq_some.mp hstep
            exact hlost ⟨rfl, rfl, rfl⟩
          · have hinflight := haccounted.carried ha [] (by rw [hpc]; rfl)
            split at hstep
            · next hempty =>
              obtain ⟨-, rfl⟩ := TraceSink.locked_eq_some.mp hstep
              refine of_summing (n := 0) rfl
                (fun ht => absurd (hflag.symm.trans ht) Bool.false_ne_true) (fun t ht => ?_)
                fun _ _ _ _ hjob => by cases hjob
              obtain ⟨content, hfiles⟩ := h.filing (by rw [hpc]; rfl) t ht
              rw [TraceSink.landed, hpc] at hfiles
              have hqueue : s.x.queue = [] := by simpa using hempty
              refine ⟨content, [], hfiles, ?_, by simpa [hqueue] using hwork, by simp, fun _ => rfl⟩
              rw [TraceSink.goto_x, Exporter.pending, hinflight, hqueue]
              rfl
            · obtain ⟨-, rfl⟩ := TraceSink.locked_eq_some.mp hstep
              refine of_filing rfl hflag fun t ht => ?_
              obtain ⟨content, hfiles⟩ := h.filing (by rw [hpc]; rfl) t ht
              rw [TraceSink.landed, hpc] at hfiles
              refine ⟨content, hfiles.of_sameStream ⟨?_, rfl⟩⟩
              rw [TraceSink.goto_x, Exporter.own, Exporter.own, Exporter.pending,
                Exporter.pending, hinflight, List.nil_append]
              exact congrArg _ (Exporter.splitBatch_append 0 0 s.x.queue)
  | batch rest =>
    cases rest with
    | nil =>
      simp only [TraceSink.runStep, Option.some.injEq] at hstep
      subst hstep
      exact hfiling rfl rfl rfl rfl hflag
    | cons q rest =>
      simp only [TraceSink.runStep] at hstep
      obtain ⟨-, rfl⟩ := TraceSink.locked_eq_some.mp hstep
      split
      · exact hlost ⟨rfl, rfl, rfl⟩
      · split
        · exact hlost ⟨rfl, rfl, rfl⟩
        · exact hfiling rfl rfl rfl rfl hflag
  | check job staged =>
    simp only [TraceSink.runStep] at hstep
    obtain ⟨-, rfl⟩ := TraceSink.locked_eq_some.mp hstep
    rw [if_neg (by simp [ha])]
    cases job with
    | batch q rest => split <;> exact hfiling rfl rfl rfl rfl hflag
    | control q rest => split <;> exact hlost ⟨rfl, rfl, rfl⟩
    | summary stream o record raw =>
      cases stream
      all_goals
        split <;> exact hsumming rfl rfl (fun _ h => h) hflag
  | stage job =>
    simp only [TraceSink.runStep, Option.some.injEq] at hstep
    subst hstep
    split
    · cases job with
      | batch q rest => exact hfiling rfl rfl rfl rfl hflag
      | control q rest => exact hlost ⟨rfl, rfl, rfl⟩
      | summary stream o record raw =>
        cases stream <;> exact hsumming rfl rfl (fun _ h => h) hflag
    · exact hraised job
  | persist job =>
    simp only [TraceSink.runStep] at hstep
    split at hstep
    · cases hstep
      cases job with
      | batch q rest => exact h.lands hpc hflag
      | control q rest => exact hlost ⟨rfl, rfl, rfl⟩
      | summary stream o record raw => exact h.summarises hpc hflag
    · cases hstep
      exact hraised job
  | recordWritten job =>
    cases job with
    | summary => simp [TraceSink.runStep] at hstep
    | batch q rest =>
      simp only [TraceSink.runStep] at hstep
      obtain ⟨-, rfl⟩ := TraceSink.locked_eq_some.mp hstep
      have hinflight := haccounted.carried ha (q :: rest) (by rw [hpc]; rfl)
      rw [if_neg (by simp [ha])]
      exact h.counts hpc hinflight hflag
    | control q rest =>
      simp only [TraceSink.runStep] at hstep
      obtain ⟨-, rfl⟩ := TraceSink.locked_eq_some.mp hstep
      exact hlost ⟨rfl, rfl, rfl⟩
  | failing =>
    simp only [TraceSink.runStep] at hstep
    obtain ⟨-, rfl⟩ := TraceSink.locked_eq_some.mp hstep
    exact hlost ⟨rfl, rfl, rfl⟩
  | drained =>
    simp only [TraceSink.runStep, Option.some.injEq] at hstep
    subst hstep
    split
    · exact hsumming rfl rfl (fun _ hjob => by cases hjob) hflag
    · exact hlost ⟨rfl, rfl, rfl⟩
  | preparing =>
    simp only [TraceSink.runStep] at hstep
    obtain ⟨-, rfl⟩ := TraceSink.locked_eq_some.mp hstep
    exact hlost ⟨rfl, rfl, rfl⟩
  | controls rest =>
    cases rest with
    | nil =>
      have hlate := horder.late (by rw [hpc]; rfl)
      simp only [TraceSink.runStep, hlate, Bool.true_or, if_true, Option.some.injEq] at hstep
      subst hstep
      exact hlost ⟨rfl, rfl, rfl⟩
    | cons q rest =>
      simp only [TraceSink.runStep, Option.some.injEq] at hstep
      subst hstep
      split <;> exact hlost ⟨rfl, rfl, rfl⟩
  | controlsExpired =>
    simp only [TraceSink.runStep] at hstep
    obtain ⟨-, rfl⟩ := TraceSink.locked_eq_some.mp hstep
    exact hlost ⟨rfl, rfl, rfl⟩
  | timedOut =>
    simp only [TraceSink.runStep, Option.some.injEq] at hstep
    subst hstep
    exact hlost ⟨rfl, rfl, rfl⟩
  | _ => simp [TraceSink.runStep] at hstep

/-- The room of a summary is taken from the reserved budget, or given back. -/
theorem reserves (h : Filed cfg s) {x : Exporter} {pc : WriterPc} {n : Nat}
    (hs : s.writer.summaries = some n) (hpc : pc.summaries = some n)
    (hsummary : ∀ job, pc.summary? = some job → s.writer.summary? = some job)
    (hflag : s.summaryWritten .base = false) (hpending : x.pending = s.x.pending)
    (hclosing : x.closing = s.x.closing)
    (hsame : ∀ t, SameShare (s.x.ledger t) (x.ledger t)) :
    Filed cfg ({ s with x := x }.goto pc) := by
  refine of_summing hpc (fun ht => absurd (hflag.symm.trans ht) nofun) (fun t ht => ?_)
    fun stream o record raw hjob => ?_
  · obtain ⟨content, tail, hcomplete⟩ := h.summing n hs t ht
    exact ⟨content, tail, hcomplete.of_sameShare hpending hclosing (hsame t)⟩
  · exact (h.built n stream o record raw hs (hsummary _ hjob)).of_sameShare (hsame stream)

theorem summaryStep (h : Filed cfg s) (horder : Orderly s) (hreceipts : Receipts cfg s)
    (hunfailing : Unfailing s) (hstep : s.summaryStep cfg c s.writer = some s') : Filed cfg s' := by
  have hearly : s.writer.beforeReceipt = true → s.summaryWritten .base = false :=
    fun hpc => (hreceipts.early hpc).1 .base
  have hlost : ∀ {x : Exporter} {shard : StreamId → Shard} {outcome : Option CloseOutcome}
      {pc : WriterPc}, s.summaryWritten .base = false →
      pc.filing = false ∧ pc.summaries = none ∧ pc.publishes = false →
      Filed cfg { s with x := x, shard := shard, writerOutcome := outcome, writer := pc } :=
    fun hflag hpc => of_lost hpc hflag
  have hsumming := @h.goto_summing
  generalize hpc : s.writer = pc at hstep hearly hsumming
  cases pc with
  | summaryStart o | summaryCheck o =>
    simp only [TraceSink.summaryStep] at hstep
    split at hstep
    · cases hstep
      exact hlost (hearly rfl) ⟨rfl, rfl, rfl⟩
    · cases hstep
      exact hsumming rfl rfl (fun _ hjob => by cases hjob) (hearly rfl)
  | moveShard stream o =>
    -- the file keeps its lines under whatever name
    have hmoves : ∀ {f : Shard → Shard}, (∀ shard, (f shard).lines = shard.lines) →
        Filed cfg ((s.setShard stream f).goto
          (if stream = StreamId.base && cfg.profileConfig.isSome then .moveShard .profile o
            else .summaryCheck o)) := by
      intro f hf
      have hlines : ∀ t, ((s.setShard stream f).shard t).lines = (s.shard t).lines := by
        intro t
        dsimp only [TraceSink.setShard]
        split
        · exact hf _
        · rfl
      refine of_summing (n := 0) ?_
        (fun ht => absurd ((hearly rfl).symm.trans ht) Bool.false_ne_true) (fun t ht => ?_)
        fun stream' o' record raw hjob => ?_
      · rw [TraceSink.goto_writer]
        split <;> rfl
      · obtain ⟨content, tail, hcomplete⟩ := h.summing 0 (by rw [hpc]; rfl) t ht
        refine ⟨content, tail, ⟨?_, hcomplete.journal, hcomplete.attempted⟩, hcomplete.pending,
          hcomplete.closing, hcomplete.written, hcomplete.unwritten⟩
        exact (hlines t).trans hcomplete.lines
      · rw [TraceSink.goto_writer] at hjob
        split at hjob <;> cases hjob
    simp only [TraceSink.summaryStep] at hstep
    split at hstep
    · cases hstep
      refine hsumming rfl ?_ ?_ (hearly rfl)
      · split <;> rfl
      · intro job hjob
        split at hjob <;> cases hjob
    · split at hstep
      · cases hstep
        exact hlost (hearly rfl) ⟨rfl, rfl, rfl⟩
      · split at hstep
        · cases hstep
          exact hmoves fun _ => rfl
        · cases hstep
          exact hlost (hearly rfl) ⟨rfl, rfl, rfl⟩
        · cases hstep
          exact hlost (hearly rfl) ⟨rfl, rfl, rfl⟩
  | buildSummary stream o =>
    obtain ⟨rfl, -⟩ := horder.summarises o (by rw [hpc]; rfl)
    simp only [TraceSink.summaryStep] at hstep
    split at hstep
    · next record raw hbuilt =>
      cases hstep
      obtain ⟨endedNs, -, hrecord⟩ := Option.map_eq_some_iff.mp hbuilt
      have hs : s.writer.summaries = some stream.rank := by
        rw [hpc]
        cases stream <;> rfl
      have hs' : (WriterPc.reserve (.summary stream .drained record raw)).summaries =
          some stream.rank := by cases stream <;> rfl
      refine of_summing hs' (fun ht => absurd ((hearly rfl).symm.trans ht) Bool.false_ne_true)
        (h.summing _ hs) fun stream' o' record' raw' hjob => ?_
      cases hjob
      have hfailures := hunfailing (by rw [hpc]; rfl) (hreceipts.early (by rw [hpc]; rfl)).2 stream
      exact ⟨s.x, endedNs, hrecord, ⟨rfl, rfl, rfl, rfl⟩, rfl, hfailures⟩
    · cases hstep
      exact hlost (hearly rfl) ⟨rfl, rfl, rfl⟩
  | reserve job =>
    obtain ⟨stream, o, record, raw, rfl, rfl⟩ := TraceSink.summaryStep_reserve hstep
    have hpending : (s.x.reserveControl stream raw).1.pending = s.x.pending := by
      unfold Exporter.reserveControl
      split <;> rfl
    have hclosing := (Exporter.sameFlags_reserveControl stream s.x raw).closing
    split
    · next hroom =>
      have hs : s.writer.summaries = some stream.rank := by
        rw [hpc]
        cases stream <;> rfl
      refine h.reserves hs ?_ (fun job hjob => ?_) (hearly rfl) hpending hclosing fun t =>
        Exporter.sameShare_reserveControl hroom
      · cases stream <;> rfl
      · rw [hpc]
        exact hjob
    · exact hlost (hearly rfl) ⟨rfl, rfl, rfl⟩
  | refused o =>
    simp only [TraceSink.summaryStep, Option.some.injEq] at hstep
    subst hstep
    exact hlost (hearly rfl) ⟨rfl, rfl, rfl⟩
  | dropSummary job =>
    simp only [TraceSink.summaryStep] at hstep
    obtain ⟨-, rfl⟩ := TraceSink.locked_eq_some.mp hstep
    refine hlost (hearly rfl) ⟨rfl, ?_, rfl⟩
    cases job with
    | summary stream => cases stream <;> rfl
    | batch | control => rfl
  | release job written =>
    obtain ⟨stream, o, record, raw, rfl, rfl⟩ := TraceSink.summaryStep_release hstep
    cases written with
    | false => exact hlost (hearly rfl) ⟨rfl, rfl, rfl⟩
    | true =>
      rw [if_pos rfl]
      have hs : s.writer.summaries = some (stream.rank + 1) := by
        rw [hpc]
        cases stream <;> rfl
      refine h.reserves hs ?_ (fun _ hjob => by cases hjob) (hearly rfl) rfl rfl fun t => ?_
      · cases stream <;> rfl
      · refine Exporter.sameShare_modify s.x stream ?_
        exact fun _ => ⟨⟨rfl, rfl, rfl, rfl⟩, rfl, rfl, rfl⟩
  | afterSummary stream o =>
    simp only [TraceSink.summaryStep] at hstep
    split at hstep
    · cases hstep
      exact hlost (hearly rfl) ⟨rfl, rfl, rfl⟩
    · split at hstep
      · next hmore =>
        cases hstep
        simp only [Bool.and_eq_true, decide_eq_true_eq] at hmore
        obtain ⟨rfl, -⟩ := hmore
        exact hsumming rfl rfl (fun _ hjob => by cases hjob) (hearly rfl)
      · next hlast =>
        cases hstep
        have hs : s.writer.summaries = some (stream.rank + 1) := by
          rw [hpc]
          cases stream <;> rfl
        refine of_summing (n := 2) rfl (fun _ => rfl) (fun t ht => ?_)
          fun _ _ _ _ hjob => by cases hjob
        obtain ⟨content, tail, hcomplete⟩ := h.summing _ hs t ht
        have hrank : t.rank < stream.rank + 1 := by
          cases stream with
          | profile => cases t <;> decide
          | base =>
            have hbase := TraceSink.mem_streams.mp ht
            cases t with
            | base => decide
            | profile => simp_all
        refine ⟨content, tail, hcomplete.toFiles, hcomplete.pending, hcomplete.closing,
          fun _ => hcomplete.written hrank, fun hle => ?_⟩
        cases t <;> simp [StreamId.rank] at hle
  | lateInvalidation stream =>
    simp only [TraceSink.summaryStep, Option.some.injEq] at hstep
    subst hstep
    obtain ⟨x, lines, hx, heq⟩ := appendInvalidation_eq cfg s c stream
    rw [heq]
    refine hlost (hearly rfl) ?_
    cases stream with
    | base =>
      rw [TraceSink.afterInvalidation]
      split <;> exact ⟨rfl, rfl, rfl⟩
    | profile => exact ⟨rfl, rfl, rfl⟩
  | setSummaryWritten stream o =>
    have hcomplete := h.summing 2 (by rw [hpc]; cases stream <;> rfl)
    cases stream with
    | profile =>
      simp only [TraceSink.summaryStep, Option.some.injEq] at hstep
      subst hstep
      exact of_summing (n := 2) rfl (fun _ => rfl) hcomplete fun _ _ _ _ hjob => by cases hjob
    | base =>
      simp only [TraceSink.summaryStep, Option.some.injEq] at hstep
      subst hstep
      exact of_summing (n := 2) rfl (fun _ => rfl) hcomplete fun _ _ _ _ hjob => by cases hjob
  | setOutcome o =>
    have hcomplete := h.summing 2 (by rw [hpc]; rfl)
    simp only [TraceSink.summaryStep, Option.some.injEq] at hstep
    subst hstep
    refine ⟨fun hfiling => ?_, fun _ hn => ?_, fun _ _ _ _ _ hn => ?_, fun _ _ => hcomplete,
      fun hpublishes => ?_⟩
    · cases hfiling
    · cases hn
    · cases hn
    · cases hpublishes
  | _ => simp [TraceSink.summaryStep] at hstep

/-- After the summary the receipt keeps its files, or is taken back. -/
theorem of_final (h : Filed cfg s) (hpc : s'.writer.prepares = false)
    (hbooks : s'.summaryWritten .base = true → s'.writer.keeps = true →
      s.summaryWritten .base = true ∧ s.writer.keeps = true ∧ Exporter.SameBooks s.x s'.x ∧
        ∀ t, (s'.shard t).lines = (s.shard t).lines)
    (hpassed : s'.writer.publishes = true → s'.summaryWritten .base = true) : Filed cfg s' := by
  have hlate : s'.writer.filing = false ∧ s'.writer.summaries = none := by
    cases hw : s'.writer <;> simp_all [WriterPc.prepares, WriterPc.beforeReceipt, WriterPc.filing,
      WriterPc.summaries]
  refine ⟨fun hf => ?_, fun n hn => ?_, fun n _ _ _ _ hn => ?_, fun hb hk t ht => ?_, hpassed⟩
  · simp [hlate.1] at hf
  · simp [hlate.2] at hn
  · simp [hlate.2] at hn
  · obtain ⟨hflag, hkeeps, hx, hlines⟩ := hbooks hb hk
    obtain ⟨content, tail, hcomplete⟩ := h.receipt hflag hkeeps t ht
    exact ⟨content, tail, hlines t ▸ hcomplete.of_sameBooks hx⟩

/-- The receipt is taken back. -/
theorem of_withdrawn (h : Filed cfg s) (hprepares : s'.writer.prepares = false)
    (hkeeps : s'.writer.keeps = false) (hpublishes : s'.writer.publishes = false) :
    Filed cfg s' := by
  refine h.of_final hprepares (fun _ hk => ?_) fun hp => ?_
  · exact absurd (hkeeps.symm.trans hk) Bool.false_ne_true
  · exact absurd (hpublishes.symm.trans hp) Bool.false_ne_true

theorem finalStep (h : Filed cfg s) (hopen : s'.claim = none)
    (hstep : s.finalStep cfg c s.writer = some s') : Filed cfg s' := by
  have hof := @of_final cfg s s' h
  have hpassed := h.passed
  generalize hpc : s.writer = pc at hstep hof hpassed
  cases pc with
  | finalize | closeDescriptors =>
    simp only [TraceSink.finalStep, Option.some.injEq, TraceSink.locked_eq_some] at hstep
    obtain ⟨-, rfl⟩ := hstep
    refine hof ?_ (fun hb _ => ⟨hb, rfl, .refl _, fun _ => rfl⟩) fun hp => ?_
    · rw [TraceSink.goto_writer]
      split <;> rfl
    · rw [TraceSink.goto_writer] at hp
      split at hp <;> cases hp
  | finalInvalidation stream =>
    simp only [TraceSink.finalStep, Option.some.injEq] at hstep
    subst hstep
    obtain ⟨x, lines, hx, heq⟩ := appendInvalidation_eq cfg s c stream
    have hafter : (TraceSink.afterInvalidation cfg .finalInvalidation .finalInvalidated stream).keeps =
        false ∧ (TraceSink.afterInvalidation cfg .finalInvalidation .finalInvalidated
          stream).prepares = false ∧ (TraceSink.afterInvalidation cfg .finalInvalidation
            .finalInvalidated stream).publishes = false := by
      cases stream with
      | base =>
        rw [TraceSink.afterInvalidation]
        split <;> exact ⟨rfl, rfl, rfl⟩
      | profile => exact ⟨rfl, rfl, rfl⟩
    rw [heq]
    exact h.of_withdrawn hafter.2.1 hafter.1 hafter.2.2
  | finalInvalidated | descriptorFailure | publicationFailure | publicationExpired
  | finalException =>
    simp only [TraceSink.finalStep, TraceSink.locked_eq_some] at hstep
    obtain ⟨-, rfl⟩ := hstep
    exact hof rfl (fun hb => absurd hb Bool.false_ne_true) fun hp => by cases hp
  | flush | flushLast =>
    simp only [TraceSink.finalStep, TraceSink.locked_eq_some] at hstep
    obtain ⟨-, rfl⟩ := hstep
    exact hof rfl (fun hb _ => ⟨hb, rfl, ⟨rfl, rfl, rfl, rfl⟩, fun _ => rfl⟩) fun hp => by cases hp
  | eligible =>
    simp only [TraceSink.finalStep, TraceSink.locked_eq_some] at hstep
    obtain ⟨-, rfl⟩ := hstep
    refine hof ?_ (fun hb _ => ⟨hb, rfl, .refl _, fun _ => rfl⟩) fun hp => ?_
    · rw [TraceSink.goto_writer]
      split <;> rfl
    · rw [TraceSink.goto_writer] at hp
      split at hp
      · next hcompleted =>
        simp only [TraceSink.completed, Bool.and_eq_true] at hcompleted
        exact hcompleted.1.1.1.1.1
      · cases hp
  | checkTargets =>
    simp only [TraceSink.finalStep] at hstep
    split at hstep
    · cases hstep
      exact h.of_withdrawn rfl rfl rfl
    · cases hstep
      refine hof ?_ (fun hb _ => ⟨hb, rfl, .refl _, fun _ => rfl⟩) fun _ => hpassed rfl
      rw [TraceSink.goto_writer]
      split <;> rfl
  | replace stream =>
    simp only [TraceSink.finalStep] at hstep
    split at hstep
    · cases hstep
      refine hof ?_ (fun hb _ => ⟨hb, rfl, .refl _, fun t => ?_⟩) fun _ => hpassed rfl
      · rw [TraceSink.goto_writer]
        split <;> rfl
      · dsimp only [TraceSink.goto, TraceSink.setShard]
        split <;> rfl
    · cases hstep
      exact h.of_withdrawn rfl rfl rfl
  | publicationClaim =>
    simp only [TraceSink.finalStep] at hstep
    split at hstep
    · obtain ⟨-, rfl⟩ := TraceSink.locked_eq_some.mp hstep
      exact h.of_withdrawn rfl rfl rfl
    · obtain ⟨-, rfl⟩ := TraceSink.locked_eq_some.mp hstep
      exact hof rfl (fun hb _ => ⟨hb, rfl, .refl _, fun _ => rfl⟩) fun _ => hpassed rfl
  | claiming | finalClaim =>
    -- the step claims
    simp only [TraceSink.finalStep] at hstep
    repeat' split at hstep
    all_goals
      cases hstep
      cases hopen
  | retract published expired =>
    cases published with
    | nil =>
      simp only [TraceSink.finalStep, Option.some.injEq] at hstep
      subst hstep
      cases expired
      all_goals exact h.of_withdrawn rfl rfl rfl
    | cons stream rest =>
      simp only [TraceSink.finalStep, Option.some.injEq] at hstep
      subst hstep
      exact h.of_withdrawn rfl rfl rfl
  | closing =>
    simp only [TraceSink.finalStep] at hstep
    split at hstep
    all_goals
      obtain ⟨-, rfl⟩ := TraceSink.locked_eq_some.mp hstep
      exact hof rfl (fun hb _ => ⟨hb, rfl, ⟨rfl, rfl, rfl, rfl⟩, fun _ => rfl⟩) fun hp => by cases hp
  | _ => simp [TraceSink.finalStep] at hstep

/-- A step of another party, seen from the files. -/
theorem of_outside (h : Filed cfg s) (hw : s'.writer = s.writer) (hshard : s'.shard = s.shard)
    (hflags : s'.summaryWritten = s.summaryWritten)
    (hfiles : ∀ t content tail, Files s.x (s.shard t).lines t content tail →
      Files s'.x (s.shard t).lines t content tail)
    (hbooks : s.x.closing = true → Exporter.SameBooks s.x s'.x) : Filed cfg s' := by
  have hcomplete : ∀ n, ∀ t, (∃ content tail, Complete cfg s.x (s.shard t).lines t n content tail) →
      ∃ content tail, Complete cfg s'.x (s'.shard t).lines t n content tail := by
    intro n t ⟨content, tail, hc⟩
    rw [hshard]
    exact ⟨content, tail, hc.of_sameBooks (hbooks hc.closing)⟩
  refine ⟨fun hf t ht => ?_, fun n hn t ht => ?_, fun n stream o record raw hn hjob => ?_,
    fun hb hk t ht => ?_, ?_⟩
  · obtain ⟨content, hc⟩ := h.filing (hw ▸ hf) t ht
    have hlanded : s'.landed t = s.landed t := by rw [TraceSink.landed, TraceSink.landed, hw]
    rw [hshard, hlanded]
    exact ⟨content, hfiles t content _ hc⟩
  · exact hcomplete n t (h.summing n (hw ▸ hn) t ht)
  · have hstates := h.built n stream o record raw (hw ▸ hn) (hw ▸ hjob)
    obtain ⟨content, tail, hc⟩ := h.summing n (hw ▸ hn) .base (TraceSink.mem_streams.mpr (.inl rfl))
    rw [(hbooks hc.closing).ledger]
    exact hstates
  · rw [hflags] at hb
    rw [hw] at hk
    exact hcomplete 2 t (h.receipt hb hk t ht)
  · rw [hw, hflags]
    exact h.passed

/-- What a step of a caller does to the books while the close stays open. -/
theorem closerStep_books {id : Nat} {expired : Bool}
    (hstep : s.closerStep cfg id expired = some s') (hopen : TraceSink.Undecided s') :
    Exporter.SameBooks s.x s'.x ∨ s'.x = { s.x.sealOpen cfg with closing := true } := by
  obtain ⟨hclaim, habandoned⟩ := hopen
  unfold TraceSink.closerStep at hstep
  split at hstep
  case h_4 deadline hpc =>
    split at hstep
    · split at hstep
      · cases hstep
        exact .inl (.refl _)
      · cases hstep
    · split at hstep
      · obtain ⟨-, rfl⟩ := TraceSink.locked_eq_some.mp hstep
        exact .inl (.refl _)
      · split at hstep
        · obtain ⟨-, rfl⟩ := TraceSink.locked_eq_some.mp hstep
          cases hclaim
        · obtain ⟨-, rfl⟩ := TraceSink.locked_eq_some.mp hstep
          exact .inr rfl
  case h_7 =>
    cases hstep
    cases habandoned
  all_goals
    repeat' split at hstep
  all_goals first
    | cases hstep
      done
    | cases hstep
      exact .inl ⟨rfl, rfl, rfl, rfl⟩
    | obtain ⟨-, rfl⟩ := TraceSink.locked_eq_some.mp hstep
      exact .inl ⟨rfl, rfl, rfl, rfl⟩

theorem produces (h : Filed cfg s) (call : TraceSink.Call) :
    Filed cfg { s with x := call.run cfg s.x s.now } := by
  have hproduced := Exporter.produced_call cfg s.x s.now call
  refine h.of_outside rfl rfl rfl (fun t content tail hfiles => ?_) hproduced.sameBooks
  exact ⟨hfiles.lines, hfiles.journal.produced hproduced, hproduced.attempted hfiles.attempted⟩

theorem step {action : TraceSink.Action} (h : Filed cfg s) (horder : Orderly s)
    (haccounted : Accounted s) (hopens : Opens cfg s) (hreceipts : Receipts cfg s)
    (hunfailing : Unfailing s) (hopen : TraceSink.Undecided s')
    (hstep : s.step cfg action = some s') : Filed cfg s' := by
  cases action with
  | produce call =>
    obtain ⟨-, rfl⟩ := TraceSink.locked_eq_some.mp hstep
    exact h.produces call
  | writer c =>
    have hbefore := TraceSink.undecided_of_step hstep hopen
    rcases writerStep_cases hstep with hrun | hsummary | hfinal
    · exact h.runStep horder haccounted hreceipts hbefore.2 hrun
    · exact h.summaryStep horder hreceipts hunfailing hsummary
    · exact h.finalStep hopen.1 hfinal
  | closer i expired =>
    have hcalls := Calls.of_closerStep hstep
    rcases closerStep_books hstep hopen with hx | hx
    · exact h.of_outside hcalls.writer hcalls.shard hcalls.summaryWritten
        (fun t _ _ hfiles => hfiles.of_sameStream (hx.sameStream t)) fun _ => hx
    · refine h.of_outside hcalls.writer hcalls.shard hcalls.summaryWritten
        (fun t _ _ hfiles => hx ▸ hfiles.sealOpen) fun hclosing => ?_
      -- a second caller finds no interval open
      have hnone : ∀ t, (s.x.ledger t).openLoss = none := by
        intro t
        by_contra hne
        have hopened := (hopens t hne).1
        exact absurd (hopened.symm.trans hclosing) nofun
      rw [hx, Exporter.sealOpen_eq_self hnone]
      exact ⟨rfl, rfl, rfl, hclosing.symm⟩
  | tick ns =>
    cases hstep
    exact h.of_outside rfl rfl rfl (fun _ _ _ hfiles => hfiles) fun _ => .refl _

theorem encoded_startRecords {pid : Nat} {startedNs : Value} {t : StreamId} {record : Dict}
    {raw : Bytes} (ht : t ∈ TraceSink.streams cfg)
    (h : TraceSink.startRecords cfg pid startedNs t = .ok (record, raw)) :
    lineOf t record = .ok raw := by
  cases t with
  | base =>
    simp only [TraceSink.startRecords, bind_eq_ok, pure_eq_ok, Prod.mk.injEq] at h
    obtain ⟨_, -, line, hraw, rfl, rfl⟩ := h
    exact hraw
  | profile =>
    have hsome := (TraceSink.mem_streams.mp ht).resolve_left (fun heq => by cases heq)
    obtain ⟨config, hconfig⟩ := Option.isSome_iff_exists.mp hsome
    simp only [TraceSink.startRecords, hconfig, bind_eq_ok, pure_eq_ok, Prod.mk.injEq] at h
    obtain ⟨_, -, line, hraw, rfl, rfl⟩ := h
    exact hraw

theorem type_startRecords {pid : Nat} {startedNs : Value} {t : StreamId} {record : Dict}
    {raw : Bytes} (ht : t ∈ TraceSink.streams cfg)
    (h : TraceSink.startRecords cfg pid startedNs t = .ok (record, raw)) :
    record.get "record_type" = .str (startTypeOf t) := by
  cases t with
  | base =>
    simp only [TraceSink.startRecords, buildProcessStartRecord, bind_eq_ok, pure_eq_ok,
      Prod.mk.injEq] at h
    obtain ⟨_, ⟨-, -, -, -, -, -, -, -, rfl⟩, line, -, rfl, -⟩ := h
    rfl
  | profile =>
    have hsome := (TraceSink.mem_streams.mp ht).resolve_left (fun heq => by cases heq)
    obtain ⟨config, hconfig⟩ := Option.isSome_iff_exists.mp hsome
    simp only [TraceSink.startRecords, hconfig, buildProfileStartRecord, bind_eq_ok, pure_eq_ok,
      Prod.mk.injEq] at h
    obtain ⟨_, ⟨-, -, -, -, -, -, -, -, -, -, rfl⟩, line, -, rfl, -⟩ := h
    rfl

theorem initial (h : TraceSink.Initial cfg s) : Filed cfg s := by
  obtain ⟨pid, startedNs, now, h⟩ := h
  simp only [TraceSink.opened, bind_eq_ok, pure_eq_ok] at h
  obtain ⟨⟨base, baseRaw⟩, hbase, ⟨profile, profileRaw⟩, hprofile, rfl⟩ := h
  refine of_filing rfl rfl fun t ht => ?_
  have hstart : ∃ e, TraceSink.startRecords cfg pid startedNs t = .ok e ∧
      (if t = .base then Line.record base baseRaw else .record profile profileRaw) = Entry.line e ∧
      (if t = .base then baseRaw else profileRaw) = e.2 := by
    cases t with
    | base => exact ⟨_, hbase, rfl, rfl⟩
    | profile => exact ⟨_, hprofile, rfl, rfl⟩
  obtain ⟨e, hrecord, hline, hraw⟩ := hstart
  have hmarks : marksOf [e] = [] := marksOf_singleton_none (markOf_startRecords hrecord)
  refine ⟨[e], ?_, ⟨⟨?_, ?_, ?_, ?_, ?_⟩, ?_, fun _ => ?_⟩, rfl⟩
  · exact congrArg (fun line => [line]) hline
  · exact hraw.trans bytesOf_singleton.symm
  · intro k
    rw [hmarks]
    rfl
  · intro e' he'
    rw [List.mem_singleton.mp he']
    exact encoded_startRecords ht hrecord
  · rw [hmarks]
    exact List.forall_mem_nil _
  · exact ⟨e, [], rfl, type_startRecords ht hrecord, List.forall_mem_nil _⟩
  · exact List.forall_mem_nil _
  · rw [hmarks]
    exact rfl

/-- The run lemma. -/
theorem of_reachable {ok : TraceSink → TraceSink.Action → Prop}
    (h : TraceSink.ReachableWhen cfg ok s) : TraceSink.Undecided s → Filed cfg s := by
  refine h.invariant_over (I := fun s => TraceSink.Undecided s → Filed cfg s)
    (J := fun s => Orderly s ∧ Accounted s ∧ Opens cfg s ∧
      (TraceSink.Undecided s → Receipts cfg s ∧ Unfailing s)) (fun s hs => ?_)
      (fun _ hs _ => initial hs) fun s a s' hJ hs _ hstep _ hopen => ?_
  · have hall : TraceSink.Reachable cfg s := hs.mono fun _ _ _ => trivial
    exact ⟨TraceSink.orderly_of_reachableWhen hs, accounted_of_reachable hall,
      opens_of_reachable hall, fun hundecided =>
        ⟨.of_reachable hs hundecided, .of_reachable hs hundecided⟩⟩
  · have hbefore := TraceSink.undecided_of_step hstep hopen
    obtain ⟨hreceipts, hunfailing⟩ := hJ.2.2.2 hbefore
    exact (hs hbefore).step hJ.1 hJ.2.1 hJ.2.2.1 hreceipts hunfailing hopen hstep

end Filed

end LifecycleProfiler.Sink
