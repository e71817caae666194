import LifecycleProfiler.Sink.Marks

/-! # What a producer call does

A call leaves the books alone, or it takes the next sequence number of a stream
and either notes it as lost or tries to admit one data record under it. The
inversion below says so once, with all that is known about the record. -/

namespace LifecycleProfiler.Sink
open Python Protocol

namespace Exporter
variable {cfg : Config} {x y : Exporter} {stream : StreamId} {call : TraceSink.Call}

/-- The records that are queued or in flight. -/
def pending (x : Exporter) : List Queued := x.inflight ++ x.queue

/-- The call can change the books of a stream. -/
structure Open (cfg : Config) (x : Exporter) (stream : StreamId) : Prop where
  closing : x.closing = false
  closed : x.closed = false
  profile : stream = .profile → cfg.profileConfig.isSome = true

/-- What is known about a record that is about to be admitted under the next
number of its stream. Only terminal events are reserved. -/
structure Fresh (cfg : Config) (x : Exporter) (call : TraceSink.Call) (q : Queued) : Prop where
  data : q.isData = true
  seq : q.recordSeq = some (x.ledger q.stream).nextRecordSeq
  encoded : lineOf q.stream q.record = .ok q.raw
  mark : markOf q.record = some (.data q.recordType (x.ledger q.stream).nextRecordSeq)
  terminal : q.reserved = true → q.stream = .base ∧ ∃ draft clock ns ref,
    call = .event draft clock ∧ draft.eventName ∈ terminalEvents ∧
      clock.bind (asUint uint64Max) = some ns ∧
        encodeEvent cfg draft (x.ledger .base).nextRecordSeq ns = .ok (q.record, q.raw, ref)

theorem Fresh.line {q : Queued} (h : Fresh cfg x call q) : IsLine q.raw :=
  isLine_of_lineOf h.encoded

inductive Produced (cfg : Config) (x : Exporter) (call : TraceSink.Call) : Exporter → Prop where
  | quiet {y : Exporter} (h : SameBooks x y) : Produced cfg x call y
  | drops {x₁ : Exporter} {stream : StreamId} {recordType : RecordType} {reason : LossReason}
      {observedNs : Nat} (hopen : Open cfg x stream) (hx₁ : SameBooks (x.allocate stream) x₁)
      (hdata : isDataOf stream recordType = true) :
      Produced cfg x call
        (x₁.noteDrop cfg stream (x.ledger stream).nextRecordSeq recordType reason observedNs)
  | admits {q : Queued} {observedNs : Nat} {ρ : Type} {reference : ρ} (hopen : Open cfg x q.stream)
      (hfailed : x.writerFailed = false) (hq : Fresh cfg x call q) :
      Produced cfg x call ((x.allocate q.stream).admitOrLose cfg q
        (x.ledger q.stream).nextRecordSeq observedNs reference).1

/-- The part the three write methods share. -/
theorem produced_writeRecord {ρ : Type} {recordType : RecordType} {reserved : Bool}
    {observedNs : Nat} {encoded : Except PyError (Dict × Bytes × ρ)} (hopen : Open cfg x stream)
    (hdata : isDataOf stream recordType = true)
    (hfresh : ∀ record raw ref, encoded = .ok (record, raw, ref) →
      Fresh cfg x call ⟨record, raw, recordType, some (x.ledger stream).nextRecordSeq, reserved,
        some observedNs, stream⟩) :
    Produced cfg x call ((x.allocate stream).writeRecord cfg stream (x.ledger stream).nextRecordSeq
      recordType reserved observedNs encoded).1 := by
  unfold writeRecord
  split
  · exact .drops hopen (.refl _) hdata
  · next hfailed =>
    split
    · exact .drops hopen (.refl _) hdata
    · next record raw ref =>
      exact .admits (q := ⟨record, raw, recordType, some (x.ledger stream).nextRecordSeq, reserved,
        some observedNs, stream⟩) hopen (by simpa [allocate, modify] using hfailed)
        (hfresh record raw ref rfl)

theorem produced_writeBase {ρ : Type} {recordType : RecordType} {reserved : Bool}
    {clock : Option Value} {now : Nat} {encode : Nat → Nat → Except PyError (Dict × Bytes × ρ)}
    (hdata : isDataOf .base recordType = true)
    (hfresh : ∀ ns record raw ref, clock.bind (asUint uint64Max) = some ns →
      encode (x.ledger .base).nextRecordSeq ns = .ok (record, raw, ref) →
      Fresh cfg x call ⟨record, raw, recordType, some (x.ledger .base).nextRecordSeq, reserved,
        some ns, .base⟩) :
    Produced cfg x call (x.writeBase cfg recordType reserved clock now encode).1 := by
  unfold writeBase
  split
  · exact .quiet (.refl x)
  · next hclosed =>
    split
    · exact .quiet ⟨rfl, rfl, rfl, rfl⟩
    · next hclosing =>
      have hopen : Open cfg x .base := ⟨by simpa using hclosing, by simpa using hclosed, nofun⟩
      dsimp only
      split
      · exact .drops hopen ⟨rfl, rfl, rfl, rfl⟩ hdata
      · next ns hns =>
        exact produced_writeRecord hopen hdata fun record raw ref => hfresh ns record raw ref hns

theorem line_encodeEvent {draft : EventDraft} {seq ns : Nat} {record : Dict} {raw : Bytes}
    {ref : RecordRef} (h : encodeEvent cfg draft seq ns = .ok (record, raw, ref)) :
    lineOf .base record = .ok raw := by
  simp only [encodeEvent, bind_eq_ok, pure_eq_ok, Prod.mk.injEq] at h
  obtain ⟨_, -, line, hraw, rfl, rfl, -⟩ := h
  exact hraw

theorem line_encodeEdge {draft : EdgeDraft} {seq : Nat} {record : Dict} {raw : Bytes}
    {ref : RecordRef} (h : encodeEdge cfg draft seq = .ok (record, raw, ref)) :
    lineOf .base record = .ok raw := by
  simp only [encodeEdge, bind_eq_ok, pure_eq_ok, Prod.mk.injEq] at h
  obtain ⟨_, -, line, hraw, rfl, rfl, -⟩ := h
  exact hraw

theorem line_encodeProfile {config : KVRecoveryProfileConfig} {recordType : ProfileRecordType}
    {seq ns : Nat} {fields record : Dict} {raw : Bytes} {ref : ProfileRecordRef}
    (h : encodeProfile cfg config recordType seq ns fields = .ok (record, raw, ref)) :
    lineOf .profile record = .ok raw := by
  simp only [encodeProfile, bind_eq_ok, pure_eq_ok, Prod.mk.injEq] at h
  obtain ⟨_, -, line, hraw, rfl, rfl, -⟩ := h
  exact hraw

/-- **What a call does to the exporter.** -/
theorem produced_call (cfg : Config) (x : Exporter) (now : Nat) (call : TraceSink.Call) :
    Produced cfg x call (call.run cfg x now) := by
  cases call with
  | event draft clock =>
    refine produced_writeBase rfl fun ns record raw ref hns h =>
      ⟨rfl, rfl, line_encodeEvent h, markOf_encodeEvent h, fun hreserved => ?_⟩
    exact ⟨rfl, draft, clock, ns, ref, rfl, of_decide_eq_true hreserved, hns, h⟩
  | edge draft clock =>
    exact produced_writeBase rfl fun ns record raw ref _ h =>
      ⟨rfl, rfl, line_encodeEdge h, markOf_encodeEdge h, nofun⟩
  | profile recordType timestampNs fields clock =>
    unfold TraceSink.Call.run writeKvRecoveryProfile
    dsimp only
    split
    · exact .quiet (.refl x)
    · next hclosed =>
      split
      · exact .quiet ⟨rfl, rfl, rfl, rfl⟩
      · next config hconfig =>
        split
        · exact .quiet ⟨rfl, rfl, rfl, rfl⟩
        · next hclosing =>
          have hopen : Open cfg x .profile :=
            ⟨by simpa using hclosing, by simpa using hclosed, fun _ => by rw [hconfig]; rfl⟩
          split
          · exact .quiet (.refl x)
          · split
            · exact .drops hopen (.refl _) rfl
            · exact produced_writeRecord hopen rfl fun record raw ref h =>
                ⟨rfl, rfl, line_encodeProfile h, markOf_encodeProfile h, nofun⟩
  | drop recordType timestampNs reason clock =>
    unfold TraceSink.Call.run dropKvRecoveryProfile
    dsimp only
    split
    · exact .quiet (.refl x)
    · next hopen =>
      simp only [not_or, Bool.not_eq_true, Option.isNone_eq_false_iff] at hopen
      split
      · exact .quiet (.refl x)
      · exact .drops ⟨hopen.2.1, hopen.1, fun _ => hopen.2.2⟩ (.refl _) rfl
  | span =>
    unfold TraceSink.Call.run newSpanId
    dsimp only
    split
    · exact .quiet (.refl x)
    · exact .quiet ⟨rfl, rfl, rfl, rfl⟩
  | diagnostic reason =>
    unfold TraceSink.Call.run deferDiagnostic
    dsimp only
    split
    · exact .quiet (.refl x)
    · exact .quiet ⟨rfl, rfl, rfl, rfl⟩

end Exporter
end LifecycleProfiler.Sink
