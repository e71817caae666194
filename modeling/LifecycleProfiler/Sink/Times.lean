import LifecycleProfiler.Sink.Held

/-! # The observation times of loss intervals

A loss interval tells when its first and its last record were lost. The builder
of base intervals compares the two times and the builder of profile intervals
does not, so what keeps the latter in order are the times the callers pass. -/

namespace LifecycleProfiler.Sink
open Python Protocol

/-- The last observation time of a loss interval record is not before its first. -/
def Chronological (record : Dict) : Prop :=
  record.get "record_type" = .str "loss_interval" → ∀ first last : Int,
    record.get "first_observed_timestamp_ns" = .int first →
    record.get "last_observed_timestamp_ns" = .int last → first ≤ last

/-- The open interval has its times in order. -/
def OpenLoss.Forward (loss : OpenLoss) : Prop := loss.firstTimestampNs ≤ loss.lastTimestampNs

namespace Exporter
variable {cfg : Config} {x y : Exporter}

/-! ## Records -/

theorem chronological_of_type {record : Dict} {name : String}
    (h : record.get "record_type" = .str name) (hne : name ≠ "loss_interval") :
    Chronological record :=
  fun htype => absurd (Value.str.inj (h.symm.trans htype)) hne

theorem chronological_of_mark {record : Dict} {recordType : RecordType} {seq : Int}
    (h : markOf record = some (.data recordType seq)) : Chronological record := by
  intro htype
  unfold markOf at h
  rw [htype] at h
  dsimp only at h
  rw [if_pos rfl] at h
  split at h <;> cases h

theorem chronological_lossRecord {stream : StreamId} {lossSeq : Nat} {loss : OpenLoss}
    {record : Dict} {raw : Bytes} (hforward : stream = .profile → loss.Forward)
    (h : lossRecord cfg stream lossSeq loss = .ok (record, raw)) : Chronological record := by
  cases stream with
  | base =>
    simp only [lossRecord, buildLossIntervalRecord, bind_eq_ok, exists_unit, raiseIf_eq_ok,
      decide_eq_false_iff_not, not_lt, pure_eq_ok, Prod.mk.injEq] at h
    obtain ⟨_, ⟨-, -, -, -, -, -, -, -, -, -, hle, -, rfl⟩, line, -, rfl, -⟩ := h
    intro _ first last hfirst hlast
    cases hfirst
    cases hlast
    exact_mod_cast hle
  | profile =>
    simp only [lossRecord, buildProfileLossIntervalRecord, bind_eq_ok, pure_eq_ok,
      Prod.mk.injEq] at h
    obtain ⟨_, ⟨-, -, -, -, -, -, -, -, -, -, -, -, -, -, -, -, -, -, rfl⟩, line, -, rfl, -⟩ := h
    intro _ first last hfirst hlast
    cases hfirst
    cases hlast
    exact_mod_cast hforward rfl

theorem chronological_summaryRecord {stream : StreamId} {endedNs : Value}
    {closeOutcome : CloseOutcome} {record : Dict} {raw : Bytes}
    (h : x.summaryRecord cfg stream endedNs closeOutcome = .ok (record, raw)) :
    Chronological record := by
  cases stream with
  | base =>
    simp only [summaryRecord, buildProcessSummaryRecord, bind_eq_ok, pure_eq_ok,
      Prod.mk.injEq] at h
    obtain ⟨_, ⟨-, -, -, -, -, -, -, -, -, -, -, -, -, -, -, -, -, -, -, -, -, -, rfl⟩,
      line, -, rfl, -⟩ := h
    exact chronological_of_type rfl (by decide)
  | profile =>
    simp only [summaryRecord, buildProfileSummaryRecord, bind_eq_ok, pure_eq_ok,
      Prod.mk.injEq] at h
    obtain ⟨_, ⟨-, -, -, -, -, -, -, -, -, -, -, -, -, -, -, -, -, -, -, -, -, -, -, -, rfl⟩, line,
      -, rfl, -⟩ := h
    exact chronological_of_type rfl (by decide)

theorem chronological_startRecords {pid : Nat} {startedNs : Value} {stream : StreamId}
    {record : Dict} {raw : Bytes}
    (h : TraceSink.startRecords cfg pid startedNs stream = .ok (record, raw)) :
    Chronological record := by
  unfold TraceSink.startRecords at h
  split at h
  · simp only [buildProfileStartRecord, bind_eq_ok, pure_eq_ok, Prod.mk.injEq] at h
    obtain ⟨_, ⟨-, -, -, -, -, -, -, -, -, -, rfl⟩, line, -, rfl, -⟩ := h
    exact chronological_of_type rfl (by decide)
  · simp only [buildProcessStartRecord, bind_eq_ok, pure_eq_ok, Prod.mk.injEq] at h
    obtain ⟨_, ⟨-, -, -, -, -, -, -, -, rfl⟩, line, -, rfl, -⟩ := h
    exact chronological_of_type rfl (by decide)

/-! ## The open interval -/

/-- What is pending is chronological, and so is the open interval of the profile,
which ends the numbers of its stream. -/
structure Timely (x : Exporter) : Prop where
  pending : ∀ q ∈ x.pending, Chronological q.record
  forward : ∀ loss, (x.ledger .profile).openLoss = some loss → loss.Forward
  ends : ∀ loss, (x.ledger .profile).openLoss = some loss →
    loss.lastRecordSeq + 1 = (x.ledger .profile).nextRecordSeq

theorem mem_own {q : Queued} : q ∈ x.own q.stream ↔ q ∈ x.pending := by
  simp [own]

/-- What is pending of each stream is what is pending. -/
theorem pending_of_own {P : Queued → Prop} (h : ∀ t, ∀ q ∈ x.own t, P q) :
    ∀ q ∈ x.pending, P q := fun q hq => h q.stream q (mem_own.mpr hq)

theorem own_subset {t : StreamId} {q : Queued} (h : q ∈ x.own t) : q ∈ x.pending :=
  (List.mem_filter.mp h).1

/-- Sealing adds the record of the open interval. -/
theorem Seals.chronological {stream : StreamId} (h : Seals cfg stream x y)
    (hpending : ∀ q ∈ x.pending, Chronological q.record)
    (hforward : stream = .profile → ∀ loss, (x.ledger stream).openLoss = some loss → loss.Forward) :
    ∀ q ∈ y.pending, Chronological q.record := by
  refine pending_of_own fun t q hq => ?_
  by_cases ht : t = stream
  · subst ht
    rcases h.outcome with ⟨-, hown, -⟩ | ⟨-, hown, -⟩ | ⟨loss, record, raw, hloss, hrecord, hown, -⟩
    · exact hpending q (own_subset (hown ▸ hq))
    · exact hpending q (own_subset (hown ▸ hq))
    · rw [hown] at hq
      rcases List.mem_append.mp hq with hq | hq
      · exact hpending q (own_subset hq)
      · rw [List.mem_singleton.mp hq]
        exact chronological_lossRecord (fun hprofile => hforward hprofile loss hloss) hrecord
  · exact hpending q (own_subset ((h.others t ht).own ▸ hq))

/-- Losing a record adds the interval before it at most. -/
theorem Loses.chronological {stream : StreamId} {recordSeq : Nat} {recordType : RecordType}
    {reason : LossReason} {observedNs : Nat}
    (h : Loses cfg stream recordSeq recordType reason observedNs x y)
    (hpending : ∀ q ∈ x.pending, Chronological q.record)
    (hforward : stream = .profile → ∀ loss, (x.ledger stream).openLoss = some loss → loss.Forward) :
    ∀ q ∈ y.pending, Chronological q.record := by
  refine pending_of_own fun t q hq => ?_
  by_cases ht : t = stream
  · subst ht
    rcases h.outcome with ⟨-, -, -, -, hown, -, -⟩ | ⟨-, z, hseals, hown, -, -⟩
    · exact hpending q (own_subset (hown ▸ hq))
    · exact hseals.chronological hpending hforward q (own_subset (hown ▸ hq))
  · exact hpending q (own_subset ((h.others t ht).own ▸ hq))

theorem allocate_openLoss (x : Exporter) (stream : StreamId) :
    ((x.allocate stream).ledger stream).openLoss = (x.ledger stream).openLoss := by
  rw [allocate, modify_ledger, if_pos rfl]

/-- A call adds data records, and the interval before them at most. -/
theorem Advances.chronological {call : TraceSink.Call} {t : StreamId}
    (h : Advances cfg call x y t) (hx : Timely x) : ∀ q ∈ y.own t, Chronological q.record := by
  have hforward : t = .profile → ∀ loss, ((x.allocate t).ledger t).openLoss = some loss →
      loss.Forward := by
    rintro rfl loss hloss
    exact hx.forward loss (allocate_openLoss x _ ▸ hloss)
  have hsealed : ∀ q ∈ ((x.allocate t).sealLoss cfg t).pending, Chronological q.record :=
    (seals cfg (x.allocate t) t).chronological hx.pending hforward
  intro q hq
  cases h with
  | same h => exact hx.pending q (own_subset (h.own ▸ hq))
  | loses _ hx₁ hl =>
    refine hl.chronological (fun p hp => hx.pending p ?_) (fun ht loss hloss => ?_) q
      (own_subset hq)
    · rwa [pending, hx₁.inflight, hx₁.queue] at hp
    · exact hforward ht loss (by rwa [hx₁.ledger] at hloss)
  | refuses _ _ _ _ _ _ hl =>
    refine hl.chronological hsealed (fun _ loss hloss => ?_) q (own_subset hq)
    rw [(seals cfg (x.allocate t) t).openLoss] at hloss
    cases hloss
  | admits hstream _ hfresh he =>
    subst hstream
    rw [he.own] at hq
    rcases List.mem_append.mp hq with hq | hq
    · exact hsealed q (own_subset hq)
    · rw [List.mem_singleton.mp hq]
      exact chronological_of_mark hfresh.mark

/-! ## Calls on the profile -/

/-- The reason for which a profile call loses its record, and the time it passes
on. A record that is refused only after the losses before it have been sealed is
not meant: no interval is open then. -/
def lossOf (cfg : Config) (x : Exporter) (now : Nat) : TraceSink.Call → Option (LossReason × Nat)
  | .profile recordType timestampNs fields clock =>
    match cfg.profileConfig with
    | none => none
    | some config =>
      if x.closed ∨ x.closing ∨ uint64Max < (x.ledger .profile).nextRecordSeq then none
      else match asUint uint64Max timestampNs with
        | none => some (.serializationFailure, profileFallbackTimestamp clock now)
        | some ns =>
          if x.writerFailed then some (.writerFailure, ns)
          else match encodeProfile cfg config recordType
            (x.ledger .profile).nextRecordSeq ns fields with
            | .error _ => some (.serializationFailure, ns)
            | .ok (_, raw, _) =>
              if (x.allocate .profile).canEnqueue raw false .profile then none
              else some (.queueOverflow, ns)
  | .drop _ timestampNs reason clock =>
    if x.closed ∨ x.closing ∨ cfg.profileConfig.isNone ∨
        uint64Max < (x.ledger .profile).nextRecordSeq then none
    else some (reason, (asUint uint64Max timestampNs).getD (profileFallbackTimestamp clock now))
  | _ => none

/-- What a call does to the profile: nothing, or the next number is given out and
lost for the reason above, lost with no interval open, or accepted. -/
inductive OnProfile (cfg : Config) (x : Exporter) (now : Nat) (call : TraceSink.Call)
    (y : Exporter) : Prop where
  | same (hloss : lossOf cfg x now call = none) (h : SameStream .profile x y)
  | loses {recordType : RecordType} {reason : LossReason} {ns : Nat}
      (hloss : lossOf cfg x now call = some (reason, ns))
      (h : Loses cfg .profile (x.ledger .profile).nextRecordSeq recordType reason ns
        (x.allocate .profile) y)
  | refuses {recordType : RecordType} {ns : Nat} (hloss : lossOf cfg x now call = none)
      (h : Loses cfg .profile (x.ledger .profile).nextRecordSeq recordType .queueOverflow ns
        ((x.allocate .profile).sealLoss cfg .profile) y)
  | admits {q : Queued} (hloss : lossOf cfg x now call = none) (hstream : q.stream = .profile)
      (h : Enqueued ((x.allocate .profile).sealLoss cfg .profile) y q)

/-- A base record leaves the profile alone. -/
theorem sameStream_writeBase {ρ : Type} {recordType : RecordType} {reserved : Bool}
    {clock : Option Value} {now : Nat} {encode : Nat → Nat → Except PyError (Dict × Bytes × ρ)} :
    SameStream .profile x (x.writeBase cfg recordType reserved clock now encode).1 := by
  have hallocated : SameStream .profile x (x.allocate .base) :=
    ⟨rfl, allocate_ledger_of_ne x nofun⟩
  have hloses : ∀ {z : Exporter} {recordSeq observedNs : Nat} {recordType : RecordType}
      {reason : LossReason}, SameStream .profile x z →
      SameStream .profile x (z.noteDrop cfg .base recordSeq recordType reason observedNs) :=
    fun hz => hz.trans ((loses ..).others .profile nofun)
  unfold writeBase
  split
  · exact .refl _ x
  split
  · exact ⟨rfl, rfl⟩
  dsimp only
  split
  · exact hloses (hallocated.trans ⟨rfl, rfl⟩)
  unfold writeRecord
  split
  · exact hloses hallocated
  split
  · exact hloses hallocated
  unfold admitOrLose
  dsimp only
  have hsealed : SameStream .profile x ((x.allocate .base).sealLoss cfg .base) :=
    hallocated.trans ((seals cfg _ .base).others .profile nofun)
  split
  · exact hloses hallocated
  split
  · exact hloses hsealed
  · next hadmitted => exact hsealed.trans ((enqueued hadmitted).others .profile nofun)

/-- A profile record of a sink that takes records. -/
theorem onProfile_open {now : Nat} {config : KVRecoveryProfileConfig}
    {recordType : ProfileRecordType} {timestampNs : Value} {fields : Dict} {clock : Option Value}
    (hconfig : cfg.profileConfig = some config)
    (hopen : ¬ (x.closed ∨ x.closing ∨ uint64Max < (x.ledger .profile).nextRecordSeq)) :
    OnProfile cfg x now (.profile recordType timestampNs fields clock)
      (match asUint uint64Max timestampNs with
        | none =>
          ((x.allocate .profile).noteDrop cfg .profile (x.ledger .profile).nextRecordSeq
            (.data recordType) .serializationFailure (profileFallbackTimestamp clock now),
            (none : Option ProfileRecordRef))
        | some observedNs =>
          (x.allocate .profile).writeRecord cfg .profile (x.ledger .profile).nextRecordSeq
            (.data recordType) false observedNs (encodeProfile cfg config recordType
              (x.ledger .profile).nextRecordSeq observedNs fields)).1 := by
  have hloss : lossOf cfg x now (.profile recordType timestampNs fields clock) =
      match asUint uint64Max timestampNs with
      | none => some (.serializationFailure, profileFallbackTimestamp clock now)
      | some ns =>
        if x.writerFailed then some (.writerFailure, ns)
        else match encodeProfile cfg config recordType
          (x.ledger .profile).nextRecordSeq ns fields with
          | .error _ => some (.serializationFailure, ns)
          | .ok (_, raw, _) =>
            if (x.allocate .profile).canEnqueue raw false .profile then none
            else some (.queueOverflow, ns) := by
    rw [lossOf, hconfig]
    exact if_neg hopen
  cases hns : asUint uint64Max timestampNs with
  | none =>
    rw [hns] at hloss
    exact .loses hloss (loses ..)
  | some ns =>
    rw [hns] at hloss
    dsimp only at hloss ⊢
    unfold writeRecord
    have hfailed : (x.allocate .profile).writerFailed = x.writerFailed := rfl
    rw [hfailed]
    split
    · next hfailed => exact .loses (hloss.trans (if_pos hfailed)) (loses ..)
    · next hfailed =>
      rw [if_neg hfailed] at hloss
      cases hencoded : encodeProfile cfg config recordType (x.ledger .profile).nextRecordSeq ns
          fields with
      | error e =>
        rw [hencoded] at hloss
        exact .loses hloss (loses ..)
      | ok encoded =>
        obtain ⟨record, raw, reference⟩ := encoded
        rw [hencoded] at hloss
        dsimp only at hloss ⊢
        unfold admitOrLose
        dsimp only
        cases hcan : (x.allocate .profile).canEnqueue raw false .profile with
        | false =>
          rw [hcan] at hloss
          exact .loses hloss (loses ..)
        | true =>
          rw [hcan] at hloss
          rw [Bool.not_true, if_neg Bool.false_ne_true]
          split
          · exact .refuses hloss (loses ..)
          · next hadmitted => exact .admits hloss rfl (enqueued hadmitted)

theorem onProfile_call (cfg : Config) (x : Exporter) (now : Nat) (call : TraceSink.Call) :
    OnProfile cfg x now call (call.run cfg x now) := by
  cases call with
  | event draft clock => exact .same rfl sameStream_writeBase
  | edge draft clock => exact .same rfl sameStream_writeBase
  | profile recordType timestampNs fields clock =>
    unfold TraceSink.Call.run writeKvRecoveryProfile
    dsimp only
    split
    · next hclosed =>
      refine .same ?_ (.refl _ x)
      rw [lossOf]
      split
      · rfl
      · exact if_pos (.inl hclosed)
    · next hclosed =>
      split
      · next hconfig => exact .same (by rw [lossOf, hconfig]) ⟨rfl, rfl⟩
      · next config hconfig =>
        split
        · next hclosing =>
          refine .same ?_ ⟨rfl, rfl⟩
          rw [lossOf, hconfig]
          exact if_pos (.inr (.inl hclosing))
        · next hclosing =>
          split
          · next hfull =>
            refine .same ?_ (.refl _ x)
            rw [lossOf, hconfig]
            exact if_pos (.inr (.inr hfull))
          · next hfull =>
            have hopen : ¬ (x.closed ∨ x.closing ∨
              uint64Max < (x.ledger .profile).nextRecordSeq) := by
              simp only [not_or]
              exact ⟨hclosed, hclosing, hfull⟩
            exact onProfile_open hconfig hopen
  | drop recordType timestampNs reason clock =>
    unfold TraceSink.Call.run dropKvRecoveryProfile
    dsimp only
    split
    · next hclosed =>
      refine .same (if_pos ?_) (.refl _ x)
      rcases hclosed with h | h | h
      · exact .inl h
      · exact .inr (.inl h)
      · exact .inr (.inr (.inl h))
    · next hopen =>
      split
      · next hfull => exact .same (if_pos (.inr (.inr (.inr hfull)))) (.refl _ x)
      · next hfull =>
        simp only [not_or] at hopen
        refine .loses (if_neg ?_) (loses ..)
        simp only [not_or]
        exact ⟨hopen.1, hopen.2.1, hopen.2.2, hfull⟩
  | span =>
    refine .same rfl ?_
    unfold TraceSink.Call.run newSpanId
    dsimp only
    split <;> exact ⟨rfl, rfl⟩
  | diagnostic reason =>
    refine .same rfl ?_
    unfold TraceSink.Call.run deferDiagnostic
    dsimp only
    split <;> exact ⟨rfl, rfl⟩

/-- The call extends the open interval of the profile, with a time before the
first one of that interval. -/
def backdates (cfg : Config) (x : Exporter) (now : Nat) (call : TraceSink.Call) : Bool :=
  match (x.ledger .profile).openLoss, lossOf cfg x now call with
  | some loss, some (reason, ns) => loss.reason = reason && ns < loss.firstTimestampNs
  | _, _ => false

theorem allocate_next (x : Exporter) : ((x.allocate .profile).ledger .profile).nextRecordSeq =
    (x.ledger .profile).nextRecordSeq + 1 := allocate_nextRecordSeq x .profile

/-- What losing a record does to the open interval of the profile. -/
theorem Loses.opened {recordType : RecordType} {reason : LossReason} {ns n : Nat}
    (h : Loses cfg .profile n recordType reason ns x y)
    (hends : ∀ loss, (x.ledger .profile).openLoss = some loss → loss.lastRecordSeq + 1 = n) :
    (∃ loss, (x.ledger .profile).openLoss = some loss ∧ loss.reason = reason ∧
      (y.ledger .profile).openLoss = some (OpenLoss.extend loss n recordType ns)) ∨
    ((∀ loss, (x.ledger .profile).openLoss = some loss → loss.reason ≠ reason) ∧
      (y.ledger .profile).openLoss = some (newLoss n recordType reason ns)) := by
  rcases h.outcome with ⟨loss, hloss, hreason, -, -, hopened, -⟩ | ⟨hother, -, -, -, hopened, -⟩
  · exact .inl ⟨loss, hloss, hreason, hopened⟩
  · exact .inr ⟨fun loss hloss hreason => hother loss hloss hreason
      (hends loss hloss).symm, hopened⟩

theorem Timely.ends_allocate (h : Timely x) (loss : OpenLoss)
    (hloss : ((x.allocate .profile).ledger .profile).openLoss = some loss) :
    loss.lastRecordSeq + 1 = (x.ledger .profile).nextRecordSeq :=
  h.ends loss (allocate_openLoss x _ ▸ hloss)

/-- A call that backdates no interval keeps the open interval in order. -/
theorem Timely.call {now : Nat} {call : TraceSink.Call} (h : Timely x)
    (hok : x.backdates cfg now call = false) : Timely (call.run cfg x now) := by
  have hpending : ∀ q ∈ (call.run cfg x now).pending, Chronological q.record :=
    pending_of_own fun t => ((produced_call cfg x now call).advances t).chronological h
  have hnew : ∀ {y : Exporter} {recordType : RecordType} {reason : LossReason} {ns : Nat},
      (∀ q ∈ y.pending, Chronological q.record) →
      (y.ledger .profile).nextRecordSeq = (x.ledger .profile).nextRecordSeq + 1 →
      (y.ledger .profile).openLoss =
        some (newLoss (x.ledger .profile).nextRecordSeq recordType reason ns) → Timely y := by
    intro y recordType reason ns hp hnext hopened
    refine ⟨hp, fun loss hloss => ?_, fun loss hloss => ?_⟩
    all_goals obtain rfl := Option.some.inj (hopened.symm.trans hloss)
    · exact Nat.le_refl ns
    · exact hnext.symm
  generalize hy : call.run cfg x now = y at hpending
  have honprofile := hy ▸ onProfile_call cfg x now call
  cases honprofile with
  | same _ hsame => exact ⟨hpending, hsame.ledger ▸ h.forward, hsame.ledger ▸ h.ends⟩
  | @loses recordType reason ns hloss hl =>
    have hnext := hl.nextRecordSeq.trans (allocate_next x)
    rcases hl.opened h.ends_allocate with ⟨loss, hopen, rfl, hopened⟩ | ⟨-, hopened⟩
    · rw [allocate_openLoss] at hopen
      rw [backdates, hopen, hloss] at hok
      have hns : loss.firstTimestampNs ≤ ns := by simpa using hok
      refine ⟨hpending, fun extended hextended => ?_, fun extended hextended => ?_⟩
      all_goals obtain rfl := Option.some.inj (hopened.symm.trans hextended)
      · exact hns
      · exact hnext.symm
    · exact hnew hpending hnext hopened
  | refuses _ hl =>
    have hsealed := (seals cfg (x.allocate .profile) .profile)
    have hnone : ∀ loss, (((x.allocate .profile).sealLoss cfg .profile).ledger .profile).openLoss =
        some loss → loss.lastRecordSeq + 1 = (x.ledger .profile).nextRecordSeq := by
      rw [hsealed.openLoss]
      exact nofun
    have hnext := hl.nextRecordSeq.trans (hsealed.nextRecordSeq.trans (allocate_next x))
    rcases hl.opened hnone with ⟨loss, hopen, -⟩ | ⟨-, hopened⟩
    · rw [hsealed.openLoss] at hopen
      cases hopen
    · exact hnew hpending hnext hopened
  | admits _ hstream he =>
    have hopened : (y.ledger .profile).openLoss = none := by
      rw [← hstream, he.openLoss, hstream]
      exact (seals cfg (x.allocate .profile) .profile).openLoss
    refine ⟨hpending, ?_, ?_⟩
    all_goals
      rw [hopened]
      exact nofun

/-- A call that does leaves an open interval that ends before it begins. -/
theorem Timely.backwards {now : Nat} {call : TraceSink.Call} (h : Timely x)
    (hbackdates : x.backdates cfg now call = true) :
    ∃ loss, ((call.run cfg x now).ledger .profile).openLoss = some loss ∧ ¬ loss.Forward := by
  unfold backdates at hbackdates
  split at hbackdates
  · next loss reason ns hopen hloss =>
    obtain ⟨hreason, hns⟩ : loss.reason = reason ∧ ns < loss.firstTimestampNs := by
      simpa using hbackdates
    cases onProfile_call cfg x now call with
    | same hnone _ | refuses hnone _ | admits hnone _ _ => rw [hnone] at hloss; cases hloss
    | loses hsome hl =>
      obtain ⟨rfl, rfl⟩ := Prod.mk.inj (Option.some.inj (hsome.symm.trans hloss))
      rcases hl.opened h.ends_allocate with ⟨loss', hopen', -, hopened⟩ | ⟨hother, -⟩
      · rw [allocate_openLoss, hopen] at hopen'
        obtain rfl := Option.some.inj hopen'
        exact ⟨_, hopened, not_le.mpr hns⟩
      · exact absurd hreason (hother loss ((allocate_openLoss x _).trans hopen))
  · cases hbackdates

/-! ## The other lock scopes -/

theorem Timely.sealLoss (h : Timely x) (stream : StreamId) : Timely (x.sealLoss cfg stream) := by
  have hseals := seals cfg x stream
  have hpending := hseals.chronological h.pending fun ht => ht ▸ h.forward
  cases stream with
  | profile =>
    refine ⟨hpending, ?_, ?_⟩
    all_goals
      rw [hseals.openLoss]
      exact nofun
  | base =>
    have hledger := (hseals.others .profile nofun).ledger
    exact ⟨hpending, hledger ▸ h.forward, hledger ▸ h.ends⟩

theorem Timely.sealOpen (h : Timely x) : Timely (x.sealOpen cfg) := by
  unfold Exporter.sealOpen
  dsimp only
  split
  · exact (h.sealLoss .base).sealLoss .profile
  · exact h.sealLoss .base

theorem TimeoutStage.chronological {observedNs : Nat} {a : Admitted}
    (h : TimeoutStage cfg x observedNs a) (hpending : ∀ q ∈ x.pending, Chronological q.record) :
    a.x.queue = [] ∧ ∀ q ∈ a.controls, Chronological q.record := by
  have hadmits : ∀ {a : Admitted} {q : Queued},
      (a.x.queue = [] ∧ ∀ q ∈ a.controls, Chronological q.record) → Chronological q.record →
      (a.admitControl q).x.queue = [] ∧ ∀ p ∈ (a.admitControl q).controls,
        Chronological p.record := by
    intro a q ha hq
    unfold Admitted.admitControl
    split
    · exact ha
    · refine ⟨ha.1, fun p hp => ?_⟩
      rcases List.mem_append.mp hp with hp | hp
      · exact ha.2 p hp
      · exact List.mem_singleton.mp hp ▸ hq
  induction h with
  | start => exact ⟨rfl, nofun⟩
  | existing _ hq ih => exact hadmits ih (hpending _ (List.mem_filter.mp hq).1)
  | @group a stream g _ hg ih =>
    unfold Admitted.admitGroup timeoutLossControl
    dsimp only
    split
    · next heq =>
      split at heq
      · cases heq
        exact ih
      · cases heq
    · next heq =>
      split at heq
      · cases heq
      · next record raw hrecord =>
        cases heq
        refine hadmits (a := { a with x := _ }) ih (chronological_lossRecord (fun _ => ?_) hrecord)
        exact Nat.le_refl observedNs

theorem chronological_prepareTimeoutControls (observedNs : Nat)
    (hpending : ∀ q ∈ x.pending, Chronological q.record) :
    ∀ q ∈ (x.prepareTimeoutControls cfg observedNs).1.pending, Chronological q.record := by
  obtain ⟨hqueue, hcontrols⟩ :=
    (stage_timeoutAdmission cfg x observedNs).chronological hpending
  intro q hq
  rcases List.mem_append.mp hq with hq | hq
  · exact hcontrols q hq
  · have hempty : q ∈ (x.timeoutAdmission cfg observedNs).x.queue := hq
    rw [hqueue] at hempty
    cases hempty

end Exporter

/-! ## Runs -/

namespace TraceSink

/-- The step is a call that backdates the open interval of the profile. -/
def backdates (cfg : Config) (s : TraceSink) : Action → Bool
  | .produce call => s.x.backdates cfg s.now call
  | _ => false

/-- The step backdates no interval. -/
abbrev KeepsTime (cfg : Config) (s : TraceSink) (action : Action) : Prop :=
  s.backdates cfg action = false

/-- The records in the file of a stream and those that wait for it. -/
def records (s : TraceSink) (t : StreamId) : List Dict :=
  ((s.shard t).lines.filterMap Line.record?) ++ (s.x.own t).map (·.record)

/-- What every step that backdates no interval keeps. -/
structure Timely (s : TraceSink) : Prop where
  held : s.Holds Chronological
  exporter : s.x.Timely

theorem Timely.initial {cfg : Config} {s : TraceSink} (h : Initial cfg s) : Timely s := by
  obtain ⟨pid, startedNs, now, h⟩ := h
  simp only [opened, bind_eq_ok, pure_eq_ok] at h
  obtain ⟨⟨base, baseRaw⟩, hbase, ⟨profile, profileRaw⟩, hprofile, rfl⟩ := h
  refine ⟨⟨fun t line hline record hrecord => ?_, by rintro _ ⟨⟩, by rintro _ ⟨⟩, by rintro _ ⟨⟩⟩,
    by rintro _ ⟨⟩, by simp, by simp⟩
  rw [List.mem_singleton.mp hline] at hrecord
  split at hrecord
  · exact Option.some.inj hrecord ▸ Exporter.chronological_startRecords hbase
  · exact Option.some.inj hrecord ▸ Exporter.chronological_startRecords hprofile

theorem Timely.step {cfg : Config} {s s' : TraceSink} {action : Action} (h : Timely s)
    (haccounted : Accounted s) (hok : KeepsTime cfg s action)
    (hstep : s.step cfg action = some s') :
    Timely s' := by
  have heffect := Effect.of_step hstep
  have hheld : s'.Holds Chronological := by
    refine h.held.effect haccounted (fun call haction => ?_) h.exporter.sealOpen.pending
      (Exporter.chronological_prepareTimeoutControls s.now h.exporter.pending)
      (fun _ _ _ _ _ => Exporter.chronological_summaryRecord) heffect
    subst haction
    exact (h.exporter.call hok).pending
  refine ⟨hheld, hheld.pending, ?_, ?_⟩
  all_goals
    rcases heffect.losses haccounted with hsame | ⟨call, rfl, hx⟩ | hx
  · rw [hsame.openLoss]
    exact h.exporter.forward
  · rw [hx]
    exact (h.exporter.call hok).forward
  · rw [hx]
    exact h.exporter.sealOpen.forward
  · rw [hsame.openLoss, hsame.nextRecordSeq]
    exact h.exporter.ends
  · rw [hx]
    exact (h.exporter.call hok).ends
  · rw [hx]
    exact h.exporter.sealOpen.ends

/-- The run lemma. -/
theorem timely_of_reachable {cfg : Config} {s : TraceSink}
    (h : ReachableWhen cfg (KeepsTime cfg) s) : Timely s :=
  h.invariant_over (fun _ hs => accounted_of_reachable (hs.mono fun _ _ _ => trivial))
    (fun _ => Timely.initial) fun _ _ _ hJ hs hok hstep _ => hs.step hJ hok hstep

end TraceSink

/-- **Observation times.** In every run in which no call backdates the open
interval of the profile, every loss interval that is sealed or open has its
observation times in order; and a call that does backdate it leaves it open with
its last time before its first. -/
theorem profile_loss_times_forward {cfg : Config} {s : TraceSink}
    (h : TraceSink.ReachableWhen cfg (TraceSink.KeepsTime cfg) s) :
    (∀ t, ∀ record ∈ s.records t, Chronological record) ∧
    (∀ loss, (s.x.ledger .profile).openLoss = some loss → loss.Forward) ∧
    ∀ call s', s.step cfg (.produce call) = some s' → ¬ TraceSink.KeepsTime cfg s (.produce call) →
      ∃ loss, (s'.x.ledger .profile).openLoss = some loss ∧ ¬ loss.Forward := by
  have htimely := TraceSink.timely_of_reachable h
  refine ⟨fun t record hrecord => ?_, htimely.exporter.forward, fun call s' hstep hbackdates => ?_⟩
  · rcases List.mem_append.mp hrecord with hrecord | hrecord
    · obtain ⟨line, hline, hread⟩ := List.mem_filterMap.mp hrecord
      exact htimely.held.lines t line hline record hread
    · obtain ⟨q, hq, rfl⟩ := List.mem_map.mp hrecord
      exact htimely.exporter.pending q (Exporter.own_subset hq)
  · have hx : s'.x = call.run cfg s.x s.now := by
      simp only [TraceSink.step, TraceSink.locked] at hstep
      split at hstep
      · cases hstep
        rfl
      · cases hstep
    rw [hx]
    exact htimely.exporter.backwards (Bool.eq_true_of_not_eq_false hbackdates)

/-- Read off a record that its times run backwards. -/
def runsBackwards (record : Dict) : Bool :=
  match record.get "record_type", record.get "first_observed_timestamp_ns",
      record.get "last_observed_timestamp_ns" with
  | .str kind, .int first, .int last => kind = "loss_interval" && last < first
  | _, _, _ => false

theorem not_chronological {record : Dict} (h : runsBackwards record = true) :
    ¬ Chronological record := by
  intro hchronological
  unfold runsBackwards at h
  split at h
  · next kind first last hkind hfirst hlast =>
    rw [Bool.and_eq_true, decide_eq_true_eq, decide_eq_true_eq] at h
    obtain ⟨rfl, hless⟩ := h
    have hle := hchronological hkind first last hfirst hlast
    omega
  · cases h

namespace Sample

def drop (timestampNs : Int) : TraceSink.Action :=
  .produce (.drop .recoveryEvent (.int timestampNs) .serializationFailure none)

/-- Two losses of one reason and then the first scope of `close()`. -/
def dropped (first second : Int) : TraceSink :=
  General.run (TraceSink.step cfg) start (writer 2 ++ [drop first, drop second] ++ closer 4)

end Sample

/-- The interval of two losses in the order of their times. -/
theorem profile_loss_times_forward_dropped :
    (Sample.dropped 5 10).x.pending.length = 1 ∧
      ∀ record ∈ (Sample.dropped 5 10).records .profile, Chronological record := by
  have h : TraceSink.ReachableWhen Sample.cfg (TraceSink.KeepsTime Sample.cfg)
      (Sample.dropped 5 10) := (General.Reach.init Sample.initial_start).run (by decide +kernel)
  exact ⟨by decide +kernel, (profile_loss_times_forward h).1 .profile⟩

/-- The interval of two losses, the second with the earlier time. -/
theorem backdated_interval_sealed :
    ¬ ∀ (cfg : Config) (s : TraceSink), TraceSink.Reachable cfg s →
      ∀ record ∈ s.records .profile, Chronological record := by
  intro hclaim
  have h : TraceSink.Reachable Sample.cfg (Sample.dropped 10 5) :=
    (General.Reach.init Sample.initial_start).run (.of_forall (fun _ _ => trivial) _ _)
  have hany : ((Sample.dropped 10 5).records .profile).any runsBackwards = true := by
    decide +kernel
  obtain ⟨record, hrecord, hbackwards⟩ := List.any_eq_true.mp hany
  exact not_chronological hbackwards (hclaim _ _ h record hrecord)

end LifecycleProfiler.Sink
