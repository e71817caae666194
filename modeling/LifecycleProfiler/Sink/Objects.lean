import LifecycleProfiler.Protocol.Numbers
import LifecycleProfiler.Python.RoundTrip
import LifecycleProfiler.Sink.Times

/-! # Records as Python objects

Every record a sink builds is an object that its line can be read back into,
and names the process of the sink, as long as the mappings its callers pass are
Python objects. -/

namespace LifecycleProfiler.Sink
open Python Protocol Json

/-- What is passed to the sink are Python objects: their dictionaries repeat no
key, and their floats have the texts Python gives them. -/
def TraceSink.Call.Passes (readFloat : ReadFloat) : TraceSink.Call → Prop
  | .event draft _ => Lawful readFloat (.dict (draft.metadata.getD []))
  | .profile _ _ fields _ => Lawful readFloat (.dict fields)
  | _ => True

/-- The keys in front of the fields of a profile row. -/
def profileHeader : List String :=
  ["schema", "record_type", "process_uuid", "record_seq", "record_id", "run_id", "timestamp_ns",
   "clock_domain_id", "profile_id"]

/-- An object of the process of the sink. -/
structure Owned (cfg : Config) (readFloat : ReadFloat) (record : Dict) : Prop where
  lawful : Lawful readFloat (.dict record)
  process : record.get "process_uuid" = .str cfg.processUuid

section Owned
variable {cfg : Config} {readFloat : ReadFloat}

@[simp] theorem lawful_str (s : String) : Lawful readFloat (.str s) := trivial

@[simp] theorem lawful_int (n : Int) : Lawful readFloat (.int n) := trivial

@[simp] theorem lawful_none : Lawful readFloat .none := trivial

@[simp] theorem lawful_optStr (s : Option String) : Lawful readFloat (optStr s) := by
  cases s <;> exact trivial

@[simp] theorem lawful_strs (xs : List String) : Lawful readFloat (.list (xs.map .str)) := by
  rw [lawful_list]
  intro x hx
  obtain ⟨s, -, rfl⟩ := List.mem_map.mp hx
  exact lawful_str s

@[simp] theorem lawful_firstSeq (n : Nat) : Lawful readFloat (firstSeq n) := by
  unfold firstSeq
  split <;> exact trivial

@[simp] theorem lawful_lastSeq (n : Nat) : Lawful readFloat (lastSeq n) := by
  unfold lastSeq
  split <;> exact trivial

@[simp] theorem lawful_exporterLimits : Lawful readFloat (.dict exporterLimits) := by
  simp [lawful_dict, exporterLimits]

@[simp] theorem lawful_profileLimits : Lawful readFloat (.dict profileLimits) := by
  simp [lawful_dict, profileLimits]

theorem lawful_of_uint {fieldName : String} {v : Value} {maximum : Nat} {u : Unit}
    (h : requireUint fieldName v maximum = .ok u) : Lawful readFloat v := by
  obtain ⟨n, rfl, -⟩ := requireUint_eq_ok.mp h
  exact trivial

theorem lawful_of_checkUint {fieldName : String} {v : Value} {maximum : Nat} {u : Unit}
    (h : checkUint v maximum fieldName = .ok u) : Lawful readFloat v := by
  rw [checkUint, raiseIf_eq_ok, Option.isNone_eq_false_iff, Option.isSome_iff_exists] at h
  obtain ⟨n, hn⟩ := h
  rw [(asUint_eq_some.mp hn).1]
  exact trivial

theorem lawful_number {v : Value} {maximum : Nat}
    (h : v = .none ∨ ∃ n : Nat, v = .int n ∧ n ≤ maximum) : Lawful readFloat v := by
  rcases h with rfl | ⟨n, rfl, -⟩ <;> exact trivial

/-! ## The records of the builders -/

theorem owned_startRecords {pid : Nat} {startedNs : Value} {stream : StreamId}
    {record : Dict} {raw : Bytes}
    (h : TraceSink.startRecords cfg pid startedNs stream = .ok (record, raw)) :
    Owned cfg readFloat record := by
  unfold TraceSink.startRecords at h
  split at h
  · simp only [buildProfileStartRecord, bind_eq_ok, pure_eq_ok, Prod.mk.injEq] at h
    obtain ⟨_, ⟨-, -, -, -, u, hstarted, -, -, -, -, rfl⟩, line, -, rfl, -⟩ := h
    refine ⟨lawful_dict.mpr ⟨by simp, ?_⟩, rfl⟩
    simp [lawful_of_checkUint hstarted]
  · simp only [buildProcessStartRecord, bind_eq_ok, pure_eq_ok, Prod.mk.injEq] at h
    obtain ⟨_, ⟨-, -, -, -, u, hstarted, -, -, rfl⟩, line, -, rfl, -⟩ := h
    refine ⟨lawful_dict.mpr ⟨by simp, ?_⟩, rfl⟩
    simp [lawful_of_uint hstarted]

theorem owned_lossRecord {stream : StreamId} {lossSeq : Nat} {loss : OpenLoss}
    {record : Dict} {raw : Bytes}
    (h : Exporter.lossRecord cfg stream lossSeq loss = .ok (record, raw)) :
    Owned cfg readFloat record := by
  cases stream with
  | base =>
    simp only [Exporter.lossRecord, buildLossIntervalRecord, bind_eq_ok, pure_eq_ok,
      Prod.mk.injEq] at h
    obtain ⟨_, ⟨-, -, -, -, -, -, -, -, -, -, -, -, -, -, -, -, -, -, -, -, -, -, -, -, rfl⟩, line,
      -, rfl, -⟩ := h
    exact ⟨lawful_dict.mpr (by simp), rfl⟩
  | profile =>
    simp only [Exporter.lossRecord, buildProfileLossIntervalRecord, bind_eq_ok, pure_eq_ok,
      Prod.mk.injEq] at h
    obtain ⟨_, ⟨-, -, -, -, -, -, -, -, -, -, -, -, -, -, -, -, -, -, rfl⟩, line, -, rfl, -⟩ := h
    exact ⟨lawful_dict.mpr (by simp), rfl⟩

theorem owned_summaryRecord {x : Exporter} {stream : StreamId} {endedNs : Value}
    {closeOutcome : CloseOutcome} {record : Dict} {raw : Bytes}
    (h : x.summaryRecord cfg stream endedNs closeOutcome = .ok (record, raw)) :
    Owned cfg readFloat record := by
  cases stream with
  | base =>
    simp only [Exporter.summaryRecord, buildProcessSummaryRecord, bind_eq_ok, pure_eq_ok,
      Prod.mk.injEq] at h
    obtain ⟨_, ⟨-, -, u, hended, -, -, -, -, -, -, -, -, -, -, -, -, -, -, -, -, -, -, rfl⟩,
      line, -, rfl, -⟩ := h
    exact ⟨lawful_dict.mpr (by simp [lawful_of_uint hended]), rfl⟩
  | profile =>
    simp only [Exporter.summaryRecord, buildProfileSummaryRecord, bind_eq_ok, pure_eq_ok,
      Prod.mk.injEq] at h
    obtain ⟨_, ⟨-, -, -, -, -, -, -, -, -, -, u, hended, -, -, -, -, -, -, -, -, -, -, -, -, rfl⟩,
      line, -, rfl, -⟩ := h
    exact ⟨lawful_dict.mpr (by simp [lawful_of_checkUint hended]), rfl⟩

theorem owned_encodeEvent {draft : EventDraft} {seq ns : Nat} {record : Dict} {raw : Bytes}
    {ref : RecordRef} (hmetadata : Lawful readFloat (.dict (draft.metadata.getD [])))
    (h : Exporter.encodeEvent cfg draft seq ns = .ok (record, raw, ref)) :
    Owned cfg readFloat record := by
  simp only [Exporter.encodeEvent, bind_eq_ok, pure_eq_ok, Prod.mk.injEq] at h
  obtain ⟨⟨_, _⟩, hbuild, line, -, rfl, -, -⟩ := h
  obtain ⟨-, -, -, timestampNs, -, hdraft, rfl, -⟩ := buildEventRecord_eq_ok.mp hbuild
  have hparts := eventParts_of_validate hdraft
  obtain ⟨n, hns, -⟩ := hparts.timestamp
  subst hns
  refine ⟨lawful_dict.mpr ⟨by simp [eventRecord], ?_⟩, rfl⟩
  simp [eventRecord, hmetadata, lawful_number hparts.epoch, lawful_number hparts.sample,
    lawful_number hparts.handoffIndex, lawful_number hparts.chunk]

theorem owned_encodeEdge {draft : EdgeDraft} {seq : Nat} {record : Dict} {raw : Bytes}
    {ref : RecordRef} (h : Exporter.encodeEdge cfg draft seq = .ok (record, raw, ref)) :
    Owned cfg readFloat record := by
  simp only [Exporter.encodeEdge, bind_eq_ok, pure_eq_ok, Prod.mk.injEq] at h
  obtain ⟨⟨_, _⟩, hbuild, line, -, rfl, -, -⟩ := h
  obtain ⟨-, rfl⟩ := edgeParts_of_build hbuild
  exact ⟨lawful_dict.mpr (by simp [edgeRecord]), rfl⟩

theorem owned_encodeProfile {config : KVRecoveryProfileConfig} {recordType : ProfileRecordType}
    {seq ns : Nat} {fields record : Dict} {raw : Bytes} {ref : ProfileRecordRef}
    (hfields : Lawful readFloat (.dict fields))
    (h : Exporter.encodeProfile cfg config recordType seq ns fields = .ok (record, raw, ref)) :
    Owned cfg readFloat record := by
  simp only [Exporter.encodeProfile, buildProfileDataRecord, bind_eq_ok, pure_eq_ok,
    Prod.mk.injEq] at h
  obtain ⟨⟨_, _⟩, ⟨-, -, -, -, -, -, u, hexact, -, -, -, -, -, -, rfl, -⟩, line, -, rfl, -, -⟩ := h
  obtain ⟨hkeys, hvalues⟩ := lawful_dict.mp hfields
  have hroster : ∀ key ∈ fields.map Prod.fst, key ∈ requiredFields recordType := by
    rw [requireExactFields, raiseIf_eq_ok] at hexact
    have hsame : hasExactKeys fields (requiredFields recordType) = true := by simpa using hexact
    have hall := (Bool.and_eq_true_iff.mp hsame).1
    intro key hkey
    exact List.contains_iff_mem.mp (List.all_eq_true.mp hall key hkey)
  have hheader : profileHeader.Nodup ∧ ∀ recordType : ProfileRecordType,
      ∀ key ∈ requiredFields recordType, key ∉ profileHeader := by
    refine ⟨by decide, fun recordType => ?_⟩
    cases recordType <;> decide
  refine ⟨lawful_dict.mpr ⟨?_, ?_⟩, rfl⟩
  · show (profileHeader ++ fields.map Prod.fst).Nodup
    exact List.nodup_append.mpr ⟨hheader.1, hkeys, fun a ha b hb heq =>
      hheader.2 recordType b (hroster b hb) (heq ▸ ha)⟩
  · intro kv hkv
    rcases List.mem_append.mp hkv with hkv | hkv
    · simp only [List.mem_cons, List.not_mem_nil, or_false] at hkv
      rcases hkv with rfl | rfl | rfl | rfl | rfl | rfl | rfl | rfl | rfl
      all_goals exact trivial
    · exact hvalues kv hkv

end Owned

/-! ## The records that enter -/

namespace Exporter

/-- Every pending record has the property. -/
def Pends (P : Dict → Prop) (x : Exporter) : Prop := ∀ q ∈ x.pending, P q.record

section Pends
variable {P : Dict → Prop} {cfg : Config} {x y : Exporter} {stream : StreamId}

theorem Pends.congr (h : Pends P x) (hinflight : y.inflight = x.inflight)
    (hqueue : y.queue = x.queue) : Pends P y := by
  intro q hq
  rw [pending, hinflight, hqueue] at hq
  exact h q hq

/-- A property of every loss interval the builders return. -/
def OfLosses (P : Dict → Prop) (cfg : Config) : Prop :=
  ∀ stream lossSeq loss record raw,
    lossRecord cfg stream lossSeq loss = .ok (record, raw) → P record

theorem Pends.sealed (h : Pends P x) (hloss : OfLosses P cfg) (hs : Seals cfg stream x y) :
    Pends P y := by
  refine pending_of_own (P := fun q => P q.record) fun t q hq => ?_
  by_cases ht : t = stream
  · subst ht
    rcases hs.outcome with ⟨-, hown, -⟩ | ⟨-, hown, -⟩ | ⟨loss, record, raw, -, hrecord, hown, -⟩
    · exact h q (own_subset (hown ▸ hq))
    · exact h q (own_subset (hown ▸ hq))
    · rw [hown] at hq
      rcases List.mem_append.mp hq with hq | hq
      · exact h q (own_subset hq)
      · rw [List.mem_singleton.mp hq]
        exact hloss _ _ _ _ _ hrecord
  · exact h q (own_subset ((hs.others t ht).own ▸ hq))

theorem Pends.lost {recordSeq : Nat} {recordType : RecordType} {reason : LossReason}
    {observedNs : Nat} (h : Pends P x) (hloss : OfLosses P cfg)
    (hl : Loses cfg stream recordSeq recordType reason observedNs x y) : Pends P y := by
  refine pending_of_own (P := fun q => P q.record) fun t q hq => ?_
  by_cases ht : t = stream
  · subst ht
    rcases hl.outcome with ⟨-, -, -, -, hown, -, -⟩ | ⟨-, z, hseals, hown, -, -⟩
    · exact h q (own_subset (hown ▸ hq))
    · exact h.sealed hloss hseals q (own_subset (hown ▸ hq))
  · exact h q (own_subset ((hl.others t ht).own ▸ hq))

theorem Pends.enqueued {q : Queued} (h : Pends P x) (hq : P q.record) (he : Enqueued x y q) :
    Pends P y := by
  refine pending_of_own (P := fun q => P q.record) fun t p hp => ?_
  by_cases ht : t = q.stream
  · subst ht
    rw [he.own] at hp
    rcases List.mem_append.mp hp with hp | hp
    · exact h p (own_subset hp)
    · exact List.mem_singleton.mp hp ▸ hq
  · exact h p (own_subset ((he.others t ht).own ▸ hp))

theorem Pends.noteDrop (h : Pends P x) (hloss : OfLosses P cfg) (stream : StreamId)
    (recordSeq : Nat) (recordType : RecordType) (reason : LossReason) (observedNs : Nat) :
    Pends P (x.noteDrop cfg stream recordSeq recordType reason observedNs) :=
  h.lost hloss (loses cfg x stream recordSeq recordType reason observedNs)

theorem Pends.allocate (h : Pends P x) (stream : StreamId) : Pends P (x.allocate stream) :=
  h.congr rfl rfl

theorem Pends.writeRecord {ρ : Type} {recordSeq observedNs : Nat} {recordType : RecordType}
    {reserved : Bool} {encoded : Except PyError (Dict × Bytes × ρ)} (h : Pends P x)
    (hloss : OfLosses P cfg)
    (hrecord : ∀ record raw ref, encoded = .ok (record, raw, ref) → P record) :
    Pends P (x.writeRecord cfg stream recordSeq recordType reserved observedNs encoded).1 := by
  unfold Exporter.writeRecord
  split
  · exact h.noteDrop hloss _ _ _ _ _
  · split
    · exact h.noteDrop hloss _ _ _ _ _
    · next record raw ref =>
      unfold admitOrLose
      split
      · exact h.noteDrop hloss _ _ _ _ _
      · have hsealed := h.sealed hloss (seals cfg x stream)
        dsimp only
        split
        · exact hsealed.noteDrop hloss _ _ _ _ _
        · next hfits =>
          exact hsealed.enqueued (hrecord record raw ref rfl) (Exporter.enqueued hfits)

theorem Pends.writeBase {ρ : Type} {recordType : RecordType} {reserved : Bool}
    {clock : Option Value} {now : Nat} {encode : Nat → Nat → Except PyError (Dict × Bytes × ρ)}
    (h : Pends P x) (hloss : OfLosses P cfg)
    (hrecord : ∀ seq ns record raw ref, encode seq ns = .ok (record, raw, ref) → P record) :
    Pends P (x.writeBase cfg recordType reserved clock now encode).1 := by
  unfold Exporter.writeBase
  split
  · exact h
  · split
    · exact h.congr rfl rfl
    · dsimp only
      split
      · have hcounted : Pends P ((x.allocate .base).countDiagnostic "clock_domain_unavailable") :=
          h.congr rfl rfl
        exact hcounted.noteDrop hloss _ _ _ _ _
      · exact (h.allocate .base).writeRecord hloss fun record raw ref => hrecord _ _ record raw ref

theorem Pends.sealOpen (h : Pends P x) (hloss : OfLosses P cfg) : Pends P (x.sealOpen cfg) := by
  unfold Exporter.sealOpen
  dsimp only
  split
  · exact (h.sealed hloss (seals cfg x .base)).sealed hloss (seals cfg _ .profile)
  · exact h.sealed hloss (seals cfg x .base)

theorem TimeoutStage.pends {observedNs : Nat} {a : Admitted} (h : TimeoutStage cfg x observedNs a)
    (hpends : Pends P x) (hloss : OfLosses P cfg) :
    a.x.queue = [] ∧ ∀ q ∈ a.controls, P q.record := by
  have hadmits : ∀ {a : Admitted} {q : Queued},
      (a.x.queue = [] ∧ ∀ q ∈ a.controls, P q.record) → P q.record →
      (a.admitControl q).x.queue = [] ∧ ∀ p ∈ (a.admitControl q).controls, P p.record := by
    intro a q ha hq
    unfold Admitted.admitControl
    split
    · exact ha
    · refine ⟨ha.1, fun p hp => ?_⟩
      rcases List.mem_append.mp hp with hp | hp
      · exact ha.2 p hp
      · exact List.mem_singleton.mp hp ▸ hq
  induction h with
  | start => exact ⟨rfl, nofun⟩
  | existing _ hq ih => exact hadmits ih (hpends _ (List.mem_filter.mp hq).1)
  | @group a stream g _ hg ih =>
    unfold Admitted.admitGroup timeoutLossControl
    dsimp only
    split
    · next heq =>
      split at heq
      · cases heq
        exact ih
      · cases heq
    · next heq =>
      split at heq
      · cases heq
      · next record raw hrecord =>
        cases heq
        exact hadmits (a := { a with x := _ }) ih (hloss _ _ _ _ _ hrecord)

theorem Pends.prepareTimeoutControls (h : Pends P x) (hloss : OfLosses P cfg) (observedNs : Nat) :
    Pends P (x.prepareTimeoutControls cfg observedNs).1 := by
  obtain ⟨hqueue, hcontrols⟩ := (stage_timeoutAdmission cfg x observedNs).pends h hloss
  intro q hq
  rcases List.mem_append.mp hq with hq | hq
  · exact hcontrols q hq
  · have hempty : q ∈ (x.timeoutAdmission cfg observedNs).x.queue := hq
    rw [hqueue] at hempty
    cases hempty

end Pends

variable {cfg : Config} {readFloat : ReadFloat} {x : Exporter}

theorem ofLosses_owned : OfLosses (Owned cfg readFloat) cfg := fun _ _ _ _ _ => owned_lossRecord

/-- A call adds records of its own, and the interval before them at most. -/
theorem Pends.call {call : TraceSink.Call} (h : Pends (Owned cfg readFloat) x)
    (hcall : call.Passes readFloat) (now : Nat) :
    Pends (Owned cfg readFloat) (call.run cfg x now) := by
  have hloss : OfLosses (Owned cfg readFloat) cfg := ofLosses_owned
  cases call with
  | event draft clock => exact h.writeBase hloss fun _ _ _ _ _ => owned_encodeEvent hcall
  | edge draft clock => exact h.writeBase hloss fun _ _ _ _ _ => owned_encodeEdge
  | profile recordType timestampNs fields clock =>
    unfold TraceSink.Call.run writeKvRecoveryProfile
    dsimp only
    split
    · exact h
    · split
      · exact h.congr rfl rfl
      · split
        · exact h.congr rfl rfl
        · split
          · exact h
          · split
            · exact (h.allocate .profile).noteDrop hloss _ _ _ _ _
            · exact (h.allocate .profile).writeRecord hloss fun _ _ _ => owned_encodeProfile hcall
  | drop recordType timestampNs reason clock =>
    unfold TraceSink.Call.run dropKvRecoveryProfile
    dsimp only
    split
    · exact h
    · split
      · exact h
      · exact (h.allocate .profile).noteDrop hloss _ _ _ _ _
  | span =>
    unfold TraceSink.Call.run newSpanId
    dsimp only
    split
    · exact h
    · exact h.congr rfl rfl
  | diagnostic reason =>
    unfold TraceSink.Call.run deferDiagnostic
    dsimp only
    split
    · exact h
    · exact h.congr rfl rfl

end Exporter

/-! ## Runs -/

namespace TraceSink
variable {cfg : Config} {readFloat : ReadFloat} {s s' : TraceSink}

/-- The calls of the run pass Python objects. -/
def PassesObjects (readFloat : ReadFloat) (_ : TraceSink) : Action → Prop
  | .produce call => call.Passes readFloat
  | _ => True

/-- The condition is on the calls alone. -/
theorem runOk_passesObjects {actions : List Action}
    (h : ∀ a ∈ actions, ∀ s, PassesObjects readFloat s a) (s : TraceSink) :
    General.RunOk (step cfg) (PassesObjects readFloat) s actions := by
  induction actions generalizing s with
  | nil => exact trivial
  | cons a rest ih =>
    obtain ⟨ha, hrest⟩ := List.forall_mem_cons.mp h
    refine ⟨ha s, ?_⟩
    split
    · exact ih hrest _
    · trivial

theorem owned_initial (h : Initial cfg s) : s.Holds (Owned cfg readFloat) := by
  obtain ⟨pid, startedNs, now, h⟩ := h
  simp only [opened, bind_eq_ok, pure_eq_ok] at h
  obtain ⟨⟨base, baseRaw⟩, hbase, ⟨profile, profileRaw⟩, hprofile, rfl⟩ := h
  refine ⟨fun t line hline record hrecord => ?_, by rintro _ ⟨⟩, by rintro _ ⟨⟩, by rintro _ ⟨⟩⟩
  rw [List.mem_singleton.mp hline] at hrecord
  split at hrecord
  · exact Option.some.inj hrecord ▸ owned_startRecords hbase
  · exact Option.some.inj hrecord ▸ owned_startRecords hprofile

theorem owned_step {action : Action} (h : s.Holds (Owned cfg readFloat))
    (haccounted : Accounted s) (hok : PassesObjects readFloat s action)
    (hstep : s.step cfg action = some s') : s'.Holds (Owned cfg readFloat) := by
  have hpends : Exporter.Pends (Owned cfg readFloat) s.x := h.pending
  refine h.effect haccounted (fun call haction => ?_) (hpends.sealOpen Exporter.ofLosses_owned)
    (hpends.prepareTimeoutControls Exporter.ofLosses_owned s.now)
    (fun _ _ _ _ _ => owned_summaryRecord) (Effect.of_step hstep)
  subst haction
  exact hpends.call hok s.now

/-- Every record the sink holds is an object of its process. -/
theorem owned_of_reachable (h : ReachableWhen cfg (PassesObjects readFloat) s) :
    s.Holds (Owned cfg readFloat) :=
  h.invariant_over (fun _ hs => accounted_of_reachable (hs.mono fun _ _ _ => trivial))
    (fun _ => owned_initial) fun _ _ _ hJ hs hok hstep _ => owned_step hs hJ hok hstep

end TraceSink
end LifecycleProfiler.Sink
