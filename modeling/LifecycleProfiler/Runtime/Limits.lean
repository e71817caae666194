import LifecycleProfiler.Runtime.Adapters
import LifecycleProfiler.Runtime.Unfinished
import Mathlib.Data.Finset.Card

/-! # The declared limits of a profile shard

The record builder enforces the limits of one record. Nothing counts the wait
sets of a shard or the transfer records of a lifecycle, and an episode that
begins again counts its requeues from 0 again. -/

namespace LifecycleProfiler.Runtime
open Python Protocol General

/-! ## Requeues -/

/-- The episode did not leave the table after its `preempt` row. -/
def NotRetired (s : Scheduler) (key : String × Int) : Prop := key ∉ s.retired

/-- The requeue rows of an episode. -/
def requeues (key : String × Int) (rows : List ProfileRecordRef) : Nat :=
  rows.countP (isStage "requeue" key)

/-- The table knows the requeue rows of its episodes. -/
structure Requeued (s : Scheduler) : Prop where
  bounded : ∀ key, requeues key (profileRows s.bridge.hooks) ≤ maxRequeueObservationsPerEpisode
  absent : ∀ key, key ∉ s.retired → (∀ item ∈ s.episodes, item.1 ≠ key) →
    requeues key (profileRows s.bridge.hooks) = 0
  present : ∀ item ∈ s.episodes, item.1 ∉ s.retired →
    requeues item.1 (profileRows s.bridge.hooks) = item.2.requeueOccurrence
  inOrder : ∀ item ∈ s.episodes, item.2.InOrder
  again : ∀ item ∈ s.episodes, item.1 ∈ s.retired → item.2.preemptProfileRecordId = none
  unbegun : ∀ item ∈ s.episodes, item.2.preemptProfileRecordId = none →
    item.2.requeueOccurrence = 0

namespace Requeued
variable {s s' : Scheduler}

theorem start (h : s.IsStart) : Requeued s := by
  obtain ⟨runId, sha256, hooks, capacity, rfl, hlog, -⟩ := h
  have hrows : profileRows (Scheduler.start runId sha256 hooks capacity).bridge.hooks = [] := by
    change List.filterMap _ hooks.log = []
    rw [hlog]
    rfl
  have hnone : ∀ item, item ∉ (Scheduler.start runId sha256 hooks capacity).episodes := fun _ =>
    List.not_mem_nil
  refine ⟨fun _ => ?_, fun _ _ _ => ?_, fun item h => absurd h (hnone item),
    fun item h => absurd h (hnone item), fun item h => absurd h (hnone item),
    fun item h => absurd h (hnone item)⟩
  · rw [hrows]
    exact Nat.zero_le _
  · rw [hrows]
    rfl

/-- The requeue rows and the table are as before. -/
theorem of_rows (h : Requeued s) (hepisodes : s'.episodes = s.episodes)
    (hretired : s'.retired = s.retired)
    (hrows : ∀ key, requeues key (profileRows s'.bridge.hooks) =
      requeues key (profileRows s.bridge.hooks)) : Requeued s' := by
  refine ⟨fun key => hrows key ▸ h.bounded key, fun key hkey hnone => ?_,
    fun item hitem hkey => ?_, ?_, ?_, ?_⟩
  · rw [hrows]
    exact h.absent key (hretired ▸ hkey) (hepisodes ▸ hnone)
  · rw [hrows]
    exact h.present item (hepisodes ▸ hitem) (hretired ▸ hkey)
  · rw [hepisodes]
    exact h.inOrder
  · rw [hepisodes, hretired]
    exact h.again
  · rw [hepisodes]
    exact h.unbegun

theorem requeues_snoc (key : String × Int) (rows : List ProfileRecordRef) (ref : ProfileRecordRef) :
    requeues key (rows ++ [ref]) = requeues key rows + if isStage "requeue" key ref then 1 else 0 :=
  countP_snoc rows ref _

/-- An episode of the table changes, and no other one writes a requeue row. -/
theorem of_set (h : Requeued s) (ht : s.Tabled) {key : String × Int} {ep' : SchedulerEpisode}
    (hrows : ∀ other, other ≠ key → requeues other (profileRows s'.bridge.hooks) =
      requeues other (profileRows s.bridge.hooks))
    (hbound : requeues key (profileRows s'.bridge.hooks) ≤ maxRequeueObservationsPerEpisode)
    (episodes : s'.episodes = s.episodes.set key ep') (retired : s'.retired = s.retired)
    (hcount : key ∉ s.retired → requeues key (profileRows s'.bridge.hooks) = ep'.requeueOccurrence)
    (horder : ep'.InOrder) (hagain : key ∈ s.retired → ep'.preemptProfileRecordId = none)
    (hunbegun : ep'.preemptProfileRecordId = none → ep'.requeueOccurrence = 0) : Requeued s' := by
  have hitems : ∀ item, item ∈ s'.episodes ↔ item = (key, ep') ∨ item ∈ s.episodes ∧ item.1 ≠ key :=
    fun item => by rw [episodes, Mapping.mem_set ht.unique]
  refine ⟨fun other => ?_, fun other hother hnone => ?_, fun item hitem hkey => ?_,
    fun item hitem => ?_, fun item hitem hkey => ?_, fun item hitem hpreempt => ?_⟩
  · by_cases hother : other = key
    · exact hother ▸ hbound
    · exact hrows other hother ▸ h.bounded other
  · have hne : key ≠ other := hnone _ ((hitems _).mpr (.inl rfl))
    rw [hrows other hne.symm]
    refine h.absent other (retired ▸ hother) fun item hitem heq => ?_
    exact hnone item ((hitems item).mpr (.inr ⟨hitem, heq ▸ hne.symm⟩)) heq
  · rcases (hitems item).mp hitem with rfl | ⟨hold, hne⟩
    · exact hcount (retired ▸ hkey)
    · exact (hrows _ hne).trans (h.present item hold (retired ▸ hkey))
  · rcases (hitems item).mp hitem with rfl | ⟨hold, -⟩
    · exact horder
    · exact h.inOrder item hold
  · rcases (hitems item).mp hitem with rfl | ⟨hold, -⟩
    · exact hagain (retired ▸ hkey)
    · exact h.again item hold (retired ▸ hkey)
  · rcases (hitems item).mp hitem with rfl | ⟨hold, -⟩
    · exact hunbegun hpreempt
    · exact h.unbegun item hold hpreempt

theorem leave (h : Requeued s) (ht : s.Tabled)
    (leaves : (String × Int) × SchedulerEpisode → Bool) : Requeued (s.forget leaves) := by
  refine ⟨h.bounded, fun key hkey hnone => ?_,
    fun item hitem hkey => h.present item (Scheduler.mem_forget.mp hitem).1 fun hold =>
      hkey (Scheduler.mem_retired_forget.mpr (.inl hold)),
    fun item hitem => h.inOrder item (Scheduler.mem_forget.mp hitem).1,
    fun item hitem hkey => h.again item (Scheduler.mem_forget.mp hitem).1
      (ht.retired_of_kept hitem hkey),
    fun item hitem => h.unbegun item (Scheduler.mem_forget.mp hitem).1⟩
  obtain ⟨hold, hnever | ⟨item, hitem, rfl, hpreempt⟩⟩ := Scheduler.unbegun_of_forget hkey hnone
  · exact h.absent key hold hnever
  · exact (h.present item hitem hold).trans (h.unbegun item hitem hpreempt)

/-- The occurrence of an accepted requeue row is within the bound. -/
theorem occurrence_lt {h : Hooks} {now : Int} {event : RecoveryEvent} {ref : ProfileRecordRef}
    (row : Accepted .recoveryEvent now event.fields h ref) (hstage : event.stage = "requeue") :
    event.occurrence < maxRequeueObservationsPerEpisode := by
  have hvalid := row.valid
  simp only [validateDataFields, bind_eq_ok, exists_unit] at hvalid
  have hrecovery := hvalid.2
  have hstage' : event.fields.get "stage" = .str "requeue" := by
    rw [← hstage]
    rfl
  have hoccurrence : event.fields.get "occurrence" = .int event.occurrence := rfl
  simp only [validateRecoveryFields, bind_eq_ok, exists_unit, hstage', hoccurrence] at hrecovery
  obtain ⟨-, occurrence, hint, hrest⟩ := hrecovery
  rw [if_pos (by decide), bind_eq_ok] at hrest
  obtain ⟨_, hbound, -⟩ := hrest
  rw [raiseIf_eq_ok, decide_eq_false_iff_not, Nat.not_le] at hbound
  rw [requireStrictUint_eq_ok, Value.int.injEq] at hint
  exact Int.ofNat.inj hint.1 ▸ hbound

theorem move (h : Requeued s) (ht : s.Tabled) {known : H2DReceipt → Prop}
    (hm : Move NotRetired known s s') : Requeued s' := by
  cases hm with
  | quiet _ rows _ episodes retired => exact h.of_rows episodes retired fun key => by rw [rows]
  | chunk _ ref _ _ row rows _ episodes retired =>
    refine h.of_rows episodes retired fun key => ?_
    rw [rows, requeues_snoc, if_neg, Nat.add_zero]
    simp [isStage, row.type_eq]
  | arrive _ same key ep absent fresh episodes retired =>
    refine h.of_set ht (fun other _ => by rw [same.rows])
      (same.rows ▸ h.bounded key) episodes retired
      (fun hkey => ?_) ⟨fun hs => ?_, fun hs => ?_, fun hs => ?_, fun hs => ?_⟩
        (fun _ => fresh.preempt)
      fun _ => fresh.occurrence
    · rw [fresh.occurrence, same.rows]
      exact h.absent key hkey absent
    · rw [fresh.context] at hs
      cases hs
    · rw [fresh.receipt] at hs
      cases hs
    · rw [fresh.wakeup] at hs
      cases hs
    · rw [fresh.admission] at hs
      cases hs
  | leave leaves forgotten => exact forgotten ▸ h.leave ht leaves
  | learn _ same key ep ep' mem learns episodes retired =>
    have hsame : ep'.requeueOccurrence = ep.requeueOccurrence ∧
        ep'.preemptProfileRecordId = ep.preemptProfileRecordId := by
      cases learns <;> exact ⟨rfl, rfl⟩
    refine h.of_set ht (fun other _ => by rw [same.rows])
      (same.rows ▸ h.bounded key) episodes retired
      (fun hkey => ?_) (learns.inOrder (h.inOrder _ mem)) (fun hkey => ?_) fun hpreempt => ?_
    · rw [hsame.1, same.rows]
      exact h.present _ mem hkey
    · rw [hsame.2]
      exact h.again _ mem hkey
    · rw [hsame.1]
      exact h.unbegun _ mem (hsame.2 ▸ hpreempt)
  | write _ key ep ep' mem ref now event writes row rows _ episodes retired =>
    have hkey : key ∉ s.retired := by
      rcases writes.began (h.inOrder _ mem) with first | hsome
      · exact first
      · intro hkey
        rw [h.again _ mem hkey] at hsome
        cases hsome
    have habout : event.request.runtimeRequestId = key.1 ∧
      event.request.recoveryEpoch = some key.2 := by
      obtain ⟨hrid, hepoch⟩ := writes.about
      rw [hrid, hepoch, ht.identity _ mem, ht.epoch _ mem]
      exact ⟨rfl, rfl⟩
    have hcount : ∀ other, requeues other (profileRows s'.bridge.hooks) =
        requeues other (profileRows s.bridge.hooks) +
          if event.stage = "requeue" ∧ other = key then 1 else 0 := by
      intro other
      rw [rows, requeues_snoc]
      congr 1
      refine if_congr ?_ rfl rfl
      rw [isStage_event row, habout.1, habout.2, Option.some.injEq]
      exact and_congr_right fun _ => ⟨fun h => Prod.ext h.1.symm h.2.symm, fun h => h ▸ ⟨rfl, rfl⟩⟩
    have hpresent := h.present _ mem hkey
    have hwritten : requeues key (profileRows s'.bridge.hooks) = ep'.requeueOccurrence ∧
        requeues key (profileRows s'.bridge.hooks) ≤ maxRequeueObservationsPerEpisode ∧
        (ep'.preemptProfileRecordId = none → ep'.requeueOccurrence = 0) := by
      have hquiet : event.stage ≠ "requeue" → requeues key (profileRows s'.bridge.hooks) =
          requeues key (profileRows s.bridge.hooks) := fun hstage => by
        rw [hcount, if_neg fun hrow => hstage hrow.1, Nat.add_zero]
      have hunbegun := h.unbegun _ mem
      cases writes with
      | preempt =>
        have hsame := hquiet (by simp [Scheduler.preemptRow])
        exact ⟨hsame.trans hpresent, hsame ▸ h.bounded key, by simp⟩
      | wakeup =>
        have hsame := hquiet (by simp [Scheduler.wakeupRow, Scheduler.receiptRow])
        exact ⟨hsame.trans hpresent, hsame ▸ h.bounded key, hunbegun⟩
      | admission =>
        have hsame := hquiet (by simp [Scheduler.admissionRow, Scheduler.receiptRow])
        exact ⟨hsame.trans hpresent, hsame ▸ h.bounded key, hunbegun⟩
      | requeue received =>
        have hlt := occurrence_lt row rfl
        have hnext : requeues key (profileRows s'.bridge.hooks) = ep.requeueOccurrence + 1 := by
          rw [hcount, if_pos ⟨rfl, rfl⟩, hpresent]
        refine ⟨hnext, hnext ▸ hlt, fun hnone => ?_⟩
        have hbegun := (h.inOrder _ mem).context ((h.inOrder _ mem).receipt (by rw [received]; rfl))
        have hnone : ep.preemptProfileRecordId = none := hnone
        rw [hnone] at hbegun
        cases hbegun
    refine h.of_set ht (fun other hne => ?_) hwritten.2.1 episodes retired (fun _ => hwritten.1)
      (writes.inOrder (h.inOrder _ mem)) (fun hretired => absurd hretired hkey) hwritten.2.2
    rw [hcount, if_neg fun hrow => hne hrow.2, Nat.add_zero]

end Requeued


/-! ## Wait sets and transfer records -/

def waitSetOf (ref : ProfileRecordRef) : Option String :=
  if ref.recordType = .waitSetChunk then
    match ref.record.get "wait_set_id" with
    | .str id => some id
    | _ => none
  else none

/-- The wait sets of a shard. -/
def waitSets (rows : List ProfileRecordRef) : Finset String := (rows.filterMap waitSetOf).toFinset

def isTransferRecord (lifecycleId : String) (ref : ProfileRecordRef) : Bool :=
  ref.recordType = .transferEvent && ref.record.has "engine_lifecycle_id" lifecycleId

/-- The transfer records of a lifecycle. -/
def transferRecords (lifecycleId : String) (rows : List ProfileRecordRef) : Nat :=
  rows.countP (isTransferRecord lifecycleId)

/-- The condition on a callback: it begins no episode again, it does not wait for
a 65th wait set, and it does not report a 4097th transfer record of a lifecycle. -/
def WithinLimits (a : Adapters) : AdapterCallback → Prop
  | .scheduler c => ∀ key, a.scheduler.begun c = some key → NotRetired a.scheduler key
  | .worker c => a.worker.closed = false → match c with
    | .transferSubmitted attempt _ | .transferCompleted attempt ..
    | .transferInvalidated attempt _ =>
      transferRecords attempt.context.identity.engineLifecycleId a.rows <
        maxTransferRecordsPerLifecycle
    | .waitCompleted ids _ =>
      a.worker.waitSetId ids ∈ waitSets a.rows ∨ (waitSets a.rows).card < maxWaitSetsPerProcessShard
    | _ => True

theorem waitSetOf_eq {h : Hooks} {now : Int} {chunk : WaitSetChunk} {ref : ProfileRecordRef}
    (row : Accepted .waitSetChunk now chunk.fields h ref) :
      waitSetOf ref = some chunk.waitSetId := by
  have hid : ref.record.get "wait_set_id" = .str chunk.waitSetId := by
    rw [row.record_eq]
    rfl
  rw [waitSetOf, if_pos row.type_eq, hid]

theorem waitSetOf_eq_none {ref : ProfileRecordRef} (h : ref.recordType ≠ .waitSetChunk) :
    waitSetOf ref = none := if_neg h

theorem isTransferRecord_event {h : Hooks} {now : Int} {event : TransferEvent}
    {ref : ProfileRecordRef} (row : Accepted .transferEvent now event.fields h ref)
    (lifecycleId : String) :
    isTransferRecord lifecycleId ref = true ↔ event.request.engineLifecycleId = lifecycleId := by
  have hid : ref.record.get "engine_lifecycle_id" = .str event.request.engineLifecycleId := by
    rw [row.record_eq]
    rfl
  simp only [isTransferRecord, Bool.and_eq_true, decide_eq_true_eq, Dict.has_iff, hid, row.type_eq,
    true_and, Value.str.injEq]

theorem not_transferRecord {ref : ProfileRecordRef} (h : ref.recordType ≠ .transferEvent)
    (lifecycleId : String) : isTransferRecord lifecycleId ref = false := by
  simp [isTransferRecord, h]

/-- A row that passed the builder. -/
def Passed (ref : ProfileRecordRef) : Prop :=
  ∃ now fields h, Accepted ref.recordType now fields h ref

theorem Accepted.passed {recordType : ProfileRecordType} {now : Int} {fields : Dict} {h : Hooks}
    {ref : ProfileRecordRef} (row : Accepted recordType now fields h ref) : Passed ref :=
  ⟨now, fields, h, row.type_eq ▸ row⟩

/-- The stream is within the limits of a shard. -/
structure RowsWithin (rows : List ProfileRecordRef) : Prop where
  passed : ∀ ref ∈ rows, Passed ref
  waits : (waitSets rows).card ≤ maxWaitSetsPerProcessShard
  transfers : ∀ id, transferRecords id rows ≤ maxTransferRecordsPerLifecycle

namespace RowsWithin
variable {rows new : List ProfileRecordRef}

/-- Rows that are neither chunks of a wait set nor transfer records. -/
theorem append_other (h : RowsWithin rows) (hpassed : ∀ ref ∈ new, Passed ref)
    (hother : ∀ ref ∈ new, ref.recordType ≠ .waitSetChunk ∧ ref.recordType ≠ .transferEvent) :
    RowsWithin (rows ++ new) := by
  refine ⟨fun ref hmem => ?_, ?_, fun id => ?_⟩
  · rcases List.mem_append.mp hmem with hold | hnew
    · exact h.passed ref hold
    · exact hpassed ref hnew
  · have hnone : new.filterMap waitSetOf = [] :=
      List.filterMap_eq_nil_iff.mpr fun ref hmem => waitSetOf_eq_none (hother ref hmem).1
    rw [waitSets, List.filterMap_append, hnone, List.append_nil]
    exact h.waits
  · have hnone : new.countP (isTransferRecord id) = 0 :=
      List.countP_eq_zero.mpr fun ref hmem => by
        rw [not_transferRecord (hother ref hmem).2]
        exact Bool.false_ne_true
    rw [transferRecords, List.countP_append, hnone, Nat.add_zero]
    exact h.transfers id

/-- One transfer record of a lifecycle that is not at its limit. -/
theorem append_transfer (h : RowsWithin rows) {hooks : Hooks} {now : Int} {event : TransferEvent}
    {ref : ProfileRecordRef} (row : Accepted .transferEvent now event.fields hooks ref)
    (hlt : transferRecords event.request.engineLifecycleId rows < maxTransferRecordsPerLifecycle) :
    RowsWithin (rows ++ [ref]) := by
  refine ⟨fun r hmem => ?_, ?_, fun id => ?_⟩
  · rcases List.mem_append.mp hmem with hold | hnew
    · exact h.passed r hold
    · exact List.mem_singleton.mp hnew ▸ row.passed
  · rw [waitSets, List.filterMap_append, List.filterMap_cons_none
      (waitSetOf_eq_none (by rw [row.type_eq]; decide)), List.filterMap_nil, List.append_nil]
    exact h.waits
  · rw [transferRecords, countP_snoc]
    split
    · next hid =>
      rw [isTransferRecord_event row] at hid
      exact hid ▸ hlt
    · exact h.transfers id

/-- The chunks of one wait set. -/
theorem append_waits (h : RowsWithin rows) {setId : String} (hpassed : ∀ ref ∈ new, Passed ref)
    (hset : ∀ ref ∈ new, ref.recordType = .waitSetChunk ∧ waitSetOf ref = some setId)
    (hlimit : setId ∈ waitSets rows ∨ (waitSets rows).card < maxWaitSetsPerProcessShard) :
    RowsWithin (rows ++ new) := by
  refine ⟨fun ref hmem => ?_, ?_, fun id => ?_⟩
  · rcases List.mem_append.mp hmem with hold | hnew
    · exact h.passed ref hold
    · exact hpassed ref hnew
  · have hsub : waitSets (rows ++ new) ⊆ insert setId (waitSets rows) := by
      intro id hid
      rw [waitSets, List.filterMap_append, List.mem_toFinset, List.mem_append] at hid
      rcases hid with hold | hnew
      · exact Finset.mem_insert_of_mem (List.mem_toFinset.mpr hold)
      · obtain ⟨ref, hmem, hsome⟩ := List.mem_filterMap.mp hnew
        rw [(hset ref hmem).2, Option.some.injEq] at hsome
        exact hsome ▸ Finset.mem_insert_self _ _
    refine (Finset.card_le_card hsub).trans ?_
    rcases hlimit with hmem | hlt
    · rw [Finset.insert_eq_of_mem hmem]
      exact h.waits
    · exact (Finset.card_insert_le _ _).trans hlt
  · have hnone : new.countP (isTransferRecord id) = 0 :=
      List.countP_eq_zero.mpr fun ref hmem => by
        rw [not_transferRecord (by rw [(hset ref hmem).1]; decide)]
        exact Bool.false_ne_true
    rw [transferRecords, List.countP_append, hnone, Nat.add_zero]
    exact h.transfers id

end RowsWithin

/-- A move of the scheduler adapter writes neither wait sets nor transfer records. -/
theorem Move.rowsWithin {begins : Scheduler → String × Int → Prop} {known : H2DReceipt → Prop}
    {s s' : Scheduler}
    (hm : Move begins known s s') (h : RowsWithin (profileRows s.bridge.hooks)) :
    RowsWithin (profileRows s'.bridge.hooks) := by
  cases hm with
  | quiet _ rows => exact rows ▸ h
  | chunk _ ref _ _ row rows =>
    rw [rows]
    refine h.append_other (fun r hr => ?_) fun r hr => ?_
    · exact List.mem_singleton.mp hr ▸ row.passed
    · rw [List.mem_singleton.mp hr, row.type_eq]
      decide
  | arrive _ same => exact same.rows ▸ h
  | leave _ forgotten => exact forgotten ▸ h
  | learn _ same => exact same.rows ▸ h
  | write _ _ _ _ _ ref _ _ _ row rows =>
    rw [rows]
    refine h.append_other (fun r hr => ?_) fun r hr => ?_
    · exact List.mem_singleton.mp hr ▸ row.passed
    · rw [List.mem_singleton.mp hr, row.type_eq]
      decide

theorem WithinLimits.of_ended {a : Adapters} {c : WorkerCallback} {attempt : TransferAttempt}
    (h : WithinLimits a (.worker c)) (hserving : a.worker.closed = false)
    (hended : c.ended = some attempt) :
    transferRecords attempt.context.identity.engineLifecycleId a.rows <
      maxTransferRecordsPerLifecycle := by
  have hlimit := h hserving
  cases c with
  | transferCompleted => cases hended; exact hlimit
  | transferInvalidated => cases hended; exact hlimit
  | _ => cases hended

theorem not_requeue {ref : ProfileRecordRef} (h : ref.recordType ≠ .recoveryEvent)
    (key : String × Int) : isStage "requeue" key ref = false := by
  simp [isStage, h]

theorem not_requeue_event {h : Hooks} {now : Int} {event : RecoveryEvent} {ref : ProfileRecordRef}
    (row : Accepted .recoveryEvent now event.fields h ref) (hstage : event.stage ≠ "requeue")
    (key : String × Int) : isStage "requeue" key ref = false :=
  Bool.eq_false_iff.mpr fun hrow => hstage ((isStage_event row _ _).mp hrow).1

/-- A callback of the worker adapter writes no requeue row, and keeps the rows
within the limits if it meets the condition. -/
theorem Reported.rowsWithin {a : Adapters} {w' : Worker} {c : WorkerCallback}
    {receipt : Option H2DReceipt} (h : Reported a.worker w' c receipt) (hj : a.Joined)
    (hrows : RowsWithin a.rows) (hok : WithinLimits a (.worker c)) :
    RowsWithin (profileRows w'.hooks) ∧
      ∀ key, requeues key (profileRows w'.hooks) = requeues key a.rows := by
  have hadd : ∀ {new : List ProfileRecordRef}, profileRows w'.hooks =
    profileRows a.worker.hooks ++ new →
      RowsWithin (a.rows ++ new) → (∀ ref ∈ new, ∀ key, isStage "requeue" key ref = false) →
      RowsWithin (profileRows w'.hooks) ∧
        ∀ key, requeues key (profileRows w'.hooks) = requeues key a.rows := by
    intro new hnew hwithin hquiet
    have hall : profileRows w'.hooks = a.rows ++ new := by rw [hnew, hj.hooks]; rfl
    refine ⟨hall ▸ hwithin, fun key => ?_⟩
    have hnone : new.countP (isStage "requeue" key) = 0 :=
      List.countP_eq_zero.mpr fun ref hmem => by
      rw [hquiet ref hmem key]
      exact Bool.false_ne_true
    rw [hall, requeues, List.countP_append, hnone, Nat.add_zero]
    rfl
  have hnil : profileRows w'.hooks = profileRows a.worker.hooks ++ [] →
      RowsWithin (profileRows w'.hooks) ∧
        ∀ key, requeues key (profileRows w'.hooks) = requeues key a.rows := fun hnew =>
    hadd hnew ((List.append_nil a.rows).symm ▸ hrows) fun _ h => absurd h List.not_mem_nil
  have hone : ∀ {hooks : Hooks} {now : Int} {event : TransferEvent} {ref : ProfileRecordRef},
      profileRows w'.hooks = profileRows a.worker.hooks ++ [ref] →
      Accepted .transferEvent now event.fields hooks ref →
      transferRecords event.request.engineLifecycleId a.rows < maxTransferRecordsPerLifecycle →
      RowsWithin (profileRows w'.hooks) ∧
        ∀ key, requeues key (profileRows w'.hooks) = requeues key a.rows := by
    intro hooks now event ref hnew row hlt
    refine hadd hnew (hrows.append_transfer row hlt) fun r hr => ?_
    rw [List.mem_singleton.mp hr]
    exact not_requeue (by rw [row.type_eq]; decide)
  have htwo : ∀ {hooks hooks' : Hooks} {now : Int} {event : TransferEvent} {stage : RecoveryEvent}
      {ref second : ProfileRecordRef},
      profileRows w'.hooks = profileRows a.worker.hooks ++ [ref, second] →
      Accepted .transferEvent now event.fields hooks ref →
      transferRecords event.request.engineLifecycleId a.rows < maxTransferRecordsPerLifecycle →
      Accepted .recoveryEvent now stage.fields hooks' second → stage.stage ≠ "requeue" →
      RowsWithin (profileRows w'.hooks) ∧
        ∀ key, requeues key (profileRows w'.hooks) = requeues key a.rows := by
    intro hooks hooks' now event stage ref second hnew row hlt row₂ hstage
    refine hadd hnew ?_ fun r hr => ?_
    · rw [List.append_cons]
      refine (hrows.append_transfer row hlt).append_other (fun r hr => ?_) fun r hr => ?_
      · exact List.mem_singleton.mp hr ▸ row₂.passed
      · rw [List.mem_singleton.mp hr, row₂.type_eq]
        decide
    · rcases List.mem_cons.mp hr with rfl | hr
      · exact not_requeue (by rw [row.type_eq]; decide)
      · rw [List.mem_singleton.mp hr]
        exact not_requeue_event row₂ hstage
  cases h with
  | quiet grows => exact hnil grows.rows
  | submitted serving row grows => exact hone grows.rows row (hok serving)
  | restoring serving row _ startRow grows =>
    exact htwo grows.rows row (hok serving) startRow (by simp [Worker.restoreStartRow])
  | lost _ _ grows => exact hnil grows.rows
  | done serving ended row about grows =>
    refine hone grows.rows row ?_
    rw [about.1]
    exact hok.of_ended serving ended
  | restored serving ended row about _ _ _ doneRow grows =>
    refine htwo grows.rows row ?_ doneRow (by simp [Worker.restoreDoneRow])
    rw [about.1]
    exact hok.of_ended serving ended
  | @waited _ _ new serving rows grows =>
    have htype : ∀ ref ∈ new, ref.recordType = .waitSetChunk := fun ref hmem => by
      obtain ⟨_, _, -, row⟩ := rows ref hmem
      exact row.type_eq
    refine hadd grows.rows
      (hrows.append_waits (fun ref hmem => ?_) (fun ref hmem => ?_) (hok serving))
      fun ref hmem => not_requeue (by rw [htype ref hmem]; decide)
    · obtain ⟨_, _, -, row⟩ := rows ref hmem
      exact row.passed
    · obtain ⟨_, _, hset, row⟩ := rows ref hmem
      exact ⟨row.type_eq, hset ▸ waitSetOf_eq row⟩
  | computed row grows =>
    refine hadd grows.rows (hrows.append_other (fun r hr => ?_) fun r hr => ?_) fun r hr => ?_
    · exact List.mem_singleton.mp hr ▸ row.passed
    · rw [List.mem_singleton.mp hr, row.type_eq]
      decide
    · rw [List.mem_singleton.mp hr]
      exact not_requeue_event row (by simp [Worker.firstComputeRow])
  | closed _ grows => exact hnil grows.rows

/-- The invariant of both adapters. -/
structure Limited (a : Adapters) : Prop where
  joined : a.Joined
  tabled : a.scheduler.Tabled
  requeued : Requeued a.scheduler
  rows : RowsWithin a.rows

namespace Limited
variable {a a' : Adapters}

theorem start (h : a.IsStart) : Limited a := by
  refine ⟨h.joined, h.tabled, ?_, ?_⟩
  · obtain ⟨_, _, _, _, rfl, hlog, hseq⟩ := h
    exact .start ⟨_, _, _, _, rfl, hlog, hseq⟩
  · rw [h.rows]
    exact ⟨fun _ h => absurd h List.not_mem_nil, Nat.zero_le _, fun _ => Nat.zero_le _⟩

theorem moves {known : H2DReceipt → Prop} {s s' : Scheduler} (hm : Moves NotRetired known s s')
    (ht : s.Tabled) (hr : Requeued s)
    (h : RowsWithin (profileRows s.bridge.hooks)) :
    s'.Tabled ∧ Requeued s' ∧ RowsWithin (profileRows s'.bridge.hooks) := by
  induction hm with
  | refl => exact ⟨ht, hr, h⟩
  | tail _ hlast ih =>
    exact ⟨hlast.tabled ih.1, ih.2.1.move ih.1 hlast, hlast.rowsWithin ih.2.2⟩

/-- One callback of either adapter. -/
theorem callback (h : Limited a) (c : AdapterCallback) (hok : WithinLimits a c) :
    Limited (a.callback c) := by
  cases c with
  | scheduler c =>
    obtain ⟨ht, hr, hrows⟩ :=
      moves (moves_callback h.tabled c hok fun _ _ => trivial) h.tabled h.requeued h.rows
    exact ⟨a.joined_withScheduler _, ht, hr, hrows⟩
  | worker c =>
    have hattempted : a.worker.Attempted := by
      rw [Worker.Attempted, h.joined.hooks]
      exact h.tabled.attempted
    have hreport := reported_callback a.worker hattempted c
    obtain ⟨hrows, hrequeues⟩ := hreport.rowsWithin h.joined h.rows hok
    have hframe : Frame a.scheduler (a.withWorker (a.worker.callback c)).scheduler :=
      Adapters.frame_withWorker h.joined hreport.isOpen
    refine ⟨a.joined_withWorker _, ?_, ?_, hrows⟩
    · exact h.tabled.of_frame hframe (hreport.keepsAttempted hattempted) h.tabled.unique
        fun item hitem => .inl hitem
    · exact h.requeued.of_rows rfl rfl hrequeues

end Limited

/-- The records of a committed profile shard. -/
structure ProfileShard where
  start : Dict
  data : List ProfileRecordRef
  losses : List Dict
  summary : Dict

def ProfileShard.records (shard : ProfileShard) : List Dict :=
  shard.start :: shard.data.map (·.record) ++ shard.losses ++ [shard.summary]

/-- A bound that the start record declares. -/
def ProfileShard.limit (shard : ProfileShard) (name : String) : Nat :=
  match shard.start.get "limits" with
  | .dict limits => (asUint uint64Max (Dict.get limits name)).getD 0
  | _ => 0

/-- The shard of a stream: the start, the accepted rows that were written, the
loss intervals and the summary, as the protocol builds them. -/
structure Commits (h : Hooks) (shard : ProfileShard) : Prop where
  start : ∃ processUuid pid startedNs clockDomainId provenance config,
    buildProfileStartRecord processUuid pid startedNs clockDomainId provenance config =
      .ok shard.start
  data : shard.data.Sublist (profileRows h)
  losses : ∀ record ∈ shard.losses, ∃ processUuid seq reason first last counts firstNs lastNs,
    buildProfileLossIntervalRecord processUuid seq reason first last counts firstNs lastNs =
      .ok record
  summary : ∃ processUuid endedNs attempted written losses dropped control failures outcome digest,
    buildProfileSummaryRecord processUuid endedNs attempted written losses dropped control failures
      outcome digest = .ok shard.summary

theorem Commits.limit {h : Hooks} {shard : ProfileShard} (hs : Commits h shard) (name : String) :
    shard.limit name = (asUint uint64Max (profileLimits.get name)).getD 0 := by
  obtain ⟨_, _, _, _, _, _, hstart⟩ := hs.start
  simp only [buildProfileStartRecord, bind_eq_ok, exists_unit, pure_eq_ok] at hstart
  obtain ⟨-, -, -, -, _, -, hstart⟩ := hstart
  rw [ProfileShard.limit, ← hstart]
  rfl

theorem line_of_profileRecordLine {record : Dict} {raw : Bytes}
    (h : profileRecordLine record = .ok raw) :
    canonicalJsonLine record = .ok raw ∧ raw.length ≤ maxProfileRecordBytes := by
  simp only [profileRecordLine, bind_eq_ok, exists_unit, pure_eq_ok, raiseIf_eq_ok,
    decide_eq_false_iff_not, Nat.not_lt] at h
  obtain ⟨line, hline, hbound, rfl⟩ := h
  exact ⟨hline, hbound⟩

theorem validateChunk_total {index count total : Value} {field : String} {n : Nat}
    (h : validateChunk index count total field = .ok n) : total = .int n := by
  simp only [validateChunk, bind_eq_ok, exists_unit, pure_eq_ok] at h
  obtain ⟨_, -, _, -, n', htotal, -, rfl⟩ := h
  exact (requireStrictUint_eq_ok.mp htotal).1

/-- What the builder checks of a block chunk. -/
theorem Passed.block {ref : ProfileRecordRef} (h : Passed ref)
    (htype : ref.recordType = .blockSetChunk) :
    ∃ (total : Nat) (blocks : List Value), ref.record.get "total_block_count" = .int total ∧
      total ≤ maxLogicalBlocksPerBlockSet ∧ ref.record.get "blocks" = .list blocks ∧
      blocks.length ≤ maxBlockRowsPerChunk := by
  obtain ⟨now, fields, hooks, row⟩ := h
  have hvalid := row.valid
  rw [htype] at hvalid
  simp only [validateDataFields, validateBlockFields, bind_eq_ok, exists_unit, raiseIf_eq_ok,
    decide_eq_false_iff_not, Nat.not_lt] at hvalid
  obtain ⟨-, _, -, total, htotal, hbound, hblocks⟩ := hvalid
  have hcount : ref.record.get "total_block_count" = fields.get "total_block_count" := by
    rw [row.record_eq]
    rfl
  have hget : ref.record.get "blocks" = fields.get "blocks" := by
    rw [row.record_eq]
    rfl
  rw [hcount, hget]
  split at hblocks
  · next blocks heq =>
    simp only [bind_eq_ok, exists_unit, raiseIf_eq_ok, Bool.not_eq_false', Bool.and_eq_true,
      decide_eq_true_eq] at hblocks
    exact ⟨total, blocks, validateChunk_total htotal, hbound, heq, hblocks.1.2⟩
  · cases hblocks

/-- Every line of a shard is within the bound of a line. -/
theorem Commits.line {h : Hooks} {shard : ProfileShard} (hs : Commits h shard)
    (hpassed : ∀ ref ∈ profileRows h, Passed ref) :
    ∀ record ∈ shard.records, ∃ raw, canonicalJsonLine record = .ok raw ∧
      raw.length ≤ maxProfileRecordBytes := by
  intro record hmem
  simp only [ProfileShard.records, List.cons_append, List.mem_cons, List.mem_append, List.mem_map,
    List.not_mem_nil, or_false] at hmem
  rcases hmem with rfl | ⟨⟨ref, href, rfl⟩ | hloss⟩ | rfl
  · obtain ⟨_, _, _, _, _, _, hstart⟩ := hs.start
    simp only [buildProfileStartRecord, bind_eq_ok, exists_unit, pure_eq_ok] at hstart
    obtain ⟨-, -, -, -, raw, hline, hstart⟩ := hstart
    exact ⟨raw, line_of_profileRecordLine (hstart ▸ hline)⟩
  · obtain ⟨_, _, _, row⟩ := hpassed ref (hs.data.subset href)
    obtain ⟨raw, hline⟩ := row.line
    exact ⟨raw, line_of_profileRecordLine hline⟩
  · obtain ⟨_, _, _, _, _, _, _, _, hloss⟩ := hs.losses record hloss
    simp only [buildProfileLossIntervalRecord, bind_eq_ok, exists_unit, pure_eq_ok] at hloss
    obtain ⟨-, -, -, -, -, -, -, -, raw, hline, hloss⟩ := hloss
    exact ⟨raw, line_of_profileRecordLine (hloss ▸ hline)⟩
  · obtain ⟨_, _, _, _, _, _, _, _, _, _, hsummary⟩ := hs.summary
    simp only [buildProfileSummaryRecord, bind_eq_ok, exists_unit, pure_eq_ok] at hsummary
    obtain ⟨-, -, -, -, -, -, -, -, -, -, raw, hline, hsummary⟩ := hsummary
    exact ⟨raw, line_of_profileRecordLine (hsummary ▸ hline)⟩

namespace Sample

/-- A digest that tells the texts below apart. -/
def digest (text : Bytes) : String :=
  let digits := Nat.toDigits 16
    (text.foldl (fun value byte => (value * 31 + byte.toNat) % 2 ^ 31) 0)
  String.ofList (digits.reverse ++ List.replicate (64 - digits.length) '0')

theorem parentCommit_hex : isHex 40 "0000000000000000000000000000000000000001" = true := by decide
theorem coreCommit_hex : isHex 40 "0000000000000000000000000000000000000002" = true := by decide
theorem pluginCommit_hex : isHex 40 "0000000000000000000000000000000000000003" = true := by decide

def provenance : RuntimeProvenance where
  profilerParentCommit := "0000000000000000000000000000000000000001"
  runtimeCoreCommit := "0000000000000000000000000000000000000002"
  devicePluginCommit := "0000000000000000000000000000000000000003"
  profilerParentCommit_hex := parentCommit_hex
  runtimeCoreCommit_hex := coreCommit_hex
  devicePluginCommit_hex := pluginCommit_hex

end Sample

end LifecycleProfiler.Runtime
