import LifecycleProfiler.General.Transition
import LifecycleProfiler.Python.Ordering
import LifecycleProfiler.Runtime.Linearity
import LifecycleProfiler.Runtime.Moves

/-! # Stages that are written once

The `preempt`, `scheduler_wakeup` and `admission` rows of an episode. The
adapter forgets which rows an episode has when the episode leaves the table,
and writes the first one again when the preparation of a transfer context is
repeated. -/

namespace LifecycleProfiler.Runtime
open Python Protocol General

def uniqueStages : List String := ["preempt", "scheduler_wakeup", "admission"]

/-- An accepted `recovery_event` of the stage, request and epoch. -/
def isStage (stage : String) (key : String × Int) (ref : ProfileRecordRef) : Bool :=
  ref.recordType = .recoveryEvent && ref.record.has "stage" stage &&
    ref.record.has "runtime_request_id" key.1 && ref.record.hasNum "recovery_epoch" key.2

/-- At most one row of each unique stage for a request and an epoch. -/
def UniqueStages (h : Hooks) : Prop :=
  ∀ stage ∈ uniqueStages, ∀ key, (profileRows h).countP (isStage stage key) ≤ 1

/-- The call does not write a `preempt` row again: the episode has none yet, and
no earlier episode of the same request and epoch left with one. -/
def BeginsOnce (s : Scheduler) (key : String × Int) : Prop :=
  key ∉ s.retired ∧ ∀ item ∈ s.episodes, item.1 = key → item.2.preemptProfileRecordId = none

instance (s : Scheduler) (key : String × Int) : Decidable (BeginsOnce s key) :=
  inferInstanceAs (Decidable (_ ∧ _))

/-- The condition on a callback. -/
def WritesOnce (s : Scheduler) (c : SchedulerCallback) : Prop :=
  ∀ key, s.begun c = some key → BeginsOnce s key

instance (s : Scheduler) (c : SchedulerCallback) : Decidable (WritesOnce s c) :=
  match h : s.begun c with
  | none => .isTrue fun key hkey => by rw [h] at hkey; cases hkey
  | some key => decidable_of_iff (BeginsOnce s key) ⟨fun hb other ho => by
      rw [h, Option.some.injEq] at ho
      exact ho ▸ hb, fun hw => hw key h⟩

def Scheduler.step (s : Scheduler) (c : SchedulerCallback) : Option Scheduler := some (s.callback c)

/-- A fresh adapter over a sink nothing was written to. -/
def Scheduler.IsStart (s : Scheduler) : Prop :=
  ∃ runId sha256 hooks capacity, s = Scheduler.start runId sha256 hooks capacity ∧
    hooks.log = [] ∧ hooks.nextProfileSeq = 0

/-! ## Reading a row -/

theorem isStage_event {h : Hooks} {now : Int} {event : RecoveryEvent} {ref : ProfileRecordRef}
    (row : Accepted .recoveryEvent now event.fields h ref) (stage : String) (key : String × Int) :
    isStage stage key ref = true ↔ event.stage = stage ∧ event.request.runtimeRequestId = key.1 ∧
      event.request.recoveryEpoch = some key.2 := by
  have hstage : ref.record.get "stage" = .str event.stage := by
    rw [row.record_eq]
    rfl
  have hrid : ref.record.get "runtime_request_id" = .str event.request.runtimeRequestId := by
    rw [row.record_eq]
    rfl
  have hepoch : ref.record.get "recovery_epoch" = optInt event.request.recoveryEpoch := by
    rw [row.record_eq]
    rfl
  simp only [isStage, Bool.and_eq_true, decide_eq_true_eq, Dict.has_iff, Dict.hasNum_iff,
    hstage, hrid, hepoch, row.type_eq, true_and, Value.str.injEq]
  rw [and_assoc]
  refine and_congr_right fun _ => and_congr_right fun _ => ?_
  cases event.request.recoveryEpoch with
  | none => simp [optInt, Value.num?]
  | some n => simp [optInt, Value.num?]

/-! ## The invariant -/

/-- The stages an episode has written. -/
def SchedulerEpisode.wrote (ep : SchedulerEpisode) (stage : String) : Bool :=
  if stage = "preempt" then ep.preemptProfileRecordId.isSome
  else if stage = "scheduler_wakeup" then ep.wakeupProfileRecordId.isSome
  else ep.admissionProfileRecordId.isSome

/-- What an episode has, it got in order. -/
structure SchedulerEpisode.InOrder (ep : SchedulerEpisode) : Prop where
  context : ep.context.isSome = true → ep.preemptProfileRecordId.isSome = true
  receipt : ep.receipt.isSome = true → ep.context.isSome = true
  wakeup : ep.wakeupProfileRecordId.isSome = true → ep.receipt.isSome = true
  admission : ep.admissionProfileRecordId.isSome = true → ep.receipt.isSome = true

/-- The rows of a key, as far as the table knows. -/
structure Staged (s : Scheduler) : Prop where
  unique : UniqueStages s.bridge.hooks
  absent : ∀ key, key ∉ s.retired → (∀ item ∈ s.episodes, item.1 ≠ key) →
    ∀ stage ∈ uniqueStages, (profileRows s.bridge.hooks).countP (isStage stage key) = 0
  present : ∀ item ∈ s.episodes, item.1 ∉ s.retired → ∀ stage ∈ uniqueStages,
    item.2.wrote stage = false → (profileRows s.bridge.hooks).countP (isStage stage item.1) = 0
  inOrder : ∀ item ∈ s.episodes, item.2.InOrder
  again : ∀ item ∈ s.episodes, item.1 ∈ s.retired → item.2.preemptProfileRecordId = none

section Keeping
variable {s s' : Scheduler}

theorem Staged.start (h : s.IsStart) : Staged s := by
  obtain ⟨runId, sha256, hooks, capacity, rfl, hlog, -⟩ := h
  have hrows : profileRows (Scheduler.start runId sha256 hooks capacity).bridge.hooks = [] := by
    change List.filterMap _ hooks.log = []
    rw [hlog]
    rfl
  refine ⟨fun _ _ _ => ?_, fun _ _ _ _ _ => ?_, fun _ h => absurd h List.not_mem_nil,
    fun _ h => absurd h List.not_mem_nil, fun _ h => absurd h List.not_mem_nil⟩
  · rw [hrows]
    exact Nat.zero_le _
  · rw [hrows]
    rfl

theorem tabled_start (h : s.IsStart) : s.Tabled := by
  obtain ⟨runId, sha256, hooks, capacity, rfl, hlog, hseq⟩ := h
  refine ⟨List.nodup_nil, fun _ h => absurd h List.not_mem_nil,
    fun _ h => absurd h List.not_mem_nil, fun _ _ h =>
      absurd h (by simp [Scheduler.start, Bridge.start]),
    ?_, fun _ h => absurd h List.not_mem_nil⟩
  change (List.filterMap _ hooks.log).length ≤ hooks.nextProfileSeq
  rw [hlog]
  exact Nat.zero_le _

/-- The rows of the unique stages and the table are as before. -/
theorem Staged.of_rows (h : Staged s) (hepisodes : s'.episodes = s.episodes)
    (hretired : s'.retired = s.retired)
    (hrows : ∀ stage ∈ uniqueStages, ∀ key,
      (profileRows s'.bridge.hooks).countP (isStage stage key) =
      (profileRows s.bridge.hooks).countP (isStage stage key)) : Staged s' := by
  refine ⟨fun stage hstage key => ?_, fun key hkey hnone stage hstage => ?_,
    fun item hitem hkey stage hstage hwrote => ?_, ?_, ?_⟩
  · rw [hrows stage hstage]
    exact h.unique stage hstage key
  · rw [hrows stage hstage]
    rw [hretired] at hkey
    rw [hepisodes] at hnone
    exact h.absent key hkey hnone stage hstage
  · rw [hrows stage hstage]
    rw [hretired] at hkey
    rw [hepisodes] at hitem
    exact h.present item hitem hkey stage hstage hwrote
  · rw [hepisodes]
    exact h.inOrder
  · rw [hepisodes, hretired]
    exact h.again

theorem countP_snoc (rows : List ProfileRecordRef) (ref : ProfileRecordRef)
    (p : ProfileRecordRef → Bool) :
    (rows ++ [ref]).countP p = rows.countP p + if p ref then 1 else 0 := by
  rw [List.countP_append, List.countP_singleton]

/-- An episode writes a row of a unique stage at most once. -/
theorem Writes.wrote {begins : String × Int → Prop} {key : String × Int} {ep ep' : SchedulerEpisode}
    {recordId : String} {event : RecoveryEvent} (h : Writes begins key ep recordId event ep')
    (hstarted : ep.admissionStartedEvent.isSome = ep.wakeupProfileRecordId.isSome)
    (hbegins : begins key → ep.preemptProfileRecordId = none) {stage : String}
    (hstage : stage ∈ uniqueStages) :
    (event.stage = stage → ep.wrote stage = false ∧ ep'.wrote stage = true) ∧
      (event.stage ≠ stage → ep'.wrote stage = ep.wrote stage) := by
  simp only [uniqueStages, List.mem_cons, List.not_mem_nil, or_false] at hstage
  cases h with
  | preempt first =>
    refine ⟨?_, ?_⟩
    · rintro rfl
      exact ⟨by simp [SchedulerEpisode.wrote, Scheduler.preemptRow, hbegins first], rfl⟩
    · intro hne
      have hne : "preempt" ≠ stage := hne
      rcases hstage with rfl | rfl | rfl
      · exact absurd rfl hne
      · rfl
      · rfl
  | wakeup received waiting =>
    refine ⟨?_, ?_⟩
    · rintro rfl
      rw [waiting] at hstarted
      exact ⟨hstarted.symm, rfl⟩
    · intro hne
      have hne : "scheduler_wakeup" ≠ stage := hne
      rcases hstage with rfl | rfl | rfl
      · rfl
      · exact absurd rfl hne
      · rfl
  | requeue =>
    refine ⟨?_, fun _ => rfl⟩
    rintro rfl
    simp [Scheduler.requeueRow, Scheduler.receiptRow] at hstage
  | admission received awake last admitted waiting =>
    refine ⟨?_, ?_⟩
    · rintro rfl
      exact ⟨by
        simp [SchedulerEpisode.wrote, Scheduler.admissionRow, Scheduler.receiptRow, waiting], rfl⟩
    · intro hne
      have hne : "admission" ≠ stage := hne
      rcases hstage with rfl | rfl | rfl
      · rfl
      · rfl
      · exact absurd rfl hne

theorem Writes.inOrder {begins : String × Int → Prop} {key : String × Int}
    {ep ep' : SchedulerEpisode} {recordId : String} {event : RecoveryEvent}
    (h : Writes begins key ep recordId event ep') (hs : ep.InOrder) : ep'.InOrder := by
  cases h with
  | preempt => exact ⟨fun _ => rfl, hs.receipt, hs.wakeup, hs.admission⟩
  | wakeup received =>
    exact ⟨hs.context, hs.receipt, fun _ => by rw [received]; rfl, hs.admission⟩
  | requeue => exact ⟨hs.context, hs.receipt, hs.wakeup, hs.admission⟩
  | admission received =>
    exact ⟨hs.context, hs.receipt, hs.wakeup, fun _ => by rw [received]; rfl⟩

theorem SchedulerEpisode.context_of_awaits {ep : SchedulerEpisode} {receipt : H2DReceipt}
    (h : ep.awaits receipt = true) : ep.context.isSome = true ∧ ep.receipt = none := by
  unfold SchedulerEpisode.awaits at h
  split at h
  · cases h
  · next context hcontext =>
    simp only [Bool.and_eq_true, Option.isNone_iff_eq_none] at h
    exact ⟨by rw [hcontext]; rfl, h.1.1.1⟩

theorem Learns.inOrder {known : H2DReceipt → Prop} {key : String × Int}
    {ep ep' : SchedulerEpisode} (h : Learns known key ep ep') (hs : ep.InOrder) :
    ep'.InOrder := by
  cases h with
  | context context begun => exact ⟨fun _ => begun, fun _ => rfl, hs.wakeup, hs.admission⟩
  | receipt receipt awaited =>
    have := (SchedulerEpisode.context_of_awaits awaited).1
    exact ⟨hs.context, fun _ => this, fun _ => rfl, fun _ => rfl⟩

/-- What an event is about: the key of its episode. -/
theorem Writes.about {begins : String × Int → Prop} {key : String × Int} {ep ep' : SchedulerEpisode}
    {recordId : String} {event : RecoveryEvent} (h : Writes begins key ep recordId event ep') :
    event.request.runtimeRequestId = ep.identity.runtimeRequestId ∧
      event.request.recoveryEpoch = some ep.recoveryEpoch := by
  cases h <;> exact ⟨rfl, rfl⟩

theorem SchedulerEpisode.InOrder.wrote_eq_false {ep : SchedulerEpisode} (h : ep.InOrder)
    (hnone : ep.preemptProfileRecordId = none) (stage : String) : ep.wrote stage = false := by
  have hcontext : ep.context.isSome ≠ true := fun hc => by
    have := h.context hc
    rw [hnone] at this
    cases this
  have hreceipt : ep.receipt.isSome ≠ true := fun hr => hcontext (h.receipt hr)
  unfold SchedulerEpisode.wrote
  split
  · rw [hnone]
    rfl
  · split
    · exact Bool.not_eq_true _ ▸ fun hw => hreceipt (h.wakeup hw)
    · exact Bool.not_eq_true _ ▸ fun ha => hreceipt (h.admission ha)

theorem Staged.arrive (hs : Staged s) (ht : s.Tabled) {key : String × Int} {ep : SchedulerEpisode}
    (same : s.SameRows s') (absent : ∀ item ∈ s.episodes, item.1 ≠ key) (fresh : ep.Fresh s key)
    (episodes : s'.episodes = s.episodes.set key ep) (retired : s'.retired = s.retired) :
    Staged s' := by
  have hitems : ∀ item, item ∈ s'.episodes ↔ item = (key, ep) ∨ item ∈ s.episodes ∧ item.1 ≠ key :=
    fun item => by rw [episodes, Mapping.mem_set ht.unique]
  refine ⟨fun stage hstage other => ?_, fun other hother hnone stage hstage => ?_,
    fun item hitem hkey stage hstage hwrote => ?_, fun item hitem => ?_, fun item hitem hkey => ?_⟩
  · rw [same.rows]
    exact hs.unique stage hstage other
  · rw [same.rows]
    rw [retired] at hother
    exact hs.absent other hother
      (fun item hitem => hnone item ((hitems item).mpr (.inr ⟨hitem, absent item hitem⟩)))
        stage hstage
  · rw [same.rows]
    rw [retired] at hkey
    rcases (hitems item).mp hitem with rfl | ⟨hold, -⟩
    · exact hs.absent key hkey absent stage hstage
    · exact hs.present item hold hkey stage hstage hwrote
  · rcases (hitems item).mp hitem with rfl | ⟨hold, -⟩
    · refine ⟨fun h => ?_, fun h => ?_, fun h => ?_, fun h => ?_⟩
      · rw [fresh.context] at h
        cases h
      · rw [fresh.receipt] at h
        cases h
      · rw [fresh.wakeup] at h
        cases h
      · rw [fresh.admission] at h
        cases h
    · exact hs.inOrder item hold
  · rw [retired] at hkey
    rcases (hitems item).mp hitem with rfl | ⟨hold, -⟩
    · exact fresh.preempt
    · exact hs.again item hold hkey

section Forget
variable {leaves : (String × Int) × SchedulerEpisode → Bool} {key : String × Int}

theorem Scheduler.mem_forget {item : (String × Int) × SchedulerEpisode} :
    item ∈ (s.forget leaves).episodes ↔ item ∈ s.episodes ∧ leaves item = false := by
  simp [Scheduler.forget]

theorem Scheduler.mem_retired_forget : key ∈ (s.forget leaves).retired ↔ key ∈ s.retired ∨
    ∃ item ∈ s.episodes, leaves item = true ∧ item.2.preemptProfileRecordId.isSome = true ∧
      item.1 = key := by
  simp only [Scheduler.forget, List.mem_append, List.mem_map, List.mem_filter, Bool.and_eq_true,
    and_assoc]

/-- A key that is neither kept nor retired had no episode, or one that had not
begun. -/
theorem Scheduler.unbegun_of_forget (hkey : key ∉ (s.forget leaves).retired)
    (hnone : ∀ item ∈ (s.forget leaves).episodes, item.1 ≠ key) :
    key ∉ s.retired ∧ ((∀ item ∈ s.episodes, item.1 ≠ key) ∨
      ∃ item ∈ s.episodes, item.1 = key ∧ item.2.preemptProfileRecordId = none) := by
  rw [mem_retired_forget, not_or] at hkey
  refine ⟨hkey.1, ?_⟩
  by_cases hany : ∃ item ∈ s.episodes, item.1 = key
  · obtain ⟨item, hitem, rfl⟩ := hany
    have hleaves : leaves item = true := by
      by_contra hstays
      rw [Bool.not_eq_true] at hstays
      exact hnone item (mem_forget.mpr ⟨hitem, hstays⟩) rfl
    refine .inr ⟨item, hitem, rfl, ?_⟩
    by_contra hsome
    exact hkey.2 ⟨item, hitem, hleaves, Option.isSome_iff_ne_none.mpr hsome, rfl⟩
  · exact .inl fun item hitem heq => hany ⟨item, hitem, heq⟩

/-- The key of a kept episode is not retired by the others. -/
theorem Scheduler.Tabled.retired_of_kept (ht : s.Tabled)
    {item : (String × Int) × SchedulerEpisode} (hitem : item ∈ (s.forget leaves).episodes)
    (hkey : item.1 ∈ (s.forget leaves).retired) : item.1 ∈ s.retired := by
  obtain ⟨hold, hstays⟩ := mem_forget.mp hitem
  rcases mem_retired_forget.mp hkey with hkey | ⟨other, hother, hleaves, -, heq⟩
  · exact hkey
  · have hsame : other = item :=
      Prod.ext heq (ht.unique.eq_of_mem (heq ▸ hother : (item.1, other.2) ∈ s.episodes) hold)
    rw [hsame, hstays] at hleaves
    cases hleaves

end Forget

theorem Staged.leave (hs : Staged s) (ht : s.Tabled)
    (leaves : (String × Int) × SchedulerEpisode → Bool) : Staged (s.forget leaves) := by
  refine ⟨hs.unique, fun key hkey hnone stage hstage => ?_,
    fun item hitem hkey => hs.present item (Scheduler.mem_forget.mp hitem).1 fun hold =>
      hkey (Scheduler.mem_retired_forget.mpr (.inl hold)),
    fun item hitem => hs.inOrder item (Scheduler.mem_forget.mp hitem).1,
    fun item hitem hkey => hs.again item (Scheduler.mem_forget.mp hitem).1
      (ht.retired_of_kept hitem hkey)⟩
  obtain ⟨hold, hnever | ⟨item, hitem, rfl, hpreempt⟩⟩ := Scheduler.unbegun_of_forget hkey hnone
  · exact hs.absent key hold hnever stage hstage
  · exact hs.present item hitem hold stage hstage
      ((hs.inOrder item hitem).wrote_eq_false hpreempt stage)

theorem Staged.learn (hs : Staged s) (ht : s.Tabled) {key : String × Int}
    {ep ep' : SchedulerEpisode}
    (same : s.SameRows s') (hmem : (key, ep) ∈ s.episodes) {known : H2DReceipt → Prop}
    (learns : Learns known key ep ep')
    (episodes : s'.episodes = s.episodes.set key ep') (retired : s'.retired = s.retired) :
    Staged s' := by
  have hitems : ∀ item, item ∈ s'.episodes ↔ item = (key, ep') ∨ item ∈ s.episodes ∧ item.1 ≠ key :=
    fun item => by rw [episodes, Mapping.mem_set ht.unique]
  have hwrites : ∀ stage, ep'.wrote stage = ep.wrote stage := fun stage => by cases learns <;> rfl
  have hpreempt : ep'.preemptProfileRecordId = ep.preemptProfileRecordId := by cases learns <;> rfl
  refine ⟨fun stage hstage other => ?_, fun other hother hnone stage hstage => ?_,
    fun item hitem hkey stage hstage hwrote => ?_, fun item hitem => ?_, fun item hitem hkey => ?_⟩
  · rw [same.rows]
    exact hs.unique stage hstage other
  · rw [same.rows]
    rw [retired] at hother
    have hne : key ≠ other := hnone _ ((hitems _).mpr (.inl rfl))
    refine hs.absent other hother (fun item hitem heq => ?_) stage hstage
    exact hnone item ((hitems item).mpr (.inr ⟨hitem, heq ▸ hne.symm⟩)) heq
  · rw [same.rows]
    rw [retired] at hkey
    rcases (hitems item).mp hitem with rfl | ⟨hold, -⟩
    · exact hs.present _ hmem hkey stage hstage ((hwrites stage).symm.trans hwrote)
    · exact hs.present item hold hkey stage hstage hwrote
  · rcases (hitems item).mp hitem with rfl | ⟨hold, -⟩
    · exact learns.inOrder (hs.inOrder _ hmem)
    · exact hs.inOrder item hold
  · rw [retired] at hkey
    rcases (hitems item).mp hitem with rfl | ⟨hold, -⟩
    · exact hpreempt.trans (hs.again _ hmem hkey)
    · exact hs.again item hold hkey

/-- An episode that writes a row begins with it, or began before. -/
theorem Writes.began {begins : String × Int → Prop} {key : String × Int} {ep ep' : SchedulerEpisode}
    {recordId : String} {event : RecoveryEvent} (h : Writes begins key ep recordId event ep')
    (hs : ep.InOrder) : begins key ∨ ep.preemptProfileRecordId.isSome = true := by
  have hreceipt : ∀ {receipt : H2DReceipt}, ep.receipt = some receipt →
      ep.preemptProfileRecordId.isSome = true := fun hr =>
    hs.context (hs.receipt (by rw [hr]; rfl))
  cases h with
  | preempt first => exact .inl first
  | wakeup received => exact .inr (hreceipt received)
  | requeue received => exact .inr (hreceipt received)
  | admission received => exact .inr (hreceipt received)

/-- An episode that writes a row is not one that comes after a retired one. -/
theorem Staged.not_retired (hs : Staged s) {key : String × Int} {ep ep' : SchedulerEpisode}
    {recordId : String} {event : RecoveryEvent} (hmem : (key, ep) ∈ s.episodes)
    (writes : Writes (BeginsOnce s) key ep recordId event ep') : key ∉ s.retired := by
  intro hkey
  rcases writes.began (hs.inOrder _ hmem) with first | hsome
  · exact first.1 hkey
  · rw [hs.again _ hmem hkey] at hsome
    cases hsome

theorem Staged.write (hs : Staged s) (ht : s.Tabled) {key : String × Int}
    {ep ep' : SchedulerEpisode}
    {ref : ProfileRecordRef} {now : Int} {event : RecoveryEvent} (hmem : (key, ep) ∈ s.episodes)
    (writes : Writes (BeginsOnce s) key ep ref.recordId event ep')
    (row : Accepted .recoveryEvent now event.fields s.bridge.hooks ref)
    (rows : profileRows s'.bridge.hooks = profileRows s.bridge.hooks ++ [ref])
    (episodes : s'.episodes = s.episodes.set key ep') (retired : s'.retired = s.retired) :
    Staged s' := by
  have hitems : ∀ item, item ∈ s'.episodes ↔ item = (key, ep') ∨ item ∈ s.episodes ∧ item.1 ≠ key :=
    fun item => by rw [episodes, Mapping.mem_set ht.unique]
  have hkey := hs.not_retired hmem writes
  have habout : event.request.runtimeRequestId = key.1 ∧
    event.request.recoveryEpoch = some key.2 := by
    obtain ⟨hrid, hepoch⟩ := writes.about
    rw [hrid, hepoch, ht.identity _ hmem, ht.epoch _ hmem]
    exact ⟨rfl, rfl⟩
  have hwrote : ∀ {stage : String}, stage ∈ uniqueStages →
      (event.stage = stage → ep.wrote stage = false ∧ ep'.wrote stage = true) ∧
        (event.stage ≠ stage → ep'.wrote stage = ep.wrote stage) :=
    writes.wrote (ht.started _ hmem) fun first => first.2 _ hmem rfl
  have hcount : ∀ stage other, (profileRows s'.bridge.hooks).countP (isStage stage other) =
      (profileRows s.bridge.hooks).countP (isStage stage other) +
        if event.stage = stage ∧ other = key then 1 else 0 := by
    intro stage other
    rw [rows, countP_snoc]
    congr 1
    refine if_congr ?_ rfl rfl
    rw [isStage_event row, habout.1, habout.2, Option.some.injEq]
    refine and_congr_right fun _ => ⟨fun h => Prod.ext h.1.symm h.2.symm, fun h => h ▸ ⟨rfl, rfl⟩⟩
  have hsame : ∀ stage other, other ≠ key →
    (profileRows s'.bridge.hooks).countP (isStage stage other) =
      (profileRows s.bridge.hooks).countP (isStage stage other) := fun stage other hne => by
    rw [hcount, if_neg fun h => hne h.2, Nat.add_zero]
  refine ⟨fun stage hstage other => ?_, fun other hother hnone stage hstage => ?_,
    fun item hitem hkept stage hstage hnot => ?_, fun item hitem => ?_, fun item hitem hold => ?_⟩
  · rw [hcount]
    split
    · next h =>
      rw [h.2, hs.present _ hmem hkey stage hstage ((hwrote hstage).1 h.1).1]
    · exact hs.unique stage hstage other
  · rw [retired] at hother
    have hne : key ≠ other := hnone _ ((hitems _).mpr (.inl rfl))
    rw [hsame stage other hne.symm]
    refine hs.absent other hother (fun item hitem heq => ?_) stage hstage
    exact hnone item ((hitems item).mpr (.inr ⟨hitem, heq ▸ hne.symm⟩)) heq
  · rw [retired] at hkept
    rcases (hitems item).mp hitem with rfl | ⟨hold, hne⟩
    · have hother : event.stage ≠ stage := fun heq => by
        rw [((hwrote hstage).1 heq).2] at hnot
        cases hnot
      rw [hcount, if_neg fun h => hother h.1]
      exact hs.present _ hmem hkept stage hstage (((hwrote hstage).2 hother).symm.trans hnot)
    · rw [hsame stage item.1 hne]
      exact hs.present item hold hkept stage hstage hnot
  · rcases (hitems item).mp hitem with rfl | ⟨hold, -⟩
    · exact writes.inOrder (hs.inOrder _ hmem)
    · exact hs.inOrder item hold
  · rw [retired] at hold
    rcases (hitems item).mp hitem with rfl | ⟨hother, -⟩
    · exact absurd hold hkey
    · exact hs.again item hother hold

/-- One move keeps the invariant. -/
theorem Staged.move (hs : Staged s) (ht : s.Tabled) {known : H2DReceipt → Prop}
    (h : Move BeginsOnce known s s') : Staged s' := by
  cases h with
  | quiet _ rows _ episodes retired =>
    exact hs.of_rows episodes retired fun stage _ key => by rw [rows]
  | chunk _ ref _ _ row rows _ episodes retired =>
    refine hs.of_rows episodes retired fun stage _ key => ?_
    rw [rows, countP_snoc, if_neg, Nat.add_zero]
    simp [isStage, row.type_eq]
  | arrive _ same key ep absent fresh episodes retired =>
    exact hs.arrive ht same absent fresh episodes retired
  | leave leaves forgotten => exact forgotten ▸ hs.leave ht leaves
  | learn _ same key ep ep' mem learns episodes retired =>
    exact hs.learn ht same mem learns episodes retired
  | write _ key ep ep' mem ref now event writes row rows _ episodes retired =>
    exact hs.write ht mem writes row rows episodes retired

theorem Staged.moves {known : H2DReceipt → Prop} (h : Moves BeginsOnce known s s') (hs : Staged s)
    (ht : s.Tabled) :
    Staged s' ∧ s'.Tabled := by
  induction h with
  | refl => exact ⟨hs, ht⟩
  | tail _ hlast ih => exact ⟨ih.1.move ih.2 hlast, hlast.tabled ih.2⟩

end Keeping

theorem staged_of_reach {s : Scheduler} (h : Reach Scheduler.step Scheduler.IsStart WritesOnce s) :
    Staged s ∧ s.Tabled := by
  refine h.invariant (I := fun s => Staged s ∧ s.Tabled)
    (fun s hs => ⟨.start hs, tabled_start hs⟩) ?_
  rintro s c s' ⟨hs, ht⟩ hok hstep
  rw [Scheduler.step, Option.some.injEq] at hstep
  subst hstep
  exact Staged.moves (moves_callback ht c hok fun _ _ => trivial) hs ht

/-- **The unique stages are written once**, in every state of a run whose
callbacks all meet the condition. -/
theorem unique_stages (s : Scheduler) (callbacks : List SchedulerCallback) (hstart : s.IsStart)
    (hok : RunOk Scheduler.step WritesOnce s callbacks) :
    UniqueStages (run Scheduler.step s callbacks).bridge.hooks :=
  (staged_of_reach ((Reach.init hstart).run hok)).1.unique

namespace Sample

def lifecycleId : String := "0743abc262d38893e52e6e47347f2966:e:0"

/-- The scheduler adapter over an open sink that answers every call. -/
def scheduler : Scheduler := Scheduler.start runId sha256 (hooks []) 16

def blockSetId : String := "0e0e0e0e0e0e0e0e0e0e0e0e0e0e0e0e0e0e0e0e0e0e0e0e0e0e0e0e0e0e0e0e"

def restore (blockSetId : Option String) (clock : Int) : SchedulerCallback :=
  .prepareTransferContext "request-0" "h2d_restore" [(0, 0)] blockSetId (some clock)

/-- A request that is scheduled and preempted. -/
def preempted : List SchedulerCallback :=
  [.requestStarted "request-0" (some 100),
   .requestScheduled "request-0" "prefill" 4 8 0 (some 110),
   .requestPreempted "request-0" 1 (some 120)]

def receipt : H2DReceipt where
  connectorJobId := 7
  transferId := "0c0c0c0c0c0c0c0c0c0c0c0c0c0c0c0c:t:0"
  identity := ⟨runId, "0743abc262d38893e52e6e47347f2966", lifecycleId, "request-0", some 1,
    some (lifecycleId ++ ":k:1"), some "0a0a0a0a0a0a0a0a0a0a0a0a0a0a0a0a:e:5",
    some "0a0a0a0a0a0a0a0a0a0a0a0a0a0a0a0a:k:0"⟩
  blockSetId := blockSetId
  processUuid := "0c0c0c0c0c0c0c0c0c0c0c0c0c0c0c0c"
  clockDomainId := "0b0b0b0b0b0b0b0b0b0b0b0b0b0b0b0b"
  communicationDoneEventId := "0c0c0c0c0c0c0c0c0c0c0c0c0c0c0c0c:e:1"
  restoreDoneProfileRecordId := "0c0c0c0c0c0c0c0c0c0c0c0c0c0c0c0c:k:3"
  timestampNs := 150
  bytesMoved := 4096

/-- Its recovery, with one requeue. -/
def recovered : List SchedulerCallback :=
  preempted ++
  [restore (some blockSetId) 130, .consumeH2dReceipts [receipt] false,
   .requestAdmissionStarted "request-0" 1 (some 160),
   .requestRequeued "request-0" 1 "block_capacity" (some 170),
   .requestAdmitted "request-0" 1 "prefill" 8 4 (some 180) (some 190) true]

/-- A constructor of the ABI fails once, and the context is prepared again. -/
def preparedAgain : List SchedulerCallback :=
  preempted ++ [restore none 130, restore (some blockSetId) 140]

end Sample

theorem sample_isStart : Sample.scheduler.IsStart := ⟨_, _, _, _, rfl, rfl, rfl⟩

theorem unique_stages_recovered :
    UniqueStages (run Scheduler.step Sample.scheduler Sample.recovered).bridge.hooks :=
  unique_stages Sample.scheduler Sample.recovered sample_isStart (by decide +kernel)

/-- The second preparation writes a second `preempt` row. -/
theorem prepared_again_preempts_twice :
    ¬ ∀ (s : Scheduler) (callbacks : List SchedulerCallback), s.IsStart →
      UniqueStages (run Scheduler.step s callbacks).bridge.hooks := by
  intro h
  have honce := h Sample.scheduler Sample.preparedAgain sample_isStart "preempt" (by decide)
    ("request-0", 1)
  revert honce
  decide +kernel

end LifecycleProfiler.Runtime
