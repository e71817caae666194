import Mathlib.Data.List.Sort
import Mathlib.Algebra.Order.Ring.Rat
import Mathlib.Tactic.Linarith
import LifecycleProfiler.Python.Mapping
import LifecycleProfiler.Python.Raise

/-! # The offline decomposition

`decompose_kv_recovery`: the events of one pressure episode in the order of
their times, a table of the six milestones and the differences between them.
Times are rational numbers. -/

namespace LifecycleProfiler.Offline
open Python

inductive KVRecoveryStage where
  | preempt
  | restoreStart
  | restoreDone
  | schedulerWakeup
  | requeue
  | admission
  | firstCompute
  deriving DecidableEq, Repr

def KVRecoveryStage.wire : KVRecoveryStage → String
  | .preempt => "preempt"
  | .restoreStart => "restore_start"
  | .restoreDone => "restore_done"
  | .schedulerWakeup => "scheduler_wakeup"
  | .requeue => "requeue"
  | .admission => "admission"
  | .firstCompute => "first_prefill_or_decode"

structure KVRecoveryEvent where
  requestId : String
  sequenceId : String
  stage : KVRecoveryStage
  timestampMs : ℚ
  blockIds : List String := []
  bytesMoved : Option Int := none
  reason : Option String := none
  deriving DecidableEq

structure KVRecoveryDecomposition where
  requestId : String
  sequenceId : String
  blockCount : Nat
  bytesMoved : Int
  copyMs : ℚ
  restoreToWakeupMs : ℚ
  wakeupToAdmissionMs : ℚ
  restoreToAdmissionMs : ℚ
  admissionToFirstComputeMs : ℚ
  totalRecoveryMs : ℚ
  requeueCount : Nat
  requeueReasons : List String
  deriving DecidableEq

/-- `_REQUIRED_STAGES` -/
def requiredStages : List KVRecoveryStage :=
  [.preempt, .restoreStart, .restoreDone, .schedulerWakeup, .admission, .firstCompute]

/-- `sorted(events, key=lambda event: event.timestamp_ms)` -/
def inTimeOrder (events : List KVRecoveryEvent) : List KVRecoveryEvent :=
  events.insertionSort fun a b => a.timestampMs ≤ b.timestampMs

/-- `by_stage`, filled with everything but the requeues. -/
def milestoneTable : List KVRecoveryEvent → Mapping KVRecoveryStage KVRecoveryEvent →
    Except PyError (Mapping KVRecoveryStage KVRecoveryEvent)
  | [], table => .ok table
  | event :: rest, table =>
    if event.stage = .requeue then milestoneTable rest table
    else if (table.get event.stage).isSome then
      .error (.valueError s!"duplicate recovery milestone: {event.stage.wire}")
    else milestoneTable rest (table.set event.stage event)

/-- `by_stage[stage]` -/
def milestone (table : Mapping KVRecoveryStage KVRecoveryEvent) (stage : KVRecoveryStage) :
    Except PyError KVRecoveryEvent :=
  match table.get stage with
  | some event => .ok event
  | none => .error (.valueError stage.wire)

def decomposeKvRecovery (events : List KVRecoveryEvent) :
    Except PyError KVRecoveryDecomposition := do
  let ordered := inTimeOrder events
  raiseIf ordered.isEmpty "kv recovery timeline is empty"
  let requestIds := (ordered.map (·.requestId)).dedup
  let sequenceIds := (ordered.map (·.sequenceId)).dedup
  raiseIf (requestIds.length != 1 || sequenceIds.length != 1)
    "all recovery events must use one stable request/sequence id"
  let byStage ← milestoneTable ordered []
  let missing := requiredStages.filter fun stage => (byStage.get stage).isNone
  raiseIf (!missing.isEmpty)
    ("missing recovery milestones: " ++ ", ".intercalate (missing.map KVRecoveryStage.wire))
  let milestones ← requiredStages.mapM (milestone byStage)
  let timestamps := milestones.map (·.timestampMs)
  raiseIf (timestamps != timestamps.insertionSort (· ≤ ·))
    "recovery milestones are not causally ordered"
  let restoreStart ← milestone byStage .restoreStart
  let restoreDone ← milestone byStage .restoreDone
  raiseIf restoreStart.blockIds.isEmpty "restore_start must carry stable block ids"
  raiseIf (restoreStart.blockIds != restoreDone.blockIds)
    "restore_start/restore_done block ids differ"
  raiseIf (restoreDone.bytesMoved.all fun bytes => decide (bytes ≤ 0))
    "restore_done must carry positive bytes_moved"
  let preempt ← milestone byStage .preempt
  let wakeup ← milestone byStage .schedulerWakeup
  let admission ← milestone byStage .admission
  let firstCompute ← milestone byStage .firstCompute
  let requeues := ordered.filter fun event => event.stage = .requeue
  raiseIf (requeues.any fun event => (event.reason.getD "").isEmpty)
    "every requeue event must carry a reason"
  return {
    requestId := (ordered.head?.map (·.requestId)).getD ""
    sequenceId := (ordered.head?.map (·.sequenceId)).getD ""
    blockCount := restoreStart.blockIds.length
    bytesMoved := restoreDone.bytesMoved.getD 0
    copyMs := restoreDone.timestampMs - restoreStart.timestampMs
    restoreToWakeupMs := wakeup.timestampMs - restoreDone.timestampMs
    wakeupToAdmissionMs := admission.timestampMs - wakeup.timestampMs
    restoreToAdmissionMs := admission.timestampMs - restoreDone.timestampMs
    admissionToFirstComputeMs := firstCompute.timestampMs - admission.timestampMs
    totalRecoveryMs := firstCompute.timestampMs - preempt.timestampMs
    requeueCount := requeues.length
    requeueReasons := requeues.map fun event => event.reason.getD "" }

/-! ## The order of the events -/

theorem inTimeOrder_perm (events : List KVRecoveryEvent) : (inTimeOrder events).Perm events :=
  List.perm_insertionSort _ events

theorem inTimeOrder_pairwise (events : List KVRecoveryEvent) :
    (inTimeOrder events).Pairwise fun a b => a.timestampMs ≤ b.timestampMs := by
  have : Std.Total fun a b : KVRecoveryEvent => a.timestampMs ≤ b.timestampMs :=
    ⟨fun a b => le_total a.timestampMs b.timestampMs⟩
  have : IsTrans KVRecoveryEvent fun a b => a.timestampMs ≤ b.timestampMs :=
    ⟨fun _ _ _ => le_trans⟩
  exact List.pairwise_insertionSort _ events

/-- Events with distinct times have one order in time. -/
theorem inTimeOrder_congr {events others : List KVRecoveryEvent} (hperm : others.Perm events)
    (hdistinct : (events.map (·.timestampMs)).Nodup) : inTimeOrder others = inTimeOrder events := by
  refine List.Perm.eq_of_pairwise ?_ (inTimeOrder_pairwise others) (inTimeOrder_pairwise events)
    ((inTimeOrder_perm others).trans (hperm.trans (inTimeOrder_perm events).symm))
  intro a b ha hb hab hba
  have hmem : a ∈ events := hperm.mem_iff.mp ((inTimeOrder_perm others).mem_iff.mp ha)
  exact List.inj_on_of_nodup_map hdistinct hmem ((inTimeOrder_perm events).mem_iff.mp hb)
    (le_antisymm hab hba)

/-- The outcome depends on the order in time only. -/
theorem decompose_congr {events others : List KVRecoveryEvent}
    (h : inTimeOrder others = inTimeOrder events) :
    decomposeKvRecovery others = decomposeKvRecovery events := by
  unfold decomposeKvRecovery
  rw [h]

/-! ## The table of milestones -/

/-- A filled table keeps what it had and has just the milestones of the list. -/
structure Tabled (events : List KVRecoveryEvent)
    (before after : Mapping KVRecoveryStage KVRecoveryEvent) : Prop where
  kept : ∀ stage event, before.get stage = some event → after.get stage = some event
  listed : ∀ event ∈ events, event.stage ≠ .requeue → after.get event.stage = some event
  source : ∀ stage event, after.get stage = some event →
    before.get stage = some event ∨ event ∈ events ∧ event.stage = stage

theorem tabled_of_ok {events : List KVRecoveryEvent}
    {before after : Mapping KVRecoveryStage KVRecoveryEvent}
    (h : milestoneTable events before = .ok after) : Tabled events before after := by
  induction events generalizing before with
  | nil =>
    cases h
    exact ⟨fun _ _ h => h, nofun, fun _ _ h => .inl h⟩
  | cons event rest ih =>
    rw [milestoneTable] at h
    split at h
    · next hrequeue =>
      obtain ⟨hkept, hlisted, hsource⟩ := ih h
      refine ⟨hkept, fun e he hne => ?_, fun stage e hget => ?_⟩
      · rcases List.mem_cons.mp he with rfl | he
        · exact absurd hrequeue hne
        · exact hlisted e he hne
      · exact (hsource stage e hget).imp_right fun h => ⟨List.mem_cons_of_mem _ h.1, h.2⟩
    · split at h
      · cases h
      · next hnew =>
        rw [Option.not_isSome_iff_eq_none] at hnew
        obtain ⟨hkept, hlisted, hsource⟩ := ih h
        refine ⟨fun stage e hget => hkept stage e ?_, fun e he hne => ?_, fun stage e hget => ?_⟩
        · have hother : stage ≠ event.stage := by
            rintro rfl
            rw [hnew] at hget
            cases hget
          rw [Mapping.get_set_ne hother]
          exact hget
        · rcases List.mem_cons.mp he with rfl | he
          · exact hkept _ _ (Mapping.get_set_self _ _ _)
          · exact hlisted e he hne
        · rcases hsource stage e hget with hbefore | hmem
          · rw [Mapping.get_set] at hbefore
            split at hbefore
            · next hstage =>
              cases hbefore
              exact .inr ⟨List.mem_cons_self, hstage.symm⟩
            · exact .inl hbefore
          · exact .inr ⟨List.mem_cons_of_mem _ hmem.1, hmem.2⟩

theorem milestone_eq_ok {table : Mapping KVRecoveryStage KVRecoveryEvent} {stage : KVRecoveryStage}
    {event : KVRecoveryEvent} : milestone table stage = .ok event ↔
      table.get stage = some event := by
  unfold milestone
  cases table.get stage with
  | none => simp
  | some e => simp

/-- The only event of its stage. -/
def IsMilestone (events : List KVRecoveryEvent) (event : KVRecoveryEvent) : Prop :=
  event ∈ events ∧ ∀ other ∈ events, other.stage = event.stage → other = event

theorem isMilestone_of_get {events : List KVRecoveryEvent}
    {table : Mapping KVRecoveryStage KVRecoveryEvent}
    (h : milestoneTable (inTimeOrder events) [] = .ok table) {stage : KVRecoveryStage}
    (hstage : stage ≠ .requeue) {event : KVRecoveryEvent} (hget : table.get stage = some event) :
    IsMilestone events event ∧ event.stage = stage := by
  obtain ⟨-, hlisted, hsource⟩ := tabled_of_ok h
  obtain hnone | ⟨hmem, rfl⟩ := hsource stage event hget
  · cases hnone
  · have hall : ∀ e, e ∈ inTimeOrder events ↔ e ∈ events :=
      fun e => (inTimeOrder_perm events).mem_iff
    refine ⟨⟨(hall event).mp hmem, fun other hother hsame => ?_⟩, rfl⟩
    have hget' := hlisted other ((hall other).mpr hother) (hsame ▸ hstage)
    rw [hsame, hget] at hget'
    exact (Option.some.inj hget').symm

/-! ## Accepted episodes -/

/-- What the decomposition reports of an accepted episode. -/
structure Decomposed (events : List KVRecoveryEvent) (r : KVRecoveryDecomposition) : Prop where
  milestones : ∃ preempt restoreStart restoreDone wakeup admission firstCompute,
    (IsMilestone events preempt ∧ preempt.stage = .preempt) ∧
    (IsMilestone events restoreStart ∧ restoreStart.stage = .restoreStart) ∧
    (IsMilestone events restoreDone ∧ restoreDone.stage = .restoreDone) ∧
    (IsMilestone events wakeup ∧ wakeup.stage = .schedulerWakeup) ∧
    (IsMilestone events admission ∧ admission.stage = .admission) ∧
    (IsMilestone events firstCompute ∧ firstCompute.stage = .firstCompute) ∧
    preempt.timestampMs ≤ restoreStart.timestampMs ∧
    restoreStart.timestampMs ≤ restoreDone.timestampMs ∧
    restoreDone.timestampMs ≤ wakeup.timestampMs ∧
    wakeup.timestampMs ≤ admission.timestampMs ∧
    admission.timestampMs ≤ firstCompute.timestampMs ∧
    r.copyMs = restoreDone.timestampMs - restoreStart.timestampMs ∧
    r.restoreToWakeupMs = wakeup.timestampMs - restoreDone.timestampMs ∧
    r.wakeupToAdmissionMs = admission.timestampMs - wakeup.timestampMs ∧
    r.restoreToAdmissionMs = admission.timestampMs - restoreDone.timestampMs ∧
    r.admissionToFirstComputeMs = firstCompute.timestampMs - admission.timestampMs ∧
    r.totalRecoveryMs = firstCompute.timestampMs - preempt.timestampMs
  requeueCount : r.requeueCount = (events.filter fun event => event.stage = .requeue).length
  requeueReasons : r.requeueReasons =
    ((inTimeOrder events).filter fun event => event.stage = .requeue).map (·.reason.getD "")

theorem decomposed_of_ok {events : List KVRecoveryEvent} {r : KVRecoveryDecomposition}
    (h : decomposeKvRecovery events = .ok r) : Decomposed events r := by
  unfold decomposeKvRecovery at h
  simp only [bind_eq_ok, raiseIf_eq_ok, exists_unit, pure_eq_ok] at h
  obtain ⟨-, -, table, htable, -, milestones, hmilestones, hsorted, restoreStart, hstart,
    restoreDone, hdone, -, -, -, preempt, hpreempt, wakeup, hwakeup, admission, hadmission,
      firstCompute, hfirst, -,
    rfl⟩ := h
  have hlist : milestones = [preempt, restoreStart, restoreDone, wakeup, admission,
    firstCompute] := by
    simp only [requiredStages, List.mapM_cons, List.mapM_nil, hpreempt, hstart, hdone, hwakeup,
      hadmission, hfirst, ok_bind] at hmilestones
    exact (Except.ok.inj hmilestones).symm
  subst hlist
  have hordered : ([preempt, restoreStart, restoreDone, wakeup, admission, firstCompute].map
      (·.timestampMs)).Pairwise (· ≤ ·) := by
    rw [bne_eq_false_iff_eq] at hsorted
    rw [hsorted]
    exact List.pairwise_insertionSort _ _
  simp only [List.map_cons, List.map_nil, List.pairwise_cons, List.forall_mem_cons] at hordered
  rw [milestone_eq_ok] at hpreempt hstart hdone hwakeup hadmission hfirst
  refine ⟨⟨preempt, restoreStart, restoreDone, wakeup, admission, firstCompute,
    isMilestone_of_get htable (by decide) hpreempt, isMilestone_of_get htable (by decide) hstart,
    isMilestone_of_get htable (by decide) hdone, isMilestone_of_get htable (by decide) hwakeup,
    isMilestone_of_get htable (by decide) hadmission, isMilestone_of_get htable (by decide) hfirst,
    hordered.1.1, hordered.2.1.1, hordered.2.2.1.1, hordered.2.2.2.1.1, hordered.2.2.2.2.1.1,
    rfl, rfl, rfl, rfl, rfl, rfl⟩, ?_, rfl⟩
  exact ((inTimeOrder_perm events).filter _).length_eq

/-- The sums and signs of the claim about one accepted episode. -/
structure Exact (events : List KVRecoveryEvent) (r : KVRecoveryDecomposition) : Prop where
  nonneg : 0 ≤ r.copyMs ∧ 0 ≤ r.restoreToWakeupMs ∧ 0 ≤ r.wakeupToAdmissionMs ∧
    0 ≤ r.restoreToAdmissionMs ∧ 0 ≤ r.admissionToFirstComputeMs ∧ 0 ≤ r.totalRecoveryMs
  total : ∃ preempt restoreStart, (IsMilestone events preempt ∧ preempt.stage = .preempt) ∧
    (IsMilestone events restoreStart ∧ restoreStart.stage = .restoreStart) ∧
    r.totalRecoveryMs = (restoreStart.timestampMs - preempt.timestampMs) + r.copyMs +
      r.restoreToWakeupMs + r.wakeupToAdmissionMs + r.admissionToFirstComputeMs
  restoreToAdmission : r.restoreToAdmissionMs = r.restoreToWakeupMs + r.wakeupToAdmissionMs
  requeueReasons : ∃ requeues : List KVRecoveryEvent,
    requeues.Perm (events.filter fun event => event.stage = .requeue) ∧
    requeues.Pairwise (fun a b => a.timestampMs ≤ b.timestampMs) ∧
    r.requeueReasons = requeues.map (·.reason.getD "") ∧ r.requeueCount = requeues.length

theorem Decomposed.exact {events : List KVRecoveryEvent} {r : KVRecoveryDecomposition}
    (h : Decomposed events r) : Exact events r := by
  obtain ⟨preempt, restoreStart, restoreDone, wakeup, admission, firstCompute, hpreempt,
    hstart, -, -, -, -, h1, h2, h3, h4, h5, hcopy, hwakeup, hadmission, hrestore, hfirst, htotal⟩ :=
      h.milestones
  refine ⟨?_, ⟨preempt, restoreStart, hpreempt, hstart, by linarith⟩, by linarith, ?_⟩
  · refine ⟨?_, ?_, ?_, ?_, ?_, ?_⟩ <;> linarith
  · refine ⟨_, (inTimeOrder_perm events).filter _, (inTimeOrder_pairwise events).filter _,
      h.requeueReasons, ?_⟩
    rw [h.requeueCount, ((inTimeOrder_perm events).filter _).length_eq]

/-- **Offline decomposition.** Events with distinct times have one outcome in
every input order, and an accepted episode is decomposed exactly. -/
theorem offline_decomposition_exact {events : List KVRecoveryEvent}
    (hdistinct : (events.map (·.timestampMs)).Nodup) :
    (∀ others, others.Perm events → decomposeKvRecovery others = decomposeKvRecovery events) ∧
      ∀ r, decomposeKvRecovery events = .ok r → Exact events r :=
  ⟨fun _ hperm => decompose_congr (inTimeOrder_congr hperm hdistinct),
    fun _ h => (decomposed_of_ok h).exact⟩

namespace Sample

def event (stage : KVRecoveryStage) (timestampMs : ℚ) : KVRecoveryEvent where
  requestId := "req-1"
  sequenceId := "seq-1"
  stage := stage
  timestampMs := timestampMs

/-- One episode with one requeue at the given time. -/
def episode (requeuedMs : ℚ) : List KVRecoveryEvent :=
  [event .preempt 0, { event .restoreStart 10 with blockIds := ["b-1", "b-2"] },
   { event .restoreDone 34 with blockIds := ["b-1", "b-2"], bytesMoved := some 8192 },
   event .schedulerWakeup 41, { event .requeue requeuedMs with reason := some "token_budget" },
   event .admission 70, event .firstCompute 75]

def decomposition : KVRecoveryDecomposition where
  requestId := "req-1"
  sequenceId := "seq-1"
  blockCount := 2
  bytesMoved := 8192
  copyMs := 24
  restoreToWakeupMs := 7
  wakeupToAdmissionMs := 29
  restoreToAdmissionMs := 36
  admissionToFirstComputeMs := 5
  totalRecoveryMs := 75
  requeueCount := 1
  requeueReasons := ["token_budget"]

theorem decompose_episode : decomposeKvRecovery (episode 45) = .ok decomposition := by
  decide +kernel

end Sample

theorem offline_decomposition_exact_sample :
    decomposeKvRecovery (Sample.episode 45).reverse = decomposeKvRecovery (Sample.episode 45) ∧
      Exact (Sample.episode 45) Sample.decomposition :=
  have hdistinct : ((Sample.episode 45).map (·.timestampMs)).Nodup := by decide +kernel
  ⟨(offline_decomposition_exact hdistinct).1 _ (List.reverse_perm _),
    (offline_decomposition_exact hdistinct).2 _ Sample.decompose_episode⟩

/-! ## Requeues -/

/-- The place of a stage in the episode, requeues between wakeup and admission. -/
def KVRecoveryStage.rank : KVRecoveryStage → Nat
  | .preempt => 0
  | .restoreStart => 1
  | .restoreDone => 2
  | .schedulerWakeup => 3
  | .requeue => 4
  | .admission => 5
  | .firstCompute => 6

end LifecycleProfiler.Offline
