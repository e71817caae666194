import LifecycleProfiler.General.Transition
import LifecycleProfiler.Python.Keys
import LifecycleProfiler.Python.Ordering
import LifecycleProfiler.Runtime.Reports
import LifecycleProfiler.Runtime.Linearity

/-! # Submitted transfers come to an end

A transfer that has a `submit` row and no `done` row yet waits in the pending
table, unless a loss is recorded. The ordinary close records a loss for every
attempt that is still open; the close for a worker failure is given none. -/

namespace LifecycleProfiler.Runtime
open Python Protocol General

/-- An accepted `transfer_event` of the phase and the transfer. -/
def isTransfer (phase transferId : String) (ref : ProfileRecordRef) : Bool :=
  ref.recordType = .transferEvent && ref.record.has "transfer_phase" phase &&
    ref.record.has "transfer_id" transferId

/-- A `submit` row with no `done` row of its transfer after it. -/
def Unfinished (rows : List ProfileRecordRef) (transferId : String) : Prop :=
  ∃ before submit after, rows = before ++ submit :: after ∧
    isTransfer "submit" transferId submit = true ∧
    ∀ ref ∈ after, isTransfer "done" transferId ref = false

/-- Every `submit` row is followed by a `done` row of its transfer. -/
def Finished (rows : List ProfileRecordRef) : Prop :=
  ∀ before submit after transferId, rows = before ++ submit :: after →
    isTransfer "submit" transferId submit = true →
      ∃ ref ∈ after, isTransfer "done" transferId ref = true

theorem finished_iff {rows : List ProfileRecordRef} :
    Finished rows ↔ ∀ transferId, ¬ Unfinished rows transferId := by
  constructor
  · rintro h id ⟨before, submit, after, hrows, hsubmit, hnone⟩
    obtain ⟨ref, hmem, hdone⟩ := h before submit after id hrows hsubmit
    rw [hnone ref hmem] at hdone
    cases hdone
  · intro h before submit after id hrows hsubmit
    by_contra hnone
    refine h id ⟨before, submit, after, hrows, hsubmit, fun ref hmem => ?_⟩
    exact Bool.eq_false_iff.mpr fun hdone => hnone ⟨ref, hmem, hdone⟩

theorem unfinished_append {rows new : List ProfileRecordRef} {id : String} :
    Unfinished (rows ++ new) id ↔
      Unfinished new id ∨ Unfinished rows id ∧ ∀ ref ∈ new, isTransfer "done" id ref = false := by
  constructor
  · rintro ⟨before, submit, after, heq, hsubmit, hnone⟩
    rcases List.append_eq_append_iff.mp heq with ⟨mid, rfl, hnew⟩ | ⟨mid, hrows, hafter⟩
    · exact .inl ⟨mid, submit, after, hnew, hsubmit, hnone⟩
    · cases mid with
      | nil => exact .inl ⟨[], submit, after, hafter.symm, hsubmit, hnone⟩
      | cons first mid =>
        rw [List.cons_append, List.cons.injEq] at hafter
        obtain ⟨rfl, rfl⟩ := hafter
        refine .inr ⟨⟨before, submit, mid, hrows, hsubmit, fun ref hmem => ?_⟩, fun ref hmem => ?_⟩
        · exact hnone ref (List.mem_append_left _ hmem)
        · exact hnone ref (List.mem_append_right _ hmem)
  · rintro (⟨before, submit, after, rfl, hsubmit, hnone⟩ |
      ⟨⟨before, submit, after, rfl, hsubmit, hnone⟩, hnew⟩)
    · exact ⟨rows ++ before, submit, after, (List.append_assoc ..).symm, hsubmit, hnone⟩
    · refine ⟨before, submit, after ++ new, by rw [List.append_assoc, List.cons_append], hsubmit,
        fun ref hmem => ?_⟩
      rcases List.mem_append.mp hmem with hmem | hmem
      · exact hnone ref hmem
      · exact hnew ref hmem

theorem unfinished_cons {ref : ProfileRecordRef} {new : List ProfileRecordRef} {id : String} :
    Unfinished (ref :: new) id ↔ Unfinished new id ∨
      isTransfer "submit" id ref = true ∧ ∀ r ∈ new, isTransfer "done" id r = false := by
  rw [← List.singleton_append, unfinished_append]
  refine or_congr_right (and_congr_left fun _ => ⟨?_, fun h => ⟨[], ref, [], rfl, h, nofun⟩⟩)
  rintro ⟨before, submit, after, heq, hsubmit, -⟩
  rcases List.append_eq_singleton_iff.mp heq.symm with ⟨-, hsingle⟩ | ⟨-, hsingle⟩
  · rwa [← (List.cons.inj hsingle).1]
  · cases hsingle

/-- The rows are of other types. -/
def Foreign (rows : List ProfileRecordRef) : Prop :=
  ∀ ref ∈ rows, ref.recordType ≠ .transferEvent

theorem Foreign.not_transfer {rows : List ProfileRecordRef} (h : Foreign rows)
    {ref : ProfileRecordRef} (hmem : ref ∈ rows) (phase id : String) :
    isTransfer phase id ref = false := by
  simp [isTransfer, h ref hmem]

theorem not_unfinished {rows : List ProfileRecordRef} {id : String}
    (h : ∀ ref ∈ rows, isTransfer "submit" id ref = false) : ¬ Unfinished rows id := by
  rintro ⟨before, submit, after, rfl, hsubmit, -⟩
  rw [h submit (by simp)] at hsubmit
  cases hsubmit

theorem isTransfer_event {h : Hooks} {now : Int} {event : TransferEvent} {ref : ProfileRecordRef}
    (row : Accepted .transferEvent now event.fields h ref) (phase id : String) :
    isTransfer phase id ref = true ↔ event.transferPhase = phase ∧ event.transferId = id := by
  have hphase : ref.record.get "transfer_phase" = .str event.transferPhase := by
    rw [row.record_eq]
    rfl
  have hid : ref.record.get "transfer_id" = .str event.transferId := by
    rw [row.record_eq]
    rfl
  simp only [isTransfer, Bool.and_eq_true, decide_eq_true_eq, Dict.has_iff, hphase, hid,
    row.type_eq, true_and, Value.str.injEq]

/-! ## The history of a run -/

/-- The adapter, and the attempts that are open: submitted, and neither
completed nor invalidated since. -/
structure WorkerRun where
  worker : Worker
  opened : List TransferAttempt := []

def WorkerCallback.opened (given : List TransferAttempt) : WorkerCallback → List TransferAttempt
  | .transferSubmitted attempt _ => attempt :: given
  | .transferCompleted attempt .. => given.filter (· ≠ attempt)
  | .transferInvalidated attempt _ => given.filter (· ≠ attempt)
  | .close .. => []
  | .closeForWorkerFailure .. => []
  | _ => given

def WorkerRun.step (r : WorkerRun) (c : WorkerCallback) : Option WorkerRun :=
  some { worker := r.worker.callback c, opened := c.opened r.opened }

/-- An ordinary close is given every attempt that is still open. -/
def GivesOpen (r : WorkerRun) : WorkerCallback → Prop
  | .close openAttempts _ _ => ∀ attempt ∈ r.opened, attempt ∈ openAttempts
  | _ => True

instance (r : WorkerRun) (c : WorkerCallback) : Decidable (GivesOpen r c) := by
  cases c <;> unfold GivesOpen <;> infer_instance


/-! ## What a callback does to the transfers -/

/-- A callback leaves the transfers alone, submits one, ends one or closes the
adapter. -/
inductive Settles (r r' : WorkerRun) : Prop where
  | other {new : List ProfileRecordRef} (grows : r.worker.Grows r'.worker new)
      (foreign : Foreign new) (pending : r'.worker.pending = r.worker.pending)
      (opened : r.worker.closed = false → ∀ attempt ∈ r.opened, attempt ∈ r'.opened)
  | submit {attempt : TransferAttempt} {new : List ProfileRecordRef}
      (grows : r.worker.Grows r'.worker new) (serving : r.worker.closed = false)
      (undone : ∀ ref ∈ new, ∀ id, isTransfer "done" id ref = false)
      (unfinished : ∀ id, Unfinished new id ↔ id = attempt.transferId)
      (pending : (∃ entry : WorkerPending,
          r'.worker.pending = r.worker.pending.set attempt.transferId entry ∧
            entry.attempt = attempt) ∨
        r'.worker.pending = r.worker.pending ∧ ¬ r'.worker.Lossless)
      (opened : r'.opened = attempt :: r.opened)
  | finish {attempt : TransferAttempt} {new : List ProfileRecordRef}
      (grows : r.worker.Grows r'.worker new) (serving : r.worker.closed = false)
      (unsubmitted : ∀ ref ∈ new, ∀ id, isTransfer "submit" id ref = false)
      (done : ∀ ref ∈ new, ∀ id, isTransfer "done" id ref = true → id = attempt.transferId)
      (pending : r'.worker.pending = r.worker.pending.pop attempt.transferId)
      (ended : r'.worker.Lossless → ∃ ref ∈ new, isTransfer "done" attempt.transferId ref = true)
      (opened : r'.opened = r.opened.filter (· ≠ attempt))
  | close (grows : Worker.Grows { r.worker with closed := true } r'.worker [])
      (pending : r'.worker.pending = [])
      (ended : r'.worker.Lossless → r.worker.pending = [])

/-- What a transfer that waits stands for. -/
structure Awaiting (r : WorkerRun) : Prop where
  attempted : r.worker.Attempted
  unique : r.worker.pending.Unique
  keyed : ∀ item ∈ r.worker.pending, item.2.attempt.transferId = item.1
  settled : r.worker.closed = true → r.worker.pending = []
  opened : r.worker.closed = false → ∀ item ∈ r.worker.pending, item.2.attempt ∈ r.opened
  unfinished : ∀ item ∈ r.worker.pending, Unfinished (profileRows r.worker.hooks) item.1
  waiting : r.worker.Lossless → ∀ id, Unfinished (profileRows r.worker.hooks) id →
    ∃ item ∈ r.worker.pending, item.1 = id

theorem mem_pop {m : Mapping String WorkerPending} {key : String} {item : String × WorkerPending} :
    item ∈ m.pop key ↔ item ∈ m ∧ item.1 ≠ key := by
  simp [Mapping.pop, Mapping.popWhere]

namespace Awaiting
variable {r r' : WorkerRun}

/-- One callback keeps the account. -/
theorem settles (h : Awaiting r) (hs : Settles r r') : Awaiting r' := by
  cases hs with
  | other grows foreign pending opened =>
    have hrows : ∀ id, Unfinished (profileRows r'.worker.hooks) id ↔
        Unfinished (profileRows r.worker.hooks) id := by
      intro id
      rw [grows.rows, unfinished_append]
      constructor
      · rintro (hnew | ⟨hold, -⟩)
        · exact absurd hnew (not_unfinished fun ref hmem => foreign.not_transfer hmem _ _)
        · exact hold
      · exact fun hold => .inr ⟨hold, fun ref hmem => foreign.not_transfer hmem _ _⟩
    refine ⟨grows.keepsAttempted h.attempted, pending ▸ h.unique, pending ▸ h.keyed, ?_, ?_, ?_, ?_⟩
    · rw [grows.closed, pending]
      exact h.settled
    · rw [grows.closed, pending]
      exact fun hserving item hitem => opened hserving _ (h.opened hserving item hitem)
    · rw [pending]
      exact fun item hitem => (hrows _).mpr (h.unfinished item hitem)
    · rw [pending]
      exact fun hl id hid => h.waiting (grows.lossless h.attempted hl) id ((hrows id).mp hid)
  | @submit attempt new grows serving undone unfinished pending opened =>
    have hrows : ∀ id, Unfinished (profileRows r'.worker.hooks) id ↔
        id = attempt.transferId ∨ Unfinished (profileRows r.worker.hooks) id := by
      intro id
      rw [grows.rows, unfinished_append, unfinished]
      exact or_congr_right (and_iff_left fun ref hmem => undone ref hmem id)
    have hlossless := fun hl => grows.lossless h.attempted hl
    have hopen : r'.worker.closed = false := grows.closed.trans serving
    rcases pending with ⟨entry, pending, rfl⟩ | ⟨pending, hlossy⟩
    · have hmem : ∀ item, item ∈ r'.worker.pending ↔
          item = (entry.attempt.transferId, entry) ∨
            item ∈ r.worker.pending ∧ item.1 ≠ entry.attempt.transferId := fun item => by
        rw [pending, Mapping.mem_set h.unique]
      refine ⟨grows.keepsAttempted h.attempted, pending ▸ h.unique.set _ _, fun item hitem => ?_,
        fun hclosed => ?_, fun _ item hitem => ?_, fun item hitem => ?_, fun hl id hid => ?_⟩
      · rcases (hmem item).mp hitem with rfl | ⟨hold, -⟩
        · rfl
        · exact h.keyed item hold
      · rw [hopen] at hclosed
        cases hclosed
      · rw [opened, List.mem_cons]
        rcases (hmem item).mp hitem with rfl | ⟨hold, -⟩
        · exact .inl rfl
        · exact .inr (h.opened serving item hold)
      · rw [hrows]
        rcases (hmem item).mp hitem with rfl | ⟨hold, -⟩
        · exact .inl rfl
        · exact .inr (h.unfinished item hold)
      · by_cases hkey : id = entry.attempt.transferId
        · exact ⟨_, (hmem _).mpr (.inl rfl), hkey.symm⟩
        · rcases (hrows id).mp hid with heq | hold
          · exact absurd heq hkey
          · obtain ⟨item, hitem, rfl⟩ := h.waiting (hlossless hl) id hold
            exact ⟨item, (hmem item).mpr (.inr ⟨hitem, hkey⟩), rfl⟩
    · refine ⟨grows.keepsAttempted h.attempted, pending ▸ h.unique, pending ▸ h.keyed,
        fun hclosed => ?_, fun _ item hitem => ?_, fun item hitem => ?_, fun hl => absurd hl hlossy⟩
      · rw [hopen] at hclosed
        cases hclosed
      · rw [opened, List.mem_cons]
        exact .inr (h.opened serving item (pending ▸ hitem))
      · rw [hrows]
        exact .inr (h.unfinished item (pending ▸ hitem))
  | @finish attempt new grows serving unsubmitted done pending ended opened =>
    have hmem : ∀ item, item ∈ r'.worker.pending ↔
        item ∈ r.worker.pending ∧ item.1 ≠ attempt.transferId := fun item => by
      rw [pending, mem_pop]
    have hopen : r'.worker.closed = false := grows.closed.trans serving
    refine ⟨grows.keepsAttempted h.attempted, pending ▸ h.unique.filter _,
      fun item hitem => h.keyed item ((hmem item).mp hitem).1, fun hclosed => ?_,
      fun _ item hitem => ?_, fun item hitem => ?_, fun hl id hid => ?_⟩
    · rw [hopen] at hclosed
      cases hclosed
    · obtain ⟨hold, hne⟩ := (hmem item).mp hitem
      rw [opened, List.mem_filter, decide_eq_true_eq]
      refine ⟨h.opened serving item hold, fun heq => hne ?_⟩
      rw [← heq, h.keyed item hold]
    · obtain ⟨hold, hne⟩ := (hmem item).mp hitem
      rw [grows.rows, unfinished_append]
      refine .inr ⟨h.unfinished item hold, fun ref href =>
        Bool.eq_false_iff.mpr fun hdone => hne ?_⟩
      exact done ref href _ hdone
    · rw [grows.rows, unfinished_append] at hid
      rcases hid with hnew | ⟨hold, hundone⟩
      · exact absurd hnew (not_unfinished fun ref href => unsubmitted ref href id)
      · obtain ⟨item, hitem, rfl⟩ := h.waiting (grows.lossless h.attempted hl) id hold
        refine ⟨item, (hmem item).mpr ⟨hitem, fun heq => ?_⟩, rfl⟩
        obtain ⟨ref, href, hdone⟩ := ended hl
        rw [← heq, hundone ref href] at hdone
        cases hdone
  | close grows pending ended =>
    have hrows : profileRows r'.worker.hooks = profileRows r.worker.hooks := by
      rw [grows.rows, List.append_nil]
    refine ⟨grows.keepsAttempted h.attempted, ?_, ?_, fun _ => pending, ?_, ?_, fun hl id hid => ?_⟩
    · rw [pending]
      exact List.nodup_nil
    · rw [pending]
      exact fun _ hitem => absurd hitem List.not_mem_nil
    · rw [pending]
      exact fun _ _ hitem => absurd hitem List.not_mem_nil
    · rw [pending]
      exact fun _ hitem => absurd hitem List.not_mem_nil
    · rw [hrows] at hid
      have hbefore : r.worker.Lossless := grows.lossless h.attempted hl
      obtain ⟨item, hitem, -⟩ := h.waiting hbefore id hid
      rw [ended hl] at hitem
      exact absurd hitem List.not_mem_nil

end Awaiting


/-! ## Every callback settles -/

section Callbacks
open Worker
variable {w w' : Worker} {attempt : TransferAttempt}

/-- What stands for a submission: its row first, and rows of other types after it. -/
theorem submit_rows {ref : ProfileRecordRef} {rest : List ProfileRecordRef}
    (hrow : ∀ phase id, isTransfer phase id ref = true ↔ phase = "submit" ∧ id = attempt.transferId)
    (hrest : Foreign rest) :
    (∀ r ∈ ref :: rest, ∀ id, isTransfer "done" id r = false) ∧
      ∀ id, Unfinished (ref :: rest) id ↔ id = attempt.transferId := by
  constructor
  · rintro r hr id
    rcases List.mem_cons.mp hr with rfl | hr
    · exact Bool.eq_false_iff.mpr fun hdone => absurd ((hrow _ _).mp hdone).1 (by decide)
    · exact hrest.not_transfer hr _ _
  · intro id
    rw [unfinished_cons, hrow]
    constructor
    · rintro (hnew | ⟨⟨-, hid⟩, -⟩)
      · exact absurd hnew (not_unfinished fun r hr => hrest.not_transfer hr _ _)
      · exact hid
    · exact fun hid => .inr ⟨⟨rfl, hid⟩, fun r hr => hrest.not_transfer hr _ _⟩

theorem foreign_nil : Foreign [] := fun _ h => absurd h List.not_mem_nil

theorem foreign_singleton {ref : ProfileRecordRef} (h : ref.recordType ≠ .transferEvent) :
    Foreign [ref] := fun _ hmem => List.mem_singleton.mp hmem ▸ h

/-- What stands for an ending: its row first, and rows of other types after it. -/
theorem done_rows {ref : ProfileRecordRef} {rest : List ProfileRecordRef}
    (hrow : ∀ phase id, isTransfer phase id ref = true ↔ phase = "done" ∧ id = attempt.transferId)
    (hrest : Foreign rest) :
    (∀ r ∈ ref :: rest, ∀ id, isTransfer "submit" id r = false) ∧
      (∀ r ∈ ref :: rest, ∀ id, isTransfer "done" id r = true → id = attempt.transferId) ∧
      ∃ r ∈ ref :: rest, isTransfer "done" attempt.transferId r = true := by
  refine ⟨fun r hr id => ?_, fun r hr id hdone => ?_, ref, List.mem_cons_self,
    (hrow _ _).mpr ⟨rfl, rfl⟩⟩
  · rcases List.mem_cons.mp hr with rfl | hr
    · exact Bool.eq_false_iff.mpr fun hsubmit => absurd ((hrow _ _).mp hsubmit).1 (by decide)
    · exact hrest.not_transfer hr _ _
  · rcases List.mem_cons.mp hr with rfl | hr
    · exact ((hrow _ _).mp hdone).2
    · rw [hrest.not_transfer hr] at hdone
      cases hdone

theorem isTransfer_iff {h : Hooks} {now : Int} {event : TransferEvent} {ref : ProfileRecordRef}
    {what id : String} (row : Accepted .transferEvent now event.fields h ref)
    (hphase : event.transferPhase = what) (hid : event.transferId = id) (phase other : String) :
    isTransfer phase other ref = true ↔ phase = what ∧ other = id := by
  rw [isTransfer_event row, hphase, hid]
  exact and_congr eq_comm eq_comm

theorem opened_of_idle {c : WorkerCallback} {opened : List TransferAttempt}
    (hended : c.ended = none) (hcloses : c.closes = false) :
    ∀ a ∈ opened, a ∈ c.opened opened := by
  cases c with
  | transferSubmitted => exact fun _ => List.mem_cons_of_mem _
  | transferCompleted => cases hended
  | transferInvalidated => cases hended
  | close => cases hcloses
  | closeForWorkerFailure => cases hcloses
  | _ => exact fun _ => id

theorem opened_of_ended {c : WorkerCallback} {opened : List TransferAttempt}
    (hended : c.ended = some attempt) : c.opened opened = opened.filter (· ≠ attempt) := by
  cases c with
  | transferCompleted other => cases hended; rfl
  | transferInvalidated other => cases hended; rfl
  | _ => cases hended

/-- A callback settles, if a close is given the open attempts. -/
theorem Reported.settles {c : WorkerCallback} {receipt : Option H2DReceipt}
    {opened : List TransferAttempt} (h : Reported w w' c receipt)
    (hclose : ∀ disabled intact, c = .close [] disabled intact → w.closed = false →
      w.pending = []) : Settles ⟨w, opened⟩ ⟨w', c.opened opened⟩ := by
  cases h with
  | quiet grows pending idle =>
    exact .other grows foreign_nil pending fun hserving =>
      opened_of_idle (idle hserving).1 (idle hserving).2
  | submitted serving row grows pending =>
    have hrows := submit_rows (isTransfer_iff row rfl rfl) foreign_nil
    rcases pending with hlost | ⟨entry, hset, hentry, -⟩
    · exact .submit grows serving hrows.1 hrows.2 (.inr hlost) rfl
    · exact .submit grows serving hrows.1 hrows.2 (.inl ⟨entry, hset, hentry⟩) rfl
  | restoring serving row preempted startRow grows pending entry_attempt =>
    have hrows := submit_rows (isTransfer_iff row rfl rfl)
      (foreign_singleton (by rw [startRow.type_eq]; decide))
    exact .submit grows serving hrows.1 hrows.2 (.inl ⟨_, pending, entry_attempt⟩) rfl
  | lost serving ended grows pending lossy =>
    rw [opened_of_ended ended]
    exact .finish grows serving (fun _ h => absurd h List.not_mem_nil)
      (fun _ h => absurd h List.not_mem_nil) pending (fun h => absurd h lossy) rfl
  | done serving ended row about grows pending =>
    rw [opened_of_ended ended]
    have hrows := done_rows (isTransfer_iff row about.2.2 about.2.1) foreign_nil
    exact .finish grows serving hrows.1 hrows.2.1 pending (fun _ => hrows.2.2) rfl
  | restored serving ended row about _ _ _ doneRow grows pending =>
    rw [opened_of_ended ended]
    have hrows := done_rows (isTransfer_iff row about.2.2 about.2.1)
      (foreign_singleton (by rw [doneRow.type_eq]; decide))
    exact .finish grows serving hrows.1 hrows.2.1 pending (fun _ => hrows.2.2) rfl
  | waited _ rows grows pending =>
    refine .other grows (fun ref hmem => ?_) pending fun _ _ => id
    obtain ⟨_, _, -, row⟩ := rows ref hmem
    rw [row.type_eq]
    decide
  | computed row grows pending =>
    exact .other grows (foreign_singleton (by rw [row.type_eq]; decide)) pending fun _ _ => id
  | closed serving grows pending _ lossless =>
    refine .close grows pending fun hl => ?_
    obtain ⟨disabled, intact, rfl⟩ := lossless hl
    exact hclose disabled intact rfl serving

theorem sinkOpen_close (w : Worker) (given : List TransferAttempt) (disabled intact : Bool) :
    (w.close given disabled intact).sinkOpen = w.sinkOpen := by
  have hdrops : ∀ (given : List TransferAttempt) (w : Worker),
      (given.foldl (fun w _ => drop w) w).sinkOpen = w.sinkOpen := by
    intro given
    induction given with
    | nil => exact fun _ => rfl
    | cons _ rest ih => exact fun w => ih w.drop
  unfold close
  split
  · rfl
  · dsimp only
    split <;> exact hdrops given { w with closed := true }

/-- A close for a worker failure that records no loss leaves the stream alone. -/
theorem hooks_close_nil (w : Worker) (intact : Bool) :
    (w.close [] false intact).hooks = w.hooks := by
  unfold close
  split
  · rfl
  · rfl

end Callbacks

/-- Every callback keeps the account, if a close is given the open attempts. -/
theorem Awaiting.step {r r' : WorkerRun} {c : WorkerCallback} (h : Awaiting r)
    (hgives : GivesOpen r c)
    (hstep : r.step c = some r') : Awaiting r' := by
  rw [WorkerRun.step, Option.some.injEq] at hstep
  subst hstep
  refine h.settles ((reported_callback r.worker h.attempted c).settles ?_)
  rintro disabled intact rfl hserving
  refine List.eq_nil_iff_forall_not_mem.mpr fun item hitem => ?_
  exact absurd (hgives _ (h.opened hserving item hitem)) List.not_mem_nil

/-- A fresh adapter over a sink nothing was written to. -/
def Worker.IsStart (w : Worker) : Prop :=
  ∃ runId sha256 hooks, w = Worker.start runId sha256 hooks ∧ hooks.log = [] ∧
    hooks.nextProfileSeq = 0

theorem Awaiting.start {w : Worker} (h : w.IsStart) : Awaiting ⟨w, []⟩ := by
  obtain ⟨runId, sha256, hooks, rfl, hlog, -⟩ := h
  have hrows : profileRows hooks = [] := by rw [profileRows, hlog, List.filterMap_nil]
  have hnone : ∀ item, item ∉ (Worker.start runId sha256 hooks).pending := fun _ =>
    List.not_mem_nil
  refine ⟨?_, List.nodup_nil, fun item h => absurd h (hnone item), fun _ => rfl,
    fun _ item h => absurd h (hnone item), fun item h => absurd h (hnone item), fun _ id hid => ?_⟩
  · change (profileRows hooks).length ≤ _
    rw [hrows]
    exact Nat.zero_le _
  · change Unfinished (profileRows hooks) id at hid
    rw [hrows] at hid
    exact absurd hid (not_unfinished fun _ h => absurd h List.not_mem_nil)

/-! ## The end of a run -/

/-- How a run ends. -/
inductive WorkerEnding where
  | close (openAttempts : List TransferAttempt)
  | workerFailure
  deriving DecidableEq

/-- The callback that ends the run. -/
def WorkerEnding.callback (disabled intact : Bool) : WorkerEnding → WorkerCallback
  | .close openAttempts => .close openAttempts disabled intact
  | .workerFailure => .closeForWorkerFailure disabled intact

/-- The close for a worker failure finds no pending transfer, or finds or records a
loss. `intact` is what the stream says of its control records and its writer. -/
def EndsSafely (w : Worker) (ending : WorkerEnding) (disabled intact : Bool) : Prop :=
  ending = .workerFailure →
    w.pending = [] ∨ disabled = true ∨ evidenceComplete intact w.hooks = false

/-- **No silent worker loss, but for one ending.** A run that ends over an open
sink, and whose closes are given every open attempt, ends safely exactly if
complete evidence has a `done` row after every `submit` row. What the control
records and the writer lost before the close is still lost after it. -/
theorem no_silent_worker_loss (w : Worker) (callbacks : List WorkerCallback) (ending : WorkerEnding)
    (disabled intact intactAfter : Bool) (hstart : w.IsStart)
    (hgives : RunOk WorkerRun.step GivesOpen ⟨w, []⟩ callbacks)
    (hlast : GivesOpen (run WorkerRun.step ⟨w, []⟩ callbacks) (ending.callback disabled intact))
    (hopen : (run WorkerRun.step ⟨w, []⟩ callbacks).worker.sinkOpen = true)
    (hintact : intactAfter = true → intact = true) :
    let last := (run WorkerRun.step ⟨w, []⟩ callbacks).worker
    let final := last.callback (ending.callback disabled intact)
    (evidenceComplete intactAfter final.hooks = true → Finished (profileRows final.hooks)) ↔
      EndsSafely last ending disabled intactAfter := by
  have hreach : Reach WorkerRun.step (Eq ⟨w, []⟩) GivesOpen
      (run WorkerRun.step ⟨w, []⟩ callbacks) := (Reach.init rfl).run hgives
  have h : Awaiting (run WorkerRun.step ⟨w, []⟩ callbacks) :=
    hreach.invariant (fun _ hr => hr ▸ Awaiting.start hstart)
      fun _ _ _ hr hok hstep => hr.step hok hstep
  generalize run WorkerRun.step ⟨w, []⟩ callbacks = r at *
  dsimp only
  constructor
  · rintro hfinished rfl
    by_contra hunsafe
    obtain ⟨hpending, hdisabled, hcomplete⟩ :
        r.worker.pending ≠ [] ∧ disabled = false ∧
          evidenceComplete intactAfter r.worker.hooks = true := by
      simpa [not_or] using hunsafe
    subst hdisabled
    have hhooks := hooks_close_nil r.worker intact
    have hrows : profileRows ((r.worker.close [] false intact).sinkCloses).hooks =
        profileRows r.worker.hooks := by
      change profileRows (r.worker.close [] false intact).hooks = _
      rw [hhooks]
    have hall : Finished (profileRows r.worker.hooks) := by
      rw [← hrows]
      refine hfinished ?_
      change evidenceComplete intactAfter { (r.worker.close [] false intact).hooks with
        answers := fun _ => none } = true
      rw [hhooks]
      exact hcomplete
    obtain ⟨item, hitem⟩ := List.exists_mem_of_ne_nil _ hpending
    exact finished_iff.mp hall _ (h.unfinished item hitem)
  · intro hsafe hcomplete
    have hending : ∃ given, profileRows
      (r.worker.callback (ending.callback disabled intact)).hooks =
          profileRows (r.worker.close given disabled intact).hooks ∧
        evidenceComplete intactAfter (r.worker.close given disabled intact).hooks = true ∧
        (given = [] → r.worker.closed = false → (disabled = true → intact = false) →
          r.worker.Lossless → r.worker.pending = []) := by
      cases ending with
      | close given =>
        refine ⟨given, rfl, hcomplete, fun hgiven hserving _ _ => ?_⟩
        refine List.eq_nil_iff_forall_not_mem.mpr fun item hitem => ?_
        have hmem := hlast _ (h.opened hserving item hitem)
        rw [hgiven] at hmem
        exact absurd hmem List.not_mem_nil
      | workerFailure =>
        refine ⟨[], rfl, hcomplete, fun _ _ hdisabled hlossless => ?_⟩
        rw [evidenceComplete, Bool.and_eq_true] at hcomplete
        rcases hsafe rfl with hpending | htrue | hlost
        · exact hpending
        · rw [hintact hcomplete.1] at hdisabled
          cases hdisabled htrue
        · rw [evidenceComplete, hcomplete.1, hlossless.2, decide_eq_true rfl] at hlost
          cases hlost
    obtain ⟨given, hrows, hafter, hnone⟩ := hending
    rw [hrows]
    rw [evidenceComplete, Bool.and_eq_true, decide_eq_true_eq] at hafter
    have hlossless : (r.worker.close given disabled intact).Lossless :=
      ⟨(sinkOpen_close ..).trans hopen, hafter.2⟩
    have hbefore : profileRows (r.worker.close given disabled intact).hooks =
      profileRows r.worker.hooks ∧
        r.worker.Lossless ∧ r.worker.pending = [] := by
      by_cases hclosed : r.worker.closed = true
      · have hsame : r.worker.close given disabled intact = r.worker := by
          rw [Worker.close, if_pos hclosed]
        rw [hsame] at hlossless ⊢
        exact ⟨rfl, hlossless, h.settled hclosed⟩
      · have hserving := Bool.eq_false_iff.mpr hclosed
        obtain ⟨hg, -, hgiven⟩ := close_spec r.worker given disabled intact hserving
        have hl : r.worker.Lossless := hg.lossless h.attempted hlossless
        obtain ⟨hgiven, hdisabled⟩ := hgiven h.attempted hlossless
        refine ⟨?_, hl, hnone hgiven hserving hdisabled hl⟩
        rw [hg.rows, List.append_nil]
    obtain ⟨hsame, hl, hpending⟩ := hbefore
    rw [hsame, finished_iff]
    intro id hid
    obtain ⟨item, hitem, -⟩ := h.waiting hl id hid
    rw [hpending] at hitem
    exact absurd hitem List.not_mem_nil

namespace Sample

/-- The worker adapter over an open sink that answers every call. -/
def worker : Worker := Worker.start runId sha256 (hooks [])

/-- A transfer to the host. -/
def preservation : TransferAttempt where
  transferId := "0a0a0a0a0a0a0a0a0a0a0a0a0a0a0a0a:t:0"
  connectorJobId := 7
  context :=
    { identity := ⟨runId, "0743abc262d38893e52e6e47347f2966",
        "0743abc262d38893e52e6e47347f2966:e:0", "request-0", none, none, none, none⟩
      operation := "d2h_preserve"
      blockSetId := "0e0e0e0e0e0e0e0e0e0e0e0e0e0e0e0e0e0e0e0e0e0e0e0e0e0e0e0e0e0e0e0e"
      logicalBlocks := [] }

def preserved : List WorkerCallback :=
  [.transferSubmitted preservation 100,
   .transferCompleted preservation 100 120 true (some 4096) none true]

end Sample

theorem sample_worker_isStart : Sample.worker.IsStart := ⟨_, _, _, rfl, rfl, rfl⟩

theorem no_silent_worker_loss_preserved :
    let last := (run WorkerRun.step ⟨Sample.worker, []⟩ Sample.preserved).worker
    let final := last.callback (.closeForWorkerFailure false true)
    (profileRows final.hooks).length = 2 ∧ Finished (profileRows final.hooks) := by
  have hrun := no_silent_worker_loss Sample.worker Sample.preserved .workerFailure false true true
    sample_worker_isStart ⟨trivial, trivial, trivial⟩ trivial (by decide +kernel) id
  refine ⟨by decide +kernel, hrun.mpr (fun _ => .inl ?_) (by decide +kernel)⟩
  exact List.isEmpty_iff.mp (by decide +kernel)

/-- A transfer is pending when the worker fails: the evidence is complete, and
its `submit` row has no `done` row. -/
theorem worker_failure_forgets_pending :
    ¬ ∀ (w : Worker) (callbacks : List WorkerCallback) (ending : WorkerEnding)
      (disabled intact intactAfter : Bool), w.IsStart →
      RunOk WorkerRun.step GivesOpen ⟨w, []⟩ callbacks →
      GivesOpen (run WorkerRun.step ⟨w, []⟩ callbacks) (ending.callback disabled intact) →
      (run WorkerRun.step ⟨w, []⟩ callbacks).worker.sinkOpen = true →
      (intactAfter = true → intact = true) →
      let last := (run WorkerRun.step ⟨w, []⟩ callbacks).worker
      let final := last.callback (ending.callback disabled intact)
      evidenceComplete intactAfter final.hooks = true → Finished (profileRows final.hooks) := by
  intro h
  have hfinished := h Sample.worker [.transferSubmitted Sample.preservation 100]
    .workerFailure false
    true true sample_worker_isStart ⟨trivial, trivial⟩ trivial (by decide +kernel) id
    (by decide +kernel)
  generalize hrows : profileRows _ = rows at hfinished
  have hsubmitted : rows.length = 1 ∧
      ∀ ref ∈ rows, isTransfer "submit" Sample.preservation.transferId ref = true := by
    rw [← hrows]
    decide +kernel
  obtain ⟨ref, rfl⟩ := List.length_eq_one_iff.mp hsubmitted.1
  obtain ⟨done, hmem, -⟩ := hfinished [] ref [] _ rfl (hsubmitted.2 ref List.mem_cons_self)
  exact absurd hmem List.not_mem_nil

end LifecycleProfiler.Runtime
