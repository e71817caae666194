import LifecycleProfiler.Runtime.Quiet
import LifecycleProfiler.Runtime.Worker

/-! # What a callback of the worker adapter can do

Which rows it writes, what becomes of the pending table, and which receipt it
returns. -/

namespace LifecycleProfiler.Runtime
open Python Protocol

namespace Worker

/-- The rows and the attempts grow together. -/
structure Grows (w w' : Worker) (new : List ProfileRecordRef) : Prop where
  isOpen : w'.sinkOpen = true → w.sinkOpen = true
  closed : w'.closed = w.closed
  rows : profileRows w'.hooks = profileRows w.hooks ++ new
  attempted : w.hooks.nextProfileSeq + new.length ≤ w'.hooks.nextProfileSeq

/-- Every attempt on the open stream has its row. -/
def Lossless (w : Worker) : Prop :=
  w.sinkOpen = true ∧ w.hooks.nextProfileSeq = (profileRows w.hooks).length

/-- The rows take some of the attempted sequences. -/
def Attempted (w : Worker) : Prop := (profileRows w.hooks).length ≤ w.hooks.nextProfileSeq

section Grows
variable {w w' w'' : Worker} {new new' : List ProfileRecordRef}

theorem Grows.refl (w : Worker) : Grows w w [] := ⟨id, rfl, (List.append_nil _).symm, Nat.le_refl _⟩

theorem Grows.trans (h : Grows w w' new) (h' : Grows w' w'' new') : Grows w w'' (new ++ new') := by
  refine ⟨h.isOpen ∘ h'.isOpen, h'.closed.trans h.closed, by
    rw [h'.rows, h.rows, List.append_assoc], ?_⟩
  have := h.attempted
  have := h'.attempted
  rw [List.length_append]
  omega

theorem Grows.keepsAttempted (h : Grows w w' new) (ha : w.Attempted) : w'.Attempted := by
  have := h.attempted
  unfold Attempted at *
  rw [h.rows, List.length_append]
  omega

/-- A loss stays. -/
theorem Grows.lossless (h : Grows w w' new) (ha : w.Attempted) (hl : w'.Lossless) : w.Lossless := by
  obtain ⟨hopen, hcount⟩ := hl
  have := h.attempted
  unfold Attempted at ha
  rw [h.rows, List.length_append] at hcount
  exact ⟨h.isOpen hopen, by omega⟩

theorem Grows.of_hooks {h' : Hooks} (hsame : SameProfile w.hooks h') :
    Grows w (w.withHooks h') [] :=
  ⟨id, rfl, by rw [List.append_nil]; exact hsame.rows, hsame.attempted.ge⟩

theorem grows_drop (w : Worker) : Grows w w.drop [] := by
  obtain ⟨hrows, hseq⟩ := dropProfile_lost w.sinkOpen w.hooks
  refine ⟨id, rfl, by rw [List.append_nil]; exact hrows, ?_⟩
  change _ ≤ (dropProfile w.sinkOpen w.hooks).nextProfileSeq
  rw [hseq]
  exact Nat.le_add_right _ _

theorem drop_lossy (ha : w.Attempted) : ¬ w.drop.Lossless := by
  rintro ⟨hopen, hcount⟩
  obtain ⟨hrows, hseq⟩ := dropProfile_lost w.sinkOpen w.hooks
  change w.sinkOpen = true at hopen
  change (dropProfile w.sinkOpen w.hooks).nextProfileSeq =
    (profileRows (dropProfile w.sinkOpen w.hooks)).length at hcount
  unfold Attempted at ha
  rw [hrows, hseq, if_pos hopen] at hcount
  omega

/-- A row, or a loss. -/
theorem write_cases {recordType : ProfileRecordType} {now : Int} {fields : Dict}
    {id? : Option String} (h : w.write recordType now fields = (id?, w')) :
    w'.pending = w.pending ∧
      ((∃ ref, id? = some ref.recordId ∧ Accepted recordType now fields w.hooks ref ∧
          Grows w w' [ref]) ∨
        id? = none ∧ Grows w w' [] ∧ (w.Attempted → ¬ w'.Lossless)) := by
  have hattempt := writeProfile_attempt w.sinkOpen recordType now fields w.hooks
  unfold write at h
  generalize writeProfile w.sinkOpen recordType now fields w.hooks = written at h hattempt
  obtain ⟨recordId, h'⟩ := written
  cases h
  refine ⟨rfl, ?_⟩
  cases hattempt with
  | accepted row _ rows attempted => exact .inl ⟨_, rfl, row, id, rfl, rows, attempted.ge⟩
  | lost rows attempted =>
    refine .inr ⟨rfl, ⟨id, rfl, by rw [List.append_nil]; exact rows, ?_⟩, ?_⟩
    · exact le_trans (Nat.le_add_right _ _) attempted.ge
    · rintro ha ⟨hopen, hcount⟩
      change w.sinkOpen = true at hopen
      change h'.nextProfileSeq = (profileRows h').length at hcount
      unfold Attempted at ha
      dsimp only at rows attempted
      rw [attempted, rows, if_pos hopen] at hcount
      omega

end Grows

end Worker

open Worker

/-- The attempt a callback ends. -/
def WorkerCallback.ended : WorkerCallback → Option TransferAttempt
  | .transferCompleted attempt .. => some attempt
  | .transferInvalidated attempt _ => some attempt
  | _ => none

def WorkerCallback.closes : WorkerCallback → Bool
  | .close .. => true
  | .closeForWorkerFailure .. => true
  | _ => false

/-- The receipt a callback returns. -/
def Worker.receipt (w : Worker) : WorkerCallback → Option H2DReceipt
  | .transferCompleted attempt submitted now success bytes duration constructed =>
    (w.transferCompleted attempt submitted now success bytes duration constructed).2
  | _ => none

/-- The adapter before and after a callback, and the receipt. A callback that
loses a row on the way leaves the stream lossy. -/
inductive Reported (w w' : Worker) : WorkerCallback → Option H2DReceipt → Prop where
  | quiet {c : WorkerCallback} (grows : w.Grows w' []) (pending : w'.pending = w.pending)
      (idle : w.closed = false → c.ended = none ∧ c.closes = false) :
      Reported w w' c none
  | submitted {attempt : TransferAttempt} {now : Int} {h : Hooks} {ref : ProfileRecordRef}
      (serving : w.closed = false)
      (row : Accepted .transferEvent now (transferRow attempt "submit").fields h ref)
      (grows : w.Grows w' [ref])
      (pending : w'.pending = w.pending ∧ ¬ w'.Lossless ∨
        ∃ entry : WorkerPending, w'.pending = w.pending.set attempt.transferId entry ∧
          entry.attempt = attempt ∧ entry.restoreStartProfileRecordId = none) :
      Reported w w' (.transferSubmitted attempt now) none
  | restoring {attempt : TransferAttempt} {now : Int} {h h' : Hooks} {ref start : ProfileRecordRef}
      {startEventId : Option String} {preemptId : String} {entry : WorkerPending}
      (serving : w.closed = false)
      (row : Accepted .transferEvent now (transferRow attempt "submit").fields h ref)
      (preempted : attempt.context.identity.preemptProfileRecordId = some preemptId)
      (startRow : Accepted .recoveryEvent now
        (restoreStartRow attempt startEventId preemptId).fields h' start)
      (grows : w.Grows w' [ref, start])
      (pending : w'.pending = w.pending.set attempt.transferId entry)
      (entry_attempt : entry.attempt = attempt)
      (entry_start : entry.restoreStartProfileRecordId = some start.recordId) :
      Reported w w' (.transferSubmitted attempt now) none
  | lost {c : WorkerCallback} {attempt : TransferAttempt} (serving : w.closed = false)
      (ended : c.ended = some attempt) (grows : w.Grows w' [])
      (pending : w'.pending = w.pending.pop attempt.transferId) (lossy : ¬ w'.Lossless) :
      Reported w w' c none
  | done {c : WorkerCallback} {attempt : TransferAttempt} {now : Int} {h : Hooks}
      {event : TransferEvent} {ref : ProfileRecordRef} (serving : w.closed = false)
      (ended : c.ended = some attempt)
      (row : Accepted .transferEvent now event.fields h ref)
      (about : event.request = requestFieldsOf attempt.context.identity ∧
        event.transferId = attempt.transferId ∧ event.transferPhase = "done")
      (grows : w.Grows w' [ref]) (pending : w'.pending = w.pending.pop attempt.transferId) :
      Reported w w' c none
  | restored {c : WorkerCallback} {attempt : TransferAttempt} {now bytes : Int} {h h' : Hooks}
      {event : TransferEvent} {ref done : ProfileRecordRef} {entry : WorkerPending}
      {doneEventId : Option String} {startId : String} {receipt : Option H2DReceipt}
      (serving : w.closed = false) (ended : c.ended = some attempt)
      (row : Accepted .transferEvent now event.fields h ref)
      (about : event.request = requestFieldsOf attempt.context.identity ∧
        event.transferId = attempt.transferId ∧ event.transferPhase = "done")
      (given : w.pending.get attempt.transferId = some entry)
        (entry_attempt : entry.attempt = attempt)
      (entry_start : entry.restoreStartProfileRecordId = some startId)
      (doneRow : Accepted .recoveryEvent now
        (restoreDoneRow attempt doneEventId startId bytes).fields h' done)
      (grows : w.Grows w' [ref, done])
      (pending : w'.pending = w.pending.pop attempt.transferId)
      (received : ∀ r, receipt = some r →
        r.identity = attempt.context.identity ∧ r.restoreDoneProfileRecordId = done.recordId) :
      Reported w w' c receipt
  | waited {ids : List String} {entry : Int} {new : List ProfileRecordRef}
      (serving : w.closed = false)
      (rows : ∀ ref ∈ new, ∃ (h : Hooks) (chunk : WaitSetChunk),
        chunk.waitSetId = w.waitSetId ids ∧ Accepted .waitSetChunk entry chunk.fields h ref)
      (grows : w.Grows w' new) (pending : w'.pending = w.pending) :
      Reported w w' (.waitCompleted ids entry) none
  | computed {context : ComputeContext} {now : Int} {ref : ProfileRecordRef}
      (row : Accepted .recoveryEvent now (firstComputeRow context).fields w.hooks ref)
      (grows : w.Grows w' [ref]) (pending : w'.pending = w.pending) :
      Reported w w' (.firstCompute context now) none
  | closed {c : WorkerCallback} (serving : w.closed = false)
      (grows : Worker.Grows { w with closed := true } w' []) (pending : w'.pending = [])
      (ended : c.ended = none)
      (lossless : w'.Lossless → ∃ disabled intact, c = .close [] disabled intact) :
      Reported w w' c none

namespace Reported
variable {w w' : Worker} {c : WorkerCallback} {receipt : Option H2DReceipt}

theorem isOpen (h : Reported w w' c receipt) : w'.sinkOpen = true → w.sinkOpen = true := by
  cases h with
  | closed _ grows => exact grows.isOpen
  | quiet grows => exact grows.isOpen
  | submitted _ _ grows => exact grows.isOpen
  | restoring _ _ _ _ grows => exact grows.isOpen
  | lost _ _ grows => exact grows.isOpen
  | done _ _ _ _ grows => exact grows.isOpen
  | restored _ _ _ _ _ _ _ _ grows => exact grows.isOpen
  | waited _ _ grows => exact grows.isOpen
  | computed _ grows => exact grows.isOpen

theorem keepsAttempted (h : Reported w w' c receipt) (ha : w.Attempted) : w'.Attempted := by
  cases h with
  | closed _ grows => exact grows.keepsAttempted ha
  | quiet grows => exact grows.keepsAttempted ha
  | submitted _ _ grows => exact grows.keepsAttempted ha
  | restoring _ _ _ _ grows => exact grows.keepsAttempted ha
  | lost _ _ grows => exact grows.keepsAttempted ha
  | done _ _ _ _ grows => exact grows.keepsAttempted ha
  | restored _ _ _ _ _ _ _ _ grows => exact grows.keepsAttempted ha
  | waited _ _ grows => exact grows.keepsAttempted ha
  | computed _ grows => exact grows.keepsAttempted ha

end Reported

theorem Emit.Quiet.sameProfile {α : Type} {m : Emit α} {h h' : Hooks} {r : Option α} (hm : m.Quiet)
    (heq : m h = (r, h')) : SameProfile h h' := by
  have := hm h
  rwa [heq] at this

theorem quiet_emitStarted {attempt : TransferAttempt} {now : Int} :
    (emitStarted attempt now).Quiet := by
  refine .bind Emit.Quiet.newSpanId fun _ => .bind Emit.Quiet.emitEvent fun _ => ?_
  split
  · exact Emit.Quiet.pure
  · exact .bind Emit.Quiet.emitEdge fun _ => Emit.Quiet.pure

theorem quiet_emitDone {attempt : TransferAttempt} {entry : WorkerPending} {now bytes : Int} :
    (emitDone attempt entry now bytes).Quiet :=
  .bind Emit.Quiet.orNone fun _ => .bind Emit.Quiet.orNone fun _ =>
    .bind Emit.Quiet.emitEvent fun _ => .bind Emit.Quiet.emitEdge fun _ => Emit.Quiet.pure

section Callbacks
variable {w₀ w w' : Worker} {attempt : TransferAttempt}

/-- A callback of a closed adapter. -/
theorem reported_closed {c : WorkerCallback} (hclosed : w.closed = true) : Reported w w c none :=
  .quiet (.refl w) rfl fun hserving => absurd (hserving ▸ hclosed) Bool.false_ne_true

theorem reported_recordSubmitted (ha : w₀.Attempted) (hg : w₀.Grows w [])
    (hp : w.pending = w₀.pending) (serving : w₀.closed = false) {now : Int}
    {started : Option (String × String)} :
    Reported w₀ (w.recordSubmitted attempt now started) (.transferSubmitted attempt now) none := by
  unfold recordSubmitted
  rcases hwrite : w.write .transferEvent now (transferRow attempt "submit").fields with ⟨id?, w₁⟩
  obtain ⟨hp₁, ⟨ref, rfl, row, hg₁⟩ | ⟨rfl, hg₁, -⟩⟩ := write_cases hwrite
  · have hgrows : w₀.Grows w₁ [ref] := hg.trans hg₁
    have hpending : w₁.pending = w₀.pending := hp₁.trans hp
    have hwait : Reported w₀ (w₁.submitPending attempt now started none)
        (.transferSubmitted attempt now) none := by
      let entry : WorkerPending := ⟨attempt, now, started.map (·.1), started.map (·.2), none⟩
      refine .submitted serving row ⟨hgrows.isOpen, hgrows.closed, hgrows.rows, hgrows.attempted⟩
        (.inr ⟨entry, ?_, rfl, rfl⟩)
      exact congrArg (Mapping.set · attempt.transferId entry) hpending
    dsimp only
    split
    · exact hwait
    · split
      · next preemptId hpreempt _ =>
        rcases hwrite₂ : w₁.write .recoveryEvent now
          (restoreStartRow attempt (started.map (·.1)) preemptId).fields with ⟨id?, w₂⟩
        rw [hwrite₂]
        obtain ⟨hp₂, ⟨start, rfl, startRow, hg₂⟩ | ⟨rfl, hg₂, hlossy⟩⟩ := write_cases hwrite₂
        · have hall : w₀.Grows w₂ [ref, start] := hgrows.trans hg₂
          let entry : WorkerPending :=
            ⟨attempt, now, started.map (·.1), started.map (·.2), some start.recordId⟩
          have hset : Mapping.set w₂.pending attempt.transferId entry =
              w₀.pending.set attempt.transferId entry :=
            congrArg (Mapping.set · attempt.transferId entry) (hp₂.trans hpending)
          exact .restoring serving row hpreempt startRow
            ⟨hall.isOpen, hall.closed, hall.rows, hall.attempted⟩ hset rfl rfl
        · exact .submitted serving row (hgrows.trans hg₂)
            (.inl ⟨hp₂.trans hpending, hlossy (hgrows.keepsAttempted ha)⟩)
      · exact hwait
  · exact .quiet (hg.trans hg₁) (hp₁.trans hp) fun _ => ⟨rfl, rfl⟩

theorem reported_transferSubmitted (ha : w.Attempted) (now : Int) :
    Reported w (w.transferSubmitted attempt now) (.transferSubmitted attempt now) none := by
  unfold transferSubmitted
  by_cases hclosed : w.closed = true
  · rw [if_pos hclosed]
    exact reported_closed hclosed
  · rw [if_neg hclosed]
    have hserving := Bool.eq_false_iff.mpr hclosed
    split
    · rcases hemit : emitStarted attempt now w.hooks with ⟨started, hooks⟩
      have hquiet : w.Grows (w.withHooks hooks) [] :=
        .of_hooks (quiet_emitStarted.sameProfile hemit)
      cases started with
      | none => exact .quiet (hquiet.trans (grows_drop _)) rfl fun _ => ⟨rfl, rfl⟩
      | some started => exact reported_recordSubmitted ha hquiet rfl hserving
    · exact reported_recordSubmitted ha (.refl w) rfl hserving

theorem reported_recordCompleted (ha : w₀.Attempted) (hg : w₀.Grows w []) {entry : WorkerPending}
    (given : w₀.pending.get attempt.transferId = some entry) (hentry : entry.attempt = attempt)
    (hp : w.pending = w₀.pending.pop attempt.transferId) (serving : w₀.closed = false)
    {now bytes : Int} {duration : Option Int} {doneEventId : Option String} {constructed : Bool}
    {c : WorkerCallback} (ended : c.ended = some attempt) :
    Reported w₀ (w.recordCompleted attempt entry now bytes duration doneEventId constructed).1 c
      (w.recordCompleted attempt entry now bytes duration doneEventId constructed).2 := by
  unfold recordCompleted
  rcases hwrite : w.write .transferEvent now (doneRow attempt bytes duration).fields with ⟨id?, w₁⟩
  obtain ⟨hp₁, ⟨ref, rfl, row, hg₁⟩ | ⟨rfl, hg₁, hlossy⟩⟩ := write_cases hwrite
  · have hgrows : w₀.Grows w₁ [ref] := hg.trans hg₁
    have hpending : w₁.pending = w₀.pending.pop attempt.transferId := hp₁.trans hp
    dsimp only
    split
    · exact .done serving ended row ⟨rfl, rfl, rfl⟩ hgrows hpending
    · split
      · exact .done serving ended row ⟨rfl, rfl, rfl⟩ hgrows hpending
      · next startId hstart =>
        rcases hwrite₂ : w₁.write .recoveryEvent now
          (restoreDoneRow attempt doneEventId startId bytes).fields with ⟨id?, w₂⟩
        obtain ⟨hp₂, ⟨done, rfl, doneRow, hg₂⟩ | ⟨rfl, hg₂, -⟩⟩ := write_cases hwrite₂
        · have hdone : ∀ {w₃ : Worker} {receipt : Option H2DReceipt}, w₂.Grows w₃ [] →
              w₃.pending = w₂.pending → (∀ r, receipt = some r →
                r.identity = attempt.context.identity ∧
                  r.restoreDoneProfileRecordId = done.recordId) → Reported w₀ w₃ c receipt :=
            fun hg₃ hp₃ hreceipt => .restored serving ended row ⟨rfl, rfl, rfl⟩ given hentry hstart
              doneRow ((hgrows.trans hg₂).trans hg₃) (hp₃.trans (hp₂.trans hpending)) hreceipt
          cases doneEventId with
          | none => exact hdone (.refl w₂) rfl nofun
          | some doneEventId =>
            cases constructed with
            | false => exact hdone (grows_drop w₂) rfl nofun
            | true =>
              refine hdone (.refl w₂) rfl fun r hr => ?_
              cases hr
              exact ⟨rfl, rfl⟩
        · exact .done serving ended row ⟨rfl, rfl, rfl⟩ (hgrows.trans hg₂) (hp₂.trans hpending)
  · exact .lost serving ended (hg.trans hg₁) (hp₁.trans hp) (hlossy (hg.keepsAttempted ha))

theorem grows_pop (w : Worker) (key : String) :
    w.Grows { w with pending := w.pending.pop key } [] :=
  ⟨id, rfl, (List.append_nil _).symm, Nat.le_refl _⟩

theorem reported_transferCompleted (ha : w.Attempted) (submitted now : Int) (success : Bool)
    (bytes duration : Option Int) (constructed : Bool) :
    Reported w (w.transferCompleted attempt submitted now success bytes duration constructed).1
      (.transferCompleted attempt submitted now success bytes duration constructed)
      (w.transferCompleted attempt submitted now success bytes duration constructed).2 := by
  unfold transferCompleted
  by_cases hclosed : w.closed = true
  · rw [if_pos hclosed]
    exact reported_closed hclosed
  · rw [if_neg hclosed]
    have hserving := Bool.eq_false_iff.mpr hclosed
    have hpop := grows_pop w attempt.transferId
    have hlost : ∀ c : WorkerCallback, c.ended = some attempt →
        Reported w (drop { w with pending := w.pending.pop attempt.transferId }) c none :=
      fun c hc => .lost hserving hc (hpop.trans (grows_drop _)) rfl
        (drop_lossy (hpop.keepsAttempted ha))
    dsimp only
    split
    · next entry bytes hgiven =>
      split
      · exact hlost _ rfl
      · next hcompletes =>
        have hentry : entry.attempt = attempt := by
          simp only [completes, Bool.or_eq_true, not_or, Bool.not_eq_true', Bool.not_eq_false,
            Bool.and_eq_true, decide_eq_true_eq] at hcompletes
          exact hcompletes.1.1.1.1
        split
        · generalize hemit : emitDone attempt entry now bytes w.hooks = emitted
          obtain ⟨done?, hooks⟩ := emitted
          have hquiet := hpop.trans (.of_hooks (quiet_emitDone.sameProfile hemit))
          cases done? with
          | none =>
            exact .lost hserving rfl (hquiet.trans (grows_drop _)) rfl
              (drop_lossy (hquiet.keepsAttempted ha))
          | some doneEventId =>
            exact reported_recordCompleted ha hquiet hgiven hentry rfl hserving rfl
        · exact reported_recordCompleted ha hpop hgiven hentry rfl hserving rfl
    · exact hlost _ rfl

theorem reported_transferInvalidated (ha : w.Attempted) (now : Int) :
    Reported w (w.transferInvalidated attempt now) (.transferInvalidated attempt now) none := by
  unfold transferInvalidated
  by_cases hclosed : w.closed = true
  · rw [if_pos hclosed]
    exact reported_closed hclosed
  · rw [if_neg hclosed]
    have hserving := Bool.eq_false_iff.mpr hclosed
    have hpop := grows_pop w attempt.transferId
    generalize hwrite : Worker.write { w with pending := w.pending.pop attempt.transferId }
      .transferEvent now (cancelledRow attempt).fields = written
    obtain ⟨id?, w₁⟩ := written
    obtain ⟨hp₁, ⟨ref, rfl, row, hg₁⟩ | ⟨rfl, hg₁, hlossy⟩⟩ := write_cases hwrite
    · exact .done hserving rfl row ⟨rfl, rfl, rfl⟩ (hpop.trans hg₁) hp₁
    · exact .lost hserving rfl (hpop.trans hg₁) hp₁ (hlossy (hpop.keepsAttempted ha))

theorem writeChunks_grows (now : Int) : (chunks : List WaitSetChunk) → (w : Worker) →
    (w.writeChunks now chunks).pending = w.pending ∧
      ∃ new, w.Grows (w.writeChunks now chunks) new ∧
        ∀ ref ∈ new, ∃ (h : Hooks) (chunk : WaitSetChunk), chunk ∈ chunks ∧
          Accepted .waitSetChunk now chunk.fields h ref
  | [], w => ⟨rfl, [], .refl w, fun _ h => absurd h List.not_mem_nil⟩
  | chunk :: rest, w => by
    unfold writeChunks
    rcases hwrite : w.write .waitSetChunk now chunk.fields with ⟨id?, w₁⟩
    obtain ⟨hp₁, ⟨ref, rfl, row, hg₁⟩ | ⟨rfl, hg₁, -⟩⟩ := write_cases hwrite
    · obtain ⟨hp₂, new, hg₂, hrows⟩ := writeChunks_grows now rest w₁
      refine ⟨hp₂.trans hp₁, ref :: new, hg₁.trans hg₂, fun r hr => ?_⟩
      rcases List.mem_cons.mp hr with rfl | hr
      · exact ⟨_, chunk, List.mem_cons_self, row⟩
      · obtain ⟨h, chunk, hmem, row⟩ := hrows r hr
        exact ⟨h, chunk, List.mem_cons_of_mem _ hmem, row⟩
    · exact ⟨hp₁, [], hg₁, fun _ h => absurd h List.not_mem_nil⟩

theorem reported_waitCompleted (ids : List String) (entry : Int) :
    Reported w (w.waitCompleted ids entry) (.waitCompleted ids entry) none := by
  unfold waitCompleted
  split
  · exact .quiet (.refl w) rfl fun _ => ⟨rfl, rfl⟩
  · next hclosed =>
    rw [Bool.or_eq_true, not_or, Bool.not_eq_true] at hclosed
    obtain ⟨hp, new, hg, hrows⟩ := writeChunks_grows entry (w.waitSetChunks ids) w
    refine .waited hclosed.1 (fun ref hmem => ?_) hg hp
    obtain ⟨h, chunk, hchunk, row⟩ := hrows ref hmem
    obtain ⟨index, -, rfl⟩ := List.mem_map.mp hchunk
    exact ⟨h, _, rfl, row⟩

theorem reported_firstCompute (context : ComputeContext) (now : Int) :
    Reported w (w.firstCompute context now) (.firstCompute context now) none := by
  unfold firstCompute
  split
  · exact .quiet (grows_drop w) rfl fun _ => ⟨rfl, rfl⟩
  · rcases hwrite : w.write .recoveryEvent now (firstComputeRow context).fields with ⟨id?, w₁⟩
    obtain ⟨hp₁, ⟨ref, rfl, row, hg₁⟩ | ⟨rfl, hg₁, -⟩⟩ := write_cases hwrite
    · exact .computed row hg₁ hp₁
    · exact .quiet hg₁ hp₁ fun _ => ⟨rfl, rfl⟩

theorem foldl_drop_grows (given : List TransferAttempt) (w : Worker) :
    (given.foldl (fun w _ => drop w) w).pending = w.pending ∧
      w.Grows (given.foldl (fun w _ => drop w) w) [] ∧
      (given ≠ [] → w.Attempted → ¬ (given.foldl (fun w _ => drop w) w).Lossless) := by
  induction given generalizing w with
  | nil => exact ⟨rfl, .refl w, fun h => absurd rfl h⟩
  | cons attempt rest ih =>
    obtain ⟨hp, hg, -⟩ := ih w.drop
    refine ⟨hp, (grows_drop w).trans hg, fun _ ha hl => drop_lossy ha ?_⟩
    exact hg.lossless ((grows_drop w).keepsAttempted ha) hl

/-- The close of an adapter that is not closed yet. -/
theorem close_spec (w : Worker) (given : List TransferAttempt) (disabled intact : Bool)
    (hserving : w.closed = false) :
    Worker.Grows { w with closed := true } (w.close given disabled intact) [] ∧
      (w.close given disabled intact).pending = [] ∧
      (w.Attempted → (w.close given disabled intact).Lossless →
        given = [] ∧ (disabled = true → intact = false)) := by
  obtain ⟨-, hg, hlossy⟩ := foldl_drop_grows given { w with closed := true }
  unfold close
  rw [hserving, if_neg Bool.false_ne_true]
  generalize given.foldl (fun w _ => drop w) { w with closed := true } = dropped at hg hlossy
  have hclear : ∀ w₁ : Worker, Worker.Grows { w with closed := true } w₁ [] →
      Worker.Grows { w with closed := true } { w₁ with pending := [] } [] := fun _ h =>
    ⟨h.isOpen, h.closed, h.rows, h.attempted⟩
  dsimp only
  split
  · next hdisabled =>
    refine ⟨hclear _ (hg.trans (grows_drop _)), rfl, fun ha hl => ?_⟩
    exact absurd hl (drop_lossy (hg.keepsAttempted ha))
  · next hdisabled =>
    refine ⟨hclear _ hg, rfl, fun ha hl => ?_⟩
    have hgiven : given = [] := by
      by_contra hne
      exact hlossy hne ha hl
    refine ⟨hgiven, fun htrue => ?_⟩
    have hcount : dropped.hooks.nextProfileSeq = (profileRows dropped.hooks).length := hl.2
    rw [htrue, Bool.true_and, evidenceComplete, hcount, decide_eq_true rfl, Bool.and_true]
      at hdisabled
    exact Bool.eq_false_iff.mpr hdisabled

theorem sinkCloses_lossy (w : Worker) : ¬ w.sinkCloses.Lossless := fun h =>
  absurd h.1 Bool.false_ne_true

theorem grows_sinkCloses (w : Worker) : w.Grows w.sinkCloses [] :=
  ⟨nofun, rfl, (List.append_nil _).symm, Nat.le_refl _⟩

theorem reported_close (ha : w.Attempted) (given : List TransferAttempt) (disabled intact : Bool) :
    Reported w (w.close given disabled intact) (.close given disabled intact) none := by
  by_cases hclosed : w.closed = true
  · rw [Worker.close, if_pos hclosed]
    exact reported_closed hclosed
  · have hserving := Bool.eq_false_iff.mpr hclosed
    obtain ⟨hg, hp, hlossless⟩ := close_spec w given disabled intact hserving
    refine .closed hserving hg hp rfl fun hl => ⟨disabled, intact, ?_⟩
    rw [(hlossless ha hl).1]

theorem reported_closeForWorkerFailure (w : Worker) (disabled intact : Bool) :
    Reported w (w.closeForWorkerFailure disabled intact) (.closeForWorkerFailure disabled intact)
      none := by
  unfold closeForWorkerFailure
  by_cases hclosed : w.closed = true
  · rw [Worker.close, if_pos hclosed]
    exact .quiet (grows_sinkCloses w) rfl fun hserving =>
      absurd (hserving ▸ hclosed) Bool.false_ne_true
  · have hserving := Bool.eq_false_iff.mpr hclosed
    obtain ⟨hg, hp, -⟩ := close_spec w [] disabled intact hserving
    exact .closed hserving (hg.trans (grows_sinkCloses _)) hp rfl fun hl =>
      absurd hl (sinkCloses_lossy _)

end Callbacks

/-- What every callback does. -/
theorem reported_callback (w : Worker) (ha : w.Attempted) (c : WorkerCallback) :
    Reported w (w.callback c) c (w.receipt c) := by
  cases c with
  | transferSubmitted attempt now => exact reported_transferSubmitted ha now
  | transferNotSubmitted attempt => exact .quiet (.refl w) rfl fun _ => ⟨rfl, rfl⟩
  | transferCompleted attempt submitted now success bytes duration constructed =>
    exact reported_transferCompleted ha submitted now success bytes duration constructed
  | transferCapacityExhausted => exact .quiet (grows_drop w) rfl fun _ => ⟨rfl, rfl⟩
  | evidenceFailure => exact .quiet (grows_drop w) rfl fun _ => ⟨rfl, rfl⟩
  | h2dReceiptCapacityExhausted => exact .quiet (grows_drop w) rfl fun _ => ⟨rfl, rfl⟩
  | transferInvalidated attempt now => exact reported_transferInvalidated ha now
  | waitCompleted ids entry => exact reported_waitCompleted ids entry
  | firstCompute context now => exact reported_firstCompute context now
  | close given disabled intact => exact reported_close ha given disabled intact
  | closeForWorkerFailure disabled intact => exact reported_closeForWorkerFailure w disabled intact
  | sinkCloses => exact .quiet (grows_sinkCloses w) rfl fun _ => ⟨rfl, rfl⟩

end LifecycleProfiler.Runtime
