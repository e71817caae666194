import LifecycleProfiler.Sink.Budget
import LifecycleProfiler.Sink.Winner

/-! # The capacity of the queue over whole runs

The budget holds in every state but while a control is written past the queue:
there the totals count one record more, or a forced timeout has cleared them,
and releasing the control restores the budget either way. -/

namespace LifecycleProfiler.Sink
open Python Protocol

namespace TraceSink
variable {cfg : Config} {s s' : TraceSink} {ok : TraceSink → Action → Prop}

/-- A deadline is set where the closing begins. -/
theorem closing_of_deadline (h : ReachableWhen cfg ok s) :
    s.closeDeadlineNs ≠ none → s.x.closing = true := by
  refine h.invariant (I := fun s => s.closeDeadlineNs ≠ none → s.x.closing = true)
    (fun s hs => ?_) fun s action s' hinv _ hstep => ?_
  · obtain ⟨pid, startedNs, now, hs⟩ := hs
    simp only [opened, bind_eq_ok, pure_eq_ok] at hs
    obtain ⟨⟨base, baseRaw⟩, -, ⟨profile, profileRaw⟩, -, rfl⟩ := hs
    exact fun hd => absurd rfl hd
  · cases action with
    | produce call =>
      obtain ⟨-, rfl⟩ := locked_eq_some.mp hstep
      exact fun hd => (Exporter.admits_call s.x s.now call).closing.trans (hinv hd)
    | writer choice =>
      have hf := Frame.of_writerStep hstep
      exact fun hd => hf.closing.trans (hinv (hf.closeDeadlineNs ▸ hd))
    | tick ns =>
      cases hstep
      exact hinv
    | closer i expired =>
      change s.closerStep cfg i expired = some s' at hstep
      unfold closerStep at hstep
      split at hstep
      case h_4 deadline _ =>
        split at hstep
        · split at hstep
          · cases hstep
            exact hinv
          · cases hstep
        · split at hstep
          · obtain ⟨-, rfl⟩ := locked_eq_some.mp hstep
            exact hinv
          · split at hstep
            · obtain ⟨-, rfl⟩ := locked_eq_some.mp hstep
              exact hinv
            · obtain ⟨-, rfl⟩ := locked_eq_some.mp hstep
              exact fun _ => rfl
      case h_7 =>
        cases hstep
        exact fun hd => (Exporter.sameGates_forceTimeoutAccounting s.x _).closing.trans (hinv hd)
      all_goals
        repeat' split at hstep
      all_goals first
        | cases hstep
          done
        | cases hstep
          exact hinv
        | obtain ⟨-, rfl⟩ := locked_eq_some.mp hstep
          exact hinv

/-- The exporter once the control written directly is released. -/
def settled (s : TraceSink) : Exporter :=
  match s.writer.control? with
  | none => s.x
  | some (stream, raw) => s.x.releaseControl stream raw

theorem settled_of_none (h : s.writer.control? = none) : s.settled = s.x := by
  rw [settled, h]

/-- A step that keeps the totals and the control keeps what is settled. -/
theorem sameTotals_settled (hcontrol : s'.writer.control? = s.writer.control?)
    (hx : s.x.SameTotals s'.x) : s.settled.SameTotals s'.settled := by
  unfold settled
  rw [hcontrol]
  split
  · exact hx
  · exact Exporter.sameTotals_release_congr hx

end TraceSink

theorem WriterPc.closeOutcome_of_control {pc : WriterPc} (h : pc.control? ≠ none) :
    ∃ o, pc.closeOutcome? = some o := by
  have hjob : ∀ job : Job, job.control? ≠ none → ∃ o, job.closeOutcome? = some o := by
    intro job hj
    cases job with
    | summary stream o record raw => exact ⟨o, rfl⟩
    | batch => exact absurd rfl hj
    | control => exact absurd rfl hj
  cases pc <;> first | exact hjob _ h | exact absurd rfl h

theorem WriterPc.late_of_finishing {pc : WriterPc} (h : pc.finishing = true) : pc.late = true := by
  cases pc <;> first | exact h | rfl

/-- An invalidation is reserved, written and released in one step. -/
theorem Exporter.Budget.appendInvalidation {cfg : Config} {s : TraceSink} (hx : s.x.Budget)
    (c : Choice) (stream : StreamId) : (s.appendInvalidation cfg c stream).x.Budget := by
  unfold TraceSink.appendInvalidation
  split
  · next record raw _ =>
    split
    · next x heq =>
      have hrefused : SameTotals s.x (s.x.reserveControl stream raw).1 :=
        sameTotals_reserve_refused (by rw [heq])
      rw [heq] at hrefused
      exact hx.of_same hrefused
    · next x heq =>
      have hreleased : SameTotals s.x
        ((s.x.reserveControl stream raw).1.releaseControl stream raw) :=
        sameTotals_release_reserved hx (by rw [heq])
      rw [heq] at hreleased
      split
      · exact hx.of_same hreleased
      · exact hx.of_same (hreleased.trans (sameTotals_release_congr (sameTotals_dropControl x)))
  · exact hx

/-- What every step keeps about the totals. -/
structure Budgeted (s : TraceSink) : Prop where
  budget : s.settled.Budget
  finishing : s.writer.finishing = true → s.x.queue = [] ∧ ∀ q ∈ s.x.inflight, q.reserved = true

namespace Budgeted
variable {cfg : Config} {s s' : TraceSink}

theorem initial (h : TraceSink.Initial cfg s) : Budgeted s := by
  obtain ⟨pid, startedNs, now, h⟩ := h
  simp only [TraceSink.opened, bind_eq_ok, pure_eq_ok] at h
  obtain ⟨⟨base, baseRaw⟩, -, ⟨profile, profileRaw⟩, -, rfl⟩ := h
  exact ⟨Exporter.budget_empty rfl rfl fun _ k => by cases k <;> rfl, by simp⟩

/-- A step that keeps totals, control and what the writer finishes. -/
theorem of_same (h : Budgeted s) (hcontrol : s'.writer.control? = s.writer.control?)
    (hx : s.x.SameTotals s'.x) (hfinishing : s'.writer.finishing = true →
      s.writer.finishing = true) :
    Budgeted s' := by
  refine ⟨h.budget.of_same (TraceSink.sameTotals_settled hcontrol hx), fun hf => ?_⟩
  rw [hx.queue, hx.inflight]
  exact h.finishing (hfinishing hf)

/-- A step after which no control is being written. -/
theorem of_budget (hcontrol : s'.writer.control? = none) (hx : s'.x.Budget)
    (hfinishing : s'.writer.finishing = true →
      s'.x.queue = [] ∧ ∀ q ∈ s'.x.inflight, q.reserved = true) : Budgeted s' :=
  ⟨by rwa [TraceSink.settled_of_none hcontrol], hfinishing⟩

theorem of_idle (hpc : s'.writer.Idle) (hx : s'.x.Budget) : Budgeted s' :=
  of_budget hpc.control hx fun hf => by simp [hpc.finishing] at hf

/-- A producer, or a caller that seals the losses: the queue takes records only
while the sink is open, and then nothing is written directly. -/
theorem of_admission {x : Exporter} (h : Budgeted s) (hx : s.x.Budget → x.Budget)
    (hclosed : s.x.closing = true → s.x.SameTotals x) (hs' : s'.x = x)
    (hcontrol : s.writer.control? ≠ none → s.x.closing = true)
    (hlate : s.writer.finishing = true → s.x.closing = true) (hpc : s'.writer = s.writer) :
    Budgeted s' := by
  cases hc : s.x.closing with
  | true =>
    refine h.of_same (by rw [hpc]) ?_ (by rw [hpc]; exact id)
    rw [hs']
    exact hclosed hc
  | false =>
    have hnone : s.writer.control? = none := by
      by_contra hne
      rw [hcontrol hne] at hc
      cases hc
    refine of_budget (hpc ▸ hnone) ?_ fun hf => ?_
    · rw [hs']
      exact hx (TraceSink.settled_of_none hnone ▸ h.budget)
    · rw [hpc] at hf
      rw [hlate hf] at hc
      cases hc

theorem effect {action : TraceSink.Action} (h : Budgeted s) (horder : Orderly s)
    (haccounted : Accounted s) (hdeadline : s.closeDeadlineNs ≠ none → s.x.closing = true)
    (heffect : Effect cfg s action s') :
    Budgeted s' := by
  have hcontrol : s.writer.control? ≠ none → s.x.closing = true := fun hne => by
    obtain ⟨o, ho⟩ := WriterPc.closeOutcome_of_control hne
    exact (horder.summarises o ho).2
  have hlate : s.writer.finishing = true → s.x.closing = true := fun hf => by
    have hreached := horder.late (WriterPc.late_of_finishing hf)
    refine hdeadline fun hnone => ?_
    rw [TraceSink.deadlineReached, hnone] at hreached
    cases hreached
  have hbudget : s.writer.control? = none → s.x.Budget := fun hnone =>
    TraceSink.settled_of_none hnone ▸ h.budget
  cases heffect with
  | quiet hx _ hpc => exact h.of_same hpc.control hx.sameTotals hpc.finishing
  | produces call _ hx _ hpc =>
    have hproduced := Exporter.produced_call cfg s.x s.now call
    exact h.of_admission (fun hb => hb.produced hproduced)
      (fun hc => Exporter.sameTotals_produced hc hproduced) hx hcontrol hlate hpc
  | seals hx _ hpc =>
    refine h.of_admission (x := { s.x.sealOpen cfg with closing := true }) (fun hb => ?_)
      (fun hc => ?_) hx hcontrol hlate hpc
    · exact (hb.sealOpen cfg).of_same ⟨rfl, rfl, fun _ _ => rfl⟩
    · exact (Exporter.sameTotals_sealOpen hc cfg).trans ⟨rfl, rfl, fun _ _ => rfl⟩
  | forces alreadyTimeout hx _ hpc =>
    have hb := (Exporter.budget_forceTimeoutAccounting s.x alreadyTimeout).of_same hx.sameTotals
    have hempty := Exporter.forceTimeoutAccounting_pending s.x alreadyTimeout
    have hinflight : s'.x.inflight = [] := hx.inflight.trans hempty.1
    have hqueue : s'.x.queue = [] := hx.queue.trans hempty.2
    refine ⟨?_, fun _ => ⟨hqueue, by simp [hinflight]⟩⟩
    unfold TraceSink.settled
    split
    · exact hb
    · exact hb.release_empty hinflight hqueue _ _
  | takes habandoned hpc hx _ hpc' =>
    have hinflight := haccounted.carried habandoned [] (by rw [hpc]; rfl)
    refine of_budget (hpc' ▸ rfl) ?_ (by simp [hpc', WriterPc.finishing])
    rw [hx]
    exact (hbudget (hpc ▸ rfl)).takeBatch hinflight
  | persists job hpc hx _ hpc' =>
    refine h.of_same ?_ (hx ▸ .refl _) ?_
    · rw [hpc, hpc']
      cases job <;> rfl
    · rw [hpc, hpc']
      cases job <;> exact id
  | tears job written hpc hx _ hpc' =>
    refine h.of_same ?_ (hx ▸ .refl _) ?_
    · rw [hpc, hpc']
      cases job <;> rfl
    · rw [hpc']
      cases job <;> rintro ⟨⟩
  | records job q rest hpc hjob hx _ hpc' =>
    have hnone : s.writer.control? = none := by
      rw [hpc]
      cases job with
      | summary => cases hjob
      | batch => rfl
      | control => rfl
    have hnone' : s'.writer.control? = none := by
      rw [hpc']
      split <;> rfl
    have hfinishing : s'.writer.finishing = true → s.writer.finishing = true := by
      rw [hpc, hpc']
      split
      · next hcontrol => exact fun _ => hcontrol
      · rintro ⟨⟩
    cases ha : s.abandoned with
    | true =>
      rw [ha, if_pos rfl] at hx
      exact h.of_same (hnone'.trans hnone.symm) (hx ▸ .refl _) hfinishing
    | false =>
      rw [ha, if_neg (by simp)] at hx
      have hinflight := haccounted.carried ha (q :: rest) (by rw [hpc]; exact hjob)
      refine of_budget hnone' (hx ▸ (hbudget hnone).recordWritten hinflight) fun hf => ?_
      obtain ⟨hqueue, hreserved⟩ := h.finishing (hfinishing hf)
      rw [hx, Exporter.recordWritten_queue hinflight, Exporter.recordWritten_inflight hinflight]
      exact ⟨hqueue, fun p hp => hreserved p (hinflight ▸ List.mem_cons_of_mem _ hp)⟩
  | fails hx _ _ hpc' => exact of_idle hpc' (hx ▸ Exporter.budget_markWriterFailure s.x)
  | prepares _ _ hpc hx _ hpc' =>
    obtain ⟨hb, hqueue, hreserved⟩ := (hbudget (hpc ▸ rfl)).prepareTimeoutControls cfg s.now
    refine of_budget (hpc' ▸ rfl) (hx ▸ hb) fun _ => ?_
    rw [hx]
    exact ⟨hqueue, hreserved⟩
  | expires hpc hx _ hpc' =>
    obtain ⟨hqueue, hreserved⟩ := h.finishing (by rw [hpc]; rfl)
    exact of_idle hpc' (hx ▸ (hbudget (hpc ▸ rfl)).expireControls hqueue hreserved)
  | builds stream o endedNs record raw hpc hx _ _ hpc' =>
    refine h.of_same (by rw [hpc, hpc']; rfl) (hx ▸ .refl _) ?_
    rw [hpc']
    rintro ⟨⟩
  | reserves stream o record raw hpc hx _ hpc' =>
    have hb := hbudget (hpc ▸ rfl)
    cases hgranted : (s.x.reserveControl stream raw).2 with
    | true =>
      rw [hgranted, if_pos rfl] at hpc'
      refine ⟨hb.of_same ?_, by simp [hpc', WriterPc.finishing, Job.isControl]⟩
      rw [TraceSink.settled, hpc', hx]
      exact Exporter.sameTotals_release_reserved hb hgranted
    | false =>
      rw [hgranted, if_neg (by simp)] at hpc'
      refine of_budget (hpc' ▸ rfl) ?_ (by simp [hpc', WriterPc.finishing])
      rw [hx]
      exact hb.of_same (Exporter.sameTotals_reserve_refused hgranted)
  | drops job hpc hx _ hpc' =>
    refine h.of_same (by rw [hpc, hpc']; rfl) ?_ (by simp [hpc', WriterPc.finishing])
    rw [hx]
    exact Exporter.sameTotals_dropControl s.x
  | releases stream o record raw written hpc hx _ hpc' =>
    have hidle : s'.writer.Idle := by
      rw [hpc']
      exact .ite ⟨rfl, rfl, rfl, rfl⟩ ⟨rfl, rfl, rfl, rfl⟩
    have hb := h.budget
    rw [TraceSink.settled, hpc] at hb
    exact of_idle hidle (hx ▸ hb)
  | invalidates c stream hpc hx _ hpc' =>
    exact of_idle hpc' (hx ▸ (hbudget hpc.control).appendInvalidation c stream)

end Budgeted

/-- The run lemma. -/
theorem budgeted_of_reachable {cfg : Config} {s : TraceSink} (h : TraceSink.Reachable cfg s) :
    Budgeted s :=
  h.invariant_over
    (J := fun s => Orderly s ∧ Accounted s ∧ (s.closeDeadlineNs ≠ none → s.x.closing = true))
    (fun _ hs => ⟨TraceSink.orderly_of_reachableWhen hs, accounted_of_reachable hs,
      TraceSink.closing_of_deadline hs⟩)
    (fun _ => Budgeted.initial)
    fun _ _ _ hJ hs _ hstep _ => hs.effect hJ.1 hJ.2.1 hJ.2.2 (.of_step hstep)

namespace Exporter
variable {x : Exporter}

/-- One more line of a class with room fits into the bytes. -/
theorem Budget.bytes_fit (hx : Budget x) (stream : StreamId) {raw : Bytes} (hraw : IsLine raw)
    (hroom : (x.ledger stream).ordinaryQueued < dataCapacityRecords ∨
      (x.ledger stream).reservedQueued < reservedCapacityRecords) :
    (x.ledger stream).queuedBytes + raw.length ≤ maxQueuedBytes := by
  have hlength := hraw.length
  have hordinary := hx.ordinary stream
  have hreserved := hx.reserved stream
  have ho : (x.ledger stream).ordinaryQueued = tally .ordinary stream x.pending :=
    hx.tracked stream .ordinary
  have hr : (x.ledger stream).reservedQueued = tally .reserved stream x.pending :=
    hx.tracked stream .reserved
  have hb : (x.ledger stream).queuedBytes = tally .bytes stream x.pending :=
    hx.tracked stream .bytes
  have hbytes := tally_bytes_le (t := stream) hx.line
  have hcapacity : maxQueuedBytes =
      maxRecordBytes * (dataCapacityRecords + reservedCapacityRecords) := by decide
  have hcount : tally .ordinary stream x.pending + tally .reserved stream x.pending + 1 ≤
      dataCapacityRecords + reservedCapacityRecords := by
    rcases hroom with h | h <;> omega
  have hmul := Nat.mul_le_mul_left maxRecordBytes hcount
  rw [Nat.mul_succ] at hmul
  omega

/-- The byte test decides nothing. -/
theorem Budget.canEnqueue_eq (hx : Budget x) (stream : StreamId) {raw : Bytes} (hraw : IsLine raw)
    (reserved : Bool) : x.canEnqueue raw reserved stream =
      (!(x.writerFailed || x.closing || x.closed) &&
        if reserved then decide ((x.ledger stream).reservedQueued < reservedCapacityRecords)
        else decide ((x.ledger stream).ordinaryQueued < dataCapacityRecords)) := by
  have hfit := hx.bytes_fit stream hraw
  unfold canEnqueue
  cases reserved with
  | true =>
    by_cases hroom : (x.ledger stream).reservedQueued < reservedCapacityRecords
    · simp [hroom, hfit (.inr hroom)]
    · simp [hroom]
  | false =>
    by_cases hroom : (x.ledger stream).ordinaryQueued < dataCapacityRecords
    · simp [hroom, hfit (.inl hroom)]
    · simp [hroom]

end Exporter

/-- **Queue capacity**: while no control is written past the queue, each stream
has at most its two capacities of records queued or in flight, its totals are
those of the records, a batch keeps its two limits, and where a count test has
room the byte test passes. -/
theorem queue_capacity {cfg : Config} {s : TraceSink} (h : TraceSink.Reachable cfg s)
    (hcontrol : s.writer.control? = none) :
    (∀ stream, tally .ordinary stream s.x.pending ≤ dataCapacityRecords ∧
      tally .reserved stream s.x.pending ≤ reservedCapacityRecords ∧
      (s.x.ledger stream).ordinaryQueued = tally .ordinary stream s.x.pending ∧
      (s.x.ledger stream).reservedQueued = tally .reserved stream s.x.pending ∧
      (s.x.ledger stream).queuedBytes = tally .bytes stream s.x.pending) ∧
    (s.x.inflight.length ≤ maxBatchRecords ∧ rawBytes s.x.inflight ≤ maxBatchBytes) ∧
    (s.x.takeBatch.2.length ≤ maxBatchRecords ∧ rawBytes s.x.takeBatch.2 ≤ maxBatchBytes) ∧
    ∀ stream raw, IsLine raw →
      (∀ reserved, s.x.canEnqueue raw reserved stream =
        (!(s.x.writerFailed || s.x.closing || s.x.closed) &&
          if reserved then decide ((s.x.ledger stream).reservedQueued < reservedCapacityRecords)
          else decide ((s.x.ledger stream).ordinaryQueued < dataCapacityRecords))) ∧
      (s.x.reserveControl stream raw).2 =
        decide ((s.x.ledger stream).reservedQueued < reservedCapacityRecords) ∧
      ∀ a, Exporter.TimeoutStage cfg s.x s.now a → a.counts stream < reservedCapacityRecords →
        a.bytes stream + raw.length ≤ maxQueuedBytes := by
  have hx : s.x.Budget := TraceSink.settled_of_none hcontrol ▸ (budgeted_of_reachable h).budget
  refine ⟨fun stream => ⟨hx.ordinary stream, hx.reserved stream, hx.tracked stream .ordinary,
    hx.tracked stream .reserved, hx.tracked stream .bytes⟩, hx.batch, hx.batch_le,
    fun stream raw hraw => ⟨hx.canEnqueue_eq stream hraw, ?_, fun a ha hroom => ?_⟩⟩
  · have hfit := hx.bytes_fit stream hraw
    unfold Exporter.reserveControl
    by_cases hroom : (s.x.ledger stream).reservedQueued < reservedCapacityRecords
    · have hfits := hfit (.inr hroom)
      rw [if_neg (by omega), decide_eq_true hroom]
    · rw [if_pos (.inl (by omega)), decide_eq_false hroom]
  · have hbytes := (hx.holds ha).bytes_le stream
    have hlength := hraw.length
    have hmul := Nat.mul_le_mul_left maxLossBytes (Nat.le_of_lt hroom)
    have hcapacity : maxLossBytes * reservedCapacityRecords + maxRecordBytes ≤ maxQueuedBytes := by
      decide
    omega

/-- One edge is in flight. -/
theorem queue_capacity_inflight :
    let s := General.run (TraceSink.step Sample.cfg) Sample.start
      (Sample.writer 2 ++ Sample.produced ++ Sample.writer 3)
    (s.x.ledger .base).ordinaryQueued = 1 ∧ s.writer.control? = none ∧
      (s.x.ledger .base).ordinaryQueued = tally .ordinary .base s.x.pending ∧
      s.x.inflight.length ≤ maxBatchRecords := by
  intro s
  have h := queue_capacity (s := s)
    ((General.Reach.init Sample.initial_start).run (by decide +kernel))
    (by decide +kernel)
  exact ⟨by decide +kernel, by decide +kernel, (h.1 .base).2.2.1, h.2.1.1⟩

end LifecycleProfiler.Sink
