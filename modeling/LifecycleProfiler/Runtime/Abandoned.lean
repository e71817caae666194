import LifecycleProfiler.Runtime.Stages

/-! # Chains that are given up

An episode whose `preempt` row is written leaves the table with its `admission`
row or with a loss. -/

namespace LifecycleProfiler.Runtime
open Python Protocol General

/-- The `episode_id` of the rows of a key. -/
def Scheduler.episodeValue (s : Scheduler) (key : String × Int) : Value :=
  .str (episodeId (runIdentity s.sha256 s.runId key.1) key.2)

/-- Nothing of an open stream is lost. -/
def Lossless (s : Scheduler) : Prop :=
  s.sinkOpen = true ∧ s.bridge.hooks.nextProfileSeq = (profileRows s.bridge.hooks).length

/-- The `preempt` rows of a stream without losses are accounted for. -/
structure Accountable (s : Scheduler) : Prop where
  named : ∀ ref ∈ profileRows s.bridge.hooks, ∀ stage key, isStage stage key ref = true →
    ref.record.get "episode_id" = s.episodeValue key
  admitted : ∀ item ∈ s.episodes, item.2.admissionProfileRecordId.isSome = true →
    ∃ ref ∈ profileRows s.bridge.hooks, isStage "admission" item.1 ref = true
  begun : Lossless s →
    ∀ key, (∃ ref ∈ profileRows s.bridge.hooks, isStage "preempt" key ref = true) →
    (∃ item ∈ s.episodes, item.1 = key ∧ item.2.preemptProfileRecordId.isSome = true) ∨
      ∃ ref ∈ profileRows s.bridge.hooks, isStage "admission" key ref = true

namespace Accountable
variable {begins : Scheduler → String × Int → Prop} {known : H2DReceipt → Prop} {s s' : Scheduler}

theorem start (h : s.IsStart) : Accountable s := by
  obtain ⟨runId, sha256, hooks, capacity, rfl, hlog, -⟩ := h
  have hrows : profileRows (Scheduler.start runId sha256 hooks capacity).bridge.hooks = [] := by
    change List.filterMap _ hooks.log = []
    rw [hlog]
    rfl
  refine ⟨?_, fun _ h => absurd h List.not_mem_nil, ?_⟩
  · rw [hrows]
    exact fun _ h => absurd h List.not_mem_nil
  · rw [hrows]
    rintro - key ⟨ref, hmem, -⟩
    exact absurd hmem List.not_mem_nil

theorem episodeValue_eq (h : Frame s s') (key : String × Int) :
    s'.episodeValue key = s.episodeValue key := by
  rw [Scheduler.episodeValue, Scheduler.episodeValue, h.runId, h.sha256]

/-- More losses, the same rows and a table with the same `preempt` rows. -/
theorem of_rows (h : Accountable s) (frame : Frame s s')
    (hrows : profileRows s'.bridge.hooks = profileRows s.bridge.hooks)
    (hlossless : Lossless s' → Lossless s)
    (hadmitted : ∀ item ∈ s'.episodes, item.2.admissionProfileRecordId.isSome = true →
      ∃ old ∈ s.episodes, old.1 = item.1 ∧ old.2.admissionProfileRecordId.isSome = true)
    (hbegun : Lossless s → ∀ item ∈ s.episodes, item.2.preemptProfileRecordId.isSome = true →
      (∃ new ∈ s'.episodes, new.1 = item.1 ∧ new.2.preemptProfileRecordId.isSome = true) ∨
        item.2.admissionProfileRecordId.isSome = true) : Accountable s' := by
  refine ⟨fun ref hmem stage key hstage => ?_, fun item hitem hsome => ?_, fun hall key hany => ?_⟩
  · rw [episodeValue_eq frame]
    exact h.named ref (hrows ▸ hmem) stage key hstage
  · obtain ⟨old, hold, hkey, hsome⟩ := hadmitted item hitem hsome
    rw [hrows, ← hkey]
    exact h.admitted old hold hsome
  · rw [hrows] at hany ⊢
    have hall := hlossless hall
    rcases h.begun hall key hany with ⟨item, hitem, rfl, hsome⟩ | hadm
    · rcases hbegun hall item hitem hsome with ⟨new, hnew, hkey, hsome⟩ | hadm
      · exact .inl ⟨new, hnew, hkey, hsome⟩
      · exact .inr (h.admitted item hitem hadm)
    · exact .inr hadm

theorem lossless_of_rows (ht : s.Tabled) (frame : Frame s s')
    (hrows : profileRows s'.bridge.hooks = profileRows s.bridge.hooks)
    (hattempted : s.bridge.hooks.nextProfileSeq ≤ s'.bridge.hooks.nextProfileSeq)
    (h : Lossless s') : Lossless s := by
  refine ⟨frame.isOpen h.1, le_antisymm ?_ ht.attempted⟩
  rw [← hrows, ← h.2]
  exact hattempted

theorem lossless_of_row {ref : ProfileRecordRef} (frame : Frame s s')
    (hrows : profileRows s'.bridge.hooks = profileRows s.bridge.hooks ++ [ref])
    (hattempted : s'.bridge.hooks.nextProfileSeq = s.bridge.hooks.nextProfileSeq + 1)
    (h : Lossless s') : Lossless s := by
  refine ⟨frame.isOpen h.1, ?_⟩
  have hcount := h.2
  rw [hrows, hattempted, List.length_append, List.length_singleton] at hcount
  exact Nat.succ.inj hcount

theorem leave (h : Accountable s) (leaves : (String × Int) × SchedulerEpisode → Bool)
    (excused : ∀ item ∈ s.episodes, leaves item = true → item.2.preemptProfileRecordId = none ∨
      item.2.admissionProfileRecordId.isSome = true ∨ s.Lossy) : Accountable (s.forget leaves) := by
  refine h.of_rows ⟨rfl, rfl, id, fun _ => rfl, fun _ _ h => .inl h⟩ rfl id
    (fun item hitem hsome => ⟨item, List.mem_of_mem_filter hitem, rfl, hsome⟩)
    fun hall item hitem hsome => ?_
  cases hleaves : leaves item with
  | false => exact .inl ⟨item, List.mem_filter.mpr ⟨hitem, by rw [hleaves]; rfl⟩, rfl, hsome⟩
  | true =>
    rcases excused item hitem hleaves with hnone | hadm | hlossy
    · rw [hnone] at hsome
      cases hsome
    · exact .inr hadm
    · exact absurd hall.2 (hlossy hall.1).ne'

/-- An episode of the table is replaced. -/
theorem set (h : Accountable s) (ht : s.Tabled) (frame : Frame s s') (same : s.SameRows s')
    {key : String × Int} {ep' : SchedulerEpisode} (episodes : s'.episodes = s.episodes.set key ep')
    (hadmission : ep'.admissionProfileRecordId.isSome = true →
      ∃ ep, (key, ep) ∈ s.episodes ∧ ep.admissionProfileRecordId.isSome = true)
    (hpreempt : ∀ ep, (key, ep) ∈ s.episodes → ep.preemptProfileRecordId.isSome = true →
      ep'.preemptProfileRecordId.isSome = true) : Accountable s' := by
  refine h.of_rows frame same.rows (lossless_of_rows ht frame same.rows same.attempted.ge)
    (fun item hitem hsome => ?_) fun _ item hitem hsome => .inl ?_
  · rw [episodes, Mapping.mem_set ht.unique] at hitem
    rcases hitem with rfl | ⟨hold, -⟩
    · obtain ⟨ep, hmem, hadm⟩ := hadmission hsome
      exact ⟨_, hmem, rfl, hadm⟩
    · exact ⟨item, hold, rfl, hsome⟩
  · rw [episodes]
    by_cases hkey : item.1 = key
    · exact ⟨(key, ep'), (Mapping.mem_set ht.unique).mpr (.inl rfl), hkey.symm,
        hpreempt item.2 (hkey ▸ hitem) hsome⟩
    · exact ⟨item, (Mapping.mem_set ht.unique).mpr (.inr ⟨hitem, hkey⟩), rfl, hsome⟩

theorem chunk (h : Accountable s) (frame : Frame s s') {ref : ProfileRecordRef}
    (other : ref.recordType = .blockSetChunk)
    (rows : profileRows s'.bridge.hooks = profileRows s.bridge.hooks ++ [ref])
    (attempted : s'.bridge.hooks.nextProfileSeq = s.bridge.hooks.nextProfileSeq + 1)
    (episodes : s'.episodes = s.episodes) : Accountable s' := by
  have hnot : ∀ stage key, isStage stage key ref ≠ true := fun stage key => by simp [isStage, other]
  have hmem : ∀ {stage key}, (∃ r ∈ profileRows s'.bridge.hooks, isStage stage key r = true) ↔
      ∃ r ∈ profileRows s.bridge.hooks, isStage stage key r = true := by
    intro stage key
    rw [rows]
    simp only [List.mem_append, List.mem_singleton, or_and_right, exists_or, exists_eq_left]
    exact or_iff_left (hnot stage key)
  refine ⟨fun r hr stage key hstage => ?_, fun item hitem hsome => ?_, fun hall key hany => ?_⟩
  · rw [rows, List.mem_append, List.mem_singleton] at hr
    rw [episodeValue_eq frame]
    rcases hr with hr | rfl
    · exact h.named r hr stage key hstage
    · exact absurd hstage (hnot stage key)
  · rw [hmem]
    exact h.admitted item (episodes ▸ hitem) hsome
  · rw [hmem] at hany ⊢
    rw [episodes]
    exact h.begun (lossless_of_row frame rows attempted hall) key hany

theorem write (h : Accountable s) (ht : s.Tabled) (frame : Frame s s') {key : String × Int}
    {ep ep' : SchedulerEpisode} {ref : ProfileRecordRef} {now : Int} {event : RecoveryEvent}
    (hmem : (key, ep) ∈ s.episodes) (writes : Writes (begins s) key ep ref.recordId event ep')
    (row : Accepted .recoveryEvent now event.fields s.bridge.hooks ref)
    (rows : profileRows s'.bridge.hooks = profileRows s.bridge.hooks ++ [ref])
    (attempted : s'.bridge.hooks.nextProfileSeq = s.bridge.hooks.nextProfileSeq + 1)
    (episodes : s'.episodes = s.episodes.set key ep') : Accountable s' := by
  have habout : event.request.runtimeRequestId = key.1 ∧ event.request.recoveryEpoch = some key.2 ∧
      event.request.episodeId = some
        (Scheduler.episodeId (runIdentity s.sha256 s.runId key.1) key.2) := by
    have hidentity := ht.identity _ hmem
    have hepoch := ht.epoch _ hmem
    dsimp only at hidentity hepoch
    cases writes <;>
      simp [Scheduler.preemptRow, Scheduler.wakeupRow, Scheduler.requeueRow, Scheduler.admissionRow,
        Scheduler.receiptRow, Scheduler.requestOf, hidentity, hepoch, runIdentity]
  have hstage : ∀ stage other, isStage stage other ref = true ↔
    event.stage = stage ∧ other = key := by
    intro stage other
    rw [isStage_event row, habout.1, habout.2.1, Option.some.injEq]
    exact and_congr_right fun _ => ⟨fun h => Prod.ext h.1.symm h.2.symm, fun h => h ▸ ⟨rfl, rfl⟩⟩
  have hany : ∀ stage other, (∃ r ∈ profileRows s'.bridge.hooks, isStage stage other r = true) ↔
      (∃ r ∈ profileRows s.bridge.hooks, isStage stage other r = true) ∨
        event.stage = stage ∧ other = key := by
    intro stage other
    rw [rows, ← hstage]
    simp only [List.mem_append, List.mem_singleton, or_and_right, exists_or, exists_eq_left]
  have hitems : ∀ item, item ∈ s'.episodes ↔ item = (key, ep') ∨ item ∈ s.episodes ∧ item.1 ≠ key :=
    fun item => by rw [episodes, Mapping.mem_set ht.unique]
  refine ⟨fun r hr stage other hr' => ?_, fun item hitem hsome => ?_, fun hall other hrow => ?_⟩
  · rw [episodeValue_eq frame]
    rw [rows, List.mem_append, List.mem_singleton] at hr
    rcases hr with hr | rfl
    · exact h.named r hr stage other hr'
    · have hepisode : r.record.get "episode_id" = optStr event.request.episodeId := by
        rw [row.record_eq]
        rfl
      rw [hepisode, habout.2.2, ((hstage _ _).mp hr').2]
      rfl
  · rw [hany]
    rcases (hitems item).mp hitem with rfl | ⟨hold, -⟩
    · cases writes with
      | preempt => exact .inl (h.admitted (key, ep) hmem hsome)
      | wakeup => exact .inl (h.admitted (key, ep) hmem hsome)
      | requeue => exact .inl (h.admitted (key, ep) hmem hsome)
      | admission => exact .inr ⟨rfl, rfl⟩
    · exact .inl (h.admitted item hold hsome)
  · rw [hany] at hrow ⊢
    have hset : ∀ item ∈ s.episodes, item.2.preemptProfileRecordId.isSome = true →
        ∃ new ∈ s'.episodes, new.1 = item.1 ∧ new.2.preemptProfileRecordId.isSome = true := by
      intro item hitem hsome
      by_cases hkey : item.1 = key
      · refine ⟨(key, ep'), (hitems _).mpr (.inl rfl), hkey.symm, ?_⟩
        have heq : item.2 = ep := ht.unique.eq_of_mem (hkey ▸ hitem) hmem
        rw [heq] at hsome
        cases writes with
        | preempt => rfl
        | _ => exact hsome
      · exact ⟨item, (hitems _).mpr (.inr ⟨hitem, hkey⟩), rfl, hsome⟩
    rcases hrow with hold | ⟨hpreempt, rfl⟩
    · rcases h.begun (lossless_of_row frame rows attempted hall) other hold with
        ⟨item, hitem, rfl, hsome⟩ | hadm
      · exact .inl (hset item hitem hsome)
      · exact .inr (.inl hadm)
    · refine .inl ⟨(other, ep'), (hitems _).mpr (.inl rfl), rfl, ?_⟩
      cases writes with
      | preempt => rfl
      | wakeup => exact absurd hpreempt (by simp [Scheduler.wakeupRow, Scheduler.receiptRow])
      | requeue => exact absurd hpreempt (by simp [Scheduler.requeueRow, Scheduler.receiptRow])
      | admission => exact absurd hpreempt (by simp [Scheduler.admissionRow, Scheduler.receiptRow])

theorem move (h : Accountable s) (ht : s.Tabled) (hm : Move begins known s s') :
    Accountable s' := by
  cases hm with
  | quiet frame rows attempted episodes =>
    exact h.of_rows frame rows (lossless_of_rows ht frame rows attempted)
      (fun item hitem hsome => ⟨item, episodes ▸ hitem, rfl, hsome⟩)
      fun _ item hitem hsome => .inl ⟨item, episodes ▸ hitem, rfl, hsome⟩
  | chunk frame ref _ _ row rows attempted episodes =>
    exact h.chunk frame row.type_eq rows attempted episodes
  | arrive frame same key ep absent fresh episodes =>
    refine h.set ht frame same episodes (fun hsome => ?_) fun old hold => absurd rfl (absent _ hold)
    rw [fresh.admission] at hsome
    cases hsome
  | leave leaves forgotten excused => exact forgotten ▸ h.leave leaves excused
  | learn frame same key ep ep' mem learns episodes =>
    refine h.set ht frame same episodes (fun hsome => ⟨ep, mem, ?_⟩) fun old hold hsome => ?_
    · cases learns <;> exact hsome
    · rw [ht.unique.eq_of_mem hold mem] at hsome
      cases learns <;> exact hsome
  | write frame key ep ep' mem ref now event writes row rows attempted episodes =>
    exact h.write ht frame mem writes row rows attempted episodes

theorem moves (hm : Moves begins known s s') (h : Accountable s) (ht : s.Tabled) :
    Accountable s' ∧ s'.Tabled := by
  induction hm with
  | refl => exact ⟨h, ht⟩
  | tail _ hlast ih => exact ⟨ih.1.move ih.2 hlast, hlast.tabled ih.2⟩

end Accountable

/-- While the sink is open, so is the adapter. -/
def Scheduler.Serving (s : Scheduler) : Prop := s.sinkOpen = true → s.closed = false

theorem Move.serving {begins : Scheduler → String × Int → Prop} {known : H2DReceipt → Prop}
    {s s' : Scheduler}
    (h : Move begins known s s') (hs : s.Serving) : s'.Serving := by
  have hframe : Frame s s' → s'.Serving := fun frame hopen =>
    (frame.closed hopen).trans (hs (frame.isOpen hopen))
  cases h with
  | quiet frame => exact hframe frame
  | chunk frame => exact hframe frame
  | arrive frame => exact hframe frame
  | leave _ forgotten => exact forgotten ▸ hs
  | learn frame => exact hframe frame
  | write frame => exact hframe frame

theorem Moves.serving {begins : Scheduler → String × Int → Prop} {known : H2DReceipt → Prop}
    {s s' : Scheduler}
    (h : Moves begins known s s') (hs : s.Serving) : s'.Serving := by
  induction h with
  | refl => exact hs
  | tail _ hlast ih => exact hlast.serving ih

theorem sinkOpen_reset (s : Scheduler) : s.reset.sinkOpen = s.sinkOpen := by
  have habandon : ∀ (given : List SchedulerEpisode) (s : Scheduler),
      (given.foldl Scheduler.abandon s).sinkOpen = s.sinkOpen := by
    intro given
    induction given with
    | nil => exact fun _ => rfl
    | cons ep rest ih =>
      intro s
      rw [List.foldl_cons, ih, Scheduler.abandon]
      split <;> rfl
  exact habandon _ s

theorem accountable_of_reach {s : Scheduler}
    (h : Reach Scheduler.step Scheduler.IsStart (fun _ _ => True) s) :
    Accountable s ∧ s.Tabled ∧ s.Serving := by
  refine h.invariant (I := fun s => Accountable s ∧ s.Tabled ∧ s.Serving)
    (fun s hs => ⟨.start hs, tabled_start hs, ?_⟩) ?_
  · obtain ⟨_, _, _, _, rfl, -, -⟩ := hs
    exact fun _ => rfl
  · rintro s c s' ⟨ha, ht, hserving⟩ - hstep
    rw [Scheduler.step, Option.some.injEq] at hstep
    subst hstep
    have hmoves : Moves (fun _ _ => True) (fun _ => True) s (s.callback c) :=
      moves_callback ht c (fun _ _ => trivial) fun _ _ => trivial
    obtain ⟨ha, ht'⟩ := Accountable.moves hmoves ha ht
    exact ⟨ha, ht', hmoves.serving hserving⟩

/-- **No silent scheduler loss.** After a run that ends with `close` over an open
sink, complete evidence has an `admission` row for every `preempt` row. -/
theorem no_silent_scheduler_loss (s : Scheduler) (callbacks : List SchedulerCallback)
    (intact : Bool)
    (hstart : s.IsStart) (hopen : (run Scheduler.step s callbacks).sinkOpen = true)
    (hcomplete : evidenceComplete intact (run Scheduler.step s callbacks).close.bridge.hooks = true)
    (key : String × Int) (ref : ProfileRecordRef)
    (hmem : ref ∈ profileRows (run Scheduler.step s callbacks).close.bridge.hooks)
    (hpreempt : isStage "preempt" key ref = true) :
    ∃ admission ∈ profileRows (run Scheduler.step s callbacks).close.bridge.hooks,
      isStage "admission" key admission = true ∧
        admission.record.get "episode_id" = ref.record.get "episode_id" := by
  obtain ⟨ha, ht, hserving⟩ := accountable_of_reach
    ((Reach.init hstart).run (RunOk.of_forall (fun _ _ => trivial) s callbacks))
  generalize run Scheduler.step s callbacks = s at *
  have hclose : s.close = { s.reset with closed := true }.sinkCloses := by
    rw [Scheduler.close, if_neg (by rw [hserving hopen]; exact Bool.false_ne_true)]
  have hrows : profileRows s.close.bridge.hooks = profileRows s.reset.bridge.hooks := by
    rw [hclose]
    rfl
  have hattempted : s.close.bridge.hooks.nextProfileSeq = s.reset.bridge.hooks.nextProfileSeq := by
    rw [hclose]
    rfl
  have hmoves : Moves (fun _ _ => True) (fun _ => True) s s.reset := moves_reset ht
  obtain ⟨ha, -⟩ := Accountable.moves hmoves ha ht
  have hempty : s.reset.episodes = [] := by simp [Scheduler.reset, Scheduler.forget]
  have hlossless : Lossless s.reset := by
    rw [evidenceComplete, Bool.and_eq_true, decide_eq_true_eq] at hcomplete
    refine ⟨(sinkOpen_reset s).trans hopen, ?_⟩
    rw [← hattempted, ← hrows]
    exact hcomplete.2
  rw [hrows] at hmem ⊢
  rcases ha.begun hlossless key ⟨ref, hmem, hpreempt⟩ with ⟨item, hitem, -⟩ | ⟨row, hrow, hadm⟩
  · rw [hempty] at hitem
    exact absurd hitem List.not_mem_nil
  · exact ⟨row, hrow, hadm, (ha.named row hrow _ key hadm).trans
      (ha.named ref hmem _ key hpreempt).symm⟩

theorem no_silent_scheduler_loss_recovered :
    ∃ admission ∈ profileRows
        (run Scheduler.step Sample.scheduler Sample.recovered).close.bridge.hooks,
      isStage "admission" ("request-0", 1) admission = true := by
  have hrun : (run Scheduler.step Sample.scheduler Sample.recovered).sinkOpen = true ∧
      evidenceComplete true
        (run Scheduler.step Sample.scheduler Sample.recovered).close.bridge.hooks = true ∧
      ∃ ref ∈ profileRows (run Scheduler.step Sample.scheduler Sample.recovered).close.bridge.hooks,
        isStage "preempt" ("request-0", 1) ref = true := by decide +kernel
  obtain ⟨hopen, hcomplete, ref, hmem, hstage⟩ := hrun
  obtain ⟨row, hrow, hadm, -⟩ := no_silent_scheduler_loss Sample.scheduler Sample.recovered true
    sample_isStart hopen hcomplete ("request-0", 1) ref hmem hstage
  exact ⟨row, hrow, hadm⟩

end LifecycleProfiler.Runtime
