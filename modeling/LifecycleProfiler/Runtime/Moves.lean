import LifecycleProfiler.Python.Keys
import LifecycleProfiler.Runtime.Quiet
import Mathlib.Logic.Relation

/-! # What a callback of the scheduler adapter can do

Every callback is a sequence of moves: something that touches neither the rows
nor the table, a row that is no recovery event, an episode that arrives, leaves
or learns something, or a row of an episode. -/

namespace LifecycleProfiler.Runtime
open Python Protocol

/-- What no move changes. -/
structure Frame (s s' : Scheduler) : Prop where
  runId : s'.runId = s.runId
  sha256 : s'.sha256 = s.sha256
  isOpen : s'.sinkOpen = true → s.sinkOpen = true
  closed : s'.sinkOpen = true → s'.closed = s.closed
  identities : ∀ rid identity, s'.bridge.identities.get rid = some identity →
    s.bridge.identities.get rid = some identity ∨ identity = runIdentity s.sha256 s.runId rid

theorem Frame.refl (s : Scheduler) : Frame s s :=
  ⟨rfl, rfl, id, fun _ => rfl, fun _ _ h => .inl h⟩

/-- The rows take some of the attempted sequences. -/
def Attempted (h : Hooks) : Prop := (profileRows h).length ≤ h.nextProfileSeq

/-- A sequence of an open stream is lost. -/
def Scheduler.Lossy (s : Scheduler) : Prop :=
  s.sinkOpen = true → (profileRows s.bridge.hooks).length < s.bridge.hooks.nextProfileSeq

/-- A step of an episode that writes a row: the row, and the episode after it. -/
inductive Writes (begins : String × Int → Prop) (key : String × Int) (ep : SchedulerEpisode)
    (recordId : String) : RecoveryEvent → SchedulerEpisode → Prop where
  | preempt (first : begins key) (waiting : ep.context = none) :
      Writes begins key ep recordId (Scheduler.preemptRow ep.identity ep)
        { ep with preemptProfileRecordId := some recordId }
  | wakeup {receipt : H2DReceipt} {event : BaseEventRef} (received : ep.receipt = some receipt)
      (waiting : ep.admissionStartedEvent = none) :
      Writes begins key ep recordId (Scheduler.wakeupRow ep receipt)
        { ep with
          admissionStartedEvent := some event
          wakeupProfileRecordId := some recordId
          predecessorProfileRecordId := some recordId }
  | requeue {receipt : H2DReceipt} {predecessor reason : String}
      (received : ep.receipt = some receipt)
      (awake : ep.wakeupProfileRecordId.isSome = true)
      (last : ep.predecessorProfileRecordId = some predecessor)
      (waiting : ep.admissionProfileRecordId = none) :
      Writes begins key ep recordId (Scheduler.requeueRow ep receipt predecessor reason)
        { ep with
          predecessorProfileRecordId := some recordId
          requeueOccurrence := ep.requeueOccurrence + 1 }
  | admission {receipt : H2DReceipt} {resumed started : BaseEventRef} {predecessor : String}
      (received : ep.receipt = some receipt)
      (awake : ep.wakeupProfileRecordId.isSome = true)
      (last : ep.predecessorProfileRecordId = some predecessor)
      (admitted : ep.admissionStartedEvent = some started)
      (waiting : ep.admissionProfileRecordId = none) :
      Writes begins key ep recordId (Scheduler.admissionRow ep receipt resumed started predecessor)
        { ep with admissionProfileRecordId := some recordId }

/-- The episode a transfer belongs to. -/
def TransferIdentity.key? (identity : TransferIdentity) : Option (String × Int) :=
  identity.recoveryEpoch.map fun epoch => (identity.runtimeRequestId, epoch)

/-- What an episode learns without a row. -/
inductive Learns (known : H2DReceipt → Prop) (key : String × Int) (ep : SchedulerEpisode) :
    SchedulerEpisode → Prop where
  | context (context : TransferContext) (begun : ep.preemptProfileRecordId.isSome = true)
      (waiting : ep.context = none) (about : context.identity.key? = some key)
      (preempted : context.identity.preemptProfileRecordId = ep.preemptProfileRecordId) :
      Learns known key ep { ep with context := some context }
  | receipt (receipt : H2DReceipt) (awaited : ep.awaits receipt = true) (given : known receipt)
      (about : receipt.identity.key? = some key) :
      Learns known key ep { ep with receipt := some receipt }

/-- An episode of a key before anything is known of it. -/
structure SchedulerEpisode.Fresh (ep : SchedulerEpisode) (s : Scheduler) (key : String × Int) :
    Prop where
  identity : ep.identity = runIdentity s.sha256 s.runId key.1
  epoch : ep.recoveryEpoch = key.2
  preempt : ep.preemptProfileRecordId = none
  context : ep.context = none
  receipt : ep.receipt = none
  wakeup : ep.wakeupProfileRecordId = none
  started : ep.admissionStartedEvent = none
  admission : ep.admissionProfileRecordId = none
  occurrence : ep.requeueOccurrence = 0

/-- The rows and the attempts are as before. -/
abbrev Scheduler.SameRows (s s' : Scheduler) : Prop := SameProfile s.bridge.hooks s'.bridge.hooks

inductive Move (begins : Scheduler → String × Int → Prop) (known : H2DReceipt → Prop)
    (s s' : Scheduler) : Prop where
  | quiet (frame : Frame s s') (rows : profileRows s'.bridge.hooks = profileRows s.bridge.hooks)
      (attempted : s.bridge.hooks.nextProfileSeq ≤ s'.bridge.hooks.nextProfileSeq)
      (episodes : s'.episodes = s.episodes) (retired : s'.retired = s.retired)
  | chunk (frame : Frame s s') (ref : ProfileRecordRef) (now : Int) (block : BlockSetChunk)
      (row : Accepted .blockSetChunk now block.fields s.bridge.hooks ref)
      (rows : profileRows s'.bridge.hooks = profileRows s.bridge.hooks ++ [ref])
      (attempted : s'.bridge.hooks.nextProfileSeq = s.bridge.hooks.nextProfileSeq + 1)
      (episodes : s'.episodes = s.episodes) (retired : s'.retired = s.retired)
  | arrive (frame : Frame s s') (same : s.SameRows s') (key : String × Int) (ep : SchedulerEpisode)
      (absent : ∀ item ∈ s.episodes, item.1 ≠ key) (fresh : ep.Fresh s key)
      (episodes : s'.episodes = s.episodes.set key ep) (retired : s'.retired = s.retired)
  | leave (leaves : (String × Int) × SchedulerEpisode → Bool) (forgotten : s' = s.forget leaves)
      (excused : ∀ item ∈ s.episodes, leaves item = true →
        item.2.preemptProfileRecordId = none ∨ item.2.admissionProfileRecordId.isSome =
          true ∨ s.Lossy)
  | learn (frame : Frame s s') (same : s.SameRows s') (key : String × Int)
      (ep ep' : SchedulerEpisode) (mem : (key, ep) ∈ s.episodes) (learns : Learns known key ep ep')
      (episodes : s'.episodes = s.episodes.set key ep') (retired : s'.retired = s.retired)
  | write (frame : Frame s s') (key : String × Int) (ep ep' : SchedulerEpisode)
      (mem : (key, ep) ∈ s.episodes) (ref : ProfileRecordRef) (now : Int) (event : RecoveryEvent)
      (writes : Writes (begins s) key ep ref.recordId event ep')
      (row : Accepted .recoveryEvent now event.fields s.bridge.hooks ref)
      (rows : profileRows s'.bridge.hooks = profileRows s.bridge.hooks ++ [ref])
      (attempted : s'.bridge.hooks.nextProfileSeq = s.bridge.hooks.nextProfileSeq + 1)
      (episodes : s'.episodes = s.episodes.set key ep') (retired : s'.retired = s.retired)

abbrev Moves (begins : Scheduler → String × Int → Prop) (known : H2DReceipt → Prop) :
    Scheduler → Scheduler → Prop :=
  Relation.ReflTransGen (Move begins known)

/-! ## Single moves -/

section Single
variable {begins : Scheduler → String × Int → Prop} {known : H2DReceipt → Prop} {s s' : Scheduler}

theorem attempted_drop (h : Attempted s.bridge.hooks) : Attempted s.drop.bridge.hooks := by
  obtain ⟨hrows, hseq⟩ := dropProfile_lost s.sinkOpen s.bridge.hooks
  change (profileRows (dropProfile _ _)).length ≤ (dropProfile _ _).nextProfileSeq
  rw [hrows, hseq]
  exact Nat.le_add_right_of_le h

/-- A drop is a loss, while the sink is open. -/
theorem lossy_drop (h : Attempted s.bridge.hooks) : s.drop.Lossy := by
  intro hopen
  obtain ⟨hrows, hseq⟩ := dropProfile_lost s.sinkOpen s.bridge.hooks
  change (profileRows (dropProfile _ _)).length < (dropProfile _ _).nextProfileSeq
  have hopen : s.sinkOpen = true := hopen
  rw [hrows, hseq, hopen]
  exact Nat.lt_succ_of_le h

theorem Move.drop : Move begins known s s.drop := by
  obtain ⟨hrows, hseq⟩ := dropProfile_lost s.sinkOpen s.bridge.hooks
  exact .quiet ⟨rfl, rfl, id, fun _ => rfl, fun _ _ h => .inl h⟩ hrows
    (hseq.symm ▸ Nat.le_add_right _ _) rfl rfl

theorem Move.bridge {b : Bridge} (h : Calm s.sha256 s.runId s.bridge b) :
    Move begins known s { s with bridge := b } :=
  .quiet ⟨rfl, rfl, id, fun _ => rfl, h.identities⟩ h.profile.rows h.profile.attempted.ge rfl rfl

/-- A lost row. -/
theorem Move.lost {recordType : ProfileRecordType} {now : Int} {fields : Dict}
    (h : s.write recordType now fields = (none, s')) (hs : Attempted s.bridge.hooks) :
    Move begins known s s' ∧ s'.Lossy ∧ Attempted s'.bridge.hooks := by
  have hattempt := writeProfile_attempt s.sinkOpen recordType now fields s.bridge.hooks
  unfold Scheduler.write at h
  rw [Prod.mk.injEq] at h
  obtain ⟨hnone, rfl⟩ := h
  rw [hnone] at hattempt
  cases hattempt with
  | lost rows attempted =>
    refine ⟨.quiet ⟨rfl, rfl, id, fun _ => rfl, fun _ _ h => .inl h⟩ rows
      (attempted.symm ▸ Nat.le_add_right _ _) rfl rfl, fun hopen => ?_, ?_⟩
    · have hopen : s.sinkOpen = true := hopen
      change (profileRows (writeProfile _ _ _ _ _).2).length <
        (writeProfile _ _ _ _ _).2.nextProfileSeq
      rw [rows, attempted, hopen]
      exact Nat.lt_succ_of_le hs
    · change (profileRows (writeProfile _ _ _ _ _).2).length ≤
        (writeProfile _ _ _ _ _).2.nextProfileSeq
      rw [rows, attempted]
      exact Nat.le_add_right_of_le hs

/-- An accepted row. -/
theorem accepted_of_write {recordType : ProfileRecordType} {now : Int} {fields : Dict} {id : String}
    (h : s.write recordType now fields = (some id, s')) :
    ∃ ref, id = ref.recordId ∧ Accepted recordType now fields s.bridge.hooks ref ∧
      profileRows s'.bridge.hooks = profileRows s.bridge.hooks ++ [ref] ∧
      s'.bridge.hooks.nextProfileSeq = s.bridge.hooks.nextProfileSeq + 1 ∧ s.sinkOpen = true ∧
      s' = s.withHooks s'.bridge.hooks := by
  have hattempt := writeProfile_attempt s.sinkOpen recordType now fields s.bridge.hooks
  unfold Scheduler.write at h
  rw [Prod.mk.injEq] at h
  obtain ⟨hsome, rfl⟩ := h
  rw [hsome] at hattempt
  cases hattempt with
  | accepted row open_ rows attempted => exact ⟨_, rfl, row, rows, attempted, open_, rfl⟩

theorem Move.event {rid : String} {epoch : Int} {ep ep' : SchedulerEpisode} {now : Int}
    {event : RecoveryEvent} {recordId : String} (hmem : ((rid, epoch), ep) ∈ s.episodes)
    (h : s.write .recoveryEvent now event.fields = (some recordId, s'))
    (hwrites : Writes (begins s) (rid, epoch) ep recordId event ep') :
    Move begins known s (s'.setEpisode ep' rid epoch) := by
  obtain ⟨ref, rfl, hrow, hrows, hseq, -, hs'⟩ := accepted_of_write h
  rw [hs'] at hrows hseq ⊢
  exact .write ⟨rfl, rfl, id, fun _ => rfl, fun _ _ h => .inl h⟩
    (rid, epoch) ep ep' hmem ref now event
    hwrites hrow hrows hseq rfl rfl

theorem Move.block {now : Int} {block : BlockSetChunk} {recordId : String}
    (h : s.write .blockSetChunk now block.fields = (some recordId, s')) :
      Move begins known s s' := by
  obtain ⟨ref, -, hrow, hrows, hseq, -, hs'⟩ := accepted_of_write h
  rw [hs'] at hrows hseq ⊢
  exact .chunk ⟨rfl, rfl, id, fun _ => rfl, fun _ _ h => .inl h⟩ ref now block hrow hrows
    hseq rfl rfl

theorem Move.attempted (h : Move begins known s s') (hs : Attempted s.bridge.hooks) :
    Attempted s'.bridge.hooks := by
  unfold Attempted at hs ⊢
  cases h with
  | quiet _ rows attempted => rw [rows]; exact hs.trans attempted
  | chunk _ _ _ _ _ rows attempted =>
    rw [rows, attempted, List.length_append]; exact Nat.succ_le_succ hs
  | arrive _ same => rw [same.rows, same.attempted]; exact hs
  | leave _ forgotten => rw [forgotten]; exact hs
  | learn _ same => rw [same.rows, same.attempted]; exact hs
  | write _ _ _ _ _ _ _ _ _ _ rows attempted =>
    rw [rows, attempted, List.length_append]
    exact Nat.succ_le_succ hs

theorem Moves.attempted (h : Moves begins known s s') (hs : Attempted s.bridge.hooks) :
    Attempted s'.bridge.hooks := by
  induction h with
  | refl => exact hs
  | tail _ hlast ih => exact hlast.attempted ih

/-- A pop after a loss. -/
theorem Move.pop (h : s.Lossy) (rid : String) (epoch : Int) :
    Move begins known s (s.popEpisode rid epoch) :=
  .leave _ rfl fun _ _ _ => .inr (.inr h)

end Single

/-! ## Callbacks -/

/-- The key whose `preempt` row the call writes, if it writes one. -/
def Scheduler.begun (s : Scheduler) : SchedulerCallback → Option (String × Int)
  | .prepareTransferContext rid operation coordinates _ _ =>
    match s.bridge.requestIdentity rid, s.newestEpisode rid with
    | some base, some ep =>
      if !s.closed && !coordinates.isEmpty && operation = "h2d_restore" && ep.context.isNone &&
          (s.write .recoveryEvent ep.preemptedEvent.timestampNs
            (preemptRow base ep).fields).1.isSome
      then some (rid, ep.recoveryEpoch)
      else none
    | _, _ => none
  | _ => none

/-- The receipts a call consumes. -/
def SchedulerCallback.received : SchedulerCallback → List H2DReceipt
  | .consumeH2dReceipts receipts _ => receipts
  | _ => []

/-- The table, as the moves need it. -/
structure Scheduler.Tabled (s : Scheduler) : Prop where
  unique : s.episodes.Unique
  epoch : ∀ item ∈ s.episodes, item.2.recoveryEpoch = item.1.2
  identity : ∀ item ∈ s.episodes, item.2.identity = runIdentity s.sha256 s.runId item.1.1
  identities : ∀ rid identity, s.bridge.identities.get rid = some identity →
    identity = runIdentity s.sha256 s.runId rid
  attempted : Attempted s.bridge.hooks
  started : ∀ item ∈ s.episodes,
    item.2.admissionStartedEvent.isSome = item.2.wakeupProfileRecordId.isSome

theorem Writes.identity {begins : String × Int → Prop} {key : String × Int}
    {ep ep' : SchedulerEpisode} {recordId : String} {event : RecoveryEvent}
    (h : Writes begins key ep recordId event ep') :
    ep'.identity = ep.identity ∧ ep'.recoveryEpoch = ep.recoveryEpoch ∧
      (ep.admissionStartedEvent.isSome = ep.wakeupProfileRecordId.isSome →
        ep'.admissionStartedEvent.isSome = ep'.wakeupProfileRecordId.isSome) := by
  cases h with
  | preempt => exact ⟨rfl, rfl, id⟩
  | wakeup => exact ⟨rfl, rfl, fun _ => rfl⟩
  | requeue => exact ⟨rfl, rfl, id⟩
  | admission => exact ⟨rfl, rfl, id⟩

theorem Learns.identity {known : H2DReceipt → Prop} {key : String × Int} {ep ep' : SchedulerEpisode}
    (h : Learns known key ep ep') :
    ep'.identity = ep.identity ∧ ep'.recoveryEpoch = ep.recoveryEpoch ∧
      (ep.admissionStartedEvent.isSome = ep.wakeupProfileRecordId.isSome →
        ep'.admissionStartedEvent.isSome = ep'.wakeupProfileRecordId.isSome) := by
  cases h with
  | context => exact ⟨rfl, rfl, id⟩
  | receipt => exact ⟨rfl, rfl, id⟩

section Tables
variable {begins : Scheduler → String × Int → Prop} {known : H2DReceipt → Prop} {s s' : Scheduler}

theorem Scheduler.Tabled.of_frame (h : s.Tabled) (hframe : Frame s s')
    (hattempted : Attempted s'.bridge.hooks) (hunique : s'.episodes.Unique)
    (hitems : ∀ item ∈ s'.episodes, item ∈ s.episodes ∨
      item.2.recoveryEpoch = item.1.2 ∧
        item.2.identity = runIdentity s.sha256 s.runId item.1.1 ∧
        item.2.admissionStartedEvent.isSome = item.2.wakeupProfileRecordId.isSome) :
    s'.Tabled := by
  refine ⟨hunique, fun item hmem => ?_, fun item hmem => ?_, fun rid identity hget =>
    ?_, hattempted, fun item hmem => ?_⟩
  · rcases hitems item hmem with hold | ⟨hepoch, -, -⟩
    · exact h.epoch item hold
    · exact hepoch
  · rw [hframe.runId, hframe.sha256]
    rcases hitems item hmem with hold | ⟨-, hidentity, -⟩
    · exact h.identity item hold
    · exact hidentity
  · rw [hframe.runId, hframe.sha256]
    rcases hframe.identities rid identity hget with hold | hnew
    · exact h.identities rid identity hold
    · exact hnew
  · rcases hitems item hmem with hold | ⟨-, -, hstarted⟩
    · exact h.started item hold
    · exact hstarted

theorem Move.tabled (h : Move begins known s s') (hs : s.Tabled) : s'.Tabled := by
  have hattempted := h.attempted hs.attempted
  have hset : ∀ {key : String × Int} {ep ep' : SchedulerEpisode}, (key, ep) ∈ s.episodes →
      (ep'.identity = ep.identity ∧ ep'.recoveryEpoch = ep.recoveryEpoch ∧
        (ep.admissionStartedEvent.isSome = ep.wakeupProfileRecordId.isSome →
          ep'.admissionStartedEvent.isSome = ep'.wakeupProfileRecordId.isSome)) →
      Frame s s' → s'.episodes = s.episodes.set key ep' → s'.Tabled := by
    intro key ep ep' hmem hsame hframe hepisodes
    refine hs.of_frame hframe hattempted (hepisodes ▸ hs.unique.set key ep') fun item hitem => ?_
    rw [hepisodes, Mapping.mem_set hs.unique] at hitem
    rcases hitem with rfl | ⟨hold, -⟩
    · exact .inr ⟨hsame.2.1.trans (hs.epoch _ hmem), hsame.1.trans (hs.identity _ hmem),
        hsame.2.2 (hs.started _ hmem)⟩
    · exact .inl hold
  cases h with
  | quiet frame _ _ episodes =>
    exact hs.of_frame frame hattempted (episodes ▸ hs.unique) fun item hitem =>
      .inl (episodes ▸ hitem)
  | chunk frame _ _ _ _ _ _ episodes =>
    exact hs.of_frame frame hattempted (episodes ▸ hs.unique) fun item hitem =>
      .inl (episodes ▸ hitem)
  | arrive frame _ key ep _ fresh episodes =>
    refine hs.of_frame frame hattempted (episodes ▸ hs.unique.set key ep) fun item hitem => ?_
    rw [episodes, Mapping.mem_set hs.unique] at hitem
    rcases hitem with rfl | ⟨hold, -⟩
    · exact .inr ⟨fresh.epoch, fresh.identity, by rw [fresh.started, fresh.wakeup]; rfl⟩
    · exact .inl hold
  | leave leaves forgotten =>
    subst forgotten
    exact hs.of_frame ⟨rfl, rfl, id, fun _ => rfl, fun _ _ h => .inl h⟩ hattempted
      (hs.unique.filter _) fun item hitem => .inl (List.mem_of_mem_filter hitem)
  | learn frame _ key ep ep' mem learns episodes => exact hset mem learns.identity frame episodes
  | write frame key ep ep' mem _ _ _ writes _ _ _ episodes =>
    exact hset mem writes.identity frame episodes

theorem Moves.tabled (h : Moves begins known s s') (hs : s.Tabled) : s'.Tabled := by
  induction h with
  | refl => exact hs
  | tail _ hlast ih => exact hlast.tabled ih

end Tables

section Callbacks
variable {begins : Scheduler → String × Int → Prop} {known : H2DReceipt → Prop} {s : Scheduler}

theorem Moves.drop : Moves begins known s s.drop := .single .drop

theorem moves_requestStarted (s : Scheduler) (rid : String) (clock : Option Int) :
    Moves begins known s (s.requestStarted rid clock) := by
  unfold Scheduler.requestStarted
  split
  · exact .refl
  · split
    · exact Moves.drop
    · have hbridge : Move begins known s { s with bridge := _ } :=
        Move.bridge (Calm.registerRuntimeRequest s.bridge rid ‹Int›)
      dsimp only
      split
      · exact .single hbridge
      · exact (Relation.ReflTransGen.single hbridge).tail .drop

theorem moves_requestScheduled (s : Scheduler) (rid kind : String) (scheduled total cached : Int)
    (clock : Option Int) :
    Moves begins known s (s.requestScheduled rid kind scheduled total cached clock) := by
  unfold Scheduler.requestScheduled
  split
  · exact .refl
  · split
    · exact Moves.drop
    · have hbridge : Move begins known s { s with bridge := _ } :=
        Move.bridge (Calm.emitRuntimeScheduled s.bridge rid ‹Int› kind scheduled total cached)
      dsimp only
      split
      · exact .single hbridge
      · exact (Relation.ReflTransGen.single hbridge).tail .drop

/-- The table is as it was when the bridge answers. -/
theorem moves_basePreemption (rid : String) (epoch : Int) (clock : Option Int) :
    ∃ b, (s.basePreemption rid epoch clock).1 = { s with bridge := b } ∧
      Calm s.sha256 s.runId s.bridge b := by
  unfold Scheduler.basePreemption
  split
  · exact ⟨_, rfl, Calm.emitRuntimePreempted s.bridge rid epoch _⟩
  · exact ⟨s.bridge, rfl, .refl _⟩

theorem moves_requestPreempted (hs : s.Tabled) (rid : String) (epoch : Int) (clock : Option Int) :
    Moves begins known s (s.requestPreempted rid epoch clock).1 := by
  unfold Scheduler.requestPreempted
  split
  · exact .refl
  · obtain ⟨b, hbridge, hcalm⟩ := moves_basePreemption (s := s) rid epoch clock
    rcases hbase : s.basePreemption rid epoch clock with ⟨s1, event⟩
    rw [hbase] at hbridge
    dsimp only at hbridge
    have hfirst : Move begins known s s1 := by
      rw [hbridge]
      exact Move.bridge hcalm
    have htabled := hfirst.tabled hs
    have hgiven : Moves begins known s (s1.drop.popEpisode rid epoch) :=
      ((Relation.ReflTransGen.single hfirst).tail .drop).tail
        (.pop (lossy_drop htabled.attempted) rid epoch)
    dsimp only
    split
    · next _ _ identity event hidentity =>
      split
      · exact hgiven
      · next hget =>
        have hleave : Move begins known s1 (s1.supersede rid) := by
          refine .leave _ rfl fun item _ hleaves => .inl ?_
          rw [Bool.and_eq_true, Option.isNone_iff_eq_none] at hleaves
          exact hleaves.2
        refine ((Relation.ReflTransGen.single hfirst).tail hleave).tail
          (.arrive ⟨rfl, rfl, id, fun _ => rfl, fun _ _ h => .inl h⟩ ⟨rfl, rfl⟩ (rid, epoch) _
            (fun item hitem => ?_) ⟨?_, rfl, rfl, rfl, rfl, rfl, rfl, rfl, rfl⟩ rfl rfl)
        · rw [Option.not_isSome_iff_eq_none, Mapping.get_eq_none] at hget
          exact hget item (List.mem_of_mem_filter hitem)
        · change identity = runIdentity s1.sha256 s1.runId rid
          rw [hbridge]
          exact hs.identities rid identity hidentity
    · exact hgiven

theorem mem_newestEpisode (hs : s.Tabled) {rid : String} {ep : SchedulerEpisode}
    (h : s.newestEpisode rid = some ep) : ((rid, ep.recoveryEpoch), ep) ∈ s.episodes := by
  have hmem := List.argmax_mem (Option.mem_def.mpr h)
  obtain ⟨item, hitem, rfl⟩ := List.mem_map.mp hmem
  obtain ⟨hitem, hrid⟩ := List.mem_filter.mp hitem
  have hkey : item.1 = (rid, item.2.recoveryEpoch) :=
    Prod.ext (of_decide_eq_true hrid) (hs.epoch item hitem).symm
  rw [← hkey]
  exact hitem

/-- What `beginEpisode` leaves, with the episode it returns. -/
theorem moves_beginEpisode (hs : s.Tabled) {base : RequestLifecycleIdentity} {rid : String}
    {ep : SchedulerEpisode} (hmem : ((rid, ep.recoveryEpoch), ep) ∈ s.episodes)
    (hbase : base = ep.identity)
    (hbegins : ep.context = none → (s.write .recoveryEvent ep.preemptedEvent.timestampNs
      (Scheduler.preemptRow base ep).fields).1.isSome = true → begins s (rid, ep.recoveryEpoch)) :
    Moves begins known s (s.beginEpisode base rid ep).1 ∧
      ∀ ep', (s.beginEpisode base rid ep).2 = some ep' →
        ((rid, ep'.recoveryEpoch), ep') ∈ (s.beginEpisode base rid ep).1.episodes ∧
        ep'.preemptProfileRecordId.isSome = true ∧ ep'.context = none := by
  subst hbase
  unfold Scheduler.beginEpisode
  split
  · exact ⟨Moves.drop, by simp⟩
  · next hcontext =>
    rw [Option.not_isSome_iff_eq_none] at hcontext
    split
    · next s1 hwrite =>
      obtain ⟨hlost, hlossy, -⟩ : Move begins known s s1 ∧ _ := Move.lost hwrite hs.attempted
      exact ⟨(Relation.ReflTransGen.single hlost).tail (.pop hlossy _ _), by simp⟩
    · next recordId s1 hwrite =>
      have hfirst : begins s (rid, ep.recoveryEpoch) := hbegins hcontext (by rw [hwrite]; rfl)
      obtain ⟨ref, rfl, -, -, -, -, hs1⟩ := accepted_of_write hwrite
      refine ⟨.single (Move.event hmem hwrite (.preempt hfirst hcontext)), ?_⟩
      rintro ep' ⟨⟩
      refine ⟨?_, rfl, hcontext⟩
      rw [hs1]
      exact (Mapping.mem_set hs.unique).mpr (.inl rfl)

theorem moves_writeChunks {s' : Scheduler} {now : Int} {chunks : List BlockSetChunk} {done : Bool}
    (h : s.writeChunks now chunks = (s', done)) (hs : Attempted s.bridge.hooks) :
    Moves begins known s s' ∧ s'.episodes = s.episodes := by
  induction chunks generalizing s with
  | nil =>
    cases h
    exact ⟨.refl, rfl⟩
  | cons chunk rest ih =>
    rw [Scheduler.writeChunks] at h
    split at h
    · next s1 hwrite =>
      cases h
      refine ⟨.single (Move.lost hwrite hs).1, ?_⟩
      unfold Scheduler.write at hwrite
      rw [Prod.mk.injEq] at hwrite
      rw [← hwrite.2]
      rfl
    · next recordId s1 hwrite =>
      have hmove : Move begins known s s1 := Move.block hwrite
      obtain ⟨_, -, -, -, -, -, hs1⟩ := accepted_of_write hwrite
      obtain ⟨hrest, hsame⟩ := ih h (hmove.attempted hs)
      refine ⟨.head hmove hrest, hsame.trans ?_⟩
      rw [hs1]
      rfl

theorem moves_associate (hs : s.Tabled) {base : RequestLifecycleIdentity} {rid operation : String}
    (hbase : base = runIdentity s.sha256 s.runId rid)
    (hbegins : ∀ ep, operation = "h2d_restore" → s.newestEpisode rid = some ep → ep.context = none →
      (s.write .recoveryEvent ep.preemptedEvent.timestampNs
        (Scheduler.preemptRow base ep).fields).1.isSome = true → begins s (rid, ep.recoveryEpoch)) :
    Moves begins known s (s.associate base rid operation).1 ∧
      ∀ ep', (s.associate base rid operation).2 = some (some ep') →
        ((rid, ep'.recoveryEpoch), ep') ∈ (s.associate base rid operation).1.episodes ∧
        ep'.preemptProfileRecordId.isSome = true ∧ ep'.context = none := by
  unfold Scheduler.associate
  split
  · next hoperation =>
    split
    · exact ⟨.refl, by simp⟩
    · next ep hnewest =>
      have hmem := mem_newestEpisode hs hnewest
      have h : Moves begins known s _ ∧ _ :=
        moves_beginEpisode hs hmem (hbase.trans (hs.identity _ hmem).symm)
        (hbegins ep hoperation hnewest)
      split
      · next s1 hbegin =>
        rw [hbegin] at h
        exact ⟨h.1, by simp⟩
      · next s1 ep' hbegin =>
        rw [hbegin] at h
        refine ⟨h.1, ?_⟩
        rintro ep'' ⟨⟩
        exact h.2 ep' rfl
  · split
    · exact ⟨.refl, by simp⟩
    · exact ⟨Moves.drop, by simp⟩

theorem moves_prepareTransferContext (hs : s.Tabled) (rid operation : String)
    (coordinates : List (Int × Int)) (blockSetId : Option String) (clock : Option Int)
    (hbegins : ∀ key, s.begun
      (.prepareTransferContext rid operation coordinates blockSetId clock) = some key →
        begins s key) :
    Moves begins known s
      (s.prepareTransferContext rid operation coordinates blockSetId clock).1 := by
  unfold Scheduler.prepareTransferContext
  split
  · exact .refl
  · next hactive =>
    rw [Bool.or_eq_true, not_or, Bool.not_eq_true, List.isEmpty_iff] at hactive
    split
    · exact Moves.drop
    · next base hbase =>
      have hassociate : Moves begins known s (s.associate base rid operation).1 ∧ _ :=
        moves_associate hs (hs.identities rid base hbase)
          fun ep hoperation hnewest hcontext hsome => hbegins _ <| by
            rw [Scheduler.begun, hbase, hnewest]
            simp [hactive, hoperation, hcontext, hsome]
      split
      · next s1 heq =>
        rw [heq] at hassociate
        exact hassociate.1
      · next s1 episode heq =>
        rw [heq] at hassociate
        obtain ⟨hmoves, hepisode⟩ := hassociate
        have htabled := hmoves.tabled hs
        split
        · next now =>
          dsimp only
          split
          · next s2 hwrite => exact hmoves.trans (moves_writeChunks hwrite htabled.attempted).1
          · next s2 hwrite =>
            have h : Moves begins known s1 s2 ∧ _ := moves_writeChunks hwrite htabled.attempted
            split
            · next ep =>
              obtain ⟨hmem, hbegun, hcontext⟩ := hepisode ep rfl
              exact (hmoves.trans h.1).tail
                (.learn ⟨rfl, rfl, id, fun _ => rfl, fun _ _ h => .inl h⟩ ⟨rfl, rfl⟩
                  (rid, ep.recoveryEpoch) ep _ (h.2 ▸ hmem)
                    (.context _ hbegun hcontext rfl rfl) rfl rfl)
            · exact hmoves.trans h.1
        · exact hmoves.tail .drop

theorem moves_consumeReceipt (receipt : H2DReceipt) (hknown : known receipt) :
    Moves begins known s (s.consumeReceipt receipt) := by
  unfold Scheduler.consumeReceipt
  split
  · exact .refl
  · next epoch hepoch =>
    split
    · exact Moves.drop
    · next ep hget =>
      split
      · next hawaits =>
        exact .single (.learn ⟨rfl, rfl, id, fun _ => rfl, fun _ _ h => .inl h⟩ ⟨rfl, rfl⟩ _ ep _
          (Mapping.mem_of_get hget)
          (.receipt receipt hawaits hknown (by rw [TransferIdentity.key?, hepoch]; rfl)) rfl rfl)
      · exact Moves.drop

theorem moves_consumeReceipts (hs : s.Tabled) (receipts : List H2DReceipt)
    (hknown : ∀ receipt ∈ receipts, known receipt) :
    Moves begins known s (receipts.foldl Scheduler.consumeReceipt s) := by
  induction receipts generalizing s with
  | nil => exact .refl
  | cons receipt rest ih =>
    have hmoves : Moves begins known s (s.consumeReceipt receipt) :=
      moves_consumeReceipt receipt (hknown receipt List.mem_cons_self)
    exact hmoves.trans (ih (hmoves.tabled hs) fun r hr => hknown r (List.mem_cons_of_mem _ hr))

theorem moves_consumeH2dReceipts (hs : s.Tabled) (receipts : List H2DReceipt) (exhausted : Bool)
    (hknown : ∀ receipt ∈ receipts, known receipt) :
    Moves begins known s (s.consumeH2dReceipts receipts exhausted) := by
  unfold Scheduler.consumeH2dReceipts
  split
  · exact .refl
  · split
    · have hdrop : Move begins known s s.drop := .drop
      exact .head hdrop (moves_consumeReceipts (hdrop.tabled hs) receipts hknown)
    · exact moves_consumeReceipts hs receipts hknown

theorem moves_baseAdmission (rid : String) (epoch now : Int) :
    ∃ b, (s.baseAdmission rid epoch now).1 = { s with bridge := b } ∧
      Calm s.sha256 s.runId s.bridge b := by
  unfold Scheduler.baseAdmission
  split
  · exact ⟨s.bridge, rfl, .refl _⟩
  · exact ⟨_, rfl, Calm.emitAdmissionStarted s.bridge rid epoch _⟩

theorem moves_requestAdmissionStarted (hs : s.Tabled) (rid : String) (epoch : Int)
    (clock : Option Int) : Moves begins known s (s.requestAdmissionStarted rid epoch clock) := by
  unfold Scheduler.requestAdmissionStarted
  split
  · next ep now hget =>
    split
    · exact .refl
    · next receipt hreceipt =>
      split
      · exact .refl
      · next hwaiting =>
        simp only [Bool.or_eq_true, not_or, Option.not_isSome_iff_eq_none] at hwaiting
        obtain ⟨b, hbridge, hcalm⟩ := moves_baseAdmission (s := s) rid epoch now
        split
        · next s1 hbase =>
          rw [hbase] at hbridge
          dsimp only at hbridge
          subst hbridge
          exact (Relation.ReflTransGen.single (Move.bridge hcalm)).tail .drop
        · next s1 event hbase =>
          rw [hbase] at hbridge
          dsimp only at hbridge
          subst hbridge
          have hfirst : Moves begins known s { s with bridge := b } := .single (Move.bridge hcalm)
          split
          · exact hfirst.tail .drop
          · split
            · next s2 hwrite => exact hfirst.tail (Move.lost hwrite (hfirst.tabled hs).attempted).1
            · next recordId s2 hwrite =>
              exact hfirst.tail (Move.event (Mapping.mem_of_get hget) hwrite
                (.wakeup hreceipt hwaiting.2))
  · exact .refl

theorem moves_requestRequeued (hs : s.Tabled) (rid : String) (epoch : Int) (reason : String)
    (clock : Option Int) : Moves begins known s (s.requestRequeued rid epoch reason clock) := by
  unfold Scheduler.requestRequeued
  split
  · exact .refl
  · next ep hget =>
    split
    · next receipt predecessor hreceipt hlast =>
      split
      · exact .refl
      · next hwaiting =>
        simp only [Bool.or_eq_true, not_or, Option.not_isSome_iff_eq_none,
          Option.isNone_iff_eq_none, ← Option.isSome_iff_ne_none] at hwaiting
        split
        · exact Moves.drop
        · split
          · next s1 hwrite => exact .single (Move.lost hwrite hs.attempted).1
          · next recordId s1 hwrite =>
            exact .single (Move.event (Mapping.mem_of_get hget) hwrite
              (.requeue hreceipt hwaiting.1.1.2 hlast hwaiting.1.2))
    · exact .refl

theorem moves_baseResumption (rid : String) (epoch total cached : Int) (clock : Option Int) :
    ∃ b, (s.baseResumption rid epoch total cached clock).1 = { s with bridge := b } ∧
      Calm s.sha256 s.runId s.bridge b := by
  unfold Scheduler.baseResumption
  split
  · exact ⟨s.bridge, rfl, .refl _⟩
  · exact ⟨s.bridge, rfl, .refl _⟩
  · exact ⟨_, rfl, Calm.emitRuntimeResumed s.bridge rid epoch _ total cached⟩

theorem moves_computeContext (rid : String) (epoch : Int) (kind : String) (receipt : H2DReceipt)
    (resumed : BaseEventRef) (profileId : String) (clock : Option Int) (constructed : Bool) :
    ∃ b, (s.computeContext rid epoch kind receipt resumed profileId clock constructed).1 =
        { s with bridge := b } ∧ Calm s.sha256 s.runId s.bridge b := by
  unfold Scheduler.computeContext
  split
  · exact ⟨s.bridge, rfl, .refl _⟩
  · next now =>
    have hcalm : Calm s.sha256 s.runId s.bridge _ :=
      Calm.emitFirstCompute s.bridge rid epoch (max resumed.timestampNs now) kind
    split
    · next b heq =>
      rw [heq] at hcalm
      exact ⟨b, rfl, hcalm⟩
    · next b event heq =>
      rw [heq] at hcalm
      exact ⟨b, rfl, hcalm⟩

theorem Move.withHooks {hooks : Hooks} (h : SameProfile s.bridge.hooks hooks) :
    Move begins known s (s.withHooks hooks) :=
  .quiet ⟨rfl, rfl, id, fun _ => rfl, fun _ _ h => .inl h⟩ h.rows h.attempted.ge rfl rfl

theorem moves_recordAdmission (hs : s.Tabled) {rid : String} {epoch : Int} {ep : SchedulerEpisode}
    {receipt : H2DReceipt} {started resumed : BaseEventRef} {predecessor : String}
    (hmem : ((rid, epoch), ep) ∈ s.episodes) (hreceipt : ep.receipt = some receipt)
    (hawake : ep.wakeupProfileRecordId.isSome = true)
    (hlast : ep.predecessorProfileRecordId = some predecessor)
    (hstarted : ep.admissionStartedEvent = some started)
    (hwaiting : ep.admissionProfileRecordId = none) (kind : String) (clock : Option Int)
    (constructed : Bool) :
    Moves begins known s
      (s.recordAdmission rid epoch kind ep receipt started resumed predecessor clock
        constructed).1 := by
  unfold Scheduler.recordAdmission
  split
  · next hooks hedge =>
    have hquiet := Calm.of_emit Emit.Quiet.emitEdge hedge
    exact (Relation.ReflTransGen.single (Move.withHooks hquiet)).tail .drop
  · next hooks hedge =>
    have hquiet := Calm.of_emit Emit.Quiet.emitEdge hedge
    have hfirst : Moves begins known s (s.withHooks hooks) := .single (Move.withHooks hquiet)
    have htabled := hfirst.tabled hs
    split
    · next s1 hwrite => exact hfirst.tail (Move.lost hwrite htabled.attempted).1
    · next profileId s1 hwrite =>
      have hsecond : Moves begins known s
        (s1.setEpisode { ep with admissionProfileRecordId := some profileId }
          rid epoch) :=
        hfirst.tail (Move.event hmem hwrite (.admission hreceipt hawake hlast hstarted hwaiting))
      dsimp only at hsecond ⊢
      obtain ⟨_, -, -, -, -, -, hs1⟩ := accepted_of_write hwrite
      have hepisodes : (s1.setEpisode { ep with admissionProfileRecordId := some profileId } rid
          epoch).episodes = s.episodes.set (rid, epoch)
            { ep with admissionProfileRecordId := some profileId } := by
        rw [hs1]
        rfl
      generalize hadmitted :
        s1.setEpisode { ep with admissionProfileRecordId := some profileId } rid epoch = s2
        at hsecond hepisodes ⊢
      obtain ⟨b, hbridge, hcalm⟩ := moves_computeContext (s := s2) rid epoch kind receipt resumed
        profileId clock constructed
      split
      · next s3 heq =>
        rw [heq] at hbridge
        dsimp only at hbridge
        subst hbridge
        exact (hsecond.tail (Move.bridge hcalm)).tail .drop
      · next s3 context heq =>
        rw [heq] at hbridge
        dsimp only at hbridge
        subst hbridge
        refine (hsecond.tail (Move.bridge hcalm)).tail (.leave _ rfl fun item hitem hleaves => ?_)
        rw [decide_eq_true_eq] at hleaves
        have hitem : item ∈ s2.episodes := hitem
        rw [hepisodes, Mapping.mem_set hs.unique] at hitem
        rcases hitem with rfl | ⟨-, hne⟩
        · exact .inr (.inl rfl)
        · exact absurd hleaves hne

theorem moves_requestAdmitted (hs : s.Tabled) (rid : String) (epoch : Int) (kind : String)
    (total cached : Int) (resumeClock computeClock : Option Int) (constructed : Bool) :
    Moves begins known s
      (s.requestAdmitted rid epoch kind total cached resumeClock computeClock constructed).1 := by
  unfold Scheduler.requestAdmitted
  split
  · exact .refl
  · next ep hget =>
    split
    · next receipt started predecessor hreceipt hstarted hlast =>
      split
      · exact .refl
      · next hwaiting =>
        simp only [Bool.or_eq_true, not_or, Option.not_isSome_iff_eq_none,
          Option.isNone_iff_eq_none, ← Option.isSome_iff_ne_none] at hwaiting
        obtain ⟨b, hbridge, hcalm⟩ := moves_baseResumption
          (s := s) rid epoch total cached resumeClock
        split
        · next s1 hbase =>
          rw [hbase] at hbridge
          dsimp only at hbridge
          subst hbridge
          exact (Relation.ReflTransGen.single (Move.bridge hcalm)).tail .drop
        · next s1 resumed hbase =>
          rw [hbase] at hbridge
          dsimp only at hbridge
          subst hbridge
          have hfirst : Moves begins known s { s with bridge := b } := .single (Move.bridge hcalm)
          split
          · exact hfirst.tail .drop
          · exact hfirst.trans
              (moves_recordAdmission (hfirst.tabled hs) (Mapping.mem_of_get hget) hreceipt
              hwaiting.1.1.1.2 hlast hstarted hwaiting.1.1.2 kind computeClock constructed)
    · exact .refl

theorem moves_abandon (hs : Attempted s.bridge.hooks) (given : List SchedulerEpisode) :
    Moves begins known s (given.foldl Scheduler.abandon s) ∧
      (given.foldl Scheduler.abandon s).episodes = s.episodes ∧
      ((∃ ep ∈ given, ep.preemptProfileRecordId.isSome = true) ∨ s.Lossy →
        (given.foldl Scheduler.abandon s).Lossy) := by
  induction given generalizing s with
  | nil => exact ⟨.refl, rfl, by simp⟩
  | cons ep rest ih =>
    rw [List.foldl_cons, Scheduler.abandon]
    split
    · obtain ⟨hmoves, hsame, hlossy⟩ := ih (attempted_drop hs)
      exact ⟨.head .drop hmoves, hsame, fun _ => hlossy (.inr (lossy_drop hs))⟩
    · next hnone =>
      obtain ⟨hmoves, hsame, hlossy⟩ := ih hs
      refine ⟨hmoves, hsame, fun h => hlossy ?_⟩
      rcases h with ⟨ep', hmem, hsome⟩ | h
      · rcases List.mem_cons.mp hmem with rfl | hmem
        · exact absurd hsome hnone
        · exact .inl ⟨ep', hmem, hsome⟩
      · exact .inr h

/-- Give up the episodes that match. -/
theorem moves_giveUp (hs : s.Tabled) (leaves : (String × Int) × SchedulerEpisode → Bool) :
    Moves begins known s
      ((((s.episodes.filter leaves).map (·.2)).foldl Scheduler.abandon s).forget leaves) := by
  obtain ⟨hmoves, hsame, hlossy⟩ : Moves begins known s _ ∧ _ ∧ _ :=
    moves_abandon hs.attempted ((s.episodes.filter leaves).map (·.2))
  refine hmoves.tail (.leave leaves rfl fun item hitem hleaves => ?_)
  rw [hsame] at hitem
  cases hpreempt : item.2.preemptProfileRecordId with
  | none => exact .inl rfl
  | some recordId =>
    refine .inr (.inr (hlossy (.inl ⟨item.2, List.mem_map_of_mem (List.mem_filter.mpr
      ⟨hitem, hleaves⟩), ?_⟩)))
    rw [hpreempt]
    rfl

theorem moves_requestTerminal (hs : s.Tabled) (rid cause : String) (generated : Int)
    (clock : Option Int) : Moves begins known s (s.requestTerminal rid cause generated clock) := by
  unfold Scheduler.requestTerminal
  dsimp only
  have hgiven : Moves begins known s _ := moves_giveUp hs fun item => decide (item.1.1 = rid)
  generalize (List.foldl Scheduler.abandon s _).forget _ = s1 at hgiven ⊢
  split
  · exact hgiven.tail .drop
  · next now =>
    have hcalm : Calm s1.sha256 s1.runId s1.bridge _ :=
      Calm.emitRuntimeTerminal s1.bridge rid cause now generated
    split
    · next b heq =>
      rw [heq] at hcalm
      exact (hgiven.tail (Move.bridge hcalm)).tail .drop
    · next b event heq =>
      rw [heq] at hcalm
      exact hgiven.tail (Move.bridge hcalm)

theorem moves_reset (hs : s.Tabled) : Moves begins known s s.reset := by
  have hgiven : Moves begins known s _ := moves_giveUp hs fun _ => true
  rwa [List.filter_true] at hgiven

theorem Move.sinkCloses : Move begins known s s.sinkCloses :=
  .quiet ⟨rfl, rfl, nofun, nofun, fun _ _ h => .inl h⟩ rfl (le_refl _) rfl rfl

theorem moves_close (hs : s.Tabled) : Moves begins known s s.close := by
  unfold Scheduler.close
  split
  · exact .refl
  · refine (moves_reset hs).tail ?_
    exact .quiet ⟨rfl, rfl, nofun, nofun, fun _ _ h => .inl h⟩ rfl (le_refl _) rfl rfl

/-- **Every callback is a sequence of moves**, of which only the call that
prepares a restore context begins an episode. -/
theorem moves_callback (hs : s.Tabled) (c : SchedulerCallback)
    (hbegins : ∀ key, s.begun c = some key → begins s key)
    (hknown : ∀ receipt ∈ c.received, known receipt) : Moves begins known s (s.callback c) := by
  cases c with
  | requestStarted rid clock => exact moves_requestStarted s rid clock
  | requestScheduled rid kind scheduled total cached clock =>
    exact moves_requestScheduled s rid kind scheduled total cached clock
  | requestPreempted rid epoch clock => exact moves_requestPreempted hs rid epoch clock
  | prepareTransferContext rid operation coordinates blockSetId clock =>
    exact moves_prepareTransferContext hs rid operation coordinates blockSetId clock hbegins
  | consumeH2dReceipts receipts exhausted =>
    exact moves_consumeH2dReceipts hs receipts exhausted hknown
  | requestAdmissionStarted rid epoch clock =>
    exact moves_requestAdmissionStarted hs rid epoch clock
  | requestRequeued rid epoch reason clock => exact moves_requestRequeued hs rid epoch reason clock
  | requestAdmitted rid epoch kind total cached resumeClock computeClock constructed =>
    exact moves_requestAdmitted hs rid epoch kind total cached resumeClock computeClock constructed
  | requestTerminal rid cause generated clock =>
    exact moves_requestTerminal hs rid cause generated clock
  | reset => exact moves_reset hs
  | close => exact moves_close hs
  | sinkCloses => exact .single .sinkCloses

end Callbacks

end LifecycleProfiler.Runtime
