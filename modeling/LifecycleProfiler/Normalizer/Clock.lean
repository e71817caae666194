import LifecycleProfiler.Normalizer.Transfer
import LifecycleProfiler.Normalizer.Roster

/-! # The clock behind an episode

Base events and profile rows are joined by identifiers, and each of the two
streams is ordered by its own timestamps. What an acceptance compares is read
off the rows it has chosen, and what is missing between the two streams is a
condition on the rows its filters let through. -/

namespace LifecycleProfiler.Normalizer
open Python Protocol

/-! ## The rows an acceptance has chosen -/

section Chosen
variable {rows milestones : List Dict} {reasons : List String} {chain : Chain}

/-- An event identifier names one event row. -/
theorem event_unique (h : eventIndex rows = .ok (ofType "event" rows)) {a b : Dict}
    (ha : a ∈ ofType "event" rows) (hb : b ∈ ofType "event" rows) {eventId : String}
    (hida : a.has "event_id" eventId = true) (hidb : b.has "event_id" eventId = true) : a = b := by
  obtain ⟨hsome, hnodup⟩ := dedup_filterMap_length.mp (eventIndex_eq_ok.mp h).1
  have hmap : ((ofType "event" rows).filterMap fun row => asStr (row.get "event_id")).map some =
      (ofType "event" rows).map fun row => asStr (row.get "event_id") := by
    rw [List.map_filterMap]
    exact List.filterMap_eq_map_iff_forall_eq_some.mpr fun row hrow => by
      obtain ⟨s, hs⟩ := Option.isSome_iff_exists.mp (hsome row hrow)
      rw [hs]
      rfl
  refine List.inj_on_of_nodup_map (f := fun row : Dict => asStr (row.get "event_id")) ?_ ha hb ?_
  · rw [← hmap]
    exact hnodup.map (Option.some_injective _)
  · rw [Dict.has_iff.mp hida, Dict.has_iff.mp hidb]

theorem requireStage_eq_ok {stage : String} {row : Dict} :
    requireStage stage milestones = .ok row ↔ atStage stage milestones = [row] := by
  unfold requireStage
  split
  · next found hfound => rw [hfound, Except.ok.injEq, List.cons.injEq, eq_self, and_true]
  · next hne => exact ⟨nofun, fun h => absurd h (hne row)⟩

/-- The milestones of a chain, stage by stage. -/
structure StagedBy (milestones : List Dict) (reasons : List String) (chain : Chain) : Prop where
  preempt : atStage "preempt" milestones = [chain.preempt]
  restoreStart : atStage "restore_start" milestones = [chain.restoreStart]
  restoreDone : atStage "restore_done" milestones = [chain.restoreDone]
  wakeup : atStage "scheduler_wakeup" milestones = [chain.wakeup]
  admission : atStage "admission" milestones = [chain.admission]
  firstCompute : atStage "first_prefill_or_decode" milestones = [chain.firstCompute]
  known : ∀ row ∈ milestones, ∃ stage ∈ "requeue" :: uniqueStages, row.has "stage" stage = true
  requeues : sortedRequeues milestones reasons = .ok chain.requeues

theorem episodeChain_eq_ok :
    episodeChain milestones reasons = .ok chain ↔ StagedBy milestones reasons chain := by
  have hknown : (milestones.any fun row => !isOneOf (row.get "stage") ("requeue" :: uniqueStages)) =
      false ↔ ∀ row ∈ milestones, ∃ stage ∈ "requeue" :: uniqueStages,
        row.has "stage" stage = true := by
    rw [List.any_eq_false]
    refine forall₂_congr fun row _ => ?_
    rw [Bool.not_eq_true, Bool.not_eq_false', isOneOf, List.any_eq_true]
    rfl
  constructor
  · intro h
    simp only [episodeChain, bind_eq_ok, exists_unit, pure_eq_ok, raiseIf_eq_ok, requireStage_eq_ok,
      hknown] at h
    obtain ⟨-, preempt, hp, start, hs, done, hd, wakeup, hw, admission, ha, first, hf, hall,
      requeues, hr, rfl⟩ := h
    exact ⟨hp, hs, hd, hw, ha, hf, hall, hr⟩
  · intro h
    simp only [episodeChain, bind_eq_ok, exists_unit, pure_eq_ok, raiseIf_eq_ok, requireStage_eq_ok,
      hknown, forEach_eq_ok]
    refine ⟨fun row hrow => ?_, _, h.preempt, _, h.restoreStart, _, h.restoreDone, _, h.wakeup, _,
      h.admission, _, h.firstCompute, h.known, _, h.requeues, rfl⟩
    obtain ⟨stage, -, hstage⟩ := h.known row hrow
    rw [Dict.has_iff.mp hstage]
    rfl

theorem sortedRequeues_perm {requeues : List Dict}
    (h : sortedRequeues milestones reasons = .ok requeues) :
    requeues.Perm (atStage "requeue" milestones) := by
  simp only [sortedRequeues, bind_eq_ok, exists_unit, pure_eq_ok] at h
  obtain ⟨sorted, hsorted, -, -, rfl⟩ := h
  exact sortedByKey_perm hsorted

/-- The chain of an episode is made of all its milestones. -/
theorem StagedBy.mem_rows (h : StagedBy milestones reasons chain) {row : Dict} :
    row ∈ chain.rows ↔ row ∈ milestones := by
  have hrequeues : row ∈ chain.requeues ↔ row ∈ atStage "requeue" milestones :=
    (sortedRequeues_perm h.requeues).mem_iff
  have hrows : row ∈ chain.rows ↔ ∃ stage ∈ "requeue" :: uniqueStages,
      row ∈ atStage stage milestones := by
    simp only [uniqueStages, List.mem_cons, List.not_mem_nil, or_false, or_and_right, exists_or,
      exists_eq_left, ← hrequeues, h.preempt, h.restoreStart, h.restoreDone, h.wakeup, h.admission,
      h.firstCompute, Chain.rows, List.mem_append]
    tauto
  rw [hrows]
  constructor
  · rintro ⟨stage, -, hrow⟩
    exact List.mem_of_mem_filter hrow
  · intro hrow
    obtain ⟨stage, hmem, hstage⟩ := h.known row hrow
    exact ⟨stage, hmem, List.mem_filter.mpr ⟨hrow, hstage⟩⟩

/-- The named end of the expected transfer is one event. -/
theorem communicationPair_unique {expected : ExpectedH2DRecovery} {start done row : Dict}
    (h : communicationPair expected (ofType "event" rows) = .ok (start, done)) (hrow : row ∈ rows) :
    (isTransferEvent expected "communication_started" row = true → row = start) ∧
      (isTransferEvent expected "communication_done" row = true → row = done) := by
  have hone : ∀ name found, ((ofType "event" rows).filter
      (namesTransfer expected.transferId)).filter (·.has "event_name" name) = [found] →
      isTransferEvent expected name row = true → row = found := by
    intro name found hfilter hp
    simp only [isTransferEvent, Bool.and_eq_true] at hp
    refine List.mem_singleton.mp
      (hfilter ▸ List.mem_filter.mpr ⟨List.mem_filter.mpr ⟨?_, hp.1.2⟩, hp.2⟩)
    exact List.mem_filter.mpr ⟨hrow, hp.1.1⟩
  unfold communicationPair at h
  dsimp only at h
  split at h
  · next hs hd =>
    simp only [bind_eq_ok, exists_unit, pure_eq_ok, Prod.mk.injEq] at h
    obtain ⟨-, -, rfl, rfl⟩ := h
    exact ⟨hone _ _ hs, hone _ _ hd⟩
  · cases h

end Chosen

/-! ## One clock domain -/

section Accepted
variable {sha256 : Bytes → String} {baseRows profileRows : List Dict}
  {expected : ExpectedKVRecoveryEpisode} {complete : Bool} {h2d : NormalizedH2DRecovery}
  {bridge : BridgeRows} {data : List Dict} {chain : Chain} {submit done : Dict}

theorem isProfileData_of_milestone {row : Dict} (h : isMilestone expected row = true) :
    isProfileData row = .ok true :=
  inSet_eq_true.mpr ⟨"recovery_event", by simp [profileCategories],
    Dict.has_iff.mp (Bool.and_eq_true_iff.mp h).1⟩

theorem EpisodeAccepted.mem_data
    (h : EpisodeAccepted sha256 baseRows profileRows expected h2d data chain submit done)
    {row : Dict} : row ∈ data ↔ row ∈ profileRows ∧ isProfileData row = .ok true := by
  rw [h.data_eq, List.mem_filter, beq_iff_eq]

/-- The chain of an accepted episode is made of its milestones. -/
theorem EpisodeAccepted.mem_chain
    (h : EpisodeAccepted sha256 baseRows profileRows expected h2d data chain submit done)
    {row : Dict} : row ∈ chain.rows ↔ row ∈ profileRows ∧ isMilestone expected row = true := by
  rw [(episodeChain_eq_ok.mp h.milestones).mem_rows, List.mem_filter, h.mem_data]
  exact ⟨fun hrow => ⟨hrow.1.1, hrow.2⟩,
    fun hrow => ⟨⟨hrow.1, isProfileData_of_milestone hrow.2⟩, hrow.2⟩⟩

/-- How one end of a transfer is named in the three kinds of rows. -/
structure RestoreEnd where
  stage : String
  eventName : String
  transferPhase : String

def startEnd : RestoreEnd := ⟨"restore_start", "communication_started", "submit"⟩
def doneEnd : RestoreEnd := ⟨"restore_done", "communication_done", "done"⟩
def restoreEnds : List RestoreEnd := [startEnd, doneEnd]

/-- The restore milestones carry the times of the events they reference, and
the reported duration is that from the submission to the completion. -/
structure RestoreAgrees (baseRows profileRows : List Dict) (expected : ExpectedKVRecoveryEpisode)
    (durationNs : Nat) : Prop where
  milestones : ∀ ends ∈ restoreEnds, ∀ row ∈ profileRows, isMilestone expected row = true →
    row.has "stage" ends.stage = true → ∃ event ∈ baseRows, event.has "record_type" "event" = true ∧
      event.has "event_name" ends.eventName = true ∧
      event.get "event_id" = row.get "base_event_id" ∧
      event.get "timestamp_ns" = row.get "timestamp_ns"
  duration : ∃ submit done, profileRows.filter (isTransferRow expected.h2d) = [submit, done] ∧
    ∃ submitNs doneNs : Nat, submit.hasNum "timestamp_ns" submitNs = true ∧
      done.hasNum "timestamp_ns" doneNs = true ∧ submitNs + durationNs = doneNs

theorem walkChain_timestamps {previousId : Value} {previousNs : Nat} {rows : List Dict}
    (h : walkChain previousId previousNs rows = .ok ()) :
    ∀ row ∈ rows, ∃ timestampNs : Nat, row.get "timestamp_ns" = .int timestampNs := by
  induction rows generalizing previousId previousNs with
  | nil => exact nofun
  | cons row rest ih =>
    simp only [walkChain, bind_eq_ok, exists_unit] at h
    obtain ⟨-, h⟩ := h
    split at h
    · next timestampNs hns =>
      simp only [bind_eq_ok, exists_unit] at h
      intro other hother
      rcases List.mem_cons.mp hother with rfl | hother
      · exact ⟨timestampNs, (asUint_eq_some.mp hns).1⟩
      · exact ih h.2 other hother
    · cases h

theorem measureCommunication_times {preempted admission start done : Dict} {durationNs bytes : Nat}
    (h : measureCommunication preempted admission start done = .ok (durationNs, bytes)) :
    ∃ startNs doneNs : Nat, start.get "timestamp_ns" = .int startNs ∧
      done.get "timestamp_ns" = .int doneNs ∧ startNs + durationNs = doneNs := by
  simp only [measureCommunication, bind_eq_ok, exists_unit] at h
  obtain ⟨-, h⟩ := h
  split at h
  · next startNs doneNs hs hd =>
    simp only [bind_eq_ok, exists_unit, raiseIf_eq_ok, decide_eq_false_iff_not] at h
    obtain ⟨hlt, h⟩ := h
    split at h
    · simp only [bind_eq_ok, exists_unit] at h
      obtain ⟨-, h⟩ := h
      split at h
      · simp only [bind_eq_ok, exists_unit, pure_eq_ok, Prod.mk.injEq] at h
        obtain ⟨-, hduration, -⟩ := h
        exact ⟨startNs, doneNs, (asUint_eq_some.mp hs).1, (asUint_eq_some.mp hd).1, by omega⟩
      · cases h
    · cases h
  · cases h

/-- The times of an accepted episode: of the two events, and of the two
milestones with the transfer rows. -/
structure RestoreTimes (bridge : BridgeRows) (chain : Chain) (submit done : Dict)
    (durationNs eventStart eventDone profileStart profileDone : Nat) : Prop where
  started : bridge.start.get "timestamp_ns" = .int eventStart
  ended : bridge.done.get "timestamp_ns" = .int eventDone
  duration : eventStart + durationNs = eventDone
  restoreStart : chain.restoreStart.get "timestamp_ns" = .int profileStart
  restoreDone : chain.restoreDone.get "timestamp_ns" = .int profileDone
  submitted : submit.hasNum "timestamp_ns" profileStart = true
  completed : done.hasNum "timestamp_ns" profileDone = true

theorem EpisodeAccepted.times (hbridge : H2dAccepted baseRows expected.h2d bridge h2d)
    (h : EpisodeAccepted sha256 baseRows profileRows expected h2d data chain submit done) :
    ∃ eventStart eventDone profileStart profileDone,
      RestoreTimes bridge chain submit done h2d.durationNs eventStart eventDone profileStart
        profileDone := by
  obtain ⟨eventStart, eventDone, hes, hed, hduration⟩ := measureCommunication_times hbridge.measure
  have hwalk := walkChain_timestamps h.walk
  obtain ⟨profileStart, hps⟩ := hwalk chain.restoreStart (by simp [Chain.rows])
  obtain ⟨profileDone, hpd⟩ := hwalk chain.restoreDone (by simp [Chain.rows])
  have hevidence := h.evidence
  simp only [checkTransferEvidence, bind_eq_ok, exists_unit, raiseIf_eq_ok, Bool.not_eq_false',
    Bool.and_eq_true, hps, hpd] at hevidence
  exact ⟨eventStart, eventDone, profileStart, profileDone, hes, hed, hduration, hps, hpd,
    hevidence.1.1.1, hevidence.1.1.2⟩

/-- The restore milestones reference the two ends of the bridge. -/
theorem EpisodeAccepted.associated
    (h : EpisodeAccepted sha256 baseRows profileRows expected h2d data chain submit done) :
    chain.restoreStart.get "base_event_id" = .str h2d.startEventId ∧
      chain.restoreDone.get "base_event_id" = .str h2d.doneEventId := by
  have hassoc := h.associations
  simp only [checkAssociations, bind_eq_ok, exists_unit, raiseIf_eq_ok, Bool.not_eq_false',
    Dict.has_iff] at hassoc
  exact ⟨hassoc.2.1, hassoc.2.2.1⟩

/-- A milestone of a unique stage is the one of the chain. -/
theorem EpisodeAccepted.eq_of_stage
    (h : EpisodeAccepted sha256 baseRows profileRows expected h2d data chain submit done)
    {stage : String} {found row : Dict}
    (hstage : atStage stage (data.filter (isMilestone expected)) = [found])
    (hrow : row ∈ profileRows) (hmile : isMilestone expected row = true)
    (hat : row.has "stage" stage = true) : row = found := by
  refine List.mem_singleton.mp (hstage ▸ List.mem_filter.mpr ⟨List.mem_filter.mpr ⟨?_, hmile⟩, hat⟩)
  exact h.mem_data.mpr ⟨hrow, isProfileData_of_milestone hmile⟩

theorem hasNum_unique {row : Dict} {key : String} {m n : Nat} (hm : row.hasNum key m = true)
    (hn : row.hasNum key n = true) : m = n := by
  rw [Dict.hasNum_iff] at hm hn
  have heq := Option.some.inj (hm.symm.trans hn)
  exact_mod_cast heq

/-- A profile time and the time of the event the row references. -/
theorem event_time_of_reference (hbridge : H2dAccepted baseRows expected.h2d bridge h2d)
    {found event milestone : Dict} {eventId name : String} {eventNs profileNs : Nat}
    (hfound : found ∈ baseRows ∧ isTransferEvent expected.h2d name found = true)
    (hid : found.get "event_id" = .str eventId) (hns : found.get "timestamp_ns" = .int eventNs)
    (hreference : milestone.get "base_event_id" = .str eventId)
    (hmilestone : milestone.get "timestamp_ns" = .int profileNs)
    (hevent : event ∈ baseRows) (htype : event.has "record_type" "event" = true)
    (hsame : event.get "event_id" = milestone.get "base_event_id")
    (htime : event.get "timestamp_ns" = milestone.get "timestamp_ns") : eventNs = profileNs := by
  have heq : event = found := by
    refine event_unique hbridge.eventIds (List.mem_filter.mpr ⟨hevent, htype⟩)
      (List.mem_filter.mpr ⟨hfound.1, type_of_isTransferEvent hfound.2⟩)
      (show event.has "event_id" eventId = true from ?_) (Dict.has_iff.mpr hid)
    rw [Dict.has_iff, hsame, hreference]
  rw [heq, hns, hmilestone, Value.int.injEq] at htime
  exact_mod_cast htime

/-- **When base and profile agree on the restore interval**: exactly when each
end of the expected transfer has the same time in both streams. The normalizer
compares the profile rows with one another only. -/
theorem restore_interval_iff {episode : NormalizedKVRecoveryEpisode}
    (h : normalizeKvRecoveryEpisode sha256 baseRows profileRows expected complete = .ok episode) :
    RestoreAgrees baseRows profileRows expected episode.h2d.durationNs ↔
      ∀ ends ∈ restoreEnds, ∀ event ∈ baseRows,
        isTransferEvent expected.h2d ends.eventName event = true → ∀ row ∈ profileRows,
        isTransferRow expected.h2d row = true → row.has "transfer_phase" ends.transferPhase = true →
        (row.get "timestamp_ns").pyEq (event.get "timestamp_ns") = true := by
  obtain ⟨h2d, data, chain, submit, done, hh2d, hacc, rfl⟩ := normalizeKvRecoveryEpisode_eq_ok.mp h
  obtain ⟨-, bridge, hbridge⟩ := normalizeH2dRecovery_eq_ok.mp hh2d
  obtain ⟨eventStart, eventDone, profileStart, profileDone, ht⟩ := hacc.times hbridge
  obtain ⟨hstartRef, hdoneRef⟩ := hacc.associated
  obtain ⟨hstarted, hended⟩ := isTransferEvent_of_pair hbridge.pair
  have hstaged := episodeChain_eq_ok.mp hacc.milestones
  obtain ⟨-, hsubmit, hdone⟩ := transferPair_eq_ok.mp hacc.transfer
  have hrows := hacc.transferRows
  have hmem : ∀ row, row ∈ profileRows ∧ isTransferRow expected.h2d row = true ↔
      row = submit ∨ row = done := by
    intro row
    rw [← List.mem_filter, hrows]
    simp
  constructor
  · intro hagree
    have hchain : ∀ row ∈ [chain.restoreStart, chain.restoreDone],
        row ∈ profileRows ∧ isMilestone expected row = true := by
      intro row hrow
      refine hacc.mem_chain.mp ?_
      simp only [List.mem_cons, List.not_mem_nil, or_false] at hrow
      rcases hrow with rfl | rfl <;> simp [Chain.rows]
    have hstartEq : eventStart = profileStart := by
      obtain ⟨hin, hmile⟩ := hchain chain.restoreStart (by simp)
      have hat : chain.restoreStart ∈ atStage "restore_start" _ :=
        hstaged.restoreStart ▸ List.mem_singleton_self _
      obtain ⟨event, hev, htype, -, hid, hns⟩ :=
        hagree.milestones startEnd (by simp [restoreEnds]) _ hin
        hmile
        (List.mem_filter.mp hat).2
      exact event_time_of_reference hbridge hstarted
        (get_of_requireStrId hbridge.startId) ht.started
        hstartRef ht.restoreStart hev htype hid hns
    have hdoneEq : eventDone = profileDone := by
      obtain ⟨hin, hmile⟩ := hchain chain.restoreDone (by simp)
      have hat : chain.restoreDone ∈ atStage "restore_done" _ :=
        hstaged.restoreDone ▸ List.mem_singleton_self _
      obtain ⟨event, hev, htype, -, hid, hns⟩ :=
        hagree.milestones doneEnd (by simp [restoreEnds]) _ hin
        hmile
        (List.mem_filter.mp hat).2
      exact event_time_of_reference hbridge hended (get_of_requireStrId hbridge.doneId) ht.ended
        hdoneRef ht.restoreDone hev htype hid hns
    intro ends hends event hevent hname row hrow htransfer hphase
    simp only [restoreEnds, List.mem_cons, List.not_mem_nil, or_false] at hends
    rcases hends with rfl | rfl
    · obtain rfl := (communicationPair_unique hbridge.pair hevent).1 hname
      rcases (hmem row).mp ⟨hrow, htransfer⟩ with rfl | rfl
      · rw [ht.started, hstartEq]
        exact ht.submitted
      · exact absurd (Dict.has_unique hdone hphase) (by decide)
    · obtain rfl := (communicationPair_unique hbridge.pair hevent).2 hname
      rcases (hmem row).mp ⟨hrow, htransfer⟩ with rfl | rfl
      · exact absurd (Dict.has_unique hsubmit hphase) (by decide)
      · rw [ht.ended, hdoneEq]
        exact ht.completed
  · intro hends
    obtain ⟨hsubmitIn, hsubmitRow⟩ := (hmem submit).mpr (.inl rfl)
    obtain ⟨hdoneIn, hdoneRow⟩ := (hmem done).mpr (.inr rfl)
    have hstartEq : eventStart = profileStart := by
      have hsame := hends startEnd (by simp [restoreEnds]) _ hstarted.1 hstarted.2 _ hsubmitIn
        hsubmitRow hsubmit
      rw [ht.started] at hsame
      exact hasNum_unique hsame ht.submitted
    have hdoneEq : eventDone = profileDone := by
      have hsame := hends doneEnd (by simp [restoreEnds]) _
        hended.1 hended.2 _ hdoneIn hdoneRow hdone
      rw [ht.ended] at hsame
      exact hasNum_unique hsame ht.completed
    refine ⟨?_, submit, done, hrows, profileStart, profileDone, ht.submitted, ht.completed, ?_⟩
    · intro ends hends' row hrow hmile hat
      simp only [restoreEnds, List.mem_cons, List.not_mem_nil, or_false] at hends'
      rcases hends' with rfl | rfl
      · obtain rfl := hacc.eq_of_stage hstaged.restoreStart hrow hmile hat
        refine ⟨bridge.start, hstarted.1, type_of_isTransferEvent hstarted.2, ?_, ?_, ?_⟩
        · exact (Bool.and_eq_true_iff.mp hstarted.2).2
        · rw [get_of_requireStrId hbridge.startId, hstartRef]
        · rw [ht.started, ht.restoreStart, hstartEq]
      · obtain rfl := hacc.eq_of_stage hstaged.restoreDone hrow hmile hat
        refine ⟨bridge.done, hended.1, type_of_isTransferEvent hended.2, ?_, ?_, ?_⟩
        · exact (Bool.and_eq_true_iff.mp hended.2).2
        · rw [get_of_requireStrId hbridge.doneId, hdoneRef]
        · rw [ht.ended, ht.restoreDone, hdoneEq]
    · rw [← hstartEq, ← hdoneEq]
      exact ht.duration

end Accepted

/-! ## Two runs -/

namespace Sample

/-- The profile shard with the values of one key replaced throughout. -/
def revalued (key : String) (f : Value → Value) (digest : String) : List Dict :=
  ((profileEvidence succeeded).map fun row =>
    row.map fun item => if item.1 = key then (item.1, f item.2) else item) ++
    [built (buildProfileSummaryRecord process (.int 900) 9 profileCounts 0 0 0 0 .drained digest)]

/-- SHA-256 on the base content of the run and on one profile content. -/
def sha256Of (digest : String) (content : Bytes) : String :=
  if content.length = 7601 then baseDigest else digest

def laterDigest : String := "1189195a2fbf9b840d0ace9c80085d5d7e5206ec870baeffb557bf0bc03b2fcd"

/-- The profile observes the submission five nanoseconds after the base event. -/
def laterShard : List Dict :=
  revalued "timestamp_ns" (fun v => if v.pyEq (.int 200) then .int 205 else v) laterDigest

end Sample

theorem laterShard_accepted :
    normalizeKvRecoveryEpisode (Sample.sha256Of Sample.laterDigest) cleanBase Sample.laterShard
      Sample.expected true = .ok Sample.episode := by
  decide +kernel

/-- The episode is accepted with the duration of the base stream alone. -/
theorem accepted_with_other_interval :
    normalizeKvRecoveryEpisode (Sample.sha256Of Sample.laterDigest) cleanBase Sample.laterShard
      Sample.expected true = .ok Sample.episode ∧
    ¬ RestoreAgrees cleanBase Sample.laterShard Sample.expected Sample.episode.h2d.durationNs := by
  refine ⟨laterShard_accepted, fun hagree => ?_⟩
  obtain ⟨submit, done, hrows, submitNs, doneNs, hsubmit, hdone, hsum⟩ := hagree.duration
  have htimes : (Sample.laterShard.filter (isTransferRow Sample.expected.h2d)).map
      (fun row => (row.hasNum "timestamp_ns" 205, row.hasNum "timestamp_ns" 300)) =
        [(true, false), (false, true)] := by
    decide +kernel
  rw [hrows, List.map_cons, List.map_cons, List.map_nil, List.cons.injEq, List.cons.injEq,
    Prod.mk.injEq, Prod.mk.injEq] at htimes
  have hfirst : submitNs = 205 := hasNum_unique hsubmit htimes.1.1
  have hlast : doneNs = 300 := hasNum_unique hdone htimes.2.1.2
  have hduration : Sample.episode.h2d.durationNs = 100 := rfl
  omega

theorem restore_interval_iff_laterShard :
    RestoreAgrees cleanBase Sample.laterShard Sample.expected Sample.episode.h2d.durationNs ↔
      ∀ ends ∈ restoreEnds, ∀ event ∈ cleanBase,
        isTransferEvent Sample.expected.h2d ends.eventName event = true →
        ∀ row ∈ Sample.laterShard, isTransferRow Sample.expected.h2d row = true →
        row.has "transfer_phase" ends.transferPhase = true →
        (row.get "timestamp_ns").pyEq (event.get "timestamp_ns") = true :=
  restore_interval_iff laterShard_accepted

end LifecycleProfiler.Normalizer
