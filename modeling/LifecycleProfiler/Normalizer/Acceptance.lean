import LifecycleProfiler.Normalizer.Recovery

/-! # What an accepted episode rests on

The checks of the two normalizers as structures with one field per stage, and
the equivalence of acceptance with them. Later results read the stages by name
and never unfold a normalizer. -/

namespace LifecycleProfiler.Normalizer
open Python Protocol

/-- The evidence rows an accepted H2D bridge is made of. -/
structure BridgeRows where
  preempted : Dict
  admission : Dict
  start : Dict
  done : Dict

/-- The stages of an accepted H2D bridge. -/
structure H2dAccepted (rows : List Dict) (expected : ExpectedH2DRecovery) (bridge : BridgeRows)
    (result : NormalizedH2DRecovery) : Prop where
  noLoss : rows.any (·.has "record_type" "loss_interval") = false
  eventIds : eventIndex rows = .ok (ofType "event" rows)
  preempted : requireEndpoint (ofType "event" rows) expected.preemptedEventId "preempted" =
    .ok bridge.preempted
  admission : requireEndpoint (ofType "event" rows) expected.admissionStartedEventId
    "admission_started" = .ok bridge.admission
  identity : checkEndpointIdentity expected bridge.preempted bridge.admission = .ok ()
  roster : checkCommunicationRoster expected (ofType "event" rows) = .ok ()
  pair : communicationPair expected (ofType "event" rows) = .ok (bridge.start, bridge.done)
  startId : requireStrId bridge.start = .ok result.startEventId
  doneId : requireStrId bridge.done = .ok result.doneEventId
  measure : measureCommunication bridge.preempted bridge.admission bridge.start bridge.done =
    .ok (result.durationNs, result.bytesMoved)
  edges : edgeRoster expected (ofType "edge" rows) result.startEventId result.doneEventId =
    .ok result.edgeIds

theorem eventIndex_eq_ok {rows events : List Dict} :
    eventIndex rows = .ok events ↔
      ((ofType "event" rows).filterMap fun row => asStr (row.get "event_id")).dedup.length =
        (ofType "event" rows).length ∧ ofType "event" rows = events := by
  simp [eventIndex]

theorem normalizeH2dRecovery_eq_ok {rows : List Dict} {expected : ExpectedH2DRecovery}
    {complete : Bool} {result : NormalizedH2DRecovery} :
    normalizeH2dRecovery rows expected complete = .ok result ↔
      complete = true ∧ ∃ bridge, H2dAccepted rows expected bridge result := by
  constructor
  · intro h
    simp only [normalizeH2dRecovery, bind_eq_ok, exists_unit, pure_eq_ok, raiseIf_eq_ok,
      Bool.not_eq_false'] at h
    obtain ⟨hc, hloss, events, hev, preempted, hp, admission, ha, hid, hroster, ⟨start, done⟩,
      hpair, startId, hs, doneId, hd, ⟨durationNs, bytesMoved⟩, hm, edgeIds, he, rfl⟩ := h
    obtain rfl := (eventIndex_eq_ok.mp hev).2
    exact ⟨hc, ⟨preempted, admission, start, done⟩,
      ⟨hloss, hev, hp, ha, hid, hroster, hpair, hs, hd, hm, he⟩⟩
  · rintro ⟨rfl, bridge, h⟩
    simp only [normalizeH2dRecovery, h.noLoss, h.eventIds, h.preempted, h.admission, h.identity,
      h.roster, h.pair, h.startId, h.doneId, h.measure, h.edges, raiseIf_false, ok_bind,
        Bool.not_true]
    rfl

/-- The stages of an accepted episode. -/
structure EpisodeAccepted (sha256 : Bytes → String) (baseRows profileRows : List Dict)
    (expected : ExpectedKVRecoveryEpisode) (h2d : NormalizedH2DRecovery) (data : List Dict)
    (chain : Chain) (submit done : Dict) : Prop where
  baseStarts : validateProcessRoster baseRows "process_start" expected.processUuids = .ok ()
  baseSummaries : validateProcessRoster baseRows "process_summary" expected.processUuids = .ok ()
  profileStarts : validateProcessRoster profileRows "profile_start" expected.processUuids = .ok ()
  profileSummaries :
    validateProcessRoster profileRows "profile_summary" expected.processUuids = .ok ()
  baseDigests : validateShardContentDigests sha256 baseRows expected.processUuids
    "process_summary" canonicalJsonLine = .ok ()
  profileDigests : validateShardContentDigests sha256 profileRows expected.processUuids
    "profile_summary" profileRecordLine = .ok ()
  noLoss : profileRows.any (·.has "record_type" "loss_interval") = false
  ledgers : validateProfileLedgers profileRows expected.processUuids = .ok ()
  selected : filterOk isProfileData profileRows = .ok data
  recordIds : requireRecordIds data = .ok ()
  milestones : episodeChain (data.filter (isMilestone expected)) expected.requeueReasons = .ok chain
  walk : walkChain .none 0 chain.rows = .ok ()
  associations : checkAssociations expected h2d chain = .ok ()
  resumed : checkLaterPhase expected baseRows expected.resumedEventId "resumed" = .ok ()
  firstCompute : checkLaterPhase expected baseRows expected.firstComputeBaseEventId
    s!"{expected.computeKind}_started" = .ok ()
  transfer : transferPair expected.h2d data = .ok (submit, done)
  evidence : checkTransferEvidence expected.h2d h2d chain submit done = .ok ()
  blocks : checkBlockSet expected.h2d data = .ok ()

theorem EpisodeAccepted.data_eq {sha256 : Bytes → String} {baseRows profileRows : List Dict}
    {expected : ExpectedKVRecoveryEpisode} {h2d : NormalizedH2DRecovery} {data : List Dict}
    {chain : Chain} {submit done : Dict}
    (h : EpisodeAccepted sha256 baseRows profileRows expected h2d data chain submit done) :
    data = profileRows.filter fun row => isProfileData row == .ok true :=
  (filterOk_eq_ok.mp h.selected).2

theorem EpisodeAccepted.data_subset {sha256 : Bytes → String} {baseRows profileRows : List Dict}
    {expected : ExpectedKVRecoveryEpisode} {h2d : NormalizedH2DRecovery} {data : List Dict}
    {chain : Chain} {submit done : Dict}
    (h : EpisodeAccepted sha256 baseRows profileRows expected h2d data chain submit done)
    {row : Dict} (hrow : row ∈ data) : row ∈ profileRows :=
  List.mem_of_mem_filter (h.data_eq ▸ hrow)

/-- The result of an accepted episode. -/
def episodeResult (h2d : NormalizedH2DRecovery) (chain : Chain) : NormalizedKVRecoveryEpisode :=
  ⟨h2d, chain.rows.filterMap fun row => asStr (row.get "record_id"), chain.requeues.length⟩

/-- **Acceptance, stage by stage.** -/
theorem normalizeKvRecoveryEpisode_eq_ok {sha256 : Bytes → String}
    {baseRows profileRows : List Dict} {expected : ExpectedKVRecoveryEpisode} {complete : Bool}
    {episode : NormalizedKVRecoveryEpisode} :
    normalizeKvRecoveryEpisode sha256 baseRows profileRows expected complete = .ok episode ↔
      ∃ h2d data chain submit done,
        normalizeH2dRecovery baseRows expected.h2d complete = .ok h2d ∧
        EpisodeAccepted sha256 baseRows profileRows expected h2d data chain submit done ∧
        episode = episodeResult h2d chain := by
  constructor
  · intro h
    simp only [normalizeKvRecoveryEpisode, bind_eq_ok, exists_unit, pure_eq_ok,
      raiseIf_eq_ok] at h
    obtain ⟨h2d, hh2d, bst, bsu, pst, psu, bd, pd, hloss, hl, data, hdata, hids, chain, hchain,
      hwalk, hassoc, hres, hfc, ⟨submit, done⟩, hpair, hev, hblocks, rfl⟩ := h
    exact ⟨h2d, data, chain, submit, done, hh2d, ⟨bst, bsu, pst, psu, bd, pd, hloss, hl, hdata,
      hids, hchain, hwalk, hassoc, hres, hfc, hpair, hev, hblocks⟩, rfl⟩
  · rintro ⟨h2d, data, chain, submit, done, hh2d, h, rfl⟩
    simp only [normalizeKvRecoveryEpisode, hh2d, h.baseStarts, h.baseSummaries, h.profileStarts,
      h.profileSummaries, h.baseDigests, h.profileDigests, h.noLoss, h.ledgers, h.selected,
      h.recordIds, h.milestones, h.walk, h.associations, h.resumed, h.firstCompute, h.transfer,
      h.evidence, h.blocks, raiseIf_false, ok_bind]
    rfl

/-! ## A run of one process

The rows of a run with one recovery episode and no requeue, as the record
builders produce them. `baseEvidence` and `profileEvidence` are the rows the
shard digests cover; each later variation of the run alters one thing. -/

namespace Sample

def process : String := "0a0a0a0a0a0a0a0a0a0a0a0a0a0a0a0a"
def clockDomain : String := "0b0b0b0b0b0b0b0b0b0b0b0b0b0b0b0b"
def trace : String := "0c0c0c0c0c0c0c0c0c0c0c0c0c0c0c0c"
def runId : String := "0d0d0d0d0d0d0d0d0d0d0d0d0d0d0d0d"
def lifecycle : String := trace ++ ":e:0"
def request : String := "request-0"
def transferId : String := scopedId process "t" 0
def blockSetId : String := "0e0e0e0e0e0e0e0e0e0e0e0e0e0e0e0e0e0e0e0e0e0e0e0e0e0e0e0e0e0e0e0e"

def span (n : Nat) : Option String := some (scopedId process "s" n)

def draft (component name : String) (timestampNs epoch : Nat) : EventDraft where
  traceId := trace
  lifecycleId := lifecycle
  parentLifecycleId := some (trace ++ ":r")
  scope := "engine_sample"
  component := component
  eventName := name
  timestampNs := .int timestampNs
  preemptionEpoch := .int epoch
  sampleIndex := .int 0

def communication (name : String) (timestampNs : Nat) (extra : Dict) : EventDraft :=
  { draft "external_evidence" name timestampNs 1 with
    metadata := some ([("operation", .str "h2d_restore"), ("direction", .str "h2d"),
      ("transfer_id", .str transferId), ("block_set_id", .str blockSetId),
      ("recovery_profile", .str recoveryProfileId),
      ("communication_mapping", .str kvRecoveryCommunicationMode), ("rank", .int 0)] ++ extra) }

def eventDrafts : List EventDraft :=
  [{ draft "engine_core" "preempted" 100 0 with
      endSpanId := span 0,
      metadata := some [("prompt_tokens_computed", .int 4), ("prefill_chunk_count", .int 1)] },
   { draft "engine_core" "requeued" 110 1 with startSpanId := span 1 },
   { communication "communication_started" 200 [] with startSpanId := span 2 },
   { communication "communication_done" 300 [("bytes_moved", .int 4096)] with
      endSpanId := span 2 },
   { draft "engine_core" "admission_started" 400 1 with
      startSpanId := span 3, endSpanId := span 1 },
   { draft "engine_core" "resumed" 450 1 with
      endSpanId := span 3,
      metadata := some [("prompt_tokens_total", .int 8), ("prompt_tokens_cached", .int 4),
        ("prompt_tokens_to_compute", .int 4)] },
   { draft "engine_core" "prefill_started" 500 1 with startSpanId := span 4 }]

def edgeDrafts : List EdgeDraft :=
  [⟨trace, eventId process 0, eventId process 2, "data_dependency", kvRecoveryH2dEvidence⟩,
   ⟨trace, eventId process 2, eventId process 3, "program_order",
    "instrumented_execution_context"⟩,
   ⟨trace, eventId process 3, eventId process 4, "data_dependency", kvRecoveryH2dEvidence⟩]

def eventRows : List Dict :=
  eventDrafts.mapIdx fun i d => eventRecord d process clockDomain i d.timestampNs

def edgeRows : List Dict := edgeDrafts.mapIdx fun i d => edgeRecord d process (7 + i)

def provenance : RuntimeProvenance where
  profilerParentCommit := "0000000000000000000000000000000000000001"
  runtimeCoreCommit := "0000000000000000000000000000000000000002"
  devicePluginCommit := "0000000000000000000000000000000000000003"
  profilerParentCommit_hex := by decide
  runtimeCoreCommit_hex := by decide
  devicePluginCommit_hex := by decide

def config : KVRecoveryProfileConfig := ⟨runId, by decide⟩

/-- The record of a build that succeeds. -/
def built : Except PyError Dict → Dict
  | .ok record => record
  | .error _ => []

def baseEvidence : List Dict :=
  built (buildProcessStartRecord process 7 (.int 90) clockDomain provenance) ::
    (eventRows ++ edgeRows)

def requestValues : Dict :=
  [("trace_id", .str trace), ("engine_lifecycle_id", .str lifecycle),
   ("runtime_request_id", .str request), ("request_id_kind", .str "engine_internal"),
   ("sample_index", .int 0), ("recovery_epoch", .int 1), ("episode_id", .str (lifecycle ++ ":k:1"))]

/-- The fields of a milestone, with the values that differ from stage to
stage in front. -/
def milestone (stage : String) (values : Dict) : Dict :=
  requestValues ++ recoveryFields.map fun name =>
    if name = "stage" then (name, .str stage)
    else if name = "occurrence" then (name, .int 0)
    else (name, values.get name)

def transferValues (values : Dict) : Dict :=
  requestValues ++ transferFields.map fun name =>
    match ([("transfer_id", .str transferId), ("connector_job_id", .int 0), ("rank", .int 0),
      ("world_size", .int 1), ("operation", .str "h2d_restore"), ("direction", .str "h2d"),
      ("src_medium", .str "host_cpu"), ("dst_medium", .str "device_hbm"),
      ("block_set_id", .str blockSetId)] : Dict).lookup name with
    | some v => (name, v)
    | none => (name, values.get name)

def moved : Dict :=
  [("transfer_id", .str transferId), ("block_set_id", .str blockSetId), ("bytes_moved", .int 4096)]

def recordId (seq : Nat) : Value := .str (profileRecordId process seq)
def baseId (seq : Nat) : Value := .str (eventId process seq)

/-- Record type, timestamp and fields of the profile data, with the fields of
the completion row left open. -/
def profileData (completion : Dict) : List (ProfileRecordType × Nat × Dict) :=
  [(.recoveryEvent, 100, milestone "preempt" [("base_event_id", baseId 0)]),
   (.blockSetChunk, 190, requestValues ++
      [("block_set_id", .str blockSetId), ("chunk_index", .int 0), ("chunk_count", .int 1),
       ("total_block_count", .int 1),
       ("blocks", .list [.dict [("group_index", .int 0), ("logical_ordinal", .int 0),
         ("logical_block_id", .str "0f0f0f0f0f0f0f0f0f0f0f0f0f0f0f0f")]])]),
   (.transferEvent, 200, transferValues [("transfer_phase", .str "submit")]),
   (.recoveryEvent, 200, milestone "restore_start" (("bytes_moved", .none) ::
      ("base_event_id", baseId 2) :: ("from_profile_event_id", recordId 0) :: moved)),
   (.transferEvent, 300, transferValues (("transfer_phase", .str "done") ::
      ("bytes_moved", .int 4096) :: completion)),
   (.recoveryEvent, 300, milestone "restore_done" (("base_event_id", baseId 3) ::
      ("from_profile_event_id", recordId 3) :: moved)),
   (.recoveryEvent, 350, milestone "scheduler_wakeup"
      (("from_profile_event_id", recordId 5) :: moved)),
   (.recoveryEvent, 450, milestone "admission" (("base_event_id", baseId 5) ::
      ("base_admission_started_event_id", baseId 4) ::
      ("from_profile_event_id", recordId 6) :: moved)),
   (.recoveryEvent, 510, milestone "first_prefill_or_decode" (("base_event_id", baseId 6) ::
      ("from_profile_event_id", recordId 7) :: ("compute_kind", .str "prefill") ::
      ("child_observation_kind", .str "worker_model_forward_entry") ::
      ("base_association_kind", .str "phase_child_observation") ::
      ("base_association_evidence", .str "instrumented_execution_context") :: moved))]

def succeeded : Dict := [("success", .bool true)]
def failed : Dict := [("success", .bool false), ("failure_code", .str "transfer_failed")]

def profileRows (completion : Dict) : List Dict :=
  (profileData completion).mapIdx fun i d =>
    profileDataRecord d.1 process i d.2.1 clockDomain config d.2.2

def profileEvidence (completion : Dict) : List Dict :=
  built (buildProfileStartRecord process 7 (.int 90) clockDomain provenance config) ::
    profileRows completion

def baseDigest : String := "eb3ca19da2acdfab8ec32ec84f8b7335a26195fc0f9ab706ef7e90c435cda941"
def shorterBaseDigest : String :=
  "7a2798648d274ff439060e3dc5a7c1c1bd56d1ac9117bf51a238a94e4cb54a85"
def profileDigest : String := "80123efc48397da5a5c18fbe2db9d66981ee247fb065b356a6885baba66d6b1e"
def failedProfileDigest : String :=
  "ad138683f8bf2f08eaf320625dae6de99fa2ff5736f98daf1e5a4bb23d69bc29"

/-- SHA-256 on the contents of the runs below, which differ in length. -/
def sha256 (content : Bytes) : String :=
  match content.length with
  | 7601 => baseDigest
  | 6906 => shorterBaseDigest
  | 11051 => profileDigest
  | _ => failedProfileDigest

def baseSummary (attempted events droppedControl : Nat) (digest : String) : Dict :=
  built (buildProcessSummaryRecord process (.int 900) attempted events 3 0 0 droppedControl 0
    .drained digest)

def profileCounts : ProfileRecordType → Nat
  | .blockSetChunk => 1
  | .waitSetChunk => 0
  | .transferEvent => 2
  | .recoveryEvent => 6

def profileShard (completion : Dict) (digest : String) : List Dict :=
  profileEvidence completion ++
    [built (buildProfileSummaryRecord process (.int 900) 9 profileCounts 0 0 0 0 .drained digest)]

def expected : ExpectedKVRecoveryEpisode where
  h2d := ⟨trace, lifecycle, 1, transferId, blockSetId, eventId process 0, eventId process 4⟩
  runId := runId
  runtimeRequestId := request
  resumedEventId := eventId process 5
  firstComputeBaseEventId := eventId process 6
  computeKind := "prefill"
  requeueReasons := []
  processUuids := [process]
  runId_hex := by decide
  resumedEventId_canonical := by decide
  firstComputeBaseEventId_canonical := by decide
  computeKind_known := by decide
  processUuids_ne_nil := by decide
  processUuids_nodup := by decide
  processUuids_hex := by decide

def episode : NormalizedKVRecoveryEpisode :=
  ⟨⟨eventId process 2, eventId process 3, 100, 4096,
    (edgeId process 7, edgeId process 8, edgeId process 9)⟩,
   [0, 3, 5, 6, 7, 8].map (profileRecordId process), 0⟩

end Sample

end LifecycleProfiler.Normalizer
