import LifecycleProfiler.Normalizer.Acceptance

/-! # The transfer behind an episode

The transfer rows are selected by their transfer identifier alone. Given rows
the record builder accepts, this is what is left open between the builder and
the normalizer. -/

namespace LifecycleProfiler.Normalizer
open Python Protocol

/-- A row with the content of a record `build_profile_data_record` returns. -/
def Buildable (row : Dict) : Prop :=
  ∃ recordType processUuid recordSeq timestampNs clockDomainId config fields record ref,
    buildProfileDataRecord recordType processUuid recordSeq timestampNs clockDomainId config
      fields = .ok (record, ref) ∧ ∀ key, row.lookup key = record.lookup key

/-- The keys the builder adds to the fields of a record. -/
def headerKeys : List String :=
  ["schema", "record_type", "process_uuid", "record_seq", "record_id", "run_id", "timestamp_ns",
   "clock_domain_id", "profile_id"]

theorem get_profileDataRecord {recordType : ProfileRecordType} {processUuid : String}
    {recordSeq timestampNs : Nat} {clockDomainId : String} {config : KVRecoveryProfileConfig}
    {fields : Dict} {key : String} (h : key ∉ headerKeys) :
    Dict.get (profileDataRecord recordType processUuid recordSeq timestampNs clockDomainId config
      fields) key = fields.get key := by
  rw [Dict.get, profileDataRecord, lookup_append_right h, Dict.get]

/-- The type of a buildable row and the fields its builder accepted. -/
theorem Buildable.fields {row : Dict} (h : Buildable row) :
    ∃ recordType processUuid fields,
      row.get "record_type" = .str (ProfileRecordType.wire recordType) ∧
      validateDataFields recordType processUuid fields = .ok () ∧
      ∀ key, key ∉ headerKeys → row.get key = fields.get key := by
  obtain ⟨recordType, processUuid, recordSeq, timestampNs, clockDomainId, config, fields, record,
    ref, hbuild, hsame⟩ := h
  simp only [buildProfileDataRecord, bind_eq_ok, exists_unit, pure_eq_ok, Prod.mk.injEq] at hbuild
  obtain ⟨-, -, -, -, hvalid, -, _, -, rfl, -⟩ := hbuild
  refine ⟨recordType, processUuid, fields, ?_, hvalid, fun key hkey => ?_⟩
  · rw [Dict.get, hsame]
    rfl
  · rw [Dict.get, hsame]
    exact get_profileDataRecord hkey

/-! ## What the builder fixes -/

/-- The request identity of accepted fields: the lifecycle is that of the
trace, and the episode is that of the lifecycle and the epoch. -/
theorem request_identity {fields : Dict} (h : validateRequestFields fields = .ok ()) :
    ∃ traceId lifecycleId, fields.get "trace_id" = .str traceId ∧
      lifecycleId = s!"{traceId}:e:0" ∧ fields.get "engine_lifecycle_id" = .str lifecycleId ∧
      ∀ epoch : Nat, fields.get "recovery_epoch" = .int epoch →
        fields.get "episode_id" = .str s!"{lifecycleId}:k:{epoch}" := by
  simp only [validateRequestFields, bind_eq_ok, exists_unit, raiseIf_eq_ok, Bool.not_eq_false',
    Value.pyEq_str, requireHex_eq_ok] at h
  obtain ⟨traceId, ⟨htrace, -⟩, _, -, -, hlife, -, -, hepoch⟩ := h
  refine ⟨traceId, _, htrace, rfl, hlife, fun epoch he => ?_⟩
  rw [he, if_neg (by simp [Value.isNone])] at hepoch
  simp only [bind_eq_ok, exists_unit, raiseIf_eq_ok, Bool.not_eq_false', Value.pyEq_str,
    requireStrictUint_eq_ok, hlife, formatted] at hepoch
  obtain ⟨n, ⟨hn, -⟩, -, hid⟩ := hepoch
  rw [Value.int.injEq, Int.natCast_inj] at hn
  rw [hn, hid]

/-- The recovery epoch of accepted fields is null or a number of type `int`. -/
theorem recovery_epoch_of_num {fields : Dict} {n : Int}
    (h : validateRequestFields fields = .ok ()) (hn : fields.hasNum "recovery_epoch" n = true) :
    ∃ epoch : Nat, fields.get "recovery_epoch" = .int epoch ∧ n = epoch := by
  simp only [validateRequestFields, bind_eq_ok, exists_unit] at h
  obtain ⟨-, -, -, -, -, -, -, -, hepoch⟩ := h
  rw [Dict.hasNum_iff] at hn
  have hsome : ¬ (fields.get "recovery_epoch").isNone = true := by
    rw [Value.isNone_iff]
    intro hnone
    rw [hnone] at hn
    cases hn
  rw [if_neg hsome, bind_eq_ok] at hepoch
  obtain ⟨epoch, hint, -⟩ := hepoch
  obtain ⟨hint, -⟩ := requireStrictUint_eq_ok.mp hint
  refine ⟨epoch, hint, ?_⟩
  rw [hint, Value.num?, Option.some.injEq] at hn
  exact_mod_cast hn.symm

/-- A completion row is a success without failure code, or a failure. -/
theorem done_outcome {fields : Dict} {processUuid : String}
    (h : validateTransferFields fields processUuid = .ok ())
    (hphase : fields.get "transfer_phase" = .str "done") :
    (fields.get "success" = .bool true ∧ fields.get "failure_code" = .none) ∨
      fields.get "success" = .bool false := by
  simp only [validateTransferFields, bind_eq_ok, exists_unit] at h
  obtain ⟨-, -, -, -, -, -, -, -, hrest⟩ := h
  unfold validateTransferPhase at hrest
  rw [hphase, if_neg (by decide), if_pos (by decide), validateTransferDone, bind_eq_ok] at hrest
  obtain ⟨_, hsuccess, -⟩ := hrest
  unfold validateDoneResult at hsuccess
  split at hsuccess
  · rename_i htrue
    simp only [bind_eq_ok, raiseIf_eq_ok, Bool.or_eq_false_iff, Bool.not_eq_false',
      Value.isNone_iff] at hsuccess
    obtain ⟨_, -, -, hcode⟩ := hsuccess
    exact .inl ⟨htrue, hcode⟩
  · exact .inr ‹_›
  · cases hsuccess

theorem submit_outcome {fields : Dict} {processUuid : String}
    (h : validateTransferFields fields processUuid = .ok ())
    (hphase : fields.get "transfer_phase" = .str "submit") : fields.get "success" = .none := by
  simp only [validateTransferFields, bind_eq_ok, exists_unit] at h
  obtain ⟨-, -, -, -, -, -, -, -, hrest⟩ := h
  unfold validateTransferPhase at hrest
  rw [hphase, if_pos (by decide), raiseIf_eq_ok, List.any_eq_false] at hrest
  have hnull := hrest "success" (by simp)
  rwa [Bool.not_eq_true, Bool.not_eq_false', Value.isNone_iff] at hnull

/-! ## The two transfer rows -/

/-- A successful H2D transfer of the expected blocks, in the episode. -/
structure MatchingTransfer (expected : ExpectedKVRecoveryEpisode) (submit done : Dict) : Prop where
  episode : ∀ row ∈ [submit, done], inEpisode expected row = true
  operation : ∀ row ∈ [submit, done], row.get "operation" = .str "h2d_restore"
  blockSet : ∀ row ∈ [submit, done], row.get "block_set_id" = .str expected.h2d.blockSetId
  success : done.get "success" = .bool true
  noFailure : done.get "failure_code" = .none

/-- What neither the builder nor the normalizer asks of a row with the expected
transfer identifier. -/
def agrees (expected : ExpectedKVRecoveryEpisode) (row : Dict) : Bool :=
  row.has "run_id" expected.runId && row.has "trace_id" expected.h2d.traceId &&
    row.has "runtime_request_id" expected.runtimeRequestId &&
    row.hasNum "recovery_epoch" expected.h2d.recoveryEpoch &&
    row.has "operation" "h2d_restore" && row.has "block_set_id" expected.h2d.blockSetId &&
    !(row.get "success").pyEq (.bool false)

theorem pyEq_false {v : Value} (h : v = .bool false) : v.pyEq (.bool false) = true := by
  rw [h]
  rfl

theorem wire_injective : Function.Injective ProfileRecordType.wire := by
  intro a b h
  cases a <;> cases b <;> first | rfl | (revert h; decide)

/-- The fields of a buildable row of a type with a request identity. -/
theorem Buildable.request {row : Dict} (h : Buildable row) (recordType : ProfileRecordType)
    (htype : row.has "record_type" recordType.wire = true) (hne : recordType ≠ .waitSetChunk) :
    ∃ processUuid fields, validateDataFields recordType processUuid fields = .ok () ∧
      validateRequestFields fields = .ok () ∧ ∀ key, key ∉ headerKeys →
        row.get key = fields.get key := by
  obtain ⟨builtType, processUuid, fields, hbuilt, hvalid, hsame⟩ := h.fields
  rw [Dict.has_iff, hbuilt, Value.str.injEq] at htype
  obtain rfl := wire_injective htype
  refine ⟨processUuid, fields, hvalid, ?_, hsame⟩
  cases builtType with
  | waitSetChunk => exact absurd rfl hne
  | blockSetChunk => exact (bind_eq_ok.mp hvalid).elim fun _ h => h.1
  | transferEvent => exact (bind_eq_ok.mp hvalid).elim fun _ h => h.1
  | recoveryEvent => exact (bind_eq_ok.mp hvalid).elim fun _ h => h.1

/-- A buildable row of the trace has the lifecycle of the trace. -/
theorem Buildable.lifecycle {row : Dict} {traceId : String} (h : Buildable row)
    (recordType : ProfileRecordType) (htype : row.has "record_type" recordType.wire = true)
    (hne : recordType ≠ .waitSetChunk) (htrace : row.has "trace_id" traceId = true) :
    row.get "engine_lifecycle_id" = .str s!"{traceId}:e:0" := by
  obtain ⟨processUuid, fields, -, hreq, hsame⟩ := h.request recordType htype hne
  obtain ⟨t, lifecycleId, ht, rfl, hl, -⟩ := request_identity hreq
  rw [Dict.has_iff, hsame _ (by decide), ht, Value.str.injEq] at htrace
  rw [hsame _ (by decide), hl, htrace]

/-- A buildable row of the trace and epoch has the episode of both. -/
theorem Buildable.episode {row : Dict} {traceId : String} {epoch : Int} (h : Buildable row)
    (recordType : ProfileRecordType) (htype : row.has "record_type" recordType.wire = true)
    (hne : recordType ≠ .waitSetChunk) (htrace : row.has "trace_id" traceId = true)
    (hepoch : row.hasNum "recovery_epoch" epoch = true) {lifecycleId : String}
    (hlife : lifecycleId = s!"{traceId}:e:0") :
    row.get "episode_id" = .str s!"{lifecycleId}:k:{epoch}" := by
  obtain ⟨processUuid, fields, -, hreq, hsame⟩ := h.request recordType htype hne
  obtain ⟨t, life, ht, rfl, -, hid⟩ := request_identity hreq
  rw [Dict.has_iff, hsame _ (by decide), ht, Value.str.injEq] at htrace
  rw [Dict.hasNum, hsame _ (by decide)] at hepoch
  obtain ⟨n, hn, rfl⟩ := recovery_epoch_of_num hreq hepoch
  rw [hsame _ (by decide), hid n hn, hlife, htrace]
  rfl

section Accepted
variable {sha256 : Bytes → String} {baseRows profileRows : List Dict}
  {expected : ExpectedKVRecoveryEpisode} {h2d : NormalizedH2DRecovery} {data : List Dict}
  {chain : Chain} {submit done : Dict}

theorem requireStage_mem {stage : String} {rows : List Dict} {row : Dict}
    (h : requireStage stage rows = .ok row) : row ∈ rows := by
  unfold requireStage at h
  split at h
  · rename_i hone
    cases h
    exact List.mem_of_mem_filter (p := fun row => row.has "stage" stage)
      (by rw [← atStage, hone]; exact List.mem_singleton_self _)
  · cases h

/-- The expected lifecycle of an accepted episode is that of its trace. -/
theorem EpisodeAccepted.lifecycle
    (h : EpisodeAccepted sha256 baseRows profileRows expected h2d data chain submit done)
    (hbuild : ∀ row ∈ data, Buildable row) :
    expected.h2d.engineLifecycleId = s!"{expected.h2d.traceId}:e:0" := by
  have hchain := h.milestones
  simp only [episodeChain, bind_eq_ok] at hchain
  obtain ⟨-, -, preempt, hpreempt, -⟩ := hchain
  obtain ⟨hmem, hmile⟩ := List.mem_filter.mp (requireStage_mem hpreempt)
  simp only [isMilestone, inEpisode, Bool.and_eq_true] at hmile
  obtain ⟨htype, ⟨⟨⟨⟨⟨-, htrace⟩, hlife⟩, -⟩, -⟩, -⟩⟩ := hmile
  have hbuilt := (hbuild preempt hmem).lifecycle .recoveryEvent htype
    (by decide) htrace
  rw [Dict.has_iff, hbuilt, Value.str.injEq] at hlife
  exact hlife.symm

theorem transferPair_eq_ok {h2d : ExpectedH2DRecovery} :
    transferPair h2d data = .ok (submit, done) ↔ data.filter (isTransferRow h2d) = [submit, done] ∧
      submit.has "transfer_phase" "submit" = true ∧ done.has "transfer_phase" "done" = true := by
  unfold transferPair
  split
  · rename_i s d hs
    rw [hs]
    split
    · rename_i hphase
      simp only [Except.ok.injEq, Prod.mk.injEq, List.cons.injEq, and_true]
      rw [Bool.and_eq_true] at hphase
      constructor
      · rintro ⟨rfl, rfl⟩
        exact ⟨⟨rfl, rfl⟩, hphase⟩
      · exact And.left
    · rename_i hphase
      simp only [List.cons.injEq, and_true, reduceCtorEq, false_iff]
      rintro ⟨⟨rfl, rfl⟩, hp⟩
      exact hphase (Bool.and_eq_true_iff.mpr hp)
  · rename_i hne
    simp only [reduceCtorEq, false_iff]
    exact fun h => hne _ _ h.1

theorem isProfileData_of_transfer {h2d : ExpectedH2DRecovery} {row : Dict}
    (h : isTransferRow h2d row = true) : isProfileData row = .ok true :=
  inSet_eq_true.mpr ⟨"transfer_event", by simp [profileCategories],
    Dict.has_iff.mp (Bool.and_eq_true_iff.mp h).1⟩

/-- The transfer rows of an accepted episode are all those with the expected
identifier. -/
theorem EpisodeAccepted.transferRows
    (h : EpisodeAccepted sha256 baseRows profileRows expected h2d data chain submit done) :
    profileRows.filter (isTransferRow expected.h2d) = [submit, done] := by
  rw [← (transferPair_eq_ok.mp h.transfer).1, h.data_eq, List.filter_filter]
  refine List.filter_congr fun row _ => ?_
  cases ht : isTransferRow expected.h2d row with
  | false => rfl
  | true => simp [isProfileData_of_transfer ht]

theorem inEpisode_of_agrees {row : Dict} (hb : Buildable row)
    (htype : row.has "record_type" "transfer_event" = true)
    (hlife : expected.h2d.engineLifecycleId = s!"{expected.h2d.traceId}:e:0")
    (h : agrees expected row = true) : inEpisode expected row = true := by
  simp only [agrees, Bool.and_eq_true] at h
  obtain ⟨⟨⟨⟨⟨⟨hrun, htrace⟩, hrequest⟩, hepoch⟩, -⟩, -⟩, -⟩ := h
  have hl := hb.lifecycle .transferEvent htype (by decide) htrace
  have he := hb.episode .transferEvent htype (by decide) htrace hepoch hlife
  simp only [inEpisode, hrun, htrace, hrequest, hepoch, Bool.true_and, Bool.and_true,
    Bool.and_eq_true]
  exact ⟨Dict.has_iff.mpr (hlife ▸ hl), Dict.has_iff.mpr he⟩

/-- The outcome of a buildable transfer row, by its phase. -/
theorem Buildable.transfer {row : Dict} (h : Buildable row)
    (htype : row.has "record_type" "transfer_event" = true) :
    (row.has "transfer_phase" "submit" = true → row.get "success" = .none) ∧
    (row.has "transfer_phase" "done" = true →
      (row.get "success" = .bool true ∧ row.get "failure_code" = .none) ∨
        row.get "success" = .bool false) := by
  obtain ⟨processUuid, fields, hvalid, -, hsame⟩ :=
    h.request .transferEvent htype (by decide)
  obtain ⟨_, -, hvalid⟩ := bind_eq_ok.mp hvalid
  rw [Dict.has_iff, Dict.has_iff, hsame _ (by decide), hsame "success" (by decide),
    hsame "failure_code" (by decide)]
  exact ⟨submit_outcome hvalid, done_outcome hvalid⟩

end Accepted

/-- **When an accepted episode rests on a successful, matching transfer**: exactly
when each row with the expected transfer identifier belongs to the run, trace,
request and epoch of the episode, restores the expected blocks and is no failed
completion. -/
theorem matching_transfer_iff {sha256 : Bytes → String} {baseRows profileRows : List Dict}
    {expected : ExpectedKVRecoveryEpisode} {complete : Bool} {episode : NormalizedKVRecoveryEpisode}
    (h : normalizeKvRecoveryEpisode sha256 baseRows profileRows expected complete = .ok episode)
    (hbuild : ∀ row ∈ profileRows, isProfileData row = .ok true → Buildable row) :
    (∃ submit done, profileRows.filter (isTransferRow expected.h2d) = [submit, done] ∧
        MatchingTransfer expected submit done) ↔
      ∀ row ∈ profileRows, isTransferRow expected.h2d row = true → agrees expected row = true := by
  obtain ⟨h2d, data, chain, submit, done, -, hacc, -⟩ := normalizeKvRecoveryEpisode_eq_ok.mp h
  obtain ⟨-, hsubmit, hdone⟩ := transferPair_eq_ok.mp hacc.transfer
  have hrows := hacc.transferRows
  have hmem : ∀ row ∈ [submit, done], Buildable row ∧
      row.has "record_type" "transfer_event" = true ∧ row ∈ profileRows ∧
      isTransferRow expected.h2d row = true := by
    intro row hrow
    obtain ⟨hin, ht⟩ := List.mem_filter.mp (hrows ▸ hrow)
    exact ⟨hbuild row hin (isProfileData_of_transfer ht), (Bool.and_eq_true_iff.mp ht).1, hin, ht⟩
  have hdata : ∀ row ∈ data, Buildable row := by
    intro row hrow
    rw [hacc.data_eq] at hrow
    obtain ⟨hin, hp⟩ := List.mem_filter.mp hrow
    exact hbuild row hin (by simpa using hp)
  constructor
  · rintro ⟨submit', done', hrows', hmatch⟩ row hin ht
    rw [hrows, List.cons.injEq, List.cons.injEq] at hrows'
    obtain ⟨rfl, rfl, -⟩ := hrows'
    have hrow : row ∈ [submit, done] := hrows ▸ List.mem_filter.mpr ⟨hin, ht⟩
    have hep := hmatch.episode row hrow
    simp only [inEpisode, Bool.and_eq_true] at hep
    obtain ⟨⟨⟨⟨⟨hrun, htrace⟩, -⟩, hrequest⟩, hepoch⟩, -⟩ := hep
    have hop := Dict.has_iff.mpr (hmatch.operation row hrow)
    have hblocks := Dict.has_iff.mpr (hmatch.blockSet row hrow)
    have hsuccess : (row.get "success").pyEq (.bool false) = false := by
      rcases List.mem_cons.mp hrow with rfl | hrow
      · rw [((hmem row (by simp)).1.transfer (hmem row (by simp)).2.1).1 hsubmit]
        rfl
      · obtain rfl := List.mem_singleton.mp hrow
        rw [hmatch.success]
        rfl
    simp [agrees, hrun, htrace, hrequest, hepoch, hop, hblocks, hsuccess]
  · intro hagree
    refine ⟨submit, done, hrows, ?_⟩
    have hag : ∀ row ∈ [submit, done], agrees expected row = true := fun row hrow =>
      hagree row (hmem row hrow).2.2.1 (hmem row hrow).2.2.2
    have hparts := hag
    simp only [agrees, Bool.and_eq_true, Bool.not_eq_true'] at hparts
    have hnot : ¬ done.get "success" = .bool false := fun he => by
      have hfalse := (hparts done (by simp)).2
      rw [pyEq_false he] at hfalse
      cases hfalse
    obtain ⟨hdoneBuilt, hdoneType, -, -⟩ := hmem done (by simp)
    have houtcome := ((hdoneBuilt.transfer hdoneType).2 hdone).resolve_right hnot
    exact
      { episode := fun row hrow => inEpisode_of_agrees (hmem row hrow).1 (hmem row hrow).2.1
          (hacc.lifecycle hdata) (hag row hrow)
        operation := fun row hrow => Dict.has_iff.mp (hparts row hrow).1.1.2
        blockSet := fun row hrow => Dict.has_iff.mp (hparts row hrow).1.2
        success := houtcome.1
        noFailure := houtcome.2 }

/-- The profile shard of a run whose transfer failed after moving its bytes. -/
def failedShard : List Dict := Sample.profileShard Sample.failed Sample.failedProfileDigest

def cleanBase : List Dict := Sample.baseEvidence ++ [Sample.baseSummary 10 7 0 Sample.baseDigest]

theorem failedShard_accepted :
    normalizeKvRecoveryEpisode Sample.sha256 cleanBase failedShard Sample.expected true =
      .ok Sample.episode := by
  decide +kernel

theorem buildable_of_isOk {recordType : ProfileRecordType} {processUuid : String}
    {recordSeq timestampNs : Nat} {clockDomainId : String} {config : KVRecoveryProfileConfig}
    {fields : Dict} (h : (buildProfileDataRecord recordType processUuid recordSeq timestampNs
      clockDomainId config fields).isOk = true) :
    Buildable (profileDataRecord recordType processUuid recordSeq timestampNs clockDomainId config
      fields) := by
  cases hb : buildProfileDataRecord recordType processUuid recordSeq timestampNs clockDomainId
      config fields with
  | error e =>
    rw [hb] at h
    cases h
  | ok result =>
    obtain ⟨record, ref⟩ := result
    refine ⟨_, _, _, _, _, _, _, record, ref, hb, fun key => ?_⟩
    simp only [buildProfileDataRecord, bind_eq_ok, exists_unit, pure_eq_ok, Prod.mk.injEq] at hb
    obtain ⟨-, -, -, -, -, -, _, -, rfl, -⟩ := hb
    rfl

theorem failedShard_buildable :
    ∀ row ∈ failedShard, isProfileData row = .ok true → Buildable row := by
  have hok : ∀ i (h : i < (Sample.profileData Sample.failed).length),
      (buildProfileDataRecord ((Sample.profileData Sample.failed)[i]).1 Sample.process i
        ((Sample.profileData Sample.failed)[i]).2.1 Sample.clockDomain Sample.config
        ((Sample.profileData Sample.failed)[i]).2.2).isOk = true := by
    decide +kernel
  have hstart : isProfileData (Sample.built (buildProfileStartRecord Sample.process 7 (.int 90)
      Sample.clockDomain Sample.provenance Sample.config)) ≠ .ok true := by
    decide +kernel
  have hsummary : isProfileData (Sample.built (buildProfileSummaryRecord Sample.process (.int 900)
      9 Sample.profileCounts 0 0 0 0 .drained Sample.failedProfileDigest)) ≠ .ok true := by
    decide +kernel
  intro row hrow hdata
  rw [failedShard, Sample.profileShard, Sample.profileEvidence, List.mem_append, List.mem_cons,
    List.mem_singleton, Sample.profileRows, List.mem_mapIdx] at hrow
  rcases hrow with (hrow | ⟨i, hi, hrow⟩) | hrow
  · exact absurd (hrow ▸ hdata) hstart
  · exact hrow ▸ buildable_of_isOk (hok i hi)
  · exact absurd (hrow ▸ hdata) hsummary

/-- An episode is accepted although its only completion row reports a failure. -/
theorem accepted_with_failed_transfer :
    normalizeKvRecoveryEpisode Sample.sha256 cleanBase failedShard Sample.expected true =
      .ok Sample.episode ∧
    (∀ row ∈ failedShard, isProfileData row = .ok true → Buildable row) ∧
    ¬ ∃ submit done, failedShard.filter (isTransferRow Sample.expected.h2d) = [submit, done] ∧
      MatchingTransfer Sample.expected submit done := by
  refine ⟨failedShard_accepted, failedShard_buildable, ?_⟩
  rintro ⟨submit, done, hrows, hmatch⟩
  have hall : (failedShard.filter (isTransferRow Sample.expected.h2d)).all
      (fun row => !(row.get "success").pyEq (.bool true)) = true := by
    decide +kernel
  rw [hrows, List.all_eq_true] at hall
  have hdone := hall done (by simp)
  rw [hmatch.success] at hdone
  cases hdone

theorem matching_transfer_iff_failedShard :
    (∃ submit done, failedShard.filter (isTransferRow Sample.expected.h2d) = [submit, done] ∧
        MatchingTransfer Sample.expected submit done) ↔
      ∀ row ∈ failedShard, isTransferRow Sample.expected.h2d row = true →
        agrees Sample.expected row = true :=
  matching_transfer_iff failedShard_accepted failedShard_buildable

end LifecycleProfiler.Normalizer
