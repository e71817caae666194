import Mathlib.Data.List.Dedup
import LifecycleProfiler.Normalizer.Acceptance

/-! # Rows outside the roster

Digests and rosters are taken per expected process, while the evidence is
selected by its content. A row of no expected process is *foreign*. An
accepted episode is authenticated when each row its evidence is made of is
covered by a recomputed digest and the rows of the expected processes alone
give the same result. -/

namespace LifecycleProfiler.Normalizer
open Python Protocol

/-- Whether the row names a process of the roster. -/
def rostered (processUuids : List String) (row : Dict) : Bool :=
  processUuids.any fun u => row.has "process_uuid" u

/-- The rows of the expected processes. -/
def strip (processUuids : List String) (rows : List Dict) : List Dict :=
  rows.filter (rostered processUuids)

/-! ## The evidence of an episode -/

def isPinnedEvent (expected : ExpectedKVRecoveryEpisode) (row : Dict) : Bool :=
  row.has "record_type" "event" &&
    [expected.h2d.preemptedEventId, expected.h2d.admissionStartedEventId, expected.resumedEventId,
      expected.firstComputeBaseEventId].any fun eventId => row.has "event_id" eventId

/-- The named event of the expected transfer. -/
def isTransferEvent (expected : ExpectedH2DRecovery) (eventName : String) (row : Dict) : Bool :=
  row.has "record_type" "event" && namesTransfer expected.transferId row &&
    row.has "event_name" eventName

/-- An edge of the bridge between the two ends of the transfer. -/
def isBridgeEdge (expected : ExpectedH2DRecovery) (startId doneId : String) (edge : Dict) : Bool :=
  edge.has "record_type" "edge" &&
    (isRelevantEdge [expected.preemptedEventId, startId, doneId, expected.admissionStartedEventId]
      startId doneId edge == .ok true || isMappedEdge expected edge)

/-- The base rows the evidence is selected from: the pinned events, the two
ends of the transfer and the edges of the bridge. -/
def IsBaseEvidence (expected : ExpectedKVRecoveryEpisode) (rows : List Dict) (row : Dict) : Prop :=
  isPinnedEvent expected row = true ∨
  isTransferEvent expected.h2d "communication_started" row = true ∨
  isTransferEvent expected.h2d "communication_done" row = true ∨
  ∃ start ∈ rows, ∃ done ∈ rows, ∃ startId doneId,
    isTransferEvent expected.h2d "communication_started" start = true ∧
    isTransferEvent expected.h2d "communication_done" done = true ∧
    start.get "event_id" = .str startId ∧ done.get "event_id" = .str doneId ∧
    isBridgeEdge expected.h2d startId doneId row = true

/-- The profile rows the evidence is selected from. -/
def IsProfileEvidence (expected : ExpectedKVRecoveryEpisode) (row : Dict) : Prop :=
  isMilestone expected row = true ∨ isTransferRow expected.h2d row = true ∨
    isBlockChunk expected.h2d row = true

/-- The row is one of those whose digest the summary of its process carries. -/
def Covered (sha256 : Bytes → String) (encoder : Dict → Except PyError Bytes)
    (summaryType processUuid : String) (rows : List Dict) (row : Dict) : Prop :=
  row ∈ digestedRows summaryType processUuid rows ∧
  ∃ summary content, ofType summaryType (ofProcess processUuid rows) = [summary] ∧
    contentOf encoder (digestedRows summaryType processUuid rows) = .ok content ∧
    summary.get "content_sha256" = .str (sha256 content)

/-- Every row of the evidence is covered by a digest of an expected process,
and the rows of these processes alone give the same episode. -/
structure Authenticated (sha256 : Bytes → String) (baseRows profileRows : List Dict)
    (expected : ExpectedKVRecoveryEpisode) (complete : Bool)
    (episode : NormalizedKVRecoveryEpisode) : Prop where
  base : ∀ row ∈ baseRows, IsBaseEvidence expected baseRows row → ∃ u ∈ expected.processUuids,
    Covered sha256 canonicalJsonLine "process_summary" u baseRows row
  profile : ∀ row ∈ profileRows, IsProfileEvidence expected row → ∃ u ∈ expected.processUuids,
    Covered sha256 profileRecordLine "profile_summary" u profileRows row
  independent : normalizeKvRecoveryEpisode sha256 (strip expected.processUuids baseRows)
    (strip expected.processUuids profileRows) expected complete = .ok episode

/-! ## Selecting among the rows of the roster -/

section Strip
variable {us : List String} {rows : List Dict}

theorem mem_strip {row : Dict} : row ∈ strip us rows ↔ row ∈ rows ∧ rostered us row = true :=
  List.mem_filter

theorem strip_sublist : (strip us rows).Sublist rows := List.filter_sublist

/-- A filter that keeps rostered rows only does not see the foreign ones. -/
theorem filter_strip {p : Dict → Bool} (h : ∀ row ∈ rows, p row = true → rostered us row = true) :
    (strip us rows).filter p = rows.filter p := by
  rw [strip, List.filter_filter]
  refine List.filter_congr fun row hrow => ?_
  cases hp : p row with
  | false => rfl
  | true => simp [h row hrow hp]

theorem ofType_strip (recordType : String) :
    ofType recordType (strip us rows) = strip us (ofType recordType rows) := by
  simp only [ofType, strip, List.filter_filter]
  exact List.filter_congr fun row _ => Bool.and_comm _ _

theorem find_strip {p : Dict → Bool} (h : ∀ row ∈ rows, p row = true → rostered us row = true) :
    (strip us rows).find? p = rows.find? p := by
  rw [← List.head?_filter, ← List.head?_filter, filter_strip h]

theorem any_strip {p : Dict → Bool} (h : rows.any p = false) : (strip us rows).any p = false := by
  rw [List.any_eq_false] at h ⊢
  exact fun row hrow => h row (mem_strip.mp hrow).1

theorem ofProcess_strip {u : String} (hu : u ∈ us) :
    ofProcess u (strip us rows) = ofProcess u rows :=
  filter_strip fun _ _ hp => List.any_eq_true.mpr ⟨u, hu, hp⟩

theorem dataRows_strip {u : String} {categories : List String} (hu : u ∈ us) :
    dataRows categories u (strip us rows) = dataRows categories u rows :=
  filter_strip fun _ _ hp =>
    List.any_eq_true.mpr ⟨u, hu, (Bool.and_eq_true_iff.mp hp).1⟩

/-! ## The stages on the rows of the roster -/

theorem dedup_filterMap_length {α β : Type} [DecidableEq β] {f : α → Option β} {xs : List α} :
    (xs.filterMap f).dedup.length = xs.length ↔
      (∀ x ∈ xs, (f x).isSome = true) ∧ (xs.filterMap f).Nodup := by
  have h₁ := (List.dedup_sublist (xs.filterMap f)).length_le
  have h₂ := List.length_filterMap_le f xs
  rw [← List.dedup_eq_self]
  constructor
  · intro h
    refine ⟨?_, (List.dedup_sublist _).eq_of_length (by omega)⟩
    exact List.filterMap_length_eq_length.mp (by omega)
  · rintro ⟨hsome, hdedup⟩
    rw [hdedup]
    exact List.filterMap_length_eq_length.mpr hsome

theorem eventIndex_strip (h : eventIndex rows = .ok (ofType "event" rows)) :
    eventIndex (strip us rows) = .ok (ofType "event" (strip us rows)) := by
  obtain ⟨hsome, hnodup⟩ := dedup_filterMap_length.mp (eventIndex_eq_ok.mp h).1
  have hsub : (ofType "event" (strip us rows)).Sublist (ofType "event" rows) := by
    rw [ofType_strip]
    exact strip_sublist
  refine eventIndex_eq_ok.mpr ⟨dedup_filterMap_length.mpr ⟨?_, ?_⟩, rfl⟩
  · exact fun row hrow => hsome row (hsub.subset hrow)
  · exact hnodup.sublist (hsub.filterMap _)

/-- Every row of the given type and identifier is rostered. -/
def Pinned (us : List String) (rows : List Dict) (eventId : String) : Prop :=
  ∀ row ∈ rows, row.has "record_type" "event" = true → row.has "event_id" eventId = true →
    rostered us row = true

theorem findEvent_strip {eventId : String} (h : Pinned us rows eventId) :
    findEvent (ofType "event" (strip us rows)) eventId =
      findEvent (ofType "event" rows) eventId := by
  rw [ofType_strip]
  refine find_strip fun row hrow hid => ?_
  obtain ⟨hmem, htype⟩ := List.mem_filter.mp hrow
  exact h row hmem htype hid

theorem requireEndpoint_strip {eventId eventName : String} (h : Pinned us rows eventId) :
    requireEndpoint (ofType "event" (strip us rows)) eventId eventName =
      requireEndpoint (ofType "event" rows) eventId eventName := by
  rw [requireEndpoint, requireEndpoint, findEvent_strip h]

theorem checkLaterPhase_strip {expected : ExpectedKVRecoveryEpisode} {eventId eventName : String}
    (h : Pinned us rows eventId) :
    checkLaterPhase expected (strip us rows) eventId eventName =
      checkLaterPhase expected rows eventId eventName := by
  rw [checkLaterPhase, checkLaterPhase, findEvent_strip h]

theorem checkCommunicationRoster_strip {expected : ExpectedH2DRecovery}
    (h : checkCommunicationRoster expected rows = .ok ()) :
    checkCommunicationRoster expected (strip us rows) = .ok () := by
  unfold checkCommunicationRoster at h ⊢
  rw [bind_eq_ok] at h
  obtain ⟨kept, hkept, hall⟩ := h
  rw [strip, filterOk_filter (rostered us) hkept, ok_bind]
  exact raiseIf_eq_ok.mpr (any_strip (raiseIf_eq_ok.mp hall))

theorem communicationPair_strip {expected : ExpectedH2DRecovery}
    (hstart : ∀ row ∈ rows, isTransferEvent expected "communication_started" row = true →
      rostered us row = true)
    (hdone : ∀ row ∈ rows, isTransferEvent expected "communication_done" row = true →
      rostered us row = true) :
    communicationPair expected (ofType "event" (strip us rows)) =
      communicationPair expected (ofType "event" rows) := by
  have hfilter : ∀ name, (∀ row ∈ rows, isTransferEvent expected name row = true →
      rostered us row = true) →
      ((ofType "event" (strip us rows)).filter (namesTransfer expected.transferId)).filter
        (·.has "event_name" name) =
      ((ofType "event" rows).filter (namesTransfer expected.transferId)).filter
        (·.has "event_name" name) := by
    intro name h
    rw [ofType_strip, List.filter_filter, List.filter_filter]
    refine filter_strip fun row hrow hp => ?_
    obtain ⟨hmem, htype⟩ := List.mem_filter.mp hrow
    obtain ⟨hname, hnames⟩ := Bool.and_eq_true_iff.mp hp
    exact h row hmem (by simp [isTransferEvent, htype, hname, hnames])
  unfold communicationPair
  simp only [hfilter _ hstart, hfilter _ hdone]

/-- An accepted edge is relevant: its ends are two events of the bridge. -/
theorem relevant_of_accepts {expected : ExpectedEdge} {ids : List String} {startId doneId : String}
    {edge : Dict} (hfrom : expected.fromEventId ∈ ids) (hto : expected.toEventId ∈ ids)
    (hkind : expected.evidenceSource = kvRecoveryH2dEvidence ∨
      expected.fromEventId = startId ∧ expected.toEventId = doneId)
    (h : expected.accepts edge = true) : isRelevantEdge ids startId doneId edge = .ok true := by
  simp only [ExpectedEdge.accepts, Bool.and_eq_true] at h
  obtain ⟨⟨⟨⟨-, hf⟩, ht⟩, -⟩, he⟩ := h
  have hf' := inSet_eq_true.mpr ⟨_, hfrom, Dict.has_iff.mp hf⟩
  have ht' := inSet_eq_true.mpr ⟨_, hto, Dict.has_iff.mp ht⟩
  unfold isRelevantEdge
  rw [hf', ok_bind, if_pos rfl, ht', ok_bind, if_pos rfl, pure_eq_ok]
  rcases hkind with hkind | ⟨rfl, rfl⟩
  · rw [← hkind, he, Bool.true_or]
  · rw [hf, ht, Bool.and_self, Bool.or_true]

theorem edgeRoster_strip {expected : ExpectedH2DRecovery} {startId doneId : String}
    {ids : String × String × String}
    (hbridge : ∀ row ∈ rows, isBridgeEdge expected startId doneId row = true →
      rostered us row = true)
    (h : edgeRoster expected (ofType "edge" rows) startId doneId = .ok ids) :
    edgeRoster expected (ofType "edge" (strip us rows)) startId doneId = .ok ids := by
  have hedge : ∀ row ∈ ofType "edge" rows,
      isRelevantEdge [expected.preemptedEventId, startId, doneId,
        expected.admissionStartedEventId] startId doneId row = .ok true ∨
        isMappedEdge expected row = true → rostered us row = true := by
    intro row hrow hp
    obtain ⟨hmem, htype⟩ := List.mem_filter.mp hrow
    refine hbridge row hmem ?_
    rcases hp with hp | hp <;> simp [isBridgeEdge, htype, hp]
  have hrequire : ∀ want : ExpectedEdge, (∀ edge, want.accepts edge = true →
      isRelevantEdge [expected.preemptedEventId, startId, doneId,
        expected.admissionStartedEventId] startId doneId edge = .ok true) →
      requireEdge (strip us (ofType "edge" rows)) want = requireEdge (ofType "edge" rows) want := by
    intro want hwant
    unfold requireEdge
    rw [filter_strip fun row hrow hp => hedge row hrow (.inl (hwant row hp))]
  simp only [edgeRoster, bind_eq_ok, exists_unit, raiseIf_eq_ok, pure_eq_ok] at h ⊢
  obtain ⟨first, hfirst, second, hsecond, third, hthird, relevant, hrel, hlen, hmapped, rfl⟩ := h
  rw [ofType_strip]
  refine ⟨first, ?_, second, ?_, third, ?_, relevant, ?_, hlen, ?_, rfl⟩
  · rw [hrequire _ fun _ => relevant_of_accepts (by simp [preemptedEdge])
      (by simp [preemptedEdge]) (.inl rfl), hfirst]
  · rw [hrequire _ fun _ => relevant_of_accepts (by simp [transferEdge])
      (by simp [transferEdge]) (.inr ⟨rfl, rfl⟩), hsecond]
  · rw [hrequire _ fun _ => relevant_of_accepts (by simp [admissionEdge])
      (by simp [admissionEdge]) (.inl rfl), hthird]
  · rw [strip, filterOk_filter (rostered us) hrel]
    obtain ⟨-, rfl⟩ := filterOk_eq_ok.mp hrel
    congr 1
    rw [List.filter_eq_self]
    intro row hrow
    obtain ⟨hmem, hkeep⟩ := List.mem_filter.mp hrow
    exact hedge row hmem (.inl (by simpa using hkeep))
  · rw [filter_strip fun row hrow hp => hedge row hrow (.inr hp)]
    exact hmapped

theorem validateProcessRoster_rostered {recordType : String}
    (h : validateProcessRoster rows recordType us = .ok ()) :
    ∀ row ∈ rows, row.has "record_type" recordType = true → rostered us row = true := by
  intro row hrow htype
  simp only [validateProcessRoster, bind_eq_ok, exists_unit, raiseIf_eq_ok, Bool.not_eq_false',
    forEach_eq_ok] at h
  obtain ⟨-, hknown, -⟩ := h
  obtain ⟨known, hin, htrue⟩ := hknown (row.get "process_uuid")
    (List.mem_map_of_mem (List.mem_filter.mpr ⟨hrow, htype⟩))
  subst htrue
  obtain ⟨u, hu, he⟩ := inSet_eq_true.mp hin
  exact List.any_eq_true.mpr ⟨u, hu, Dict.has_iff.mpr he⟩

theorem validateProcessRoster_strip {recordType : String}
    (h : validateProcessRoster rows recordType us = .ok ()) :
    validateProcessRoster (strip us rows) recordType us = .ok () := by
  have hsame : ofType recordType (strip us rows) = ofType recordType rows :=
    filter_strip (validateProcessRoster_rostered h)
  unfold validateProcessRoster at h ⊢
  rw [hsame]
  exact h

theorem validateShardContentDigests_strip {sha256 : Bytes → String} {summaryType : String}
    {encoder : Dict → Except PyError Bytes}
    (h : validateShardContentDigests sha256 rows us summaryType encoder = .ok ()) :
    validateShardContentDigests sha256 (strip us rows) us summaryType encoder = .ok () := by
  rw [validateShardContentDigests, forEach_eq_ok] at h ⊢
  intro u hu
  have hsame := h u hu
  unfold validateShardContentDigest digestedRows at hsame ⊢
  rw [ofProcess_strip hu]
  exact hsame

theorem validateProfileLedgers_strip (h : validateProfileLedgers rows us = .ok ()) :
    validateProfileLedgers (strip us rows) us = .ok () := by
  rw [validateProfileLedgers, forEach_eq_ok] at h ⊢
  intro u hu
  have hsame := h u hu
  unfold validateLedger at hsame ⊢
  rw [ofProcess_strip hu, dataRows_strip hu]
  exact hsame

theorem allDistinct_sublist {α : Type} {eq : α → α → Bool} {xs ys : List α} (hs : ys.Sublist xs)
    (h : allDistinct eq xs = true) : allDistinct eq ys = true := by
  induction hs with
  | slnil => rfl
  | cons x _ ih =>
    rw [allDistinct, Bool.and_eq_true] at h
    exact ih h.2
  | cons_cons x hs ih =>
    rw [allDistinct, Bool.and_eq_true, List.all_eq_true] at h ⊢
    exact ⟨fun y hy => h.1 y (hs.subset hy), ih h.2⟩

theorem requireRecordIds_strip (h : requireRecordIds rows = .ok ()) :
    requireRecordIds (strip us rows) = .ok () := by
  simp only [requireRecordIds, bind_eq_ok, exists_unit, raiseIf_eq_ok, Bool.not_eq_false'] at h ⊢
  exact ⟨any_strip h.1, allDistinct_sublist (strip_sublist.map _) h.2⟩

theorem transferPair_strip {expected : ExpectedH2DRecovery}
    (h : ∀ row ∈ rows, isTransferRow expected row = true → rostered us row = true) :
    transferPair expected (strip us rows) = transferPair expected rows := by
  rw [transferPair, transferPair, filter_strip h]

theorem checkBlockSet_strip {expected : ExpectedH2DRecovery}
    (h : ∀ row ∈ rows, isBlockChunk expected row = true → rostered us row = true) :
    checkBlockSet expected (strip us rows) = checkBlockSet expected rows := by
  unfold checkBlockSet
  rw [filter_strip h]

end Strip

/-- The evidence of an episode names expected processes only. -/
structure NoForeignEvidence (baseRows profileRows : List Dict)
    (expected : ExpectedKVRecoveryEpisode) : Prop where
  base : ∀ row ∈ baseRows, IsBaseEvidence expected baseRows row →
    rostered expected.processUuids row = true
  profile : ∀ row ∈ profileRows, IsProfileEvidence expected row →
    rostered expected.processUuids row = true

theorem isTransferEvent_of_pair {expected : ExpectedH2DRecovery} {rows : List Dict}
    {start done : Dict} (h : communicationPair expected (ofType "event" rows) = .ok (start, done)) :
    (start ∈ rows ∧ isTransferEvent expected "communication_started" start = true) ∧
      (done ∈ rows ∧ isTransferEvent expected "communication_done" done = true) := by
  have hmem : ∀ name row, ((ofType "event" rows).filter
      (namesTransfer expected.transferId)).filter (·.has "event_name" name) = [row] →
      row ∈ rows ∧ isTransferEvent expected name row = true := by
    intro name row hone
    have hrow : row ∈ ((ofType "event" rows).filter
        (namesTransfer expected.transferId)).filter (·.has "event_name" name) := by simp [hone]
    obtain ⟨hrow, hname⟩ := List.mem_filter.mp hrow
    obtain ⟨hrow, hnames⟩ := List.mem_filter.mp hrow
    obtain ⟨hrow, htype⟩ := List.mem_filter.mp hrow
    exact ⟨hrow, by simp [isTransferEvent, htype, hname, hnames]⟩
  unfold communicationPair at h
  dsimp only at h
  split at h
  · rename_i hs hd
    simp only [bind_eq_ok, exists_unit, pure_eq_ok, Prod.mk.injEq] at h
    obtain ⟨-, -, rfl, rfl⟩ := h
    exact ⟨hmem _ _ hs, hmem _ _ hd⟩
  · cases h

theorem get_of_requireStrId {row : Dict} {s : String} (h : requireStrId row = .ok s) :
    row.get "event_id" = .str s := by
  unfold requireStrId at h
  split at h
  · rename_i he
    cases h
    exact he
  · cases h

section Accepted
variable {sha256 : Bytes → String} {baseRows profileRows : List Dict}
  {expected : ExpectedKVRecoveryEpisode} {complete : Bool}

theorem NoForeignEvidence.pinned {eventId : String}
    (h : NoForeignEvidence baseRows profileRows expected)
    (hid : eventId ∈ [expected.h2d.preemptedEventId, expected.h2d.admissionStartedEventId,
      expected.resumedEventId, expected.firstComputeBaseEventId]) :
    Pinned expected.processUuids baseRows eventId := by
  intro row hrow htype hev
  refine h.base row hrow (.inl ?_)
  rw [isPinnedEvent, htype, Bool.true_and]
  exact List.any_eq_true.mpr ⟨eventId, hid, hev⟩

/-- The bridge is accepted on the rows of the roster alone. -/
theorem H2dAccepted.strip {bridge : BridgeRows} {result : NormalizedH2DRecovery}
    (hf : NoForeignEvidence baseRows profileRows expected)
    (h : H2dAccepted baseRows expected.h2d bridge result) :
    H2dAccepted (strip expected.processUuids baseRows) expected.h2d bridge result where
  noLoss := any_strip h.noLoss
  eventIds := eventIndex_strip h.eventIds
  preempted := by rw [requireEndpoint_strip (hf.pinned (by simp)), h.preempted]
  admission := by rw [requireEndpoint_strip (hf.pinned (by simp)), h.admission]
  identity := h.identity
  roster := by rw [ofType_strip]; exact checkCommunicationRoster_strip h.roster
  pair := by
    rw [communicationPair_strip (fun row hrow hp => hf.base row hrow (.inr (.inl hp)))
      (fun row hrow hp => hf.base row hrow (.inr (.inr (.inl hp)))), h.pair]
  startId := h.startId
  doneId := h.doneId
  measure := h.measure
  edges := by
    refine edgeRoster_strip (fun row hrow hp => hf.base row hrow (.inr (.inr (.inr ?_)))) h.edges
    obtain ⟨⟨hs, hsp⟩, hd, hdp⟩ := isTransferEvent_of_pair h.pair
    exact ⟨bridge.start, hs, bridge.done, hd, _, _, hsp, hdp, get_of_requireStrId h.startId,
      get_of_requireStrId h.doneId, hp⟩

/-- The episode is accepted on the rows of the roster alone. -/
theorem EpisodeAccepted.strip {h2d : NormalizedH2DRecovery} {data : List Dict} {chain : Chain}
    {submit done : Dict} (hf : NoForeignEvidence baseRows profileRows expected)
    (h : EpisodeAccepted sha256 baseRows profileRows expected h2d data chain submit done) :
    EpisodeAccepted sha256 (strip expected.processUuids baseRows)
      (strip expected.processUuids profileRows) expected h2d
      (strip expected.processUuids data) chain submit done where
  baseStarts := validateProcessRoster_strip h.baseStarts
  baseSummaries := validateProcessRoster_strip h.baseSummaries
  profileStarts := validateProcessRoster_strip h.profileStarts
  profileSummaries := validateProcessRoster_strip h.profileSummaries
  baseDigests := validateShardContentDigests_strip h.baseDigests
  profileDigests := validateShardContentDigests_strip h.profileDigests
  noLoss := any_strip h.noLoss
  ledgers := validateProfileLedgers_strip h.ledgers
  selected := filterOk_filter _ h.selected
  recordIds := requireRecordIds_strip h.recordIds
  milestones := by
    rw [filter_strip fun row hrow hp => hf.profile row (h.data_subset hrow) (.inl hp)]
    exact h.milestones
  walk := h.walk
  associations := h.associations
  resumed := by rw [checkLaterPhase_strip (hf.pinned (by simp)), h.resumed]
  firstCompute := by rw [checkLaterPhase_strip (hf.pinned (by simp)), h.firstCompute]
  transfer := by
    rw [transferPair_strip fun row hrow hp =>
      hf.profile row (h.data_subset hrow) (.inr (.inl hp)), h.transfer]
  evidence := h.evidence
  blocks := by
    rw [checkBlockSet_strip fun row hrow hp =>
      hf.profile row (h.data_subset hrow) (.inr (.inr hp)), h.blocks]

/-- A rostered row that is no summary is covered by the digest of its process. -/
theorem covered_of_rostered {rows : List Dict} {us : List String} {summaryType : String}
    {encoder : Dict → Except PyError Bytes} {row : Dict}
    (h : validateShardContentDigests sha256 rows us summaryType encoder = .ok ())
    (hrow : row ∈ rows) (hr : rostered us row = true)
    (htype : row.has "record_type" summaryType = false) :
    ∃ u ∈ us, Covered sha256 encoder summaryType u rows row := by
  obtain ⟨u, hu, hp⟩ := List.any_eq_true.mp hr
  refine ⟨u, hu, ?_, ?_⟩
  · exact List.mem_filter.mpr ⟨List.mem_filter.mpr ⟨hrow, hp⟩, by rw [htype]; rfl⟩
  · have hdigest := forEach_eq_ok.mp h u hu
    unfold validateShardContentDigest at hdigest
    split at hdigest
    · rename_i summary hs
      simp only [bind_eq_ok, raiseIf_eq_ok, Bool.not_eq_false'] at hdigest
      obtain ⟨content, hcontent, hdigest⟩ := hdigest
      exact ⟨summary, content, hs, hcontent, Dict.has_iff.mp hdigest⟩
    · cases hdigest

theorem rostered_of_covered {rows : List Dict} {us : List String} {summaryType u : String}
    {encoder : Dict → Except PyError Bytes} {row : Dict} (hu : u ∈ us)
    (h : Covered sha256 encoder summaryType u rows row) : rostered us row = true := by
  have hrow := (List.mem_filter.mp (List.mem_of_mem_filter h.1)).2
  exact List.any_eq_true.mpr ⟨u, hu, hrow⟩

theorem type_of_isTransferEvent {h2d : ExpectedH2DRecovery} {name : String} {row : Dict}
    (h : isTransferEvent h2d name row = true) : row.has "record_type" "event" = true := by
  simp only [isTransferEvent, Bool.and_eq_true] at h
  exact h.1.1

theorem type_of_baseEvidence {rows : List Dict} {row : Dict}
    (h : IsBaseEvidence expected rows row) :
    row.has "record_type" "event" = true ∨ row.has "record_type" "edge" = true := by
  rcases h with h | h | h | ⟨_, -, _, -, _, _, -, -, -, -, h⟩
  · exact .inl (Bool.and_eq_true_iff.mp h).1
  · exact .inl (type_of_isTransferEvent h)
  · exact .inl (type_of_isTransferEvent h)
  · exact .inr (Bool.and_eq_true_iff.mp h).1

theorem type_of_profileEvidence {row : Dict} (h : IsProfileEvidence expected row) :
    ∃ t ∈ ["recovery_event", "transfer_event", "block_set_chunk"],
      row.has "record_type" t = true := by
  rcases h with h | h | h
  · exact ⟨_, by simp, (Bool.and_eq_true_iff.mp h).1⟩
  · exact ⟨_, by simp, (Bool.and_eq_true_iff.mp h).1⟩
  · exact ⟨_, by simp, (Bool.and_eq_true_iff.mp (Bool.and_eq_true_iff.mp h).1).1⟩

theorem has_other {row : Dict} {key s t : String} (hs : row.has key s = true) (hne : s ≠ t) :
    row.has key t = false := by
  rw [Bool.eq_false_iff]
  exact fun ht => hne (Dict.has_unique hs ht)

/-- **When an accepted episode rests on authenticated rows**: exactly when no
foreign row passes one of the filters the evidence is selected by. -/
theorem authenticated_iff {episode : NormalizedKVRecoveryEpisode}
    (h : normalizeKvRecoveryEpisode sha256 baseRows profileRows expected complete = .ok episode) :
    Authenticated sha256 baseRows profileRows expected complete episode ↔
      NoForeignEvidence baseRows profileRows expected := by
  obtain ⟨h2d, data, chain, submit, done, hh2d, hacc, rfl⟩ :=
    normalizeKvRecoveryEpisode_eq_ok.mp h
  constructor
  · intro ha
    constructor
    · intro row hrow hev
      obtain ⟨u, hu, hc⟩ := ha.base row hrow hev
      exact rostered_of_covered hu hc
    · intro row hrow hev
      obtain ⟨u, hu, hc⟩ := ha.profile row hrow hev
      exact rostered_of_covered hu hc
  · intro hf
    refine ⟨?_, ?_, ?_⟩
    · intro row hrow hev
      refine covered_of_rostered hacc.baseDigests hrow (hf.base row hrow hev) ?_
      rcases type_of_baseEvidence hev with ht | ht
      · exact has_other ht (by decide)
      · exact has_other ht (by decide)
    · intro row hrow hev
      refine covered_of_rostered hacc.profileDigests hrow (hf.profile row hrow hev) ?_
      obtain ⟨t, ht, htype⟩ := type_of_profileEvidence hev
      refine has_other htype ?_
      rintro rfl
      simp at ht
    · obtain ⟨hc, bridge, hbridge⟩ := normalizeH2dRecovery_eq_ok.mp hh2d
      exact normalizeKvRecoveryEpisode_eq_ok.mpr ⟨h2d, _, chain, submit, done,
        normalizeH2dRecovery_eq_ok.mpr ⟨hc, bridge, hbridge.strip hf⟩, hacc.strip hf, rfl⟩

end Accepted

/-- The first computation of the run, reported under another process. -/
def foreignRow : Dict :=
  (Sample.eventRows.getD 6 []).map fun item =>
    if item.1 = "process_uuid" then (item.1, .str "0123456789abcdef0123456789abcdef") else item

/-- Base rows without the first computation in the shard of the expected
process, and with it as a foreign row. -/
def foreignBase : List Dict :=
  Sample.baseEvidence.eraseIdx 7 ++ [Sample.baseSummary 9 6 0 Sample.shorterBaseDigest] ++
    [foreignRow]

theorem foreignBase_accepted :
    normalizeKvRecoveryEpisode Sample.sha256 foreignBase
      (Sample.profileShard Sample.succeeded Sample.profileDigest) Sample.expected true =
      .ok Sample.episode := by
  decide +kernel

/-- An episode is accepted on a foreign row that no digest covers. -/
theorem accepted_with_foreign_row :
    normalizeKvRecoveryEpisode Sample.sha256 foreignBase
      (Sample.profileShard Sample.succeeded Sample.profileDigest) Sample.expected true =
      .ok Sample.episode ∧
    ¬ Authenticated Sample.sha256 foreignBase
      (Sample.profileShard Sample.succeeded Sample.profileDigest) Sample.expected true
      Sample.episode := by
  refine ⟨foreignBase_accepted, fun h => ?_⟩
  have hmem : foreignRow ∈ foreignBase := List.mem_append_right _ (List.mem_singleton_self _)
  obtain ⟨u, hu, hc⟩ := h.base foreignRow hmem (.inl (by decide +kernel))
  exact absurd (rostered_of_covered hu hc) (by decide +kernel)

theorem authenticated_iff_foreignBase :
    Authenticated Sample.sha256 foreignBase
      (Sample.profileShard Sample.succeeded Sample.profileDigest) Sample.expected true
      Sample.episode ↔
    NoForeignEvidence foreignBase
      (Sample.profileShard Sample.succeeded Sample.profileDigest) Sample.expected :=
  authenticated_iff foreignBase_accepted

end LifecycleProfiler.Normalizer
