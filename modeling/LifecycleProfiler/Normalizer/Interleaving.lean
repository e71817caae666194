import LifecycleProfiler.General.Interleave
import LifecycleProfiler.Normalizer.Clock

/-! # The order of the rows

Shards of different processes reach the normalizer in any interleaving. It
selects by content, sorts by occurrence or chunk index and hashes per process,
and none of these steps sees the order of two processes. -/

namespace LifecycleProfiler.Normalizer
open Python Protocol General

/-- Rows in another order, in which each process finds its own rows as before. -/
structure SameShards (rows rows' : List Dict) : Prop where
  perm : rows.Perm rows'
  ofProcess : ∀ u, ofProcess u rows = ofProcess u rows'

/-! ## Steps that see no order -/

section Order
variable {rows rows' : List Dict}

theorem perm_singleton_of_filter {α : Type} {xs ys : List α} {p : α → Bool} {x : α}
    (h : xs.Perm ys) (hone : xs.filter p = [x]) : ys.filter p = [x] :=
  List.perm_singleton.mp (hone ▸ (h.filter p).symm)

theorem any_perm {α : Type} {xs ys : List α} {p : α → Bool} (h : xs.Perm ys)
    (hnone : xs.any p = false) : ys.any p = false := by
  rw [List.any_eq_false] at hnone ⊢
  exact fun x hx => hnone x (h.mem_iff.mpr hx)

/-- A filter that accepted a list accepts its rearrangements. -/
theorem filterOk_perm {α : Type} {keep : α → Except PyError Bool} {xs ys kept : List α}
    (h : xs.Perm ys) (hkept : filterOk keep xs = .ok kept) :
    ∃ kept', filterOk keep ys = .ok kept' ∧ kept.Perm kept' := by
  obtain ⟨hall, rfl⟩ := filterOk_eq_ok.mp hkept
  exact ⟨_, filterOk_eq_ok.mpr ⟨fun x hx => hall x (h.mem_iff.mpr hx), rfl⟩, h.filter _⟩

theorem find_perm {α : Type} {xs ys : List α} {p : α → Bool} (h : xs.Perm ys)
    (hone : ∀ a ∈ xs, ∀ b ∈ xs, p a = true → p b = true → a = b) : xs.find? p = ys.find? p := by
  cases hx : xs.find? p with
  | none =>
    rw [List.find?_eq_none] at hx
    exact (List.find?_eq_none.mpr fun y hy => hx y (h.mem_iff.mpr hy)).symm
  | some a =>
    cases hy : ys.find? p with
    | none =>
      rw [List.find?_eq_none] at hy
      exact absurd (List.find?_some hx) (hy a (h.mem_iff.mp (List.mem_of_find?_eq_some hx)))
    | some b =>
      rw [hone a (List.mem_of_find?_eq_some hx) b
        (h.mem_iff.mpr (List.mem_of_find?_eq_some hy)) (List.find?_some hx) (List.find?_some hy)]

/-- Rows whose keys are `0, …, n - 1` sort to one list, whatever their order. -/
theorem sortedByKey_congr {key : Dict → Value} {xs ys sorted : List Dict} {n : Nat}
    (h : xs.Perm ys) (hsorted : sortedByKey key xs = .ok sorted)
    (hrange : eqRange (sorted.map key) n = true) : sortedByKey key ys = .ok sorted := by
  have hnums : sorted.map (fun row => (key row).num?) = rangeNums n := by
    simpa [Function.comp_def] using eqRange_iff.mp hrange
  have hperm := sortedByKey_perm hsorted
  let num : Dict → Rat := fun row => ((key row).num?).getD 0
  have hnum : ∀ row ∈ xs, (key row).num? = some (num row) := by
    intro row hrow
    have hmem : (key row).num? ∈ rangeNums n :=
      hnums ▸ List.mem_map_of_mem (f := fun row => (key row).num?) (hperm.mem_iff.mpr hrow)
    obtain ⟨i, -, hi⟩ := List.mem_map.mp hmem
    simp [num, ← hi]
  have hnodup : (sorted.map fun row => (key row).num?).Nodup := by
    rw [hnums]
    refine List.Nodup.map (fun i j hij => ?_) List.nodup_range
    exact_mod_cast Option.some.inj hij
  rw [sortedByKey_of_num hnum, Except.ok.injEq] at hsorted
  rw [sortedByKey_of_num fun row hrow => hnum row (h.mem_iff.mpr hrow), Except.ok.injEq]
  have hxs := List.pairwise_insertionSort (fun a b => num a ≤ num b) xs
  have hys := List.pairwise_insertionSort (fun a b => num a ≤ num b) ys
  rw [hsorted] at hxs
  refine List.Perm.eq_of_pairwise (fun a b ha hb hab hba => ?_) hys hxs
    ((List.perm_insertionSort _ ys).trans (h.symm.trans hperm.symm))
  have hina := h.mem_iff.mpr ((List.mem_insertionSort _).mp ha)
  refine List.inj_on_of_nodup_map hnodup (hperm.mem_iff.mpr hina) hb ?_
  rw [hnum a hina, hnum b (hperm.mem_iff.mp hb), le_antisymm hab hba]

theorem eventIndex_perm (h : rows.Perm rows')
    (hindex : eventIndex rows = .ok (ofType "event" rows)) :
    eventIndex rows' = .ok (ofType "event" rows') := by
  obtain ⟨hsome, hnodup⟩ := dedup_filterMap_length.mp (eventIndex_eq_ok.mp hindex).1
  have hevents : (ofType "event" rows).Perm (ofType "event" rows') := h.filter _
  refine eventIndex_eq_ok.mpr ⟨dedup_filterMap_length.mpr ⟨fun row hrow => ?_, ?_⟩, rfl⟩
  · exact hsome row (hevents.mem_iff.mpr hrow)
  · exact (hevents.filterMap _).nodup_iff.mp hnodup

theorem findEvent_perm (h : rows.Perm rows')
    (hindex : eventIndex rows = .ok (ofType "event" rows)) (eventId : String) :
    findEvent (ofType "event" rows') eventId = findEvent (ofType "event" rows) eventId := by
  refine (find_perm (h.filter _) fun a ha b hb hpa hpb => ?_).symm
  exact event_unique hindex ha hb hpa hpb

theorem requireEndpoint_perm (h : rows.Perm rows')
    (hindex : eventIndex rows = .ok (ofType "event" rows)) (eventId eventName : String) :
    requireEndpoint (ofType "event" rows') eventId eventName =
      requireEndpoint (ofType "event" rows) eventId eventName := by
  rw [requireEndpoint, requireEndpoint, findEvent_perm h hindex]

theorem checkLaterPhase_perm (h : rows.Perm rows')
    (hindex : eventIndex rows = .ok (ofType "event" rows)) (expected : ExpectedKVRecoveryEpisode)
    (eventId eventName : String) :
    checkLaterPhase expected rows' eventId eventName =
      checkLaterPhase expected rows eventId eventName := by
  rw [checkLaterPhase, checkLaterPhase, findEvent_perm h hindex]

theorem checkCommunicationRoster_perm {expected : ExpectedH2DRecovery} (h : rows.Perm rows')
    (hroster : checkCommunicationRoster expected rows = .ok ()) :
    checkCommunicationRoster expected rows' = .ok () := by
  unfold checkCommunicationRoster at hroster ⊢
  rw [bind_eq_ok] at hroster ⊢
  obtain ⟨kept, hkept, hall⟩ := hroster
  obtain ⟨kept', hkept', hperm⟩ := filterOk_perm h hkept
  exact ⟨kept', hkept', raiseIf_eq_ok.mpr (any_perm hperm (raiseIf_eq_ok.mp hall))⟩

theorem communicationPair_perm {expected : ExpectedH2DRecovery} {pair : Dict × Dict}
    (h : rows.Perm rows') (hpair : communicationPair expected rows = .ok pair) :
    communicationPair expected rows' = .ok pair := by
  unfold communicationPair at hpair ⊢
  dsimp only at hpair ⊢
  have hcandidates := h.filter (namesTransfer expected.transferId)
  split at hpair
  · next start done hs hd =>
    rw [perm_singleton_of_filter hcandidates hs, perm_singleton_of_filter hcandidates hd]
    exact hpair
  · cases hpair

theorem requireEdge_perm {want : ExpectedEdge} {edgeId : String} (h : rows.Perm rows')
    (hedge : requireEdge rows want = .ok edgeId) : requireEdge rows' want = .ok edgeId := by
  unfold requireEdge at hedge ⊢
  split at hedge
  · next edge hone =>
    rw [perm_singleton_of_filter h hone]
    exact hedge
  · cases hedge

theorem edgeRoster_perm {expected : ExpectedH2DRecovery} {startId doneId : String}
    {ids : String × String × String} (h : rows.Perm rows')
    (hroster : edgeRoster expected rows startId doneId = .ok ids) :
    edgeRoster expected rows' startId doneId = .ok ids := by
  simp only [edgeRoster, bind_eq_ok, exists_unit, raiseIf_eq_ok, pure_eq_ok] at hroster ⊢
  obtain ⟨first, hfirst, second, hsecond, third, hthird, relevant, hrelevant, hlength, hmapped,
    rfl⟩ := hroster
  obtain ⟨relevant', hrelevant', hperm⟩ := filterOk_perm h hrelevant
  refine ⟨first, requireEdge_perm h hfirst, second, requireEdge_perm h hsecond, third,
    requireEdge_perm h hthird, relevant', hrelevant', ?_, ?_, rfl⟩
  · rw [← hperm.length_eq]
    exact hlength
  · rw [← (h.filter _).length_eq]
    exact hmapped

/-- The bridge is accepted in any order of the rows. -/
theorem H2dAccepted.perm {expected : ExpectedH2DRecovery} {bridge : BridgeRows}
    {result : NormalizedH2DRecovery} (h : rows.Perm rows')
    (hbridge : H2dAccepted rows expected bridge result) :
    H2dAccepted rows' expected bridge result where
  noLoss := any_perm h hbridge.noLoss
  eventIds := eventIndex_perm h hbridge.eventIds
  preempted := (requireEndpoint_perm h hbridge.eventIds _ _).trans hbridge.preempted
  admission := (requireEndpoint_perm h hbridge.eventIds _ _).trans hbridge.admission
  identity := hbridge.identity
  roster := checkCommunicationRoster_perm (h.filter _) hbridge.roster
  pair := communicationPair_perm (h.filter _) hbridge.pair
  startId := hbridge.startId
  doneId := hbridge.doneId
  measure := hbridge.measure
  edges := edgeRoster_perm (h.filter _) hbridge.edges

theorem validateProcessRoster_perm {recordType : String} {us : List String} (h : rows.Perm rows')
    (hroster : validateProcessRoster rows recordType us = .ok ()) :
    validateProcessRoster rows' recordType us = .ok () := by
  have hobserved : ((ofType recordType rows).map (·.get "process_uuid")).Perm
      ((ofType recordType rows').map (·.get "process_uuid")) := (h.filter _).map _
  simp only [validateProcessRoster, bind_eq_ok, exists_unit, raiseIf_eq_ok, forEach_eq_ok,
    Bool.not_eq_false', List.all_eq_true, List.any_eq_true] at hroster ⊢
  obtain ⟨hlength, hknown, hall⟩ := hroster
  refine ⟨?_, fun v hv => hknown v (hobserved.mem_iff.mpr hv), fun u hu => ?_⟩
  · rw [← hobserved.length_eq]
    exact hlength
  · obtain ⟨v, hv, heq⟩ := hall u hu
    exact ⟨v, hobserved.mem_iff.mp hv, heq⟩

theorem validateShardContentDigests_same {sha256 : Bytes → String} {us : List String}
    {summaryType : String} {encoder : Dict → Except PyError Bytes} (h : SameShards rows rows')
    (hdigests : validateShardContentDigests sha256 rows us summaryType encoder = .ok ()) :
    validateShardContentDigests sha256 rows' us summaryType encoder = .ok () := by
  rw [validateShardContentDigests, forEach_eq_ok] at hdigests ⊢
  intro u hu
  have hdigest := hdigests u hu
  unfold validateShardContentDigest digestedRows at hdigest ⊢
  rw [← h.ofProcess]
  exact hdigest

theorem dataRows_eq (categories : List String) (u : String) (rows : List Dict) :
    dataRows categories u rows = (ofProcess u rows).filter (isCategory categories) := by
  rw [dataRows, ofProcess, List.filter_filter]
  exact List.filter_congr fun row _ => Bool.and_comm _ _

theorem validateProfileLedgers_same {us : List String} (h : SameShards rows rows')
    (hledgers : validateProfileLedgers rows us = .ok ()) :
    validateProfileLedgers rows' us = .ok () := by
  rw [validateProfileLedgers, forEach_eq_ok] at hledgers ⊢
  intro u hu
  have hledger := hledgers u hu
  unfold validateLedger at hledger ⊢
  rw [dataRows_eq, ← h.ofProcess, ← dataRows_eq]
  exact hledger

theorem allDistinct_iff_pairwise {α : Type} {eq : α → α → Bool} {xs : List α} :
    allDistinct eq xs = true ↔ xs.Pairwise fun a b => eq a b = false := by
  induction xs with
  | nil => simp [allDistinct]
  | cons x xs ih => simp [allDistinct, ih]

/-- Texts are pairwise different in any order. -/
theorem allDistinct_perm {values values' : List Value} (h : values.Perm values')
    (hstr : ∀ v ∈ values, v.isStr = true) (hdistinct : allDistinct Value.pyEq values = true) :
    allDistinct Value.pyEq values' = true := by
  have hne : ∀ {a b : Value}, a.isStr = true → (a.pyEq b = false ↔ a ≠ b) := by
    intro a b ha
    cases a with
    | str s =>
      cases b <;> simp [Value.pyEq, Value.num?]
    | _ => cases ha
  rw [allDistinct_iff_pairwise] at hdistinct ⊢
  have hnodup : values.Nodup := hdistinct.imp_of_mem fun ha _ hab => (hne (hstr _ ha)).mp hab
  exact (h.nodup_iff.mp hnodup).imp_of_mem fun ha _ hab =>
    (hne (hstr _ (h.mem_iff.mpr ha))).mpr hab

theorem requireRecordIds_perm (h : rows.Perm rows') (hids : requireRecordIds rows = .ok ()) :
    requireRecordIds rows' = .ok () := by
  simp only [requireRecordIds, bind_eq_ok, exists_unit, raiseIf_eq_ok, Bool.not_eq_false'] at hids ⊢
  obtain ⟨hstr, hdistinct⟩ := hids
  refine ⟨any_perm h hstr, allDistinct_perm (h.map _) (fun v hv => ?_) hdistinct⟩
  obtain ⟨row, hrow, rfl⟩ := List.mem_map.mp hv
  rw [List.any_eq_false] at hstr
  simpa using hstr row hrow

theorem sortedRequeues_perm_eq {reasons : List String} {requeues : List Dict}
    (h : rows.Perm rows') (hsorted : sortedRequeues rows reasons = .ok requeues) :
    sortedRequeues rows' reasons = .ok requeues := by
  simp only [sortedRequeues, bind_eq_ok, exists_unit, pure_eq_ok, raiseIf_eq_ok,
    Bool.not_eq_false'] at hsorted ⊢
  obtain ⟨sorted, hsort, hrange, hreasons, rfl⟩ := hsorted
  exact ⟨sorted, sortedByKey_congr (h.filter _) hsort hrange, hrange, hreasons, rfl⟩

theorem episodeChain_perm {reasons : List String} {chain : Chain} (h : rows.Perm rows')
    (hchain : episodeChain rows reasons = .ok chain) :
    episodeChain rows' reasons = .ok chain := by
  have hstaged := episodeChain_eq_ok.mp hchain
  exact episodeChain_eq_ok.mpr
    { preempt := perm_singleton_of_filter h hstaged.preempt
      restoreStart := perm_singleton_of_filter h hstaged.restoreStart
      restoreDone := perm_singleton_of_filter h hstaged.restoreDone
      wakeup := perm_singleton_of_filter h hstaged.wakeup
      admission := perm_singleton_of_filter h hstaged.admission
      firstCompute := perm_singleton_of_filter h hstaged.firstCompute
      known := fun row hrow => hstaged.known row (h.mem_iff.mpr hrow)
      requeues := sortedRequeues_perm_eq h hstaged.requeues }

theorem checkBlockSet_perm {expected : ExpectedH2DRecovery} (h : rows.Perm rows')
    (hblocks : checkBlockSet expected rows = .ok ()) : checkBlockSet expected rows' = .ok () := by
  have hchunks := h.filter (isBlockChunk expected)
  simp only [checkBlockSet, bind_eq_ok, exists_unit, raiseIf_eq_ok, Bool.not_eq_false'] at hblocks ⊢
  obtain ⟨hempty, chunks, hsorted, hrange, hrest⟩ := hblocks
  refine ⟨?_, chunks, sortedByKey_congr hchunks hsorted hrange, hrange, hrest⟩
  rw [← hchunks.isEmpty_eq]
  exact hempty

end Order

/-! ## Interleaved shards -/

/-- The rows of each shard carry its process. -/
def OfProcesses (shards : String → List Dict) : Prop :=
  ∀ u, ∀ row ∈ shards u, row.has "process_uuid" u = true

theorem OfProcesses.owns {shards : String → List Dict} (hown : OfProcesses shards) (u : String)
    (row : Dict) (hrow : row ∈ shards u) (u' : String) :
    row.has "process_uuid" u' = decide (u' = u) := by
  by_cases hsame : u' = u
  · simp [hsame, hown u row hrow]
  · simp only [hsame, decide_false, Bool.eq_false_iff]
    exact fun hother => hsame (Dict.has_unique hother (hown u row hrow))

theorem SameShards.of_interleavings {shards : String → List Dict} {rows rows' : List Dict}
    (hown : OfProcesses shards) (h : Interleaving shards rows) (h' : Interleaving shards rows') :
    SameShards rows rows' :=
  ⟨h.perm h', fun u => (h.filter_eq hown.owns u).trans (h'.filter_eq hown.owns u).symm⟩

/-- The rows of the expected transfer are those of one process. -/
def TransferInOneShard (shards : String → List Dict) (expected : ExpectedH2DRecovery) : Prop :=
  ∀ u v, ∀ a ∈ shards u, ∀ b ∈ shards v, isTransferRow expected a = true →
    isTransferRow expected b = true → u = v

/-- The rows of the transfer come in one order. -/
theorem transferRows_eq {shards : String → List Dict} {rows rows' : List Dict}
    {expected : ExpectedH2DRecovery} (hown : OfProcesses shards)
    (hone : TransferInOneShard shards expected) (h : Interleaving shards rows)
    (h' : Interleaving shards rows') :
    rows.filter (isTransferRow expected) = rows'.filter (isTransferRow expected) := by
  cases hrows : rows.filter (isTransferRow expected) with
  | nil =>
    have hperm := (h.perm h').filter (isTransferRow expected)
    rw [hrows] at hperm
    exact (List.nil_perm.mp hperm).symm
  | cons first rest =>
    obtain ⟨hfirst, hp⟩ := List.mem_filter.mp (hrows ▸ List.mem_cons_self ..)
    obtain ⟨u, hu⟩ := h.mem_iff.mp hfirst
    -- every row of the transfer is of the process of the first
    have hprocess : ∀ {other}, Interleaving shards other →
        other.filter (isTransferRow expected) =
          (ofProcess u other).filter (isTransferRow expected) := by
      intro other hother
      rw [ofProcess, List.filter_filter]
      refine List.filter_congr fun row hrow => ?_
      cases hrowp : isTransferRow expected row with
      | false => rfl
      | true =>
        obtain ⟨v, hv⟩ := hother.mem_iff.mp hrow
        obtain rfl := hone u v first hu row hv hp hrowp
        rw [hown u row hv]
        rfl
    rw [← hrows, hprocess h, hprocess h', (SameShards.of_interleavings hown h h').ofProcess]

/-- The episode is accepted in any interleaving of the shards. -/
theorem EpisodeAccepted.interleaved {sha256 : Bytes → String}
    {baseRows baseRows' profileRows profileRows' : List Dict}
    {expected : ExpectedKVRecoveryEpisode} {h2d : NormalizedH2DRecovery} {data : List Dict}
    {chain : Chain} {submit done : Dict} (hbase : SameShards baseRows baseRows')
    (hprofile : SameShards profileRows profileRows')
    (htransfer : profileRows.filter (isTransferRow expected.h2d) =
      profileRows'.filter (isTransferRow expected.h2d))
    (hindex : eventIndex baseRows = .ok (ofType "event" baseRows))
    (h : EpisodeAccepted sha256 baseRows profileRows expected h2d data chain submit done) :
    ∃ data', EpisodeAccepted sha256 baseRows' profileRows' expected h2d data'
      chain submit done := by
  obtain ⟨data', hselected, hdata⟩ := filterOk_perm hprofile.perm h.selected
  refine ⟨data', ?_⟩
  exact
    { baseStarts := validateProcessRoster_perm hbase.perm h.baseStarts
      baseSummaries := validateProcessRoster_perm hbase.perm h.baseSummaries
      profileStarts := validateProcessRoster_perm hprofile.perm h.profileStarts
      profileSummaries := validateProcessRoster_perm hprofile.perm h.profileSummaries
      baseDigests := validateShardContentDigests_same hbase h.baseDigests
      profileDigests := validateShardContentDigests_same hprofile h.profileDigests
      noLoss := any_perm hprofile.perm h.noLoss
      ledgers := validateProfileLedgers_same hprofile h.ledgers
      selected := hselected
      recordIds := requireRecordIds_perm hdata h.recordIds
      milestones := episodeChain_perm (hdata.filter _) h.milestones
      walk := h.walk
      associations := h.associations
      resumed := (checkLaterPhase_perm hbase.perm hindex _ _ _).trans h.resumed
      firstCompute := (checkLaterPhase_perm hbase.perm hindex _ _ _).trans h.firstCompute
      transfer := by
        obtain ⟨-, hsubmit, hdone⟩ := transferPair_eq_ok.mp h.transfer
        refine transferPair_eq_ok.mpr ⟨?_, hsubmit, hdone⟩
        rw [← h.transferRows, htransfer, (filterOk_eq_ok.mp hselected).2, List.filter_filter]
        refine List.filter_congr fun row _ => ?_
        cases ht : isTransferRow expected.h2d row with
        | false => rfl
        | true => simp [isProfileData_of_transfer ht]
      evidence := h.evidence
      blocks := checkBlockSet_perm hdata h.blocks }

/-- **The interleaving of the shards does not matter**: two pairs of row lists
made of the same shards are accepted alike, with the same result. -/
theorem normalize_interleaving {sha256 : Bytes → String}
    {baseShards profileShards : String → List Dict}
    {baseRows baseRows' profileRows profileRows' : List Dict}
    {expected : ExpectedKVRecoveryEpisode} {complete : Bool}
    (hbase : OfProcesses baseShards) (hprofile : OfProcesses profileShards)
    (htransfer : TransferInOneShard profileShards expected.h2d)
    (hb : Interleaving baseShards baseRows) (hb' : Interleaving baseShards baseRows')
    (hp : Interleaving profileShards profileRows) (hp' : Interleaving profileShards profileRows')
    (episode : NormalizedKVRecoveryEpisode) :
    normalizeKvRecoveryEpisode sha256 baseRows profileRows expected complete = .ok episode ↔
      normalizeKvRecoveryEpisode sha256 baseRows' profileRows' expected complete = .ok episode := by
  have hone : ∀ {rows rows' other other' : List Dict}, Interleaving baseShards rows →
      Interleaving baseShards rows' → Interleaving profileShards other →
      Interleaving profileShards other' →
      normalizeKvRecoveryEpisode sha256 rows other expected complete = .ok episode →
      normalizeKvRecoveryEpisode sha256 rows' other' expected complete = .ok episode := by
    intro rows rows' other other' hr hr' ho ho' h
    obtain ⟨h2d, data, chain, submit, done, hh2d, hacc, rfl⟩ :=
      normalizeKvRecoveryEpisode_eq_ok.mp h
    obtain ⟨hcomplete, bridge, hbridge⟩ := normalizeH2dRecovery_eq_ok.mp hh2d
    have hbases := SameShards.of_interleavings hbase hr hr'
    obtain ⟨data', hacc'⟩ := hacc.interleaved hbases (SameShards.of_interleavings hprofile ho ho')
      (transferRows_eq hprofile htransfer ho ho') hbridge.eventIds
    exact normalizeKvRecoveryEpisode_eq_ok.mpr ⟨h2d, data', chain, submit, done,
      normalizeH2dRecovery_eq_ok.mpr ⟨hcomplete, bridge, hbridge.perm hbases.perm⟩, hacc', rfl⟩
  exact ⟨hone hb hb' hp hp', hone hb' hb hp' hp⟩

/-- Rows that all name a process interleave their shards. -/
theorem interleaving_ofProcess {rows : List Dict}
    (h : ∀ row ∈ rows, (row.get "process_uuid").isStr = true) :
    Interleaving (fun u => ofProcess u rows) rows := by
  refine Interleaving.of_filter (fun u (row : Dict) => row.has "process_uuid" u)
    (fun row => (asStr (row.get "process_uuid")).getD "") fun row hrow u => ?_
  have hstr := h row hrow
  cases hv : row.get "process_uuid" with
  | str s =>
    simp only [Dict.has, hv, Value.pyEq, asStr, Option.getD_some, Bool.beq_eq_decide_eq]
    exact decide_eq_decide.mpr eq_comm
  | _ =>
    rw [hv] at hstr
    cases hstr

theorem ofProcesses_ofProcess (rows : List Dict) : OfProcesses fun u => ofProcess u rows :=
  fun _ _ hrow => (List.mem_filter.mp hrow).2

/-- The base rows of the expected process in a run that a foreign row joins. -/
def ownRows : List Dict :=
  Sample.baseEvidence.eraseIdx 7 ++ [Sample.baseSummary 9 6 0 Sample.shorterBaseDigest]

/-- The foreign row may come first as well. -/
theorem normalize_interleaving_foreignFirst :
    normalizeKvRecoveryEpisode Sample.sha256 (foreignRow :: ownRows)
      (Sample.profileShard Sample.succeeded Sample.profileDigest) Sample.expected true =
      .ok Sample.episode := by
  have hown : ∀ row ∈ ownRows, row.has "process_uuid" Sample.process = true := by decide +kernel
  have hforeign : foreignRow.has "process_uuid" Sample.process = false ∧
      (foreignRow.get "process_uuid").isStr = true := by decide +kernel
  have hprofile : ∀ row ∈ Sample.profileShard Sample.succeeded Sample.profileDigest,
      row.has "process_uuid" Sample.process = true := by decide +kernel
  have hstr : ∀ row : Dict, row.has "process_uuid" Sample.process = true →
      (row.get "process_uuid").isStr = true := fun row h => by
    rw [Dict.has_iff.mp h]
    rfl
  have hb : Interleaving (fun u => ofProcess u foreignBase) foreignBase := by
    refine interleaving_ofProcess fun row hrow => ?_
    rcases List.mem_append.mp hrow with hrow | hrow
    · exact hstr row (hown row hrow)
    · exact List.mem_singleton.mp hrow ▸ hforeign.2
  have hb' : Interleaving (fun u => ofProcess u foreignBase) (foreignRow :: ownRows) := by
    have hrows : (fun u => ofProcess u foreignBase) =
      fun u => ofProcess u (foreignRow :: ownRows) := by
      funext u
      change (ownRows ++ [foreignRow]).filter _ = (foreignRow :: ownRows).filter _
      rw [List.filter_append]
      by_cases hu : foreignRow.has "process_uuid" u = true
      · have hnone : ownRows.filter (fun row => row.has "process_uuid" u) = [] := by
          refine List.filter_eq_nil_iff.mpr fun row hrow hboth => ?_
          rw [Dict.has_unique hboth (hown row hrow), hforeign.1] at hu
          cases hu
        simp only [List.filter_cons, List.filter_nil, hu, if_true, hnone, List.nil_append]
      · simp only [List.filter_cons, List.filter_nil, hu, Bool.false_eq_true, if_false,
          List.append_nil]
    rw [hrows]
    refine interleaving_ofProcess fun row hrow => ?_
    rcases List.mem_cons.mp hrow with rfl | hrow
    · exact hforeign.2
    · exact hstr row (hown row hrow)
  have hp := interleaving_ofProcess fun row hrow => hstr row (hprofile row hrow)
  refine (normalize_interleaving (ofProcesses_ofProcess _) (ofProcesses_ofProcess _) ?_ hb hb' hp hp
    _).mp foreignBase_accepted
  intro u v a ha b hb _ _
  obtain ⟨hina, hua⟩ := List.mem_filter.mp ha
  obtain ⟨hinb, hvb⟩ := List.mem_filter.mp hb
  rw [Dict.has_unique hua (hprofile a hina), Dict.has_unique hvb (hprofile b hinb)]

end LifecycleProfiler.Normalizer
