import Mathlib.Data.List.Chain
import Mathlib.Data.Prod.Lex
import LifecycleProfiler.Normalizer.Clock

/-! # The block set of an episode

The record builder orders the blocks inside one chunk, and the normalizer
checks that the chunks are contiguous and free of repetition. What the two leave
open is the order across a chunk boundary and the owner of the chunks. -/

namespace LifecycleProfiler.Normalizer
open Python Protocol

/-! ## The blocks of one chunk -/

/-- `(group_index, logical_ordinal)` of a block row, ordered as Python orders
pairs. -/
def coordinateOf : Value → Option (Nat ×ₗ Nat)
  | .dict block =>
    match asUint uint32Max (Dict.get block "group_index"),
      asUint uint64Max (Dict.get block "logical_ordinal") with
    | some group, some ordinal => some (toLex (group, ordinal))
    | _, _ => none
  | _ => none

def chunkCoordinates (row : Dict) : List (Nat ×ₗ Nat) :=
  match row.get "blocks" with
  | .list blocks => blocks.filterMap coordinateOf
  | _ => []

theorem pairLe_eq_false {p q : Nat × Nat} : pairLe q p = false ↔ toLex p < toLex q := by
  rw [Prod.Lex.toLex_lt_toLex, pairLe]
  simp only [Bool.or_eq_false_iff, Bool.and_eq_false_imp, decide_eq_false_iff_not, beq_iff_eq]
  omega

/-- Accepted block rows have strictly increasing coordinates. -/
theorem validateBlockRows_sorted {previous : Option (Nat × Nat)} {seen : List String}
    {blocks : List Value} (h : validateBlockRows previous seen blocks = .ok ()) :
    blocks.map coordinateOf = (blocks.filterMap coordinateOf).map some ∧
      ((previous.map toLex).toList ++ blocks.filterMap coordinateOf).IsChain (· < ·) := by
  induction blocks generalizing previous seen with
  | nil => cases previous <;> simp
  | cons block rest ih =>
    simp only [validateBlockRows, bind_eq_ok, exists_unit, raiseIf_eq_ok,
      requireStrictUint_eq_ok] at h
    obtain ⟨row, hrow, group, hgroup, ordinal, hordinal, logicalId, -, hprevious, -, hrest⟩ := h
    obtain rfl : block = .dict row := by
      unfold blockRow at hrow
      split at hrow
      · split at hrow <;> cases hrow
        rfl
      · cases hrow
    have hcoordinate : coordinateOf (.dict row) = some (toLex (group, ordinal)) := by
      rw [coordinateOf, asUint_eq_some.mpr hgroup, asUint_eq_some.mpr hordinal]
    obtain ⟨hmap, hchain⟩ := ih hrest
    refine ⟨by simp [hcoordinate, hmap], ?_⟩
    rw [List.filterMap_cons_some hcoordinate]
    cases previous with
    | none => exact hchain
    | some p =>
      rw [Option.any_some] at hprevious
      exact List.isChain_cons_cons.mpr ⟨pairLe_eq_false.mp hprevious, hchain⟩

/-- The blocks of a buildable chunk. -/
structure ChunkBlocks (row : Dict) (blocks : List Value) : Prop where
  eq : blocksOf row = .ok blocks
  coordinates : blocks.map coordinateOf = (chunkCoordinates row).map some
  ordered : (chunkCoordinates row).IsChain (· < ·)
  nonempty : chunkCoordinates row ≠ []

theorem Buildable.blocks {row : Dict} (h : Buildable row)
    (htype : row.has "record_type" "block_set_chunk" = true) :
    ∃ blocks, ChunkBlocks row blocks := by
  obtain ⟨processUuid, fields, hvalid, -, hsame⟩ := h.request .blockSetChunk htype (by decide)
  simp only [validateDataFields, bind_eq_ok, exists_unit, validateBlockFields] at hvalid
  obtain ⟨-, -, -, -, -, -, hblocks⟩ := hvalid
  split at hblocks
  · next blocks hget =>
    simp only [bind_eq_ok, exists_unit, raiseIf_eq_ok, Bool.not_eq_false', Bool.and_eq_true,
      decide_eq_true_eq] at hblocks
    obtain ⟨⟨hlength, -⟩, hrows⟩ := hblocks
    obtain ⟨hmap, hchain⟩ := validateBlockRows_sorted hrows
    rw [← hsame _ (by decide)] at hget
    have hlookup : row.lookup "blocks" = some (.list blocks) := by
      rw [Dict.get] at hget
      cases hfound : row.lookup "blocks" with
      | none =>
        rw [hfound] at hget
        cases hget
      | some v =>
        rw [hfound] at hget
        exact congrArg some hget
    have hcoordinates : chunkCoordinates row = blocks.filterMap coordinateOf := by
      rw [chunkCoordinates, hget]
    refine ⟨blocks, by rw [blocksOf, hlookup]; rfl, by rw [hcoordinates, hmap], ?_, fun hnil => ?_⟩
    · rw [hcoordinates]
      exact hchain
    · rw [← hcoordinates, hnil] at hmap
      rw [List.map_eq_nil_iff.mp hmap] at hlength
      cases hlength
  · cases hblocks

theorem Buildable.chunkIndex_isSome {row : Dict} (h : Buildable row)
    (htype : row.has "record_type" "block_set_chunk" = true) :
    (asUint uint32Max (row.get "chunk_index")).isSome = true := by
  obtain ⟨processUuid, fields, hvalid, -, hsame⟩ := h.request .blockSetChunk htype (by decide)
  simp only [validateDataFields, bind_eq_ok, exists_unit, validateBlockFields, validateChunk,
    requireStrictUint_eq_ok] at hvalid
  obtain ⟨-, -, -, total, ⟨index, hindex, -⟩, -⟩ := hvalid
  rw [hsame _ (by decide), asUint_eq_some.mpr hindex]
  rfl

/-- Chunks of one episode identifier have one lifecycle. -/
theorem Buildable.sameLifecycle {a b : Dict} {episode : String} (ha : Buildable a)
    (hb : Buildable b) (hta : a.has "record_type" "block_set_chunk" = true)
    (htb : b.has "record_type" "block_set_chunk" = true) (hea : a.has "episode_id" episode = true)
    (heb : b.has "episode_id" episode = true) :
    a.get "engine_lifecycle_id" = b.get "engine_lifecycle_id" := by
  have hform : ∀ row, Buildable row → row.has "record_type" "block_set_chunk" = true →
      row.has "episode_id" episode = true → ∃ traceId : String, ∃ epoch : Nat,
        (utf8 traceId).length = 32 ∧ row.get "engine_lifecycle_id" = .str s!"{traceId}:e:0" ∧
        episode = traceId ++ (":e:0" ++ (":k:" ++ toString epoch)) := by
    intro row hrow htype hepisode
    obtain ⟨processUuid, fields, -, hreq, hsame⟩ := hrow.request .blockSetChunk htype (by decide)
    rw [Dict.has_iff, hsame _ (by decide)] at hepisode
    rw [hsame _ (by decide)]
    simp only [validateRequestFields, bind_eq_ok, exists_unit, raiseIf_eq_ok, Bool.not_eq_false',
      Value.pyEq_str, requireHex_eq_ok] at hreq
    obtain ⟨traceId, ⟨-, hhex⟩, _, -, -, hlife, -, -, hepoch⟩ := hreq
    have hlength : (utf8 traceId).length = 32 := by
      rw [isHex, isHexBytes, Bool.and_eq_true, beq_iff_eq] at hhex
      exact hhex.1
    split at hepoch
    · rw [raiseIf_eq_ok, hepisode] at hepoch
      cases hepoch
    · simp only [bind_eq_ok, exists_unit, raiseIf_eq_ok, Bool.not_eq_false', Value.pyEq_str,
        hlife, formatted, hepisode, Value.str.injEq] at hepoch
      obtain ⟨epoch, -, -, hid⟩ := hepoch
      refine ⟨traceId, epoch, hlength, hlife, hid.trans ?_⟩
      exact String.append_assoc.trans String.append_assoc
  obtain ⟨s, m, hs, hlifeA, heqA⟩ := hform a ha hta hea
  obtain ⟨t, n, ht, hlifeB, heqB⟩ := hform b hb htb heb
  rw [hlifeA, hlifeB, eq_of_append_eq (hs.trans ht.symm) (heqA.symm.trans heqB)]

/-! ## The chunks of one set -/

/-- The concatenated blocks and their coordinates, chunk by chunk. -/
theorem concatBlocks_coordinates {chunks : List Dict}
    (h : ∀ row ∈ chunks, ∃ blocks, ChunkBlocks row blocks) {blocks : List Value}
    (hconcat : concatBlocks chunks = .ok blocks) :
    blocks.map coordinateOf = ((chunks.map chunkCoordinates).flatten).map some := by
  induction chunks generalizing blocks with
  | nil =>
    cases hconcat
    rfl
  | cons row rest ih =>
    simp only [concatBlocks, bind_eq_ok, pure_eq_ok] at hconcat
    obtain ⟨head, hhead, tail, htail, rfl⟩ := hconcat
    obtain ⟨found, hfound⟩ := h row (List.mem_cons_self ..)
    obtain rfl := Except.ok.inj (hhead.symm.trans hfound.eq)
    rw [List.map_append, hfound.coordinates,
      ih (fun other hother => h other (List.mem_cons_of_mem _ hother)) htail, ← List.map_append]
    rfl

/-- The owner of a chunk. -/
def ownerKeys : List String :=
  ["run_id", "runtime_request_id", "engine_lifecycle_id", "process_uuid"]

/-- The matching chunks in chunk order give one block list: strictly increasing,
of one owner and of the declared length. -/
structure CanonicalBlockSet (rows : List Dict) (expected : ExpectedH2DRecovery)
    (chunks : List Dict) (blocks : List Value) (coordinates : List (Nat ×ₗ Nat)) : Prop where
  inOrder : sortedByKey (·.get "chunk_index") (rows.filter (isBlockChunk expected)) = .ok chunks
  concatenated : concatBlocks chunks = .ok blocks
  located : blocks.map coordinateOf = coordinates.map some
  increasing : coordinates.Pairwise (· < ·)
  owned : ∀ key ∈ ownerKeys, ∀ a ∈ chunks, ∀ b ∈ chunks, a.get key = b.get key
  total : ∀ row ∈ chunks, row.hasNum "total_block_count" blocks.length = true

def chunkIndex (row : Dict) : Option Nat := asUint uint32Max (row.get "chunk_index")

/-- The next chunk starts behind the last block of the one before. -/
def Follows (rows : List Dict) (expected : ExpectedH2DRecovery) : Prop :=
  ∀ a ∈ rows, ∀ b ∈ rows, isBlockChunk expected a = true → isBlockChunk expected b = true →
    (∃ index, chunkIndex a = some index ∧ chunkIndex b = some (index + 1)) →
    ∀ last ∈ (chunkCoordinates a).getLast?, ∀ first ∈ (chunkCoordinates b).head?, last < first

/-- The matching chunks name one run, request and process. -/
def OneOwner (rows : List Dict) (expected : ExpectedH2DRecovery) : Prop :=
  ∀ key ∈ ["run_id", "runtime_request_id", "process_uuid"], ∀ a ∈ rows, ∀ b ∈ rows,
    isBlockChunk expected a = true → isBlockChunk expected b = true → a.get key = b.get key

/-- The checks a block set has passed. -/
structure ChunksAccepted (rows : List Dict) (expected : ExpectedH2DRecovery) (chunks : List Dict)
    (blocks : List Value) : Prop where
  inOrder : sortedByKey (·.get "chunk_index") (rows.filter (isBlockChunk expected)) = .ok chunks
  contiguous : eqRange (chunks.map (·.get "chunk_index")) chunks.length = true
  concatenated : concatBlocks chunks = .ok blocks
  total : ∀ row ∈ chunks, row.hasNum "total_block_count" blocks.length = true

theorem checkBlockSet_accepted {rows : List Dict} {expected : ExpectedH2DRecovery}
    (h : checkBlockSet expected rows = .ok ()) :
    ∃ chunks blocks, ChunksAccepted rows expected chunks blocks := by
  simp only [checkBlockSet, bind_eq_ok, exists_unit, raiseIf_eq_ok, Bool.not_eq_false',
    Bool.or_eq_false_iff, List.any_eq_false, Bool.not_eq_true] at h
  obtain ⟨-, chunks, hsorted, hrange, -, blocks, hconcat, ⟨-, htotal⟩, -⟩ := h
  exact ⟨chunks, blocks, hsorted, hrange, hconcat, htotal⟩

theorem ChunksAccepted.mem {rows : List Dict} {expected : ExpectedH2DRecovery}
    {chunks : List Dict} {blocks : List Value} (h : ChunksAccepted rows expected chunks blocks)
    {row : Dict} : row ∈ chunks ↔ row ∈ rows ∧ isBlockChunk expected row = true := by
  rw [(sortedByKey_perm h.inOrder).mem_iff, List.mem_filter]

/-- The chunk at a position has that index. -/
theorem ChunksAccepted.index {rows : List Dict} {expected : ExpectedH2DRecovery}
    {chunks : List Dict} {blocks : List Value} (h : ChunksAccepted rows expected chunks blocks)
    {i : Nat} (hi : i < chunks.length) {n : Nat} (hn : chunkIndex chunks[i] = some n) : n = i := by
  have hrange := eqRange_iff.mp h.contiguous
  have hat := congrArg (fun values => values[i]?) hrange
  obtain ⟨hint, -⟩ := asUint_eq_some.mp hn
  simp [rangeNums, hi, hint, Value.num?] at hat
  exact hat

/-- The boundary condition on the rows is the one on neighbours in chunk order. -/
theorem ChunksAccepted.follows_iff {rows : List Dict} {expected : ExpectedH2DRecovery}
    {chunks : List Dict} {blocks : List Value} (h : ChunksAccepted rows expected chunks blocks)
    (hindex : ∀ row ∈ chunks, (chunkIndex row).isSome = true) :
    Follows rows expected ↔ (chunks.map chunkCoordinates).IsChain fun c₁ c₂ =>
      ∀ last ∈ c₁.getLast?, ∀ first ∈ c₂.head?, last < first := by
  have hat : ∀ i (hi : i < chunks.length), chunkIndex chunks[i] = some i := by
    intro i hi
    obtain ⟨n, hn⟩ := Option.isSome_iff_exists.mp (hindex chunks[i] (List.getElem_mem hi))
    rw [hn, h.index hi hn]
  rw [List.isChain_iff_getElem]
  constructor
  · intro hfollows i hi
    simp only [List.length_map] at hi
    simp only [List.getElem_map]
    obtain ⟨hin, hp⟩ := h.mem.mp (List.getElem_mem (show i < chunks.length by omega))
    obtain ⟨hin', hp'⟩ := h.mem.mp (List.getElem_mem hi)
    exact hfollows _ hin _ hin' hp hp' ⟨i, hat i (by omega), hat (i + 1) hi⟩
  · rintro hchain a ha b hb hpa hpb ⟨index, hia, hib⟩
    obtain ⟨i, hi, rfl⟩ := List.mem_iff_getElem.mp (h.mem.mpr ⟨ha, hpa⟩)
    obtain ⟨j, hj, rfl⟩ := List.mem_iff_getElem.mp (h.mem.mpr ⟨hb, hpb⟩)
    have hii : index = i := h.index hi hia
    have hjj : index + 1 = j := h.index hj hib
    subst hii
    subst hjj
    have hnext := hchain index (by simpa using hj)
    simpa only [List.getElem_map] using hnext

section Accepted
variable {sha256 : Bytes → String} {baseRows profileRows : List Dict}
  {expected : ExpectedKVRecoveryEpisode} {complete : Bool} {h2d : NormalizedH2DRecovery}
  {data : List Dict} {chain : Chain} {submit done : Dict}

theorem isProfileData_of_chunk {row : Dict} (h : isBlockChunk expected.h2d row = true) :
    isProfileData row = .ok true := by
  simp only [isBlockChunk, Bool.and_eq_true] at h
  exact inSet_eq_true.mpr ⟨"block_set_chunk", by simp [profileCategories], Dict.has_iff.mp h.1.1⟩

/-- **When an accepted episode has a canonical block set**: exactly when each
chunk starts behind the last block of the one before, and the chunks name one
run, request and process. The order inside a chunk, the lifecycle and the length
are the work of the builder and the normalizer. -/
theorem canonical_block_set_iff {episode : NormalizedKVRecoveryEpisode}
    (h : normalizeKvRecoveryEpisode sha256 baseRows profileRows expected complete = .ok episode)
    (hbuild : ∀ row ∈ profileRows, isProfileData row = .ok true → Buildable row) :
    (∃ chunks blocks coordinates,
        CanonicalBlockSet profileRows expected.h2d chunks blocks coordinates) ↔
      Follows profileRows expected.h2d ∧ OneOwner profileRows expected.h2d := by
  obtain ⟨h2d, data, chain, submit, done, -, hacc, -⟩ := normalizeKvRecoveryEpisode_eq_ok.mp h
  have hsame : data.filter (isBlockChunk expected.h2d) =
      profileRows.filter (isBlockChunk expected.h2d) := by
    rw [hacc.data_eq, List.filter_filter]
    refine List.filter_congr fun row _ => ?_
    cases hp : isBlockChunk expected.h2d row with
    | false => rfl
    | true => simp [isProfileData_of_chunk hp]
  have hblocks := hacc.blocks
  unfold checkBlockSet at hblocks
  rw [hsame] at hblocks
  obtain ⟨chunks, blocks, hchunks⟩ : ∃ chunks blocks,
      ChunksAccepted profileRows expected.h2d chunks blocks := checkBlockSet_accepted hblocks
  have hbuilt : ∀ row ∈ chunks, Buildable row ∧ row.has "record_type" "block_set_chunk" = true ∧
      row.has "episode_id" (episodeId expected.h2d) = true := by
    intro row hrow
    obtain ⟨hin, hp⟩ := hchunks.mem.mp hrow
    have hdata := isProfileData_of_chunk hp
    simp only [isBlockChunk, Bool.and_eq_true] at hp
    exact ⟨hbuild row hin hdata, hp.1.1, hp.2⟩
  have hparts : ∀ row ∈ chunks, ∃ blocks, ChunkBlocks row blocks := fun row hrow =>
    (hbuilt row hrow).1.blocks (hbuilt row hrow).2.1
  have hlocated := concatBlocks_coordinates hparts hchunks.concatenated
  have hnonempty : [] ∉ chunks.map chunkCoordinates := by
    intro hnil
    obtain ⟨row, hrow, hempty⟩ := List.mem_map.mp hnil
    exact (hparts row hrow).elim fun _ hb => hb.nonempty hempty
  have hordered : ∀ l ∈ chunks.map chunkCoordinates, l.IsChain (· < ·) := by
    intro l hl
    obtain ⟨row, hrow, rfl⟩ := List.mem_map.mp hl
    exact (hparts row hrow).elim fun _ hb => hb.ordered
  have hfollows : Follows profileRows expected.h2d ↔
      ((chunks.map chunkCoordinates).flatten).Pairwise (· < ·) := by
    rw [hchunks.follows_iff fun row hrow => (hbuilt row hrow).1.chunkIndex_isSome
      (hbuilt row hrow).2.1, ← List.isChain_iff_pairwise, List.isChain_flatten hnonempty]
    exact (and_iff_right hordered).symm
  rw [hfollows]
  constructor
  · rintro ⟨chunks', blocks', coordinates, hcanonical⟩
    obtain rfl := Except.ok.inj (hcanonical.inOrder.symm.trans hchunks.inOrder)
    obtain rfl := Except.ok.inj (hcanonical.concatenated.symm.trans hchunks.concatenated)
    have hcoordinates := List.map_injective_iff.mpr (Option.some_injective _)
      (hcanonical.located.symm.trans hlocated)
    refine ⟨hcoordinates ▸ hcanonical.increasing, fun key hkey a ha b hb hpa hpb => ?_⟩
    refine hcanonical.owned key ?_ a (hchunks.mem.mpr ⟨ha, hpa⟩) b (hchunks.mem.mpr ⟨hb, hpb⟩)
    simp only [List.mem_cons, List.not_mem_nil, or_false, ownerKeys] at hkey ⊢
    tauto
  · rintro ⟨hincreasing, howner⟩
    refine ⟨chunks, blocks, _, hchunks.inOrder, hchunks.concatenated, hlocated, hincreasing,
      fun key hkey a ha b hb => ?_, hchunks.total⟩
    by_cases hlife : key = "engine_lifecycle_id"
    · obtain ⟨hba, hta, hea⟩ := hbuilt a ha
      obtain ⟨hbb, htb, heb⟩ := hbuilt b hb
      exact hlife ▸ hba.sameLifecycle hbb hta htb hea heb
    · obtain ⟨hina, hpa⟩ := hchunks.mem.mp ha
      obtain ⟨hinb, hpb⟩ := hchunks.mem.mp hb
      refine howner key ?_ a hina b hinb hpa hpb
      simp only [List.mem_cons, List.not_mem_nil, or_false, ownerKeys] at hkey ⊢
      tauto

end Accepted

/-! ## A block set in the wrong order -/

namespace Sample

/-- One of two chunks, with one block. -/
def chunkOfTwo (index ordinal : Nat) (logicalBlockId : String) : Dict :=
  requestValues ++
    [("block_set_id", .str blockSetId), ("chunk_index", .int index), ("chunk_count", .int 2),
     ("total_block_count", .int 2),
     ("blocks", .list [.dict [("group_index", .int 0), ("logical_ordinal", .int ordinal),
       ("logical_block_id", .str logicalBlockId)]])]

/-- The profile data with its blocks in two chunks, the later block first. -/
def reversedData : List (ProfileRecordType × Nat × Dict) :=
  (profileData succeeded).set 1
      (.blockSetChunk, 190, chunkOfTwo 0 1 "0f0f0f0f0f0f0f0f0f0f0f0f0f0f0f0f") ++
    [(.blockSetChunk, 600, chunkOfTwo 1 0 "0d0d0d0d0d0d0d0d0d0d0d0d0d0d0d0d")]

def reversedRows : List Dict :=
  reversedData.mapIdx fun i d => profileDataRecord d.1 process i d.2.1 clockDomain config d.2.2

def reversedDigest : String := "69cae441d8dccc481aac618353721d3fd4e6219adcc3dd5261d106ee420f3513"

def reversedCounts : ProfileRecordType → Nat
  | .blockSetChunk => 2
  | t => profileCounts t

def reversedStart : Dict :=
  built (buildProfileStartRecord process 7 (.int 90) clockDomain provenance config)

def reversedSummary : Dict :=
  built (buildProfileSummaryRecord process (.int 900) 10 reversedCounts 0 0 0 0 .drained
    reversedDigest)

def reversedShard : List Dict := reversedStart :: reversedRows ++ [reversedSummary]

end Sample

theorem reversedShard_accepted :
    normalizeKvRecoveryEpisode (Sample.sha256Of Sample.reversedDigest) cleanBase
      Sample.reversedShard Sample.expected true = .ok Sample.episode := by
  decide +kernel

theorem reversedShard_buildable :
    ∀ row ∈ Sample.reversedShard, isProfileData row = .ok true → Buildable row := by
  have hok : ∀ i (h : i < Sample.reversedData.length),
      (buildProfileDataRecord (Sample.reversedData[i]).1 Sample.process i
        (Sample.reversedData[i]).2.1 Sample.clockDomain Sample.config
        (Sample.reversedData[i]).2.2).isOk = true := by
    decide +kernel
  have hstart : isProfileData Sample.reversedStart ≠ .ok true := by decide +kernel
  have hsummary : isProfileData Sample.reversedSummary ≠ .ok true := by decide +kernel
  intro row hrow hdata
  rw [Sample.reversedShard, List.mem_append, List.mem_cons, List.mem_singleton, Sample.reversedRows,
    List.mem_mapIdx] at hrow
  rcases hrow with (hrow | ⟨i, hi, hrow⟩) | hrow
  · exact absurd (hrow ▸ hdata) hstart
  · exact hrow ▸ buildable_of_isOk (hok i hi)
  · exact absurd (hrow ▸ hdata) hsummary

/-- An episode is accepted whose second chunk comes before the first. -/
theorem accepted_with_reversed_blocks :
    normalizeKvRecoveryEpisode (Sample.sha256Of Sample.reversedDigest) cleanBase
      Sample.reversedShard Sample.expected true = .ok Sample.episode ∧
    (∀ row ∈ Sample.reversedShard, isProfileData row = .ok true → Buildable row) ∧
    ¬ ∃ chunks blocks coordinates,
      CanonicalBlockSet Sample.reversedShard Sample.expected.h2d chunks blocks coordinates := by
  refine ⟨reversedShard_accepted, reversedShard_buildable, ?_⟩
  rintro ⟨chunks, blocks, coordinates, h⟩
  have hblocks : ((sortedByKey (·.get "chunk_index")
      (Sample.reversedShard.filter (isBlockChunk Sample.expected.h2d))).bind concatBlocks).map
      (·.map coordinateOf) = .ok ([toLex (0, 1), toLex (0, 0)].map some) := by
    decide +kernel
  rw [h.inOrder, Except.bind, h.concatenated, Except.map, h.located, Except.ok.injEq] at hblocks
  have hcoordinates := List.map_injective_iff.mpr (Option.some_injective _) hblocks
  have hincreasing := h.increasing
  rw [hcoordinates] at hincreasing
  exact absurd hincreasing (by decide)

theorem canonical_block_set_iff_reversed :
    (∃ chunks blocks coordinates,
        CanonicalBlockSet Sample.reversedShard Sample.expected.h2d chunks blocks coordinates) ↔
      Follows Sample.reversedShard Sample.expected.h2d ∧
        OneOwner Sample.reversedShard Sample.expected.h2d :=
  canonical_block_set_iff reversedShard_accepted reversedShard_buildable

end LifecycleProfiler.Normalizer
