import Mathlib.Data.List.ProdSigma
import LifecycleProfiler.General.KeyOrder
import LifecycleProfiler.General.Slices
import LifecycleProfiler.Workload.Conversations
import LifecycleProfiler.Workload.Execution

/-! # The partition of the workload

`build_oasst1_repetitions` and `build_projection_manifest` of
`oasst1_workload`: the longest candidates are dealt out to the repetitions in
turn, and their requests are projected for the execution manifest. -/

namespace LifecycleProfiler.Workload
open Python General

structure Oasst1Request where
  requestId : String
  repetition : Nat
  ordinal : Nat
  messageTreeId : String
  sourceMessageId : String
  promptCharCount : Nat
  messages : List ChatMessage
  maxOutputTokens : Nat := 192
  temperature : Value := .float 0 "0.0"

/-- A line of the file, decoded where it is a document. -/
def lineCandidate (frames : Nat) (line : Option Value) (lineNumber : Nat) :
    Except PyError (Option Candidate) :=
  match line with
  | none => .error (.valueError s!"invalid OASST1 JSON on line {lineNumber}")
  | some (.dict tree) => bestCandidate frames tree
  | some _ => .error (.typeError s!"OASST1 line {lineNumber} is not an object")

def loadOasst1Candidates (frames : Nat) (lines : List (Option Value)) :
    Except PyError (List Candidate) := do
  let best ← (lines.zipIdx 1).mapM fun line => lineCandidate frames line.1 line.2
  return best.filterMap id

/-- `(-item.prompt_char_count, item.message_tree_id, item.source_message_id)` -/
def candidateOrder (c : Candidate) : ℤ ×ₗ String ×ₗ String :=
  toLex (-(c.promptCharCount : ℤ), toLex (c.messageTreeId, c.sourceMessageId))

/-- `(item.message_tree_id, item.source_message_id)` -/
def requestOrder (c : Candidate) : String ×ₗ String := toLex (c.messageTreeId, c.sourceMessageId)

def requestOf (repetition ordinal : Nat) (c : Candidate) : Oasst1Request where
  requestId := s!"issue19-oasst1-r{zeroPad 2 repetition}-{zeroPad 3 ordinal}-{c.sourceMessageId}"
  repetition := repetition
  ordinal := ordinal
  messageTreeId := c.messageTreeId
  sourceMessageId := c.sourceMessageId
  promptCharCount := c.promptCharCount
  messages := c.messages

/-- The candidate a request was made of. -/
def Oasst1Request.candidate (request : Oasst1Request) : Candidate :=
  ⟨request.messageTreeId, request.sourceMessageId, request.promptCharCount, request.messages⟩

/-- The requests of one repetition. -/
def requestsOfRepetition (pool : List Candidate) (repetitions repetition : Nat) :
    List Oasst1Request :=
  (sortedBy requestOrder (slice pool repetition repetitions)).zipIdx.map fun item =>
    requestOf repetition item.2 item.1

/-- The repetitions of the candidates. The assertion keeps its text. -/
def repetitionsOf (candidates : List Candidate)
    (poolSize repetitions requestsPerRepetition : Nat) :
    Except PyError (List (List Oasst1Request)) := do
  let candidates := sortedBy candidateOrder candidates
  raiseIf (decide (candidates.length < poolSize))
    s!"OASST1 projection needs {poolSize} trees, found {candidates.length}"
  let pool := candidates.take poolSize
  (List.range repetitions).mapM fun repetition => do
    let requests := requestsOfRepetition pool repetitions repetition
    raiseIf (requests.length != requestsPerRepetition)
      "deterministic OASST1 partition produced a wrong size"
    return requests

/-- `verified` is what the check of the pinned source comes to. -/
def buildOasst1Repetitions (frames : Nat) (lines : List (Option Value))
    (poolSize repetitions requestsPerRepetition : Nat) (verified : Except PyError Unit) :
    Except PyError (List (List Oasst1Request)) := do
  raiseIf (poolSize != repetitions * requestsPerRepetition)
    "pool size must equal repetitions times requests per repetition"
  verified
  let candidates ← loadOasst1Candidates frames lines
  repetitionsOf candidates poolSize repetitions requestsPerRepetition

def Oasst1Request.row (request : Oasst1Request) : Dict :=
  [("request_id", .str request.requestId), ("repetition", .int request.repetition),
   ("ordinal", .int request.ordinal), ("message_tree_id", .str request.messageTreeId),
   ("source_message_id", .str request.sourceMessageId),
   ("prompt_char_count", .int request.promptCharCount),
   ("max_output_tokens", .int request.maxOutputTokens), ("temperature", request.temperature)]

def collectRows : List Oasst1Request → List String → Except PyError (List Dict)
  | [], _ => .ok []
  | request :: rest, seenTreeIds => do
    raiseIf (seenTreeIds.contains request.messageTreeId)
      "OASST1 projection contains a duplicate tree"
    let rows ← collectRows rest (request.messageTreeId :: seenTreeIds)
    return request.row :: rows

def buildProjectionManifest (repetitions : List (List Oasst1Request)) : Except PyError Dict := do
  let requests ← collectRows repetitions.flatten []
  return [("data_source", .str "OpenAssistant/oasst1"), ("data_revision", .str oasst1Revision),
    ("data_file", .str "2023-04-12_oasst_ready.trees.jsonl.gz"),
    ("projection_version", .str "oasst1-longest-safe-en-v1"),
    ("repetition_count", .int repetitions.length), ("request_count", .int requests.length),
    ("requests", .list (requests.map .dict))]

/-! ## The file -/

/-- A line that yields its best candidate, if any. -/
def Loads (frames : Nat) (line : Option Value) : Prop :=
  ∃ best, lineCandidate frames line 0 = .ok best

/-- What a line that loads yields. -/
def bestOf (frames : Nat) (line : Option Value) : Option Candidate :=
  match lineCandidate frames line 0 with
  | .ok best => best
  | .error _ => none

/-- The number of a line is only told when it does not load. -/
theorem lineCandidate_eq_ok {frames lineNumber : Nat} {line : Option Value}
    {best : Option Candidate} : lineCandidate frames line lineNumber = .ok best ↔
      Loads frames line ∧ best = bestOf frames line := by
  have hsame : lineCandidate frames line lineNumber = .ok best ↔
      lineCandidate frames line 0 = .ok best := by
    unfold lineCandidate
    split <;> simp
  rw [hsame]
  unfold Loads bestOf
  cases lineCandidate frames line 0 <;> simp [eq_comm]

theorem loadOasst1Candidates_eq_ok {frames : Nat} {lines : List (Option Value)}
    {candidates : List Candidate} : loadOasst1Candidates frames lines = .ok candidates ↔
      (∀ line ∈ lines, Loads frames line) ∧ candidates = lines.filterMap (bestOf frames) := by
  have hlines : (lines.zipIdx 1).map (·.1) = lines := List.zipIdx_map_fst 1 lines
  have hmap : ∀ best, (lines.zipIdx 1).mapM (fun line => lineCandidate frames line.1 line.2) =
      .ok best ↔ (∀ line ∈ lines.zipIdx 1, Loads frames line.1) ∧
        best = (lines.zipIdx 1).map fun line => bestOf frames line.1 :=
    fun best => mapM_eq_ok fun line _ _ => lineCandidate_eq_ok
  have hloads : (∀ line ∈ lines.zipIdx 1, Loads frames line.1) ↔
      ∀ line ∈ lines, Loads frames line := by
    conv_rhs => rw [← hlines]
    rw [List.forall_mem_map]
  have hbest : ((lines.zipIdx 1).map fun line => bestOf frames line.1).filterMap id =
      lines.filterMap (bestOf frames) := by
    conv_rhs => rw [← hlines]
    rw [List.filterMap_map, List.filterMap_map]
    rfl
  rw [loadOasst1Candidates, bind_eq_ok]
  simp only [hmap, hloads, pure_eq_ok]
  constructor
  · rintro ⟨_, ⟨hall, rfl⟩, rfl⟩
    exact ⟨hall, hbest⟩
  · rintro ⟨hall, rfl⟩
    exact ⟨_, ⟨hall, rfl⟩, hbest⟩

/-- A file with its lines in another order loads the same candidates. -/
theorem load_perm {frames : Nat} {lines others : List (Option Value)} {candidates : List Candidate}
    (h : loadOasst1Candidates frames lines = .ok candidates) (hperm : others.Perm lines) :
    ∃ candidates', loadOasst1Candidates frames others = .ok candidates' ∧
      candidates'.Perm candidates := by
  obtain ⟨hall, rfl⟩ := loadOasst1Candidates_eq_ok.mp h
  exact ⟨_, loadOasst1Candidates_eq_ok.mpr ⟨fun line hline => hall line (hperm.mem_iff.mp hline),
    rfl⟩, hperm.filterMap _⟩

/-! ## The deal -/

theorem candidate_requestOf (repetition ordinal : Nat) (c : Candidate) :
    (requestOf repetition ordinal c).candidate = c := rfl

/-- A repetition deals with its slice of the pool. -/
theorem candidates_requestsOfRepetition (pool : List Candidate) (repetitions repetition : Nat) :
    (requestsOfRepetition pool repetitions repetition).map Oasst1Request.candidate =
      sortedBy requestOrder (slice pool repetition repetitions) := by
  rw [requestsOfRepetition, List.map_map]
  exact List.zipIdx_map_fst 0 _

theorem length_requestsOfRepetition {pool : List Candidate} {repetitions repetition count : Nat}
    (hrepetition : repetition < repetitions) (hpool : pool.length = repetitions * count) :
    (requestsOfRepetition pool repetitions repetition).length = count := by
  rw [requestsOfRepetition, List.length_map, List.length_zipIdx, length_sortedBy,
    length_slice hrepetition hpool]

/-- What places a request, in the order of the deal. -/
theorem places_requestsOfRepetition {pool : List Candidate} {repetitions repetition count : Nat}
    (hrepetition : repetition < repetitions) (hpool : pool.length = repetitions * count) :
    (requestsOfRepetition pool repetitions repetition).map (fun q => (q.repetition, q.ordinal)) =
      (List.range count).map fun ordinal => (repetition, ordinal) := by
  have hsnd : (sortedBy requestOrder (slice pool repetition repetitions)).zipIdx.map (·.2) =
      List.range count := by
    rw [List.zipIdx_map_snd, length_sortedBy, length_slice hrepetition hpool, List.range_eq_range']
  rw [requestsOfRepetition, List.map_map, ← hsnd, List.map_map]
  rfl

theorem mem_requestsOfRepetition {pool : List Candidate} {repetitions repetition : Nat}
    {request : Oasst1Request} (h : request ∈ requestsOfRepetition pool repetitions repetition) :
    ∃ repetition ordinal c, request = requestOf repetition ordinal c := by
  obtain ⟨item, -, rfl⟩ := List.mem_map.mp h
  exact ⟨_, _, _, rfl⟩

theorem toList_requestId (repetition ordinal : Nat) (c : Candidate) :
    (requestOf repetition ordinal c).requestId.toList = "issue19-oasst1-r".toList ++
      ((zeroPad 2 repetition).toList ++ '-' ::
        ((zeroPad 3 ordinal).toList ++ '-' :: c.sourceMessageId.toList)) := by
  change ("issue19-oasst1-r" ++ zeroPad 2 repetition ++ "-" ++ zeroPad 3 ordinal ++ "-" ++
    c.sourceMessageId).toList = _
  simp only [String.toList_append, List.append_assoc]
  rfl

theorem eq_of_dash {width n n' : Nat} {rest rest' : List Char}
    (h : (zeroPad width n).toList ++ '-' :: rest = (zeroPad width n').toList ++ '-' :: rest') :
    n = n' ∧ rest = rest' := by
  have hdash : ∀ n, '-' ∉ (zeroPad width n).toList :=
    fun n hmem => absurd (isDigit_of_mem_zeroPad hmem) (by decide)
  obtain ⟨hpad, hrest⟩ := eq_of_append_separator (hdash n) (hdash n') h
  exact ⟨zeroPad_injective (String.toList_inj.mp hpad), hrest⟩

/-- The id of a request places it. -/
theorem placed_of_requestId {repetition ordinal repetition' ordinal' : Nat} {c c' : Candidate}
    (h : (requestOf repetition ordinal c).requestId =
      (requestOf repetition' ordinal' c').requestId) :
    repetition = repetition' ∧ ordinal = ordinal' := by
  have hlist := congrArg String.toList h
  rw [toList_requestId, toList_requestId] at hlist
  obtain ⟨hrepetition, hrest⟩ := eq_of_dash (List.append_cancel_left hlist)
  exact ⟨hrepetition, (eq_of_dash hrest).1⟩

/-- What the repetitions are promised to be. -/
structure Partitions (candidates : List Candidate) (repetitions requestsPerRepetition : Nat)
    (grouped : List (List Oasst1Request)) : Prop where
  count : grouped.length = repetitions
  sizes : ∀ requests ∈ grouped, requests.length = requestsPerRepetition
  disjoint : grouped.Pairwise fun requests others =>
    ∀ a ∈ requests, ∀ b ∈ others, a.messageTreeId ≠ b.messageTreeId
  least : ∃ rest, (grouped.flatten.map Oasst1Request.candidate ++ rest).Perm candidates ∧
    ∀ a ∈ grouped.flatten.map Oasst1Request.candidate, ∀ b ∈ rest,
      candidateOrder a < candidateOrder b
  requestIds : (grouped.flatten.map (·.requestId)).Nodup

/-- The repetitions in turn. -/
def dealt (pool : List Candidate) (repetitions : Nat) : List (List Oasst1Request) :=
  (List.range repetitions).map (requestsOfRepetition pool repetitions)

/-- The deal is of the whole pool. -/
theorem dealt_perm (pool : List Candidate) {repetitions : Nat} (h : 0 < repetitions) :
    ((dealt pool repetitions).flatten.map Oasst1Request.candidate).Perm pool := by
  have hdeal : (dealt pool repetitions).flatten.map Oasst1Request.candidate =
      (List.range repetitions).flatMap fun repetition =>
        sortedBy requestOrder (slice pool repetition repetitions) := by
    rw [dealt, List.map_flatten, List.map_map, List.flatMap_def]
    exact congrArg List.flatten (List.map_congr_left fun repetition _ =>
      candidates_requestsOfRepetition pool repetitions repetition)
  rw [hdeal]
  refine List.Perm.trans ?_ (flatMap_slice_perm pool h)
  exact List.Perm.flatMap_left _ fun repetition _ => sortedBy_perm requestOrder _

theorem dealt_places {pool : List Candidate} {repetitions count : Nat}
    (hpool : pool.length = repetitions * count) :
    (dealt pool repetitions).flatten.map (fun q => (q.repetition, q.ordinal)) =
      List.range repetitions ×ˢ List.range count := by
  rw [dealt, List.map_flatten, List.map_map]
  refine congrArg List.flatten (List.map_congr_left fun repetition hrepetition => ?_)
  exact places_requestsOfRepetition (List.mem_range.mp hrepetition) hpool

theorem dealt_requestIds {pool : List Candidate} {repetitions count : Nat}
    (hpool : pool.length = repetitions * count) :
    ((dealt pool repetitions).flatten.map (·.requestId)).Nodup := by
  have hplaces : ((dealt pool repetitions).flatten.map
      fun q => (q.repetition, q.ordinal)).Nodup := by
    rw [dealt_places hpool]
    exact List.nodup_range.product List.nodup_range
  have hmade : ∀ q ∈ (dealt pool repetitions).flatten, ∃ r o c, q = requestOf r o c := by
    intro q hq
    obtain ⟨requests, hrequests, hq⟩ := List.mem_flatten.mp hq
    obtain ⟨repetition, -, rfl⟩ := List.mem_map.mp hrequests
    exact mem_requestsOfRepetition hq
  refine List.pairwise_map.mpr ((List.pairwise_map.mp hplaces).imp_of_mem ?_)
  intro q q' hq hq' hne hid
  obtain ⟨r, o, c, rfl⟩ := hmade q hq
  obtain ⟨r', o', c', rfl⟩ := hmade q' hq'
  obtain ⟨rfl, rfl⟩ := placed_of_requestId hid
  exact hne rfl

theorem candidateOrder_injective {candidates : List Candidate}
    (h : (candidates.map (·.messageTreeId)).Nodup) :
    ∀ a ∈ candidates, ∀ b ∈ candidates, candidateOrder a = candidateOrder b → a = b := by
  intro a ha b hb heq
  exact List.inj_on_of_nodup_map h ha hb
    (congrArg (fun order => (ofLex (ofLex order).2).1) heq)

/-- What is dealt out is least, whatever the order of the candidates. -/
theorem least_sorted {candidates : List Candidate}
    (h : (candidates.map (·.messageTreeId)).Nodup) (size : Nat) :
    ∀ a ∈ (sortedBy candidateOrder candidates).take size,
      ∀ b ∈ (sortedBy candidateOrder candidates).drop size,
        candidateOrder a < candidateOrder b := by
  have hsorted := sortedBy_pairwise candidateOrder candidates
  have hnodup : (sortedBy candidateOrder candidates).Nodup :=
    (sortedBy_perm candidateOrder candidates).nodup_iff.mpr h.of_map
  rw [← List.take_append_drop size (sortedBy candidateOrder candidates)] at hsorted hnodup
  intro a ha b hb
  have hle := (List.pairwise_append.mp hsorted).2.2 a ha b hb
  refine lt_of_le_of_ne hle fun heq => ?_
  have hmem : ∀ {c}, c ∈ (sortedBy candidateOrder candidates) → c ∈ candidates :=
    (mem_sortedBy candidateOrder).mp
  have hab := candidateOrder_injective h a (hmem (List.mem_of_mem_take ha)) b
    (hmem (List.mem_of_mem_drop hb)) heq
  exact (List.pairwise_append.mp hnodup).2.2 a ha b hb hab

theorem dealt_partitions {candidates : List Candidate} {repetitions count : Nat}
    (hdistinct : (candidates.map (·.messageTreeId)).Nodup) (hpositive : 0 < repetitions)
    (hlength : repetitions * count ≤ candidates.length) :
    Partitions candidates repetitions count
      (dealt ((sortedBy candidateOrder candidates).take (repetitions * count)) repetitions) := by
  have hpool : ((sortedBy candidateOrder candidates).take (repetitions * count)).length =
      repetitions * count := by
    rw [List.length_take, length_sortedBy, Nat.min_eq_left hlength]
  have hperm := dealt_perm ((sortedBy candidateOrder candidates).take (repetitions * count))
    hpositive
  refine ⟨by simp [dealt], fun requests hrequests => ?_, ?_,
    ⟨(sortedBy candidateOrder candidates).drop (repetitions * count), ?_, ?_⟩,
    dealt_requestIds hpool⟩
  · obtain ⟨repetition, hrepetition, rfl⟩ := List.mem_map.mp hrequests
    exact length_requestsOfRepetition (List.mem_range.mp hrepetition) hpool
  · have htrees : ((dealt ((sortedBy candidateOrder candidates).take (repetitions * count))
        repetitions).flatten.map (·.messageTreeId)).Nodup := by
      have hsorted := ((sortedBy_perm candidateOrder candidates).map
        Candidate.messageTreeId).nodup_iff.mpr hdistinct
      have htaken := hsorted.sublist
        ((List.take_sublist (repetitions * count) _).map Candidate.messageTreeId)
      have hdealt := (hperm.map Candidate.messageTreeId).nodup_iff.mpr htaken
      rwa [List.map_map] at hdealt
    rw [List.map_flatten, List.nodup_flatten, List.pairwise_map] at htrees
    refine htrees.2.imp fun hdisjoint a ha b hb heq => ?_
    exact hdisjoint (List.mem_map_of_mem ha) (heq ▸ List.mem_map_of_mem hb)
  · exact (hperm.append_right _).trans
      ((List.take_append_drop _ _).symm ▸ sortedBy_perm candidateOrder candidates)
  · exact fun a ha b hb => least_sorted hdistinct _ a (hperm.mem_iff.mp ha) b hb

/-- No error is raised on enough candidates. -/
theorem repetitionsOf_eq {candidates : List Candidate} {repetitions count : Nat}
    (hlength : repetitions * count ≤ candidates.length) :
    repetitionsOf candidates (repetitions * count) repetitions count =
      .ok (dealt ((sortedBy candidateOrder candidates).take (repetitions * count))
        repetitions) := by
  have hpool : ((sortedBy candidateOrder candidates).take (repetitions * count)).length =
      repetitions * count := by
    rw [List.length_take, length_sortedBy, Nat.min_eq_left hlength]
  have henough : decide ((sortedBy candidateOrder candidates).length < repetitions * count) =
      false := by
    rw [length_sortedBy]
    simpa using hlength
  rw [repetitionsOf, henough, raiseIf_false, ok_bind]
  refine mapM_of_forall₂ (List.forall₂_map_right_iff.mpr (List.forall₂_same.mpr
    fun repetition hrepetition => ?_))
  have hsize := length_requestsOfRepetition (List.mem_range.mp hrepetition) hpool
  dsimp only
  rw [hsize, bne_self_eq_false, raiseIf_false, ok_bind]
  rfl

/-! ## The projection -/

theorem collectRows_total {requests : List Oasst1Request} {seenTreeIds : List String}
    (h : (requests.map (·.messageTreeId)).Nodup)
    (hseen : ∀ request ∈ requests, request.messageTreeId ∉ seenTreeIds) :
    collectRows requests seenTreeIds = .ok (requests.map Oasst1Request.row) := by
  induction requests generalizing seenTreeIds with
  | nil => rfl
  | cons request rest ih =>
    rw [List.map_cons, List.nodup_cons] at h
    obtain ⟨hfirst, hrest⟩ := List.forall_mem_cons.mp hseen
    have hnew : seenTreeIds.contains request.messageTreeId = false := by simpa using hfirst
    rw [collectRows, hnew, raiseIf_false, ok_bind, ih h.2 ?_, ok_bind]
    · rfl
    · intro other hother
      rw [List.mem_cons, not_or]
      refine ⟨fun heq => h.1 ?_, hrest other hother⟩
      exact heq ▸ List.mem_map_of_mem hother

theorem getElem?_requestsOfRepetition (pool : List Candidate) (repetitions repetition ordinal : Nat) :
    (requestsOfRepetition pool repetitions repetition)[ordinal]? =
      (sortedBy requestOrder (slice pool repetition repetitions))[ordinal]?.map
        (requestOf repetition ordinal) := by
  rw [requestsOfRepetition, List.getElem?_map, List.getElem?_zipIdx, Option.map_map, Nat.zero_add]
  rfl

/-- The row of a place. -/
def rowAt (pool : List Candidate) (repetitions repetition ordinal : Nat) : Dict :=
  ((requestsOfRepetition pool repetitions repetition)[ordinal]?.map Oasst1Request.row).getD []

theorem rowAt_eq {pool : List Candidate} {repetitions count : Nat}
    (hpool : pool.length = repetitions * count) {repetition ordinal : Nat}
    (hrepetition : repetition < repetitions) (hordinal : ordinal < count) :
    ∃ c, rowAt pool repetitions repetition ordinal = (requestOf repetition ordinal c).row := by
  have hlength := length_slice hrepetition hpool
  have hlt : ordinal < (sortedBy requestOrder (slice pool repetition repetitions)).length := by
    rwa [length_sortedBy, hlength]
  rw [rowAt, getElem?_requestsOfRepetition, List.getElem?_eq_getElem hlt]
  exact ⟨_, rfl⟩

theorem rows_dealt {pool : List Candidate} (hpool : pool.length = 10 * 64) :
    (dealt pool 10).flatten.map Oasst1Request.row = laidOutRows (rowAt pool 10) := by
  rw [dealt, List.map_flatten, List.map_map, laidOutRows, List.flatMap_def]
  refine congrArg List.flatten (List.map_congr_left fun repetition hrepetition => ?_)
  have hlength := length_requestsOfRepetition (List.mem_range.mp hrepetition) hpool
  change (requestsOfRepetition pool 10 repetition).map Oasst1Request.row = _
  refine List.ext_getElem (by simp [hlength]) fun ordinal hleft _ => ?_
  rw [List.length_map] at hleft
  simp [rowAt, List.getElem?_eq_getElem hleft]

/-- The projection of ten repetitions of 64 requests is accepted. -/
theorem projection_accepted {pool : List Candidate} (hpool : pool.length = 10 * 64)
    (hdistinct : (pool.map (·.messageTreeId)).Nodup) : ∃ projection m,
      buildProjectionManifest (dealt pool 10) = .ok projection ∧
        buildExecutionManifest projection = .ok m := by
  have htrees : ((dealt pool 10).flatten.map (·.messageTreeId)).Nodup := by
    have hdealt := ((dealt_perm pool (show 0 < 10 by decide)).map Candidate.messageTreeId).nodup_iff.mpr
      hdistinct
    rwa [List.map_map] at hdealt
  have hrows : collectRows (dealt pool 10).flatten [] = .ok (laidOutRows (rowAt pool 10)) := by
    rw [collectRows_total htrees (by simp), rows_dealt hpool]
  have hplaces : Places (rowAt pool 10) := by
    refine ⟨fun r hr o ho => ?_, fun r hr o ho => ?_, fun r hr o ho => ?_⟩ <;>
      obtain ⟨c, hc⟩ := rowAt_eq hpool hr ho <;> rw [hc]
    · rfl
    · rfl
    · exact ⟨_, rfl⟩
  obtain ⟨projection, hprojection, hrevision, hrequests⟩ : ∃ projection,
      buildProjectionManifest (dealt pool 10) = .ok projection ∧
        projection.has "data_revision" oasst1Revision = true ∧
        projection.get "requests" = .list ((laidOutRows (rowAt pool 10)).map .dict) := by
    rw [buildProjectionManifest, hrows, ok_bind]
    exact ⟨_, rfl, Dict.has_iff.mpr rfl, rfl⟩
  obtain ⟨m, hm⟩ := build_of_places hplaces hrevision hrequests
  exact ⟨projection, m, hprojection, hm⟩

/-- **The workload is partitioned.** Enough candidates of pairwise different
trees are dealt out without an error, whatever the order of the file, and the
deal of the default sizes makes an execution manifest. -/
theorem workload_partition {candidates : List Candidate}
    {poolSize repetitions requestsPerRepetition : Nat}
    (hdistinct : (candidates.map (·.messageTreeId)).Nodup)
    (hpositive : 0 < repetitions ∧ 0 < requestsPerRepetition)
    (hpool : poolSize = repetitions * requestsPerRepetition)
    (henough : poolSize ≤ candidates.length) :
    ∃ grouped, repetitionsOf candidates poolSize repetitions requestsPerRepetition = .ok grouped ∧
      Partitions candidates repetitions requestsPerRepetition grouped ∧
      (∀ (frames : Nat) (lines others : List (Option Value)),
        loadOasst1Candidates frames lines = .ok candidates → others.Perm lines →
          buildOasst1Repetitions frames others poolSize repetitions requestsPerRepetition (.ok ()) =
            .ok grouped) ∧
      (repetitions = 10 → requestsPerRepetition = 64 → ∃ projection m,
        buildProjectionManifest grouped = .ok projection ∧
          buildExecutionManifest projection = .ok m) := by
  subst hpool
  have hrepetitions := repetitionsOf_eq henough
  refine ⟨_, hrepetitions, dealt_partitions hdistinct hpositive.1 henough, ?_, ?_⟩
  · intro frames lines others hload hperm
    obtain ⟨candidates', hload', hsame⟩ := load_perm hload hperm
    have hsorted := sortedBy_congr candidateOrder hsame (candidateOrder_injective hdistinct)
    rw [buildOasst1Repetitions, bne_self_eq_false, raiseIf_false, ok_bind, ok_bind, hload', ok_bind,
      repetitionsOf_eq (hsame.length_eq ▸ henough), hsorted]
  · rintro rfl rfl
    refine projection_accepted ?_ ?_
    · rw [List.length_take, length_sortedBy, Nat.min_eq_left henough]
    · have hsorted := ((sortedBy_perm candidateOrder candidates).map
        Candidate.messageTreeId).nodup_iff.mpr hdistinct
      exact hsorted.sublist ((List.take_sublist _ _).map Candidate.messageTreeId)

/-- Three candidates, the shortest of which is left over. -/
def Sample.candidates : List Candidate :=
  [⟨"t0", "m0", 5, [⟨"user", "hello"⟩]⟩, ⟨"t1", "m1", 2, [⟨"user", "hi"⟩]⟩,
    ⟨"t2", "m2", 3, [⟨"user", "why"⟩]⟩]

theorem workload_partition_sample : ∃ grouped,
    repetitionsOf Sample.candidates 2 2 1 = .ok grouped ∧
      Partitions Sample.candidates 2 1 grouped := by
  obtain ⟨grouped, hgrouped, hpartitions, -⟩ :=
    workload_partition (show (Sample.candidates.map (·.messageTreeId)).Nodup by decide)
      (show 0 < 2 ∧ 0 < 1 by decide) (show 2 = 2 * 1 by decide)
      (show 2 ≤ Sample.candidates.length by decide)
  exact ⟨grouped, hgrouped, hpartitions⟩

end LifecycleProfiler.Workload
