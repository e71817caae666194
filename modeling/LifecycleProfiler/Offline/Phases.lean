import Mathlib.Algebra.Order.Ring.Rat
import Mathlib.Algebra.BigOperators.Group.List.Basic
import Mathlib.Data.List.Induction
import Mathlib.Tactic.Linarith
import LifecycleProfiler.Protocol.Identifiers
import LifecycleProfiler.Python.Builtins
import LifecycleProfiler.Python.Keys

/-! # Phase vectors of recovery shards

`phases_from_kv_recovery_and_client` of `m0_evaluation`: the rows of the shards
are read in turn, one entry is kept for each request, and the entry splits the
request's client time into recovery and decode. Milliseconds are rational
numbers. -/

namespace LifecycleProfiler.Offline
open Python Protocol

/-- A row that is recorded: whether it preempts, and its time. -/
inductive Mark where
  | preempt (ns : Int)
  | firstPrefill (ns : Int)
  deriving DecidableEq

/-- The mark of a stage, if it is one of the two ends. -/
def markAt (event : Dict) (ns : Int) : Option Mark :=
  if event.has "stage" "preempt" then some (.preempt ns)
  else if event.has "stage" "first_prefill_or_decode" then some (.firstPrefill ns)
  else none

/-- What a row is to `recovery_spans`, if anything. Requests that are no texts
are never asked for, but they are hashed. -/
def markOfEvent (event : Dict) : Except PyError (Option (String × Mark)) :=
  if event.has "record_type" "recovery_event" && (event.get "runtime_request_id").truthy &&
      (event.get "stage").truthy then
    match (asInt (event.get "timestamp_ns")).bind (markAt event), event.get "runtime_request_id" with
    | none, _ => .ok none
    | some mark, .str req => .ok (some (req, mark))
    | some _, req => if req.hashable then .ok none else .error (.typeError "unhashable type")
  else .ok none

/-- A line is a document, or nothing where it is blank or no JSON. -/
def markOf : Option Value → Except PyError (Option (String × Mark))
  | none => .ok none
  | some (.dict event) => markOfEvent event
  | some _ => .error (.attributeError "object has no attribute 'get'")

/-- An entry of `recovery_spans`. -/
structure RecoverySpan where
  start : Int
  end_ : Option Int
  spanMs : Option ℚ

/-- The entry of a request after one more of its rows. -/
def RecoverySpan.after (entry : Option RecoverySpan) : Mark → Option RecoverySpan
  | .preempt ns => some ⟨ns, none, none⟩
  | .firstPrefill ns => entry.map fun rec =>
    ⟨rec.start, some ns, some (((ns - rec.start : Int) : ℚ) / 1000000)⟩

def record (spans : Mapping String RecoverySpan) (req : String) (mark : Mark) :
    Mapping String RecoverySpan :=
  match RecoverySpan.after (spans.get req) mark with
  | some entry => spans.set req entry
  | none => spans

def readLine (spans : Mapping String RecoverySpan) (line : Option Value) :
    Except PyError (Mapping String RecoverySpan) := do
  match ← markOf line with
  | some (req, mark) => return record spans req mark
  | none => return spans

structure RequestPhases where
  requestId : String
  phases : Mapping String ℚ

/-- The phases of a request with a client total. -/
def requestPhases (spans : Mapping String RecoverySpan) (req : String) (totalMs : ℚ) :
    RequestPhases :=
  match (spans.get req).bind RecoverySpan.spanMs with
  | some spanMs =>
    ⟨req, [("kv_recovery", max 0 spanMs), ("decode", max 0 (totalMs - max 0 spanMs))]⟩
  | none => ⟨req, [("decode", totalMs)]⟩

/-- The loop over the client's requests, which ends at `max_requests` rows. -/
def phaseRows (spans : Mapping String RecoverySpan) (maxRequests : Int) :
    List (String × ℚ) → List RequestPhases → List RequestPhases
  | [], rows => rows
  | (req, totalMs) :: rest, rows =>
    if maxRequests ≤ (rows ++ [requestPhases spans req totalMs]).length then
      rows ++ [requestPhases spans req totalMs]
    else phaseRows spans maxRequests rest (rows ++ [requestPhases spans req totalMs])

/-- `phases_from_kv_recovery_and_client` -/
def phasesFromKvRecoveryAndClient (kvRecoveryShards : List (List (Option Value)))
    (clientTiming : Mapping String ℚ) (maxRequests : Int) : Except PyError (List RequestPhases) := do
  let recoverySpans ← kvRecoveryShards.flatten.foldlM readLine []
  return phaseRows recoverySpans maxRequests clientTiming []

/-! ## The entry of a request -/

/-- A line that is read without an error. -/
def Reads (line : Option Value) : Prop := ∃ mark, markOf line = .ok mark

/-- What the lines say of a request, in the order they are read. -/
def marksOf (lines : List (Option Value)) (req : String) : List Mark :=
  lines.filterMap fun line =>
    match markOf line with
    | .ok (some (owner, mark)) => if owner = req then some mark else none
    | _ => none

/-- The rows of a request end with its last preempt row, at `p`, and later its
last row of the other kind, at `f`. -/
def ReadsLast (marks : List Mark) (p f : Int) : Prop :=
  ∃ before middle, marks = before ++ .preempt p :: (middle ++ [.firstPrefill f]) ∧
    ∀ mark ∈ middle, ∃ ns, mark = .firstPrefill ns

theorem ReadsLast.mem {marks : List Mark} {p f : Int} (h : ReadsLast marks p f) :
    .preempt p ∈ marks ∧ .firstPrefill f ∈ marks := by
  obtain ⟨before, middle, rfl, -⟩ := h
  simp

/-- The two rows of an episode, a preempt row and a later one. -/
def episodeMarks (episode : Int × Int) : List Mark :=
  [.preempt episode.1, .firstPrefill episode.2]

/-- The summed spans of episodes. -/
def totalNs (episodes : List (Int × Int)) : Int := (episodes.map fun e => e.2 - e.1).sum

/-- The rows of a request are those of complete episodes, in any order. -/
structure Holds (marks : List Mark) (episodes : List (Int × Int)) : Prop where
  later : ∀ e ∈ episodes, e.1 < e.2
  rows : marks.Perm (episodes.flatMap episodeMarks)

theorem Holds.preempt {marks : List Mark} {episodes : List (Int × Int)} (h : Holds marks episodes)
    {p : Int} (hp : .preempt p ∈ marks) : ∃ a ∈ episodes, a.1 = p := by
  obtain ⟨a, ha, hmem⟩ := List.mem_flatMap.mp (h.rows.mem_iff.mp hp)
  exact ⟨a, ha, by simpa [episodeMarks, eq_comm] using hmem⟩

theorem Holds.firstPrefill {marks : List Mark} {episodes : List (Int × Int)}
    (h : Holds marks episodes) {f : Int} (hf : .firstPrefill f ∈ marks) :
    ∃ b ∈ episodes, b.2 = f := by
  obtain ⟨b, hb, hmem⟩ := List.mem_flatMap.mp (h.rows.mem_iff.mp hf)
  exact ⟨b, hb, by simpa [episodeMarks, eq_comm] using hmem⟩

/-- The recovery time an entry yields. -/
def recoveryMs (entry : Option RecoverySpan) : ℚ :=
  ((entry.bind RecoverySpan.spanMs).map (max 0)).getD 0

/-- What is promised of a request: its row has the summed spans of its episodes
as recovery, and recovery and decode make up its total. -/
def Conserves (rows : List RequestPhases) (req : String) (totalMs : ℚ)
    (episodes : List (Int × Int)) : Prop :=
  ∃ row ∈ rows, row.requestId = req ∧
    (row.phases.get "kv_recovery").getD 0 = (totalNs episodes : ℚ) / 1000000 ∧
    ((totalNs episodes : ℚ) / 1000000 ≤ totalMs →
      (row.phases.get "kv_recovery").getD 0 + (row.phases.get "decode").getD 0 = totalMs)

theorem kvRecovery_requestPhases (spans : Mapping String RecoverySpan) (req : String)
    (totalMs : ℚ) : ((requestPhases spans req totalMs).phases.get "kv_recovery").getD 0 =
      recoveryMs (spans.get req) := by
  unfold requestPhases recoveryMs
  cases (spans.get req).bind RecoverySpan.spanMs <;> rfl

namespace Sample

/-- A row of a recovery shard. -/
def row (stage : String) (ns : Int) : Option Value :=
  some (.dict [("record_type", .str "recovery_event"), ("runtime_request_id", .str "r0"),
    ("stage", .str stage), ("timestamp_ns", .int ns)])

/-- Two episodes of one process. -/
def twoEpisodes : List (List (Option Value)) :=
  [[row "preempt" 0, row "first_prefill_or_decode" 1000000, row "preempt" 5000000,
    row "first_prefill_or_decode" 7000000]]

end Sample

/-- Only the second of two episodes is kept. -/
theorem second_episode_kept : ¬ ∀ (kvRecoveryShards : List (List (Option Value)))
    (clientTiming : Mapping String ℚ) (req : String) (totalMs : ℚ) (episodes : List (Int × Int)),
    Mapping.Unique clientTiming → (req, totalMs) ∈ clientTiming →
    Holds (marksOf kvRecoveryShards.flatten req) episodes →
    ∃ rows, phasesFromKvRecoveryAndClient kvRecoveryShards clientTiming 200 = .ok rows ∧
      Conserves rows req totalMs episodes := by
  intro h
  have hepisodes : Holds (marksOf Sample.twoEpisodes.flatten "r0")
      [(0, 1000000), (5000000, 7000000)] := ⟨by decide, List.Perm.refl _⟩
  obtain ⟨rows, hrows, row, hrow, -, hkv, -⟩ := h Sample.twoEpisodes [("r0", 10)] "r0" 10
    [(0, 1000000), (5000000, 7000000)] (List.nodup_singleton _) List.mem_cons_self hepisodes
  have hrun : phasesFromKvRecoveryAndClient Sample.twoEpisodes [("r0", 10)] 200 =
      .ok [requestPhases [("r0", ⟨5000000, some 7000000,
        some (((7000000 - 5000000 : Int) : ℚ) / 1000000)⟩)] "r0" 10] := rfl
  rw [hrun] at hrows
  cases hrows
  cases List.mem_singleton.mp hrow
  rw [kvRecovery_requestPhases] at hkv
  norm_num [recoveryMs, totalNs, Mapping.get] at hkv

end LifecycleProfiler.Offline
