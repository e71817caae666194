import Mathlib.Tactic.IntervalCases
import LifecycleProfiler.General.Slices
import LifecycleProfiler.Python.Builtins
import LifecycleProfiler.Python.Keys
import LifecycleProfiler.Python.Ordering

/-! # The execution manifest of the ten lifecycles

`build_execution_manifest` of `issue19_m0`: the rows of a projection are
grouped by repetition, each group is put in the order of its ordinals, and the
first six requests of a lifecycle become its scenario targets. -/

namespace LifecycleProfiler.Workload
open Python General

/-- `OASST1_REVISION` -/
def oasst1Revision : String := "fdf72ae0827c1cda404aff25b6603abec9e3399b"

/-- `SEEDS` -/
def seeds : List Nat := (List.range 10).map fun i => 2026082000 + i

/-- `SCENARIO_TARGET_ORDINALS` -/
def scenarioTargetOrdinals : List (String × Nat) :=
  [("normal_completion", 0), ("client_disconnect", 1), ("client_timeout", 2),
   ("duplicate_cancel", 3), ("recovery", 4), ("worker_exit", 5)]

structure Lifecycle where
  repetition : Nat
  seed : Nat
  requestIds : List Value
  scenarioTargets : Mapping String Value
  unaffectedSurvivorRequestIds : List Value

def Lifecycle.serviceLifecycle (l : Lifecycle) : String := s!"issue19-m0-{l.seed}"

/-- `SCENARIO_ORDER` -/
def scenarioOrder : List String := scenarioTargetOrdinals.map (·.1)

/-- The plan, less the parts that are the same in every one. -/
structure ExecutionManifest where
  lifecycles : List Lifecycle

/-- The key of `grouped` a value equals. -/
def repetitionOf (value : Value) : Except PyError (Option Nat) :=
  if value.hashable then .ok ((List.range 10).find? fun index => value.pyEq (.int index))
  else .error (.typeError "unhashable type")

def groupRequests : List Value → Mapping Nat (List Dict) →
    Except PyError (Mapping Nat (List Dict))
  | [], grouped => .ok grouped
  | .dict row :: rest, grouped => do
    match ← repetitionOf (Dict.get row "repetition") with
    | some repetition =>
      groupRequests rest (grouped.set repetition ((grouped.get repetition).getD [] ++ [row]))
    | none => .error (.valueError "projection repetition is outside 0..9")
  | _ :: _, _ => .error (.typeError "projection request row is invalid")

/-- `sorted(rows, key=lambda row: row["ordinal"])`, with the ordinals. -/
def orderedRequests (rows : List Dict) : Except PyError (List (Value × Dict)) := do
  let keyed ← rows.mapM fun row => do
    let ordinal ← row.item "ordinal"
    return (ordinal, row)
  sortedByKey (·.1) keyed

/-- `requests[ordinal]["request_id"]` -/
def targetAt (requestIds : List Value) (target : String × Nat) : Except PyError (String × Value) :=
  match requestIds[target.2]? with
  | some requestId => .ok (target.1, requestId)
  | none => .error (.valueError "list index out of range")

def lifecycleOf (repetition seed : Nat) (rows : List Dict) : Except PyError Lifecycle := do
  let requests ← orderedRequests rows
  raiseIf (!eqRange (requests.map (·.1)) 64)
    s!"repetition {repetition} is not an exact 64-request set"
  let requestIds ← requests.mapM fun request => request.2.item "request_id"
  let targets ← scenarioTargetOrdinals.mapM (targetAt requestIds)
  return ⟨repetition, seed, requestIds, targets, requestIds.drop 6⟩

def buildExecutionManifest (projection : Dict) : Except PyError ExecutionManifest := do
  raiseIf (!projection.has "data_revision" oasst1Revision)
    "projection does not use the pinned OASST1 revision"
  match projection.get "requests" with
  | .list rows =>
    let grouped ← groupRequests rows ((List.range 10).map fun index => (index, []))
    let lifecycles ← seeds.zipIdx.mapM fun item =>
      lifecycleOf item.2 item.1 ((grouped.get item.2).getD [])
    return ⟨lifecycles⟩
  | _ => .error (.typeError "projection requests are missing")

/-! ## Groups -/

/-- Whether a row is of a repetition. -/
def inRepetition (repetition : Nat) (row : Dict) : Bool :=
  (row.get "repetition").pyEq (.int repetition)

theorem repetitionOf_eq_some {value : Value} {repetition : Nat}
    (h : repetitionOf value = .ok (some repetition)) :
    repetition < 10 ∧ ∀ r, value.pyEq (.int (r : Nat)) = true ↔ r = repetition := by
  unfold repetitionOf at h
  split at h
  · have hfind := Except.ok.inj h
    have hmem := List.mem_of_find?_eq_some hfind
    have heq : value.pyEq (.int repetition) = true := by simpa using List.find?_some hfind
    have hnum := Value.pyEq_int.mp heq
    refine ⟨List.mem_range.mp hmem, fun r => ?_⟩
    rw [Value.pyEq_int, hnum, Option.some.injEq]
    exact_mod_cast eq_comm
  · cases h

/-- Grouping accepts mappings of the ten repetitions and files each under its own. -/
theorem groupRequests_spec {rows : List Value} {grouped final : Mapping Nat (List Dict)}
    (h : groupRequests rows grouped = .ok final) :
    ∃ dicts : List Dict, rows = dicts.map .dict ∧
      (∀ row ∈ dicts, ∃ r < 10, ∀ s, inRepetition s row = true ↔ s = r) ∧
      ∀ r, (final.get r).getD [] = (grouped.get r).getD [] ++ dicts.filter (inRepetition r) := by
  induction rows generalizing grouped with
  | nil =>
    cases h
    exact ⟨[], rfl, by simp, fun r => by simp⟩
  | cons value rest ih =>
    cases value with
    | dict row =>
      rw [groupRequests, bind_eq_ok] at h
      obtain ⟨found, hfound, h⟩ := h
      cases found with
      | none => cases h
      | some repetition =>
        obtain ⟨hlt, hiff⟩ := repetitionOf_eq_some hfound
        obtain ⟨dicts, rfl, hall, hget⟩ := ih h
        refine ⟨row :: dicts, rfl, List.forall_mem_cons.mpr ⟨⟨repetition, hlt, hiff⟩, hall⟩,
          fun r => ?_⟩
        rw [hget, Mapping.get_set, List.filter_cons]
        by_cases hr : r = repetition
        · have hin : inRepetition r row = true := (hiff r).mpr hr
          rw [if_pos hr, if_pos hin, hr, Option.getD_some, List.append_assoc, List.singleton_append]
        · have hout : inRepetition r row ≠ true := fun hin => hr ((hiff r).mp hin)
          rw [if_neg hr, if_neg hout]
    | _ => cases h

/-- Before the first row every group is empty. -/
theorem get_ungrouped (n r : Nat) :
    (Mapping.get ((List.range n).map fun index => (index, ([] : List Dict))) r).getD [] = [] := by
  cases hget : Mapping.get ((List.range n).map fun index => (index, ([] : List Dict))) r with
  | none => rfl
  | some rows =>
    obtain ⟨index, -, hitem⟩ := List.mem_map.mp (Mapping.mem_of_get hget)
    exact (congrArg Prod.snd hitem).symm

/-! ## One lifecycle -/

theorem get_of_item {row : Dict} {key : String} {value : Value} (h : row.item key = .ok value) :
    row.get key = value := by
  unfold Dict.item at h
  unfold Dict.get
  cases hlookup : row.lookup key with
  | none =>
    rw [hlookup] at h
    cases h
  | some v =>
    rw [hlookup] at h
    cases h
    rfl

theorem map_of_mapM {α β : Type} {f : α → Except PyError β} {g : α → β}
    (hg : ∀ {x y}, f x = .ok y → y = g x) {xs : List α} {ys : List β} (h : xs.mapM f = .ok ys) :
    ys = xs.map g := by
  have hall := forall₂_of_mapM h
  clear h
  induction hall with
  | nil => rfl
  | cons hxy _ ih => rw [List.map_cons, hg hxy, ih]

/-- The requests of a repetition are its rows in another order. -/
theorem orderedRequests_perm {rows : List Dict} {requests : List (Value × Dict)}
    (h : orderedRequests rows = .ok requests) : (requests.map (·.2)).Perm rows := by
  rw [orderedRequests, bind_eq_ok] at h
  obtain ⟨keyed, hkeyed, h⟩ := h
  have hsnd : keyed.map (·.2) = rows := by
    rw [map_of_mapM (g := fun row => (row.get "ordinal", row)) ?_ hkeyed, List.map_map]
    · exact List.map_id _
    · intro row item hitem
      simp only [bind_eq_ok, pure_eq_ok] at hitem
      obtain ⟨ordinal, hordinal, rfl⟩ := hitem
      rw [get_of_item hordinal]
  rw [← hsnd]
  exact (sortedByKey_perm h).map _

/-- What a lifecycle holds: the ids of its 64 rows, the first six of which are
the targets and the others the survivors. -/
structure Assigned (rows : List Dict) (l : Lifecycle) : Prop where
  requestIds : l.requestIds.Perm (rows.map (·.get "request_id"))
  count : l.requestIds.length = 64
  targets : l.scenarioTargets.map (·.2) = l.requestIds.take 6
  survivors : l.unaffectedSurvivorRequestIds = l.requestIds.drop 6

theorem targets_of_mapM {requestIds : List Value} {targets : List (String × Value)}
    (h : scenarioTargetOrdinals.mapM (targetAt requestIds) = .ok targets)
    (hcount : requestIds.length = 64) : targets.map (·.2) = requestIds.take 6 := by
  rcases requestIds with _ | ⟨a, _ | ⟨b, _ | ⟨c, _ | ⟨d, _ | ⟨e, _ | ⟨f, rest⟩⟩⟩⟩⟩⟩ <;>
    simp [scenarioTargetOrdinals, targetAt] at h hcount
  rw [← h]
  rfl

theorem assigned_of_lifecycleOf {repetition seed : Nat} {rows : List Dict} {l : Lifecycle}
    (h : lifecycleOf repetition seed rows = .ok l) : Assigned rows l := by
  simp only [lifecycleOf, bind_eq_ok, raiseIf_eq_ok, exists_unit, pure_eq_ok,
    Bool.not_eq_false'] at h
  obtain ⟨requests, hrequests, hrange, requestIds, hids, targets, htargets, rfl⟩ := h
  have hmap : requestIds = (requests.map (·.2)).map (·.get "request_id") := by
    rw [List.map_map]
    exact map_of_mapM (fun h => (get_of_item h).symm) hids
  have hlength : requests.length = 64 := by
    have hvalues := congrArg List.length (eqRange_iff.mp hrange)
    simpa [rangeNums] using hvalues
  have hcount : requestIds.length = 64 := by
    rw [hmap, List.length_map, List.length_map, hlength]
  refine ⟨?_, hcount, targets_of_mapM htargets hcount, rfl⟩
  rw [hmap]
  exact (orderedRequests_perm hrequests).map _

/-! ## The manifest -/

/-- The mappings among the rows of a projection. -/
def requestsOf (projection : Dict) : List Dict :=
  match projection.get "requests" with
  | .list rows => rows.filterMap asDict
  | _ => []

/-- The rows of a projection under one repetition. -/
def rowsOf (projection : Dict) (repetition : Nat) : List Dict :=
  (requestsOf projection).filter (inRepetition repetition)

/-- **Acceptance, lifecycle by lifecycle.** -/
theorem lifecycles_of_build {projection : Dict} {m : ExecutionManifest}
    (h : buildExecutionManifest projection = .ok m) :
    List.Forall₂ (fun repetition l => Assigned (rowsOf projection repetition) l) (List.range 10)
        m.lifecycles ∧
      ((List.range 10).flatMap (rowsOf projection)).Perm (requestsOf projection) := by
  rw [buildExecutionManifest, bind_eq_ok] at h
  obtain ⟨-, -, h⟩ := h
  split at h
  · next rows hrows =>
    rw [bind_eq_ok] at h
    obtain ⟨final, hfinal, h⟩ := h
    rw [bind_eq_ok] at h
    obtain ⟨lifecycles, hlifecycles, h⟩ := h
    cases h
    obtain ⟨dicts, rfl, hall, hget⟩ := groupRequests_spec hfinal
    have hdicts : requestsOf projection = dicts := by
      unfold requestsOf
      rw [hrows]
      exact filterMap_asDict dicts
    constructor
    · have hlist : seeds.zipIdx = (List.range 10).map fun index => (2026082000 + index, index) := by
        decide
      rw [hlist] at hlifecycles
      have hall₂ := List.forall₂_map_left_iff.mp (forall₂_of_mapM hlifecycles)
      refine hall₂.imp fun repetition l hl => ?_
      rw [hget, get_ungrouped, List.nil_append] at hl
      unfold rowsOf
      rw [hdicts]
      exact assigned_of_lifecycleOf hl
    · unfold rowsOf
      rw [hdicts]
      exact flatMap_filter_perm 10 hall
  · cases h

/-- No two values are equal, whichever is asked. -/
def Apart (a b : Value) : Prop := a.pyEq b = false ∧ b.pyEq a = false

instance : DecidableRel Apart := fun _ _ => inferInstanceAs (Decidable (_ ∧ _))

theorem Apart.symm {a b : Value} (h : Apart a b) : Apart b a := ⟨h.2, h.1⟩

/-- The roles of a manifest: request ids differ across all lifecycles, and
in each the targets and the survivors are apart and make up the 64 requests. -/
structure KeepsApart (m : ExecutionManifest) : Prop where
  lifecycles : m.lifecycles.length = 10
  distinct : (m.lifecycles.flatMap (·.requestIds)).Pairwise Apart
  disjoint : ∀ l ∈ m.lifecycles, ∀ target ∈ l.scenarioTargets,
    ∀ survivor ∈ l.unaffectedSurvivorRequestIds, Apart target.2 survivor
  together : ∀ l ∈ m.lifecycles, l.requestIds.length = 64 ∧
    l.scenarioTargets.map (·.2) ++ l.unaffectedSurvivorRequestIds = l.requestIds

theorem flatMap_perm_of_forall₂ {rows : Nat → List Dict} {indices : List Nat}
    {lifecycles : List Lifecycle}
    (h : List.Forall₂ (fun index l => Assigned (rows index) l) indices lifecycles) :
    (lifecycles.flatMap (·.requestIds)).Perm
      ((indices.flatMap rows).map (·.get "request_id")) := by
  induction h with
  | nil => exact List.Perm.nil
  | cons hl _ ih =>
    rw [List.flatMap_cons, List.flatMap_cons, List.map_append]
    exact hl.requestIds.append ih

theorem assigned_of_mem {rows : Nat → List Dict} {indices : List Nat} {lifecycles : List Lifecycle}
    (h : List.Forall₂ (fun index l => Assigned (rows index) l) indices lifecycles) {l : Lifecycle}
    (hl : l ∈ lifecycles) : ∃ index, Assigned (rows index) l := by
  induction h with
  | nil => cases hl
  | cons hfirst _ ih =>
    rcases List.mem_cons.mp hl with rfl | hl
    · exact ⟨_, hfirst⟩
    · exact ih hl

/-- The targets and the survivors of a lifecycle are two parts of its requests. -/
theorem Assigned.parts {rows : List Dict} {l : Lifecycle} (h : Assigned rows l) :
    l.scenarioTargets.map (·.2) ++ l.unaffectedSurvivorRequestIds = l.requestIds := by
  rw [h.targets, h.survivors, List.take_append_drop]

theorem requestIds_sublist {l : Lifecycle} {lifecycles : List Lifecycle} (hl : l ∈ lifecycles) :
    l.requestIds.Sublist (lifecycles.flatMap (·.requestIds)) := by
  rw [List.flatMap_def]
  exact List.sublist_flatten_of_mem (List.mem_map_of_mem hl)

/-- **Accepted manifests keep the roles apart exactly when the projection
repeats no request id.** -/
theorem roles_apart_iff {projection : Dict} {m : ExecutionManifest}
    (h : buildExecutionManifest projection = .ok m) :
    KeepsApart m ↔ ((requestsOf projection).map (·.get "request_id")).Pairwise Apart := by
  obtain ⟨hlifecycles, hrows⟩ := lifecycles_of_build h
  have hperm := (flatMap_perm_of_forall₂ hlifecycles).trans (hrows.map (·.get "request_id"))
  have hpairwise := hperm.pairwise_iff (R := Apart) fun h => h.symm
  constructor
  · intro happart
    exact hpairwise.mp happart.distinct
  · intro hids
    have hdistinct := hpairwise.mpr hids
    refine ⟨?_, hdistinct, fun l hl target htarget survivor hsurvivor => ?_, fun l hl => ?_⟩
    · rw [← hlifecycles.length_eq, List.length_range]
    · obtain ⟨_, hassigned⟩ := assigned_of_mem hlifecycles hl
      have hown := hdistinct.sublist (requestIds_sublist hl)
      rw [← hassigned.parts] at hown
      exact (List.pairwise_append.mp hown).2.2 _ (List.mem_map_of_mem htarget) _ hsurvivor
    · obtain ⟨_, hassigned⟩ := assigned_of_mem hlifecycles hl
      exact ⟨hassigned.count, hassigned.parts⟩

/-! ## Projections that are accepted -/

/-- The rows of ten repetitions of 64 requests, repetition by repetition. -/
def laidOutRows (row : Nat → Nat → Dict) : List Dict :=
  (List.range 10).flatMap fun repetition => (List.range 64).map (row repetition)

/-- What the plan reads of a row: its repetition, its ordinal and its id. -/
structure Places (row : Nat → Nat → Dict) : Prop where
  repetition : ∀ r < 10, ∀ o < 64, (row r o).get "repetition" = .int r
  ordinal : ∀ r < 10, ∀ o < 64, (row r o).item "ordinal" = .ok (.int o)
  requestId : ∀ r < 10, ∀ o < 64, ∃ id, (row r o).item "request_id" = .ok id

theorem pyEq_nat {n m : Nat} : (Value.int n).pyEq (.int m) = true ↔ n = m := by
  simp [Value.pyEq]

theorem repetitionOf_nat {r : Nat} (h : r < 10) : repetitionOf (.int r) = .ok (some r) := by
  interval_cases r <;> rfl

theorem groupRequests_total {dicts : List Dict} {grouped : Mapping Nat (List Dict)}
    (h : ∀ row ∈ dicts, ∃ r < 10, Dict.get row "repetition" = .int (r : Nat)) :
    ∃ final, groupRequests (dicts.map .dict) grouped = .ok final := by
  induction dicts generalizing grouped with
  | nil => exact ⟨grouped, rfl⟩
  | cons row rest ih =>
    obtain ⟨⟨r, hr, hrow⟩, hrest⟩ := List.forall_mem_cons.mp h
    rw [List.map_cons, groupRequests, hrow, repetitionOf_nat hr, ok_bind]
    exact ih hrest

theorem filter_laidOutRows {row : Nat → Nat → Dict} (h : Places row) {r : Nat} (hr : r < 10) :
    (laidOutRows row).filter (inRepetition r) = (List.range 64).map (row r) := by
  have hgroup : ∀ s < 10, ((List.range 64).map (row s)).filter (inRepetition r) =
      if s = r then (List.range 64).map (row s) else [] := by
    intro s hs
    have hin : ∀ x ∈ (List.range 64).map (row s), inRepetition r x = decide (s = r) := by
      intro x hx
      obtain ⟨o, ho, rfl⟩ := List.mem_map.mp hx
      rw [inRepetition, h.repetition s hs o (List.mem_range.mp ho), Bool.eq_iff_iff, pyEq_nat,
        decide_eq_true_eq]
    rw [List.filter_congr hin]
    by_cases heq : s = r
    · simp [heq]
    · simp [heq]
  have hflat : (laidOutRows row).filter (inRepetition r) =
      (List.range 10).flatMap fun s => if s = r then (List.range 64).map (row s) else [] := by
    rw [laidOutRows, List.filter_flatMap]
    exact List.flatMap_congr fun s hs => hgroup s (List.mem_range.mp hs)
  rw [hflat]
  interval_cases r <;> rfl

theorem orderedRequests_total {row : Nat → Dict} {n : Nat}
    (h : ∀ o < n, (row o).item "ordinal" = .ok (.int o)) :
    orderedRequests ((List.range n).map row) =
      .ok ((List.range n).map fun o : Nat => (Value.int o, row o)) := by
  have hkeyed : ((List.range n).map row).mapM (fun row : Dict => do
      let ordinal ← row.item "ordinal"
      return (ordinal, row)) = .ok ((List.range n).map fun o : Nat => (Value.int o, row o)) := by
    refine mapM_of_forall₂ (List.forall₂_map_left_iff.mpr (List.forall₂_map_right_iff.mpr
      (List.forall₂_same.mpr fun o ho => ?_)))
    rw [h o (List.mem_range.mp ho), ok_bind]
    rfl
  rw [orderedRequests, hkeyed, ok_bind,
    @sortedByKey_of_num _ _ (fun item => item.1.num?.getD 0) _ ?_, List.Pairwise.insertionSort_eq]
  · refine List.pairwise_map.mpr (List.pairwise_lt_range.imp fun {a b} hlt => ?_)
    change ((a : Int) : ℚ) ≤ ((b : Int) : ℚ)
    exact_mod_cast Nat.le_of_lt hlt
  · intro item hitem
    obtain ⟨o, -, rfl⟩ := List.mem_map.mp hitem
    rfl

theorem lifecycleOf_total {row : Nat → Dict} (repetition seed : Nat)
    (hordinal : ∀ o < 64, (row o).item "ordinal" = .ok (.int o))
    (hid : ∀ o < 64, ∃ id, (row o).item "request_id" = .ok id) :
    ∃ l, lifecycleOf repetition seed ((List.range 64).map row) = .ok l := by
  have hrange : eqRange (((List.range 64).map fun o : Nat => (Value.int o, row o)).map (·.1)) 64 =
      true := by
    rw [eqRange_iff]
    simp [rangeNums, Function.comp_def, Value.num?]
  have hids : ∃ ids, ((List.range 64).map fun o : Nat => (Value.int o, row o)).mapM
      (fun request => request.2.item "request_id") = .ok ids := by
    refine mapM_total fun request hrequest => ?_
    obtain ⟨o, ho, rfl⟩ := List.mem_map.mp hrequest
    exact hid o (List.mem_range.mp ho)
  obtain ⟨ids, hids⟩ := hids
  have hlength : ids.length = 64 := by
    rw [← (forall₂_of_mapM hids).length_eq, List.length_map, List.length_range]
  have htargets : ∃ targets, scenarioTargetOrdinals.mapM (targetAt ids) = .ok targets := by
    refine mapM_total fun target htarget => ?_
    have hlt : target.2 < ids.length := by
      have hbound : ∀ target ∈ scenarioTargetOrdinals, target.2 < 64 := by decide
      rw [hlength]
      exact hbound target htarget
    rw [targetAt, List.getElem?_eq_getElem hlt]
    exact ⟨_, rfl⟩
  obtain ⟨targets, htargets⟩ := htargets
  rw [lifecycleOf, orderedRequests_total hordinal, ok_bind, hrange, Bool.not_true, raiseIf_false,
    ok_bind, hids, ok_bind, htargets, ok_bind]
  exact ⟨_, rfl⟩

/-- Rows that place 64 requests in each repetition are accepted. -/
theorem build_of_places {row : Nat → Nat → Dict} (h : Places row) {projection : Dict}
    (hrevision : projection.has "data_revision" oasst1Revision = true)
    (hrows : projection.get "requests" = .list ((laidOutRows row).map .dict)) :
    ∃ m, buildExecutionManifest projection = .ok m := by
  have hall : ∀ x ∈ laidOutRows row, ∃ r < 10, Dict.get x "repetition" = .int (r : Nat) := by
    intro x hx
    obtain ⟨r, hr, hx⟩ := List.mem_flatMap.mp hx
    obtain ⟨o, ho, rfl⟩ := List.mem_map.mp hx
    have hr := List.mem_range.mp hr
    exact ⟨r, hr, h.repetition r hr o (List.mem_range.mp ho)⟩
  obtain ⟨final, hfinal⟩ : ∃ final, groupRequests ((laidOutRows row).map .dict)
      ((List.range 10).map fun index => (index, [])) = .ok final := groupRequests_total hall
  obtain ⟨dicts, heq, -, hget⟩ := groupRequests_spec hfinal
  have hdicts : dicts = laidOutRows row :=
    (List.map_injective_iff.mpr (fun _ _ h => Value.dict.inj h) heq).symm
  have hlifecycle : ∀ item ∈ seeds.zipIdx,
      ∃ l, lifecycleOf item.2 item.1 ((final.get item.2).getD []) = .ok l := by
    intro item hitem
    have hlt : item.2 < 10 := by
      have hlt := List.snd_lt_of_mem_zipIdx hitem
      simpa [seeds] using hlt
    rw [hget, get_ungrouped, List.nil_append, hdicts, filter_laidOutRows h hlt]
    exact lifecycleOf_total _ _ (h.ordinal _ hlt) (h.requestId _ hlt)
  obtain ⟨lifecycles, hlifecycles⟩ := mapM_total hlifecycle
  rw [buildExecutionManifest, hrevision, Bool.not_true, raiseIf_false, ok_bind]
  simp only [hrows, hfinal, ok_bind, hlifecycles]
  exact ⟨_, rfl⟩

/-- A projection whose row of a repetition and an ordinal has the id `name`. -/
def sampleProjection (name : Nat → Nat → String) : Dict :=
  [("data_revision", .str oasst1Revision),
   ("requests", .list ((laidOutRows fun repetition ordinal =>
      [("request_id", .str (name repetition ordinal)), ("repetition", .int repetition),
       ("ordinal", .int ordinal)]).map .dict))]

theorem sampleProjection_accepted (name : Nat → Nat → String) :
    ∃ m, buildExecutionManifest (sampleProjection name) = .ok m :=
  build_of_places ⟨fun _ _ _ _ => rfl, fun _ _ _ _ => rfl, fun _ _ _ _ => ⟨_, rfl⟩⟩
    (Dict.has_iff.mpr rfl) rfl

theorem roles_apart_iff_sample : ∃ m,
    buildExecutionManifest (sampleProjection fun r o => s!"r{r}-{o}") = .ok m ∧
      (KeepsApart m ↔ ((requestsOf (sampleProjection fun r o => s!"r{r}-{o}")).map
        (·.get "request_id")).Pairwise Apart) := by
  obtain ⟨m, hm⟩ := sampleProjection_accepted fun r o => s!"r{r}-{o}"
  exact ⟨m, hm, roles_apart_iff hm⟩

/-- A projection that names every request alike is accepted. -/
theorem repeated_id_accepted : ∃ m,
    buildExecutionManifest (sampleProjection fun _ _ => "request-0") = .ok m ∧ ¬ KeepsApart m := by
  obtain ⟨m, hm⟩ := sampleProjection_accepted fun _ _ => "request-0"
  refine ⟨m, hm, fun happart => ?_⟩
  have hids := (roles_apart_iff hm).mp happart
  have hfirst : ∃ rest, (requestsOf (sampleProjection fun _ _ => "request-0")).map
      (·.get "request_id") = .str "request-0" :: .str "request-0" :: rest := ⟨_, rfl⟩
  obtain ⟨rest, hfirst⟩ := hfirst
  rw [hfirst] at hids
  exact absurd ((List.pairwise_cons.mp hids).1 _ List.mem_cons_self) (by decide)

end LifecycleProfiler.Workload
