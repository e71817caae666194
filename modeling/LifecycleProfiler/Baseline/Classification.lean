import LifecycleProfiler.Baseline.Resources
import Mathlib.Data.List.Dedup

/-! # Every resource in one class

A complete ledger reports no error, so each group of resource events is
closed, externally invalidated or orphaned. The test for a single owner stands
behind the sequence test only: two events of a pending transfer may name
different requests. -/

namespace LifecycleProfiler.Baseline
open Python Protocol

/-! ## The groups -/

/-- The base rows that are events of a resource. -/
def eventsOf (base : List Dict) (key : ResourceKey) : List Dict :=
  base.filter fun row => resourceRow row = .ok (.event key)

/-- The events of a resource, with the pair of a witness in front. -/
def groupEvents (base : List Dict) (witness : Option Witness) (key : ResourceKey) : List Dict :=
  match witness with
  | none => eventsOf base key
  | some w =>
    if key = w.key then w.rows ++ (eventsOf base key).filter isClosure else eventsOf base key

/-- A grouping holds the events of each resource that has some. -/
structure Groups (events : ResourceKey → List Dict) (grouped : Mapping ResourceKey (List Dict)) :
    Prop where
  unique : Mapping.Unique grouped
  nonempty : ∀ item ∈ grouped, item.2 ≠ []
  rows : ∀ key, (grouped.get key).getD [] = events key

theorem Groups.get_of_mem {events : ResourceKey → List Dict}
    {grouped : Mapping ResourceKey (List Dict)} (h : Groups events grouped)
    {item : ResourceKey × List Dict} (hitem : item ∈ grouped) : item.2 = events item.1 := by
  have hsome : (grouped.get item.1).isSome = true :=
    Mapping.isSome_get.mpr (List.mem_map_of_mem hitem)
  obtain ⟨rows, hrows⟩ := Option.isSome_iff_exists.mp hsome
  have hsame : rows = item.2 := h.unique.eq_of_mem (Mapping.mem_of_get hrows) hitem
  rw [← h.rows, hrows, Option.getD_some, hsame]

theorem Groups.mem {events : ResourceKey → List Dict}
    {grouped : Mapping ResourceKey (List Dict)} (h : Groups events grouped) {key : ResourceKey}
    (hne : events key ≠ []) : (key, events key) ∈ grouped := by
  have hrows := h.rows key
  cases hget : grouped.get key with
  | none =>
    rw [hget] at hrows
    exact absurd hrows.symm hne
  | some rows =>
    rw [hget, Option.getD_some] at hrows
    rw [← hrows]
    exact Mapping.mem_of_get hget

theorem Groups.set {events : ResourceKey → List Dict}
    {grouped : Mapping ResourceKey (List Dict)} (h : Groups events grouped) (key : ResourceKey)
    (events' : ResourceKey → List Dict)
    (hother : ∀ other, other ≠ key → events' other = events other) (hne : events' key ≠ []) :
    Groups events' (grouped.set key (events' key)) := by
  refine ⟨h.unique.set key _, ?_, ?_⟩
  · intro item hitem
    rcases (Mapping.mem_set h.unique).mp hitem with rfl | ⟨hmem, -⟩
    · exact hne
    · exact h.nonempty item hmem
  · intro other
    by_cases hkey : other = key
    · rw [hkey, Mapping.get_set_self, Option.getD_some]
    · rw [Mapping.get_set_ne hkey, h.rows, hother other hkey]

/-- The loop adds the events of each resource behind those it has. -/
theorem groupRows_groups {base : List Dict} {g g' : Grouping} {events : ResourceKey → List Dict}
    (h : groupRows g base = .ok g') (hg : Groups events g.grouped) :
    Groups (fun key => events key ++ eventsOf base key) g'.grouped := by
  induction base generalizing g events with
  | nil =>
    cases h
    simpa only [eventsOf, List.filter_nil, List.append_nil] using hg
  | cons row rest ih =>
    rw [groupRows, bind_eq_ok] at h
    obtain ⟨kind, hkind, h⟩ := h
    have hsplit : ∀ key, eventsOf (row :: rest) key =
        (if kind = .event key then [row] else []) ++ eventsOf rest key := by
      intro key
      simp only [eventsOf, List.filter_cons, hkind, Except.ok.injEq]
      by_cases hk : kind = .event key
      · simp [hk]
      · simp [hk]
    cases kind with
    | skipped =>
      have hrest := ih h hg
      simpa only [hsplit, reduceCtorEq, if_false, List.nil_append] using hrest
    | malformed reason =>
      have hrest := ih h hg
      simpa only [hsplit, reduceCtorEq, if_false, List.nil_append] using hrest
    | event key =>
      have hset := hg.set key
        (fun other => if other = key then events key ++ [row] else events other)
        (fun other hne => if_neg hne) (by simp)
      have happend : (g.append key row).grouped = g.grouped.set key (events key ++ [row]) := by
        rw [Grouping.append, hg.rows]
      rw [if_pos rfl, ← happend] at hset
      have hrest := ih h hset
      have heq : (fun other => (if other = key then events key ++ [row] else events other) ++
          eventsOf rest other) = fun other => events other ++ eventsOf (row :: rest) other := by
        funext other
        rw [hsplit]
        by_cases hother : other = key
        · simp [hother]
        · have hne : key ≠ other := fun he => hother he.symm
          simp [hother, hne]
      rw [← heq]
      exact hrest

theorem rebuilt_groups {base : List Dict} {grouped : Mapping ResourceKey (List Dict)}
    (h : Groups (eventsOf base) grouped) (witness : Option Witness) :
    Groups (groupEvents base witness) (rebuilt witness grouped) := by
  cases witness with
  | none => exact h
  | some w =>
    have hset := h.set w.key (groupEvents base (some w))
      (fun other hne => if_neg hne) (by simp [groupEvents, Witness.rows])
    have hrows : w.rebuild grouped = grouped.set w.key (groupEvents base (some w) w.key) := by
      rw [Witness.rebuild, h.rows, groupEvents, if_pos rfl]
    rw [rebuilt, hrows]
    exact hset

/-! ## The loop over the groups -/

theorem classify_resources (judge : Resource → Verdict) (l : Ledger) (rs : List Resource) :
    (classify judge l rs).resources = l.resources ++ rs ∧
    (classify judge l rs).orphanResources =
      l.orphanResources ++ rs.filter (judge · = .orphan) ∧
    (classify judge l rs).externallyInvalidatedResources =
      l.externallyInvalidatedResources ++ rs.filter (judge · = .externallyInvalidated) := by
  induction rs generalizing l with
  | nil => simp [classify]
  | cons r rest ih =>
    obtain ⟨hresources, horphans, hinvalidated⟩ := ih (l.add r (judge r))
    rw [classify, hresources, horphans, hinvalidated]
    cases hjudge : judge r <;> simp [Ledger.add, hjudge]

theorem classify_errors {judge : Resource → Verdict} {l : Ledger} {rs : List Resource}
    (h : (classify judge l rs).errors = []) :
    l.errors = [] ∧ ∀ r ∈ rs, ∀ reason, judge r ≠ .error reason := by
  induction rs generalizing l with
  | nil => exact ⟨h, fun _ hr => absurd hr List.not_mem_nil⟩
  | cons r rest ih =>
    obtain ⟨hadd, hrest⟩ := ih h
    cases hjudge : judge r with
    | error reason =>
      rw [hjudge, Ledger.add] at hadd
      exact absurd hadd (List.append_ne_nil_of_right_ne_nil _ (List.cons_ne_nil _ _))
    | closed | externallyInvalidated | orphan =>
      rw [hjudge, Ledger.add] at hadd
      refine ⟨hadd, fun x hx reason => ?_⟩
      rcases List.mem_cons.mp hx with rfl | hx
      · rw [hjudge]
        nofun
      · exact hrest x hx reason

/-- Each result of a comprehension comes from an element. -/
theorem exists_source_of_mapM {α β : Type} {f : α → Except PyError β} {xs : List α} {ys : List β}
    (h : xs.mapM f = .ok ys) {y : β} (hy : y ∈ ys) : ∃ x ∈ xs, f x = .ok y := by
  have hall := forall₂_of_mapM h
  clear h
  induction hall with
  | nil => cases hy
  | @cons a b _ _ hab _ ih =>
    rcases List.mem_cons.mp hy with rfl | hy
    · exact ⟨a, List.mem_cons_self, hab⟩
    · obtain ⟨x, hx, heq⟩ := ih hy
      exact ⟨x, List.mem_cons_of_mem _ hx, heq⟩

/-- What a complete ledger says of its resources. -/
structure Listed (parse : String → Option Int) (base profile : List Dict)
    (workerGeneration : Option String) (workerMonitorEvents : List Dict) (pendingWitness : Dict)
    (ledger : Ledger) : Prop where
  described : ∀ r ∈ ledger.resources, groupEvents base (witnessOf pendingWitness) r.key ≠ [] ∧
    resourceOf parse workerGeneration (generationExit workerGeneration workerMonitorEvents) r.key
      (groupEvents base (witnessOf pendingWitness) r.key) = .ok r
  listed : ∀ key, groupEvents base (witnessOf pendingWitness) key ≠ [] →
    ∃ r ∈ ledger.resources, r.key = key
  judged : ∀ r ∈ ledger.resources, ∀ reason,
    verdict profile (profileTransfers profile pendingWitness) r ≠ .error reason
  orphans : ∀ r, r ∈ ledger.orphanResources ↔ r ∈ ledger.resources ∧
    verdict profile (profileTransfers profile pendingWitness) r = .orphan
  invalidated : ∀ r, r ∈ ledger.externallyInvalidatedResources ↔ r ∈ ledger.resources ∧
    verdict profile (profileTransfers profile pendingWitness) r = .externallyInvalidated

theorem resourceOf_key {parse : String → Option Int} {workerGeneration : Option String}
    {exitNs : Option Int} {key : ResourceKey} {rows : List Dict} {r : Resource}
    (h : resourceOf parse workerGeneration exitNs key rows = .ok r) : r.key = key := by
  unfold resourceOf at h
  simp only [bind_eq_ok, pure_eq_ok] at h
  obtain ⟨ordered, -, units, -, rfl⟩ := h
  rfl

theorem listed_of_complete {parse : String → Option Int} {base profile : List Dict}
    {workerGeneration : Option String} {workerMonitorEvents : List Dict} {pendingWitness : Dict}
    {ledger : Ledger}
    (h : resourceLedger parse base profile workerGeneration workerMonitorEvents pendingWitness =
      .ok ledger) (hcomplete : ledger.complete = true) :
    Listed parse base profile workerGeneration workerMonitorEvents pendingWitness ledger := by
  unfold resourceLedger at h
  simp only [bind_eq_ok, pure_eq_ok] at h
  obtain ⟨g, hg, resources, hresources, rfl⟩ := h
  have hstart : Groups (fun _ => []) ({} : Grouping).grouped :=
    ⟨List.nodup_nil, fun _ hitem => absurd hitem List.not_mem_nil, fun _ => rfl⟩
  have hgroups := rebuilt_groups (groupRows_groups hg hstart) (witnessOf pendingWitness)
  have hmem : ∀ item, item ∈ (rebuilt (witnessOf pendingWitness) g.grouped).insertionSort
      (fun a b => keyLe a.1 b.1) ↔ item ∈ rebuilt (witnessOf pendingWitness) g.grouped :=
    fun item => List.mem_insertionSort _
  simp only [Ledger.complete, Bool.and_eq_true, List.isEmpty_iff] at hcomplete
  obtain ⟨-, hjudged⟩ := classify_errors hcomplete.1
  obtain ⟨hlist, horphans, hinvalidated⟩ := classify_resources
    (verdict profile (profileTransfers profile pendingWitness))
    { resourceEventCount := ((rebuilt (witnessOf pendingWitness) g.grouped).map fun item =>
        item.2.length).sum
      resourceCount := (rebuilt (witnessOf pendingWitness) g.grouped).length
      resources := []
      errors := g.malformed ++ rosterErrors ((rebuilt (witnessOf pendingWitness) g.grouped).map
        (·.1)) ((profileTransfers profile pendingWitness).map (·.1))
      orphanResources := []
      externallyInvalidatedResources := [] } resources
  rw [List.nil_append] at hlist horphans hinvalidated
  refine ⟨?_, ?_, ?_, ?_, ?_⟩
  · intro r hr
    rw [hlist] at hr
    obtain ⟨item, hitem, hr⟩ := exists_source_of_mapM hresources hr
    have hin := (hmem item).mp hitem
    have hrows := hgroups.get_of_mem hin
    have hkey := resourceOf_key hr
    rw [hkey, ← hrows]
    exact ⟨hgroups.nonempty item hin, hr⟩
  · intro key hne
    obtain ⟨r, hr, hof⟩ := exists_of_mapM hresources ((hmem _).mpr (hgroups.mem hne))
    rw [hlist]
    exact ⟨r, hr, resourceOf_key hof⟩
  · rw [hlist]
    exact hjudged
  · intro r
    rw [horphans, hlist, List.mem_filter, decide_eq_true_eq]
  · intro r
    rw [hinvalidated, hlist, List.mem_filter, decide_eq_true_eq]

/-! ## One resource -/

theorem exists_unique_of_sortedSet {texts : List String} :
    (∃ owner, sortedSet texts = [owner]) ↔ ∃ owner, texts ≠ [] ∧ ∀ text ∈ texts, text = owner := by
  have hmem : ∀ text, text ∈ sortedSet texts ↔ text ∈ texts := fun text => by
    rw [sortedSet, List.mem_insertionSort, List.mem_dedup]
  have hnodup : (sortedSet texts).Nodup :=
    (List.perm_insertionSort _ _).nodup_iff.mpr (List.nodup_dedup texts)
  constructor
  · rintro ⟨owner, howner⟩
    refine ⟨owner, fun hnil => ?_, fun text htext => ?_⟩
    · have hin : owner ∈ texts := (hmem owner).mp (howner ▸ List.mem_singleton_self owner)
      rw [hnil] at hin
      cases hin
    · exact List.mem_singleton.mp (howner ▸ (hmem text).mpr htext)
  · rintro ⟨owner, hne, hall⟩
    obtain ⟨text, htext⟩ := List.exists_mem_of_ne_nil _ hne
    have hin : owner ∈ sortedSet texts := (hmem owner).mpr (hall text htext ▸ htext)
    refine ⟨owner, List.perm_singleton.mp ?_⟩
    refine (List.perm_ext_iff_of_nodup hnodup (List.nodup_singleton owner)).mpr fun other => ?_
    rw [hmem, List.mem_singleton]
    exact ⟨hall other, fun he => he ▸ (hmem owner).mp hin⟩

/-- The time of a row. -/
def timeOf (parse : String → Option Int) (row : Dict) : Except PyError Int := do
  let timestamp ← row.item "timestamp_ns"
  toInt parse timestamp

/-- The events of a resource in the order of their times. -/
structure Ordered (parse : String → Option Int) (rows ordered : List Dict) : Prop where
  perm : ordered.Perm rows
  sorted : ordered.Pairwise fun a b => ∃ s t, timeOf parse a = .ok s ∧
    timeOf parse b = .ok t ∧ s ≤ t

theorem ordered_of_orderedRows {parse : String → Option Int} {rows : List Dict}
    {items : List (Int × Dict)} (h : orderedRows parse rows = .ok items) :
    Ordered parse rows (items.map Prod.snd) ∧ ∀ item ∈ items, timeOf parse item.2 = .ok item.1 := by
  unfold orderedRows at h
  simp only [bind_eq_ok, pure_eq_ok] at h
  obtain ⟨keyed, hkeyed, rfl⟩ := h
  have hall := forall₂_of_mapM hkeyed
  have hrow : ∀ row item, ((do
      let timestamp ← row.item "timestamp_ns"
      let time ← toInt parse timestamp
      return (time, row) : Except PyError (Int × Dict)) = .ok item) →
      item.2 = row ∧ timeOf parse row = .ok item.1 := by
    intro row item hitem
    simp only [bind_eq_ok, pure_eq_ok] at hitem
    obtain ⟨timestamp, htimestamp, time, htime, rfl⟩ := hitem
    refine ⟨rfl, ?_⟩
    simp only [timeOf, bind_eq_ok]
    exact ⟨timestamp, htimestamp, htime⟩
  have hsnd : keyed.map Prod.snd = rows := by
    clear hkeyed
    induction hall with
    | nil => rfl
    | cons hhead _ ih => rw [List.map_cons, (hrow _ _ hhead).1, ih]
  have htimes : ∀ item ∈ keyed, timeOf parse item.2 = .ok item.1 := by
    intro item hitem
    obtain ⟨row, -, hof⟩ := exists_source_of_mapM hkeyed hitem
    obtain ⟨heq, htime⟩ := hrow row item hof
    rw [heq]
    exact htime
  have hperm := List.perm_insertionSort (fun a b : Int × Dict => a.1 ≤ b.1) keyed
  have hin : ∀ item ∈ keyed.insertionSort fun a b => a.1 ≤ b.1,
      timeOf parse item.2 = .ok item.1 := fun item hitem => htimes item (hperm.subset hitem)
  refine ⟨⟨hsnd ▸ hperm.map Prod.snd, ?_⟩, hin⟩
  rw [List.pairwise_map]
  refine (List.pairwise_insertionSort (fun a b : Int × Dict => a.1 ≤ b.1) keyed).imp_of_mem ?_
  intro a b ha hb hle
  exact ⟨a.1, b.1, hin a ha, hin b hb, hle⟩

/-- What the ledger reads from the ordered events of a resource. -/
structure Describes (parse : String → Option Int) (workerGeneration : Option String)
    (exitNs : Option Int) (rows : List Dict) (r : Resource) (ordered : List Dict) : Prop where
  order : Ordered parse rows ordered
  transitions : r.transitions = ordered.map transitionOf
  owners : r.runtimeRequestIds = sortedSet (ordered.map ownerOf)
  invalidated : r.externallyInvalidated = true ↔ r.key.1 = "offload_transfer" ∧
    r.transitions = ["acquire", "transfer_pending"] ∧ some r.key.2.2 = workerGeneration ∧
    ∃ last time exit, ordered.getLast? = some last ∧ timeOf parse last = .ok time ∧
      exitNs = some exit ∧ time < exit

theorem describes_of_resourceOf {parse : String → Option Int} {workerGeneration : Option String}
    {exitNs : Option Int} {key : ResourceKey} {rows : List Dict} {r : Resource}
    (h : resourceOf parse workerGeneration exitNs key rows = .ok r) :
    ∃ ordered, Describes parse workerGeneration exitNs rows r ordered := by
  unfold resourceOf at h
  simp only [bind_eq_ok, pure_eq_ok] at h
  obtain ⟨items, hitems, units, -, rfl⟩ := h
  obtain ⟨horder, htimes⟩ := ordered_of_orderedRows hitems
  refine ⟨items.map Prod.snd, horder, ?_, ?_, ?_⟩
  · simp only [List.map_map]
    rfl
  · simp only [List.map_map]
    rfl
  · simp only [Bool.and_eq_true, decide_eq_true_eq, and_assoc, List.getLast?_map]
    refine and_congr_right fun _ => and_congr_right fun _ => and_congr_right fun _ => ?_
    cases hlast : items.getLast? with
    | none => simp
    | some last =>
      have htime := htimes last (List.mem_of_getLast? hlast)
      cases exitNs with
      | none => simp
      | some exit => simp [htime]

/-! ## Classes -/

/-- The sequences some type of resource may end with. -/
def allowedSequences : List (List String) :=
  expectedSequences "kv_capacity_lease" ++ expectedSequences "offload_transfer"

def OneOwner (r : Resource) : Prop := ∃ owner, r.runtimeRequestIds = [owner]

/-- Closed by a sequence of its type. -/
def Closed (r : Resource) : Prop := r.transitions ∈ expectedSequences r.key.1

/-- A transfer left pending before the one observed exit of its generation. -/
structure LeftPending (parse : String → Option Int) (workerGeneration : Option String)
    (workerMonitorEvents : List Dict) (rows : List Dict) (r : Resource) : Prop where
  type : r.key.1 = "offload_transfer"
  pending : r.transitions = ["acquire", "transfer_pending"]
  generation : workerGeneration = some r.key.2.2
  exited : ∃ event exit time, workerMonitorEvents = [event] ∧
    asInt (event.get "timestamp_ns") = some exit ∧ time < exit ∧
    ∃ row ∈ rows, transitionOf row = "transfer_pending" ∧ timeOf parse row = .ok time

/-- The transitions are the beginning of a longer sequence. -/
def Unfinished (sequences : List (List String)) (r : Resource) : Prop :=
  ∃ sequence ∈ sequences, r.transitions <+: sequence ∧ r.transitions ≠ sequence

def ExactlyOne (a b c : Prop) : Prop := (a ∧ ¬b ∧ ¬c) ∨ (b ∧ ¬a ∧ ¬c) ∨ (c ∧ ¬a ∧ ¬b)

/-- Each resource has one owner and is in one class, where the sequences an
orphan may begin depend on its type. -/
def Classified (sequences : String → List (List String)) (parse : String → Option Int)
    (base : List Dict) (workerGeneration : Option String) (workerMonitorEvents : List Dict)
    (pendingWitness : Dict) (ledger : Ledger) : Prop :=
  (∀ key, groupEvents base (witnessOf pendingWitness) key ≠ [] →
    ∃ r ∈ ledger.resources, r.key = key ∧ OneOwner r ∧
      (∃ ordered, Ordered parse (groupEvents base (witnessOf pendingWitness) key) ordered ∧
        r.transitions = ordered.map transitionOf ∧
        r.runtimeRequestIds = sortedSet (ordered.map ownerOf)) ∧
      ExactlyOne (Closed r)
        (r ∈ ledger.externallyInvalidatedResources ∧ LeftPending parse workerGeneration
          workerMonitorEvents (groupEvents base (witnessOf pendingWitness) key) r)
        (r ∈ ledger.orphanResources ∧ Unfinished (sequences key.1) r)) ∧
  ∀ r ∈ ledger.orphanResources, ∀ r' ∈ ledger.externallyInvalidatedResources, r.key ≠ r'.key

/-- A resource the witness does not describe. -/
def Unwitnessed (witness : Option Witness) (key : ResourceKey) : Prop :=
  ∀ w, witness = some w → key ≠ w.key

/-- The two events of a resource that is only acquired and pending name one
request. -/
def PendingOwned (base : List Dict) (witness : Option Witness) : Prop :=
  ∀ key, Unwitnessed witness key → ∀ a b, (eventsOf base key).Perm [a, b] →
    transitionOf a = "acquire" → transitionOf b = "transfer_pending" → ownerOf a = ownerOf b

/-- A resource that is only acquired is of a known type, one that is only
acquired and pending is a transfer. -/
def PendingTyped (base : List Dict) (witness : Option Witness) : Prop :=
  ∀ key, Unwitnessed witness key →
    (∀ a, eventsOf base key = [a] → transitionOf a = "acquire" →
      key.1 = "kv_capacity_lease" ∨ key.1 = "offload_transfer") ∧
    ∀ a b, (eventsOf base key).Perm [a, b] → transitionOf a = "acquire" →
      transitionOf b = "transfer_pending" → key.1 = "offload_transfer"

theorem groupEvents_unwitnessed {base : List Dict} {witness : Option Witness} {key : ResourceKey}
    (h : Unwitnessed witness key) : groupEvents base witness key = eventsOf base key := by
  cases witness with
  | none => rfl
  | some w => exact if_neg (h w rfl)

theorem expectedSequences_cases (type : String) :
    type = "kv_capacity_lease" ∨ type = "offload_transfer" ∨ expectedSequences type = [] := by
  by_cases hlease : type = "kv_capacity_lease"
  · exact .inl hlease
  · by_cases htransfer : type = "offload_transfer"
    · exact .inr (.inl htransfer)
    · exact .inr (.inr (by rw [expectedSequences, if_neg hlease, if_neg htransfer]))

/-- No sequence of a type ends with the acquisition or the pending transfer. -/
theorem not_closed_of_unfinished {r : Resource}
    (h : r.transitions = ["acquire"] ∨ r.transitions = ["acquire", "transfer_pending"]) :
    ¬Closed r := by
  unfold Closed
  rcases expectedSequences_cases r.key.1 with htype | htype | hnone
  · rcases h with h | h <;> rw [h, htype] <;> decide
  · rcases h with h | h <;> rw [h, htype] <;> decide
  · rw [hnone]
    exact List.not_mem_nil

/-- A closed sequence is no rearrangement of an acquired and pending transfer. -/
theorem not_perm_of_closed {r : Resource} (h : Closed r) :
    ¬r.transitions.Perm ["acquire", "transfer_pending"] := by
  intro hperm
  unfold Closed at h
  rcases expectedSequences_cases r.key.1 with htype | htype | hnone
  · rw [htype] at h
    have hall : ∀ sequence ∈ expectedSequences "kv_capacity_lease",
        ¬sequence.Perm ["acquire", "transfer_pending"] := by decide
    exact hall _ h hperm
  · rw [htype] at h
    have hall : ∀ sequence ∈ expectedSequences "offload_transfer",
        ¬sequence.Perm ["acquire", "transfer_pending"] := by decide
    exact hall _ h hperm
  · rw [hnone] at h
    cases h

/-- The ways a resource is judged other than an error. -/
inductive Judged (profile : List Dict) (transfers : Mapping String Dict) (r : Resource) : Prop where
  | invalidated (hverdict : verdict profile transfers r = .externallyInvalidated)
      (hflag : r.externallyInvalidated = true)
  | closed (hverdict : verdict profile transfers r = .closed)
      (hflag : r.externallyInvalidated = false) (howner : OneOwner r) (hclosed : Closed r)
  | orphan (hverdict : verdict profile transfers r = .orphan)
      (hflag : r.externallyInvalidated = false)
      (hbegun : r.transitions = ["acquire"] ∨ r.transitions = ["acquire", "transfer_pending"])

theorem judged_of_verdict {profile : List Dict} {transfers : Mapping String Dict} {r : Resource}
    (h : ∀ reason, verdict profile transfers r ≠ .error reason) : Judged profile transfers r := by
  cases hverdict : verdict profile transfers r with
  | error reason => exact absurd hverdict (h reason)
  | externallyInvalidated =>
    refine .invalidated hverdict ?_
    by_contra hflag
    rw [verdict, if_neg hflag] at hverdict
    split at hverdict <;> try cases hverdict
    split at hverdict <;> try cases hverdict
    split at hverdict <;> cases hverdict
  | closed =>
    have hverdict' := hverdict
    rw [verdict] at hverdict
    split at hverdict
    · cases hverdict
    · next hflag =>
      split at hverdict
      · next hclosed =>
        simp only [Bool.and_eq_true, decide_eq_true_eq, List.contains_iff_mem] at hclosed
        exact .closed hverdict' (Bool.not_eq_true _ ▸ hflag)
          (List.length_eq_one_iff.mp hclosed.1) hclosed.2
      · split at hverdict
        · cases hverdict
        · split at hverdict <;> cases hverdict
  | orphan =>
    have hverdict' := hverdict
    rw [verdict] at hverdict
    split at hverdict
    · cases hverdict
    · next hflag =>
      split at hverdict
      · cases hverdict
      · split at hverdict
        · cases hverdict
        · split at hverdict
          · next hbegun =>
            simp only [Bool.or_eq_true, decide_eq_true_eq] at hbegun
            exact .orphan hverdict' (Bool.not_eq_true _ ▸ hflag) hbegun
          · cases hverdict

section Complete
variable {parse : String → Option Int} {base profile : List Dict}
  {workerGeneration : Option String} {workerMonitorEvents : List Dict} {pendingWitness : Dict}
  {ledger : Ledger}

theorem Listed.ordered
    (h : Listed parse base profile workerGeneration workerMonitorEvents pendingWitness ledger)
    {r : Resource} (hr : r ∈ ledger.resources) :
    ∃ ordered, Describes parse workerGeneration
      (generationExit workerGeneration workerMonitorEvents)
      (groupEvents base (witnessOf pendingWitness) r.key) r ordered :=
  describes_of_resourceOf (h.described r hr).2

theorem Listed.judge
    (h : Listed parse base profile workerGeneration workerMonitorEvents pendingWitness ledger)
    {r : Resource} (hr : r ∈ ledger.resources) :
    Judged profile (profileTransfers profile pendingWitness) r :=
  judged_of_verdict (h.judged r hr)

theorem Listed.unique
    (h : Listed parse base profile workerGeneration workerMonitorEvents pendingWitness ledger)
    {r r' : Resource} (hr : r ∈ ledger.resources) (hr' : r' ∈ ledger.resources)
    (hkey : r.key = r'.key) : r = r' := by
  have hof := (h.described r hr).2
  rw [hkey, (h.described r' hr').2] at hof
  exact (Except.ok.inj hof).symm

theorem leftPending_of_flag {rows ordered : List Dict} {r : Resource}
    (h : Describes parse workerGeneration (generationExit workerGeneration workerMonitorEvents)
      rows r ordered) (hflag : r.externallyInvalidated = true) :
    LeftPending parse workerGeneration workerMonitorEvents rows r := by
  obtain ⟨htype, hpending, hgeneration, last, time, exit, hlast, htime, hexit, hlt⟩ :=
    h.invalidated.mp hflag
  refine ⟨htype, hpending, hgeneration.symm, ?_⟩
  have hlast' : transitionOf last = "transfer_pending" := by
    have hmap : (ordered.map transitionOf).getLast? = some (transitionOf last) := by
      rw [List.getLast?_map, hlast, Option.map_some]
    rw [← h.transitions, hpending] at hmap
    exact (Option.some.inj hmap).symm
  have hrow : last ∈ rows := h.order.perm.subset (List.mem_of_getLast? hlast)
  unfold generationExit at hexit
  split at hexit
  · next event => exact ⟨event, exit, time, rfl, hexit, hlt, last, hrow, hlast', htime⟩
  · cases hexit

/-- A judged resource is in one class unless it is an orphan that begins no
sequence. -/
theorem Listed.exactlyOne
    (h : Listed parse base profile workerGeneration workerMonitorEvents pendingWitness ledger)
    {r : Resource} (hr : r ∈ ledger.resources) (sequences : List (List String)) :
    ExactlyOne (Closed r)
        (r ∈ ledger.externallyInvalidatedResources ∧ LeftPending parse workerGeneration
          workerMonitorEvents (groupEvents base (witnessOf pendingWitness) r.key) r)
        (r ∈ ledger.orphanResources ∧ Unfinished sequences r) ↔
      (r ∈ ledger.orphanResources → Unfinished sequences r) := by
  obtain ⟨ordered, hordered⟩ := h.ordered hr
  have hinvalidated := h.invalidated r
  have horphans := h.orphans r
  rcases h.judge hr with ⟨hverdict, hflag⟩ | ⟨hverdict, hflag, howner, hclosed⟩ |
    ⟨hverdict, hflag, hbegun⟩
  · have hpending := leftPending_of_flag hordered hflag
    have hnot : r ∉ ledger.orphanResources := fun hmem => by
      have heq := (horphans.mp hmem).2
      rw [hverdict] at heq
      cases heq
    refine ⟨fun _ hmem => absurd hmem hnot, fun _ => .inr (.inl ⟨⟨?_, hpending⟩, ?_, ?_⟩)⟩
    · exact hinvalidated.mpr ⟨hr, hverdict⟩
    · exact not_closed_of_unfinished (.inr hpending.pending)
    · exact fun hmem => hnot hmem.1
  · have hnot : r ∉ ledger.orphanResources := fun hmem => by
      have heq := (horphans.mp hmem).2
      rw [hverdict] at heq
      cases heq
    have hnot' : r ∉ ledger.externallyInvalidatedResources := fun hmem => by
      have heq := (hinvalidated.mp hmem).2
      rw [hverdict] at heq
      cases heq
    refine ⟨fun _ hmem => absurd hmem hnot, fun _ => .inl ⟨hclosed, ?_, ?_⟩⟩
    · exact fun hmem => hnot' hmem.1
    · exact fun hmem => hnot hmem.1
  · have hmem : r ∈ ledger.orphanResources := horphans.mpr ⟨hr, hverdict⟩
    have hnot : ¬Closed r := not_closed_of_unfinished hbegun
    have hnot' : r ∉ ledger.externallyInvalidatedResources := fun hin => by
      have heq := (hinvalidated.mp hin).2
      rw [hverdict] at heq
      cases heq
    constructor
    · rintro (⟨hclosed, -⟩ | ⟨⟨hin, -⟩, -⟩ | ⟨⟨-, hunfinished⟩, -⟩) -
      · exact absurd hclosed hnot
      · exact absurd hin hnot'
      · exact hunfinished
    · exact fun hall => .inr (.inr ⟨⟨hmem, hall hmem⟩, hnot, fun hin => hnot' hin.1⟩)

theorem classified_iff
    (h : Listed parse base profile workerGeneration workerMonitorEvents pendingWitness ledger)
    (sequences : String → List (List String)) :
    Classified sequences parse base workerGeneration workerMonitorEvents pendingWitness ledger ↔
      (∀ r ∈ ledger.resources, OneOwner r) ∧
        ∀ r ∈ ledger.orphanResources, Unfinished (sequences r.key.1) r := by
  constructor
  · rintro ⟨hall, -⟩
    have hthis : ∀ r ∈ ledger.resources, OneOwner r ∧
        (r ∈ ledger.orphanResources → Unfinished (sequences r.key.1) r) := by
      intro r hr
      obtain ⟨r', hr', hkey, howner, -, hone⟩ := hall r.key (h.described r hr).1
      cases h.unique hr' hr hkey
      exact ⟨howner, (h.exactlyOne hr _).mp hone⟩
    exact ⟨fun r hr => (hthis r hr).1, fun r hr => (hthis r ((h.orphans r).mp hr).1).2 hr⟩
  · rintro ⟨howners, hunfinished⟩
    refine ⟨fun key hne => ?_, fun r hr r' hr' hkey => ?_⟩
    · obtain ⟨r, hr, rfl⟩ := h.listed key hne
      obtain ⟨ordered, hordered⟩ := h.ordered hr
      exact ⟨r, hr, rfl, howners r hr, ⟨ordered, hordered.order, hordered.transitions,
        hordered.owners⟩, (h.exactlyOne hr _).mpr (hunfinished r)⟩
    · obtain ⟨hin, hverdict⟩ := (h.orphans r).mp hr
      obtain ⟨hin', hverdict'⟩ := (h.invalidated r').mp hr'
      rw [h.unique hin hin' hkey, hverdict'] at hverdict
      cases hverdict

/-! ## What the classes need of the events -/

theorem Describes.oneOwner_iff {rows ordered : List Dict} {r : Resource} {exitNs : Option Int}
    (h : Describes parse workerGeneration exitNs rows r ordered) :
    OneOwner r ↔ ∃ owner, rows ≠ [] ∧ ∀ row ∈ rows, ownerOf row = owner := by
  rw [OneOwner, h.owners, exists_unique_of_sortedSet]
  simp only [List.mem_map, forall_exists_index, and_imp, forall_apply_eq_imp_iff₂, ne_eq,
    List.map_eq_nil_iff]
  refine exists_congr fun owner => and_congr ?_ ?_
  · exact not_congr ⟨fun hnil => (hnil ▸ h.order.perm).nil_eq.symm,
      fun hnil => (hnil ▸ h.order.perm).eq_nil⟩
  · exact forall_congr' fun row => by rw [h.order.perm.mem_iff]

/-- The events behind one or two transitions. -/
theorem Describes.acquired {rows ordered : List Dict} {r : Resource} {exitNs : Option Int}
    (h : Describes parse workerGeneration exitNs rows r ordered)
    (hbegun : r.transitions = ["acquire"]) : ∃ a, rows = [a] ∧ transitionOf a = "acquire" := by
  rw [h.transitions, List.map_eq_singleton_iff] at hbegun
  obtain ⟨a, rfl, ha⟩ := hbegun
  exact ⟨a, (List.perm_singleton.mp h.order.perm.symm), ha⟩

theorem Describes.pending {rows ordered : List Dict} {r : Resource} {exitNs : Option Int}
    (h : Describes parse workerGeneration exitNs rows r ordered)
    (hbegun : r.transitions = ["acquire", "transfer_pending"]) :
    ∃ a b, rows.Perm [a, b] ∧ transitionOf a = "acquire" ∧ transitionOf b = "transfer_pending" := by
  rw [h.transitions, List.map_eq_cons_iff] at hbegun
  obtain ⟨a, rest, rfl, ha, hrest⟩ := hbegun
  rw [List.map_eq_singleton_iff] at hrest
  obtain ⟨b, rfl, hb⟩ := hrest
  exact ⟨a, b, h.order.perm.symm, ha, hb⟩

theorem Describes.transitions_perm {rows ordered : List Dict} {r : Resource}
    {exitNs : Option Int} (h : Describes parse workerGeneration exitNs rows r ordered) :
    r.transitions.Perm (rows.map transitionOf) := h.transitions ▸ h.order.perm.map transitionOf

/-- The two events of a witness name its request. -/
theorem owners_of_witnessed {w : Witness} {a b : Dict}
    (h : (groupEvents base (some w) w.key).Perm [a, b]) : ownerOf a = ownerOf b := by
  rw [groupEvents, if_pos rfl] at h
  have hlength := h.length_eq
  have hnone : (eventsOf base w.key).filter isClosure = [] := by
    refine List.length_eq_zero_iff.mp ?_
    simp only [List.length_append, Witness.rows, List.length_cons, List.length_nil] at hlength
    omega
  rw [hnone, List.append_nil] at h
  have howner : ∀ row ∈ w.rows, ownerOf row = w.requestId := by
    intro row hrow
    simp only [Witness.rows, List.mem_cons, List.not_mem_nil, or_false] at hrow
    rcases hrow with rfl | rfl <;> rfl
  have ha := howner a (h.symm.subset List.mem_cons_self)
  have hb := howner b (h.symm.subset (List.mem_cons_of_mem _ List.mem_cons_self))
  exact ha.trans hb.symm

theorem witnessed_or {witness : Option Witness} (key : ResourceKey) :
    Unwitnessed witness key ∨ ∃ w, witness = some w ∧ key = w.key := by
  by_cases h : ∃ w, witness = some w ∧ key = w.key
  · exact .inr h
  · exact .inl fun w hw hkey => h ⟨w, hw, hkey⟩

theorem owners_iff
    (h : Listed parse base profile workerGeneration workerMonitorEvents pendingWitness ledger) :
    (∀ r ∈ ledger.resources, OneOwner r) ↔ PendingOwned base (witnessOf pendingWitness) := by
  constructor
  · intro hall key hkey a b hperm _ _
    have hrows : groupEvents base (witnessOf pendingWitness) key = eventsOf base key :=
      groupEvents_unwitnessed hkey
    have hne : groupEvents base (witnessOf pendingWitness) key ≠ [] := by
      rw [hrows]
      exact fun hnil => by simpa [hnil] using hperm.length_eq
    obtain ⟨r, hr, rfl⟩ := h.listed key hne
    obtain ⟨ordered, hordered⟩ := h.ordered hr
    obtain ⟨owner, -, howner⟩ := hordered.oneOwner_iff.mp (hall r hr)
    rw [hrows] at howner
    have ha := howner a (hperm.symm.subset List.mem_cons_self)
    have hb := howner b (hperm.symm.subset (List.mem_cons_of_mem _ List.mem_cons_self))
    exact ha.trans hb.symm
  · intro howned r hr
    obtain ⟨ordered, hordered⟩ := h.ordered hr
    -- two events of a pending transfer, from the base rows or from the witness
    have hpending : r.transitions = ["acquire", "transfer_pending"] → OneOwner r := by
      intro hbegun
      obtain ⟨a, b, hperm, ha, hb⟩ := hordered.pending hbegun
      have hsame : ownerOf a = ownerOf b := by
        rcases witnessed_or r.key with hkey | ⟨w, hw, hkey⟩
        · rw [groupEvents_unwitnessed hkey] at hperm
          exact howned r.key hkey a b hperm ha hb
        · rw [hw, hkey] at hperm
          exact owners_of_witnessed hperm
      refine hordered.oneOwner_iff.mpr ⟨ownerOf b, (h.described r hr).1, fun row hrow => ?_⟩
      have hmem := hperm.subset hrow
      simp only [List.mem_cons, List.not_mem_nil, or_false] at hmem
      rcases hmem with rfl | rfl
      · exact hsame
      · rfl
    rcases h.judge hr with ⟨-, hflag⟩ | ⟨-, -, howner, -⟩ | ⟨-, -, hbegun | hbegun⟩
    · exact hpending (leftPending_of_flag hordered hflag).pending
    · exact howner
    · obtain ⟨a, hrows, -⟩ := hordered.acquired hbegun
      refine hordered.oneOwner_iff.mpr ⟨ownerOf a, (h.described r hr).1, fun row hrow => ?_⟩
      rw [hrows, List.mem_singleton] at hrow
      rw [hrow]
    · exact hpending hbegun

/-- What is only begun and not externally invalidated is an orphan. -/
theorem Listed.orphan_of_begun
    (h : Listed parse base profile workerGeneration workerMonitorEvents pendingWitness ledger)
    {r : Resource} (hr : r ∈ ledger.resources) (hflag : r.externallyInvalidated = false)
    (hbegun : r.transitions = ["acquire"] ∨ r.transitions = ["acquire", "transfer_pending"]) :
    r ∈ ledger.orphanResources := by
  rcases h.judge hr with ⟨-, hflag'⟩ | ⟨-, -, -, hclosed⟩ | ⟨hverdict, -, -⟩
  · rw [hflag] at hflag'
    cases hflag'
  · exact absurd hclosed (not_closed_of_unfinished hbegun)
  · exact (h.orphans r).mpr ⟨hr, hverdict⟩

theorem unfinished_allowed
    (h : Listed parse base profile workerGeneration workerMonitorEvents pendingWitness ledger)
    {r : Resource} (hr : r ∈ ledger.orphanResources) : Unfinished allowedSequences r := by
  obtain ⟨hin, hverdict⟩ := (h.orphans r).mp hr
  refine ⟨["acquire", "transfer_pending", "release"], by decide, ?_⟩
  rcases h.judge hin with ⟨hverdict', -⟩ | ⟨hverdict', -, -, -⟩ | ⟨-, -, hbegun | hbegun⟩
  · rw [hverdict'] at hverdict
    cases hverdict
  · rw [hverdict'] at hverdict
    cases hverdict
  · rw [hbegun]
    decide
  · rw [hbegun]
    decide

/-- What an orphan has to be for its transitions to begin a sequence of its type. -/
theorem unfinished_typed_iff {r : Resource}
    (hbegun : r.transitions = ["acquire"] ∨ r.transitions = ["acquire", "transfer_pending"]) :
    Unfinished (expectedSequences r.key.1) r ↔
      (r.transitions = ["acquire"] ∧
        (r.key.1 = "kv_capacity_lease" ∨ r.key.1 = "offload_transfer")) ∨
      r.transitions = ["acquire", "transfer_pending"] ∧ r.key.1 = "offload_transfer" := by
  unfold Unfinished
  rcases expectedSequences_cases r.key.1 with htype | htype | hnone
  · rcases hbegun with hbegun | hbegun <;> rw [hbegun, htype] <;> decide
  · rcases hbegun with hbegun | hbegun <;> rw [hbegun, htype] <;> decide
  · have hneither : r.key.1 ≠ "kv_capacity_lease" ∧ r.key.1 ≠ "offload_transfer" := by
      constructor <;> intro htype <;> rw [htype] at hnone <;> exact absurd hnone (by decide)
    simp [hnone, hneither.1, hneither.2]

theorem typed_iff
    (h : Listed parse base profile workerGeneration workerMonitorEvents pendingWitness ledger) :
    (∀ r ∈ ledger.orphanResources, Unfinished (expectedSequences r.key.1) r) ↔
      PendingTyped base (witnessOf pendingWitness) := by
  constructor
  · intro hall key hkey
    have hrows : groupEvents base (witnessOf pendingWitness) key = eventsOf base key :=
      groupEvents_unwitnessed hkey
    refine ⟨fun a hevents ha => ?_, fun a b hperm ha hb => ?_⟩
    · obtain ⟨r, hr, rfl⟩ := h.listed key (by simp [hrows, hevents])
      obtain ⟨ordered, hordered⟩ := h.ordered hr
      have hbegun : r.transitions = ["acquire"] := by
        have hperm := hordered.transitions_perm
        rw [hrows, hevents, List.map_singleton, ha] at hperm
        exact List.perm_singleton.mp hperm
      have hflag : r.externallyInvalidated = false := by
        refine Bool.eq_false_iff.mpr fun hflag => ?_
        have hpending := (leftPending_of_flag hordered hflag).pending
        rw [hbegun] at hpending
        exact absurd hpending (by decide)
      have hunfinished := hall r (h.orphan_of_begun hr hflag (.inl hbegun))
      rcases (unfinished_typed_iff (.inl hbegun)).mp hunfinished with ⟨-, htype⟩ | ⟨-, htype⟩
      · exact htype
      · exact .inr htype
    · have hne : eventsOf base key ≠ [] := fun hnil => by simpa [hnil] using hperm.length_eq
      obtain ⟨r, hr, rfl⟩ := h.listed key (hrows ▸ hne)
      obtain ⟨ordered, hordered⟩ := h.ordered hr
      have hperm' : r.transitions.Perm ["acquire", "transfer_pending"] := by
        have hboth := hordered.transitions_perm.trans ((hrows ▸ hperm).map transitionOf)
        simpa only [List.map_cons, List.map_nil, ha, hb] using hboth
      -- the other order is an error
      have hbegun : r.transitions = ["acquire", "transfer_pending"] := by
        rcases h.judge hr with ⟨-, hflag⟩ | ⟨-, -, -, hclosed⟩ | ⟨-, -, hbegun | hbegun⟩
        · exact (leftPending_of_flag hordered hflag).pending
        · exact absurd hperm' (not_perm_of_closed hclosed)
        · rw [hbegun] at hperm'
          exact absurd hperm'.length_eq (by decide)
        · exact hbegun
      by_cases hflag : r.externallyInvalidated = true
      · exact (leftPending_of_flag hordered hflag).type
      · have horphan := h.orphan_of_begun hr (Bool.eq_false_iff.mpr hflag) (.inr hbegun)
        rcases (unfinished_typed_iff (.inr hbegun)).mp
          (hall r horphan) with ⟨hother, -⟩ | ⟨-, htype⟩
        · rw [hbegun] at hother
          exact absurd hother (by decide)
        · exact htype
  · intro htyped r hr
    obtain ⟨hin, hverdict⟩ := (h.orphans r).mp hr
    obtain ⟨ordered, hordered⟩ := h.ordered hin
    have hbegun : r.transitions = ["acquire"] ∨
      r.transitions = ["acquire", "transfer_pending"] := by
      rcases h.judge hin with ⟨hverdict', -⟩ | ⟨hverdict', -, -, -⟩ | ⟨-, -, hbegun⟩
      · rw [hverdict'] at hverdict
        cases hverdict
      · rw [hverdict'] at hverdict
        cases hverdict
      · exact hbegun
    rw [unfinished_typed_iff hbegun]
    rcases witnessed_or r.key with hkey | ⟨w, -, hkey⟩
    · have hrows : groupEvents base (witnessOf pendingWitness) r.key = eventsOf base r.key :=
        groupEvents_unwitnessed hkey
      rcases hbegun with hbegun | hbegun
      · obtain ⟨a, hevents, ha⟩ := hordered.acquired hbegun
        exact .inl ⟨hbegun, (htyped r.key hkey).1 a (hrows ▸ hevents) ha⟩
      · obtain ⟨a, b, hperm, ha, hb⟩ := hordered.pending hbegun
        exact .inr ⟨hbegun, (htyped r.key hkey).2 a b (hrows ▸ hperm) ha hb⟩
    · have htype : r.key.1 = "offload_transfer" := by rw [hkey, Witness.key]
      rcases hbegun with hbegun | hbegun
      · exact .inl ⟨hbegun, .inr htype⟩
      · exact .inr ⟨hbegun, htype⟩

end Complete

/-- **The classes of a complete ledger.** Every resource has one owner and one
class, whichever sequences an orphan may begin, exactly when the two events of
each pending transfer name one request; that an orphan begins a sequence of
its own type needs, beyond this, that what is only acquired has a known type
and what is only pending is a transfer. -/
theorem complete_ledger_classified_iff {parse : String → Option Int} {base profile : List Dict}
    {workerGeneration : Option String} {workerMonitorEvents : List Dict} {pendingWitness : Dict}
    {ledger : Ledger}
    (h : resourceLedger parse base profile workerGeneration workerMonitorEvents pendingWitness =
      .ok ledger) (hcomplete : ledger.complete = true) :
    (Classified (fun _ => allowedSequences) parse base workerGeneration workerMonitorEvents
        pendingWitness ledger ↔ PendingOwned base (witnessOf pendingWitness)) ∧
    (Classified expectedSequences parse base workerGeneration workerMonitorEvents
        pendingWitness ledger ↔ PendingOwned base (witnessOf pendingWitness) ∧
          PendingTyped base (witnessOf pendingWitness)) := by
  have hlisted := listed_of_complete h hcomplete
  refine ⟨?_, ?_⟩
  · rw [classified_iff hlisted, owners_iff hlisted]
    exact ⟨fun hboth => hboth.1, fun howned => ⟨howned, fun r hr => unfinished_allowed hlisted hr⟩⟩
  · rw [classified_iff hlisted, owners_iff hlisted, typed_iff hlisted]

namespace Sample

/-- `int` of texts, none of which occur below. -/
def parse : String → Option Int := fun _ => none

def event (eventName transition : String) (timestampNs : Int) (type id generation rid : String) :
    Dict :=
  [("event_name", .str eventName), ("timestamp_ns", .int timestampNs),
   ("metadata", .dict [("runtime_request_id", .str rid), ("resource_type", .str type),
     ("resource_id", .str id), ("resource_transition", .str transition), ("resource_units", .int 1),
     ("worker_generation", .str generation)])]

def transferId : String := "0a0a0a0a0a0a0a0a0a0a0a0a0a0a0a0a:t:1"

/-- A closed lease and a transfer left pending before the exit at 5. -/
def base (acquirer submitter : String) : List Dict :=
  [event "resource_acquired" "acquire" 1 "kv_capacity_lease" "kv-lease:one:0" "EngineCore:110"
    "request-0",
   event "resource_released" "release" 2 "kv_capacity_lease" "kv-lease:one:0" "EngineCore:110"
    "request-0",
   event "resource_acquired" "acquire" 3 "offload_transfer" transferId "VllmWorker-0:120" acquirer,
   event "resource_transfer_pending" "transfer_pending" 4 "offload_transfer" transferId
    "VllmWorker-0:120" submitter]

def profile : List Dict :=
  [[("record_type", .str "transfer_event"), ("transfer_phase", .str "submit"),
    ("transfer_id", .str transferId)]]

def ledger (acquirer submitter : String) : Except PyError Ledger :=
  resourceLedger parse (base acquirer submitter) profile (some "VllmWorker-0:120")
    [[("timestamp_ns", .int 5)]] []

end Sample
theorem complete_ledger_classified_iff_sample :
    ∃ ledger, Sample.ledger "request-0" "request-0" = .ok ledger ∧
      Classified (fun _ => allowedSequences) Sample.parse (Sample.base "request-0" "request-0")
        (some "VllmWorker-0:120") [[("timestamp_ns", .int 5)]] [] ledger := by
  have hmap : (Sample.ledger "request-0" "request-0").map Ledger.complete = .ok true := by
    decide +kernel
  obtain ⟨ledger, hledger, hcomplete⟩ := map_eq_ok.mp hmap
  refine ⟨ledger, hledger, (complete_ledger_classified_iff hledger hcomplete).1.mpr ?_⟩
  have howner : ∀ row ∈ Sample.base "request-0" "request-0", ownerOf row = "request-0" := by
    decide +kernel
  intro key _ a b hperm _ _
  have ha := List.mem_of_mem_filter (hperm.symm.subset List.mem_cons_self)
  have hb := List.mem_of_mem_filter
    (hperm.symm.subset (List.mem_cons_of_mem _ List.mem_cons_self))
  exact (howner a ha).trans (howner b hb).symm

/-- A transfer acquired for one request and submitted for another is reported
as externally invalidated, in a complete ledger. -/
theorem transfer_of_two_requests :
    ¬∀ (parse : String → Option Int) (base profile : List Dict) (workerGeneration : Option String)
      (workerMonitorEvents : List Dict) (pendingWitness : Dict) (ledger : Ledger),
      resourceLedger parse base profile workerGeneration workerMonitorEvents pendingWitness =
        .ok ledger → ledger.complete = true →
      Classified (fun _ => allowedSequences) parse base workerGeneration workerMonitorEvents
        pendingWitness ledger := by
  intro hall
  have hmap : (Sample.ledger "request-0" "request-1").map (fun ledger => (ledger.complete,
      ledger.resources.map fun r => (r.key.1, r.runtimeRequestIds))) =
      .ok (true, [("kv_capacity_lease", ["request-0"]),
        ("offload_transfer", ["request-0", "request-1"])]) := by
    decide +kernel
  obtain ⟨ledger, hledger, heq⟩ := map_eq_ok.mp hmap
  obtain ⟨hcomplete, hresources⟩ := Prod.mk.inj heq
  have hclassified := hall _ _ _ _ _ _ ledger hledger hcomplete
  have hevents : (groupEvents (Sample.base "request-0" "request-1") (witnessOf [])
      ("offload_transfer", Sample.transferId, "VllmWorker-0:120")).length = 2 := by
    decide +kernel
  obtain ⟨r, hr, hkey, ⟨owner, howner⟩, -⟩ := hclassified.1 _ fun hnil => by
    rw [hnil] at hevents
    cases hevents
  have hmem : (r.key.1, r.runtimeRequestIds) ∈ [("kv_capacity_lease", ["request-0"]),
      ("offload_transfer", ["request-0", "request-1"])] :=
    hresources ▸ List.mem_map_of_mem hr
  rw [hkey, howner] at hmem
  simp at hmem

end LifecycleProfiler.Baseline
