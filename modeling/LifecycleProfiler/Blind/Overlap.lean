import LifecycleProfiler.General.Windows
import LifecycleProfiler.Blind.Lockable

/-! # Overlap accounting

The validator compares what all spans of a group account for with the measure
of their union. Some of the spans may still account for more than their own
union, when another span of the group leaves room. -/

namespace LifecycleProfiler.Blind
open Python Protocol General

def LifecycleSpan.interval (span : LifecycleSpan) : ℤ × ℤ := (span.startNs, span.endNs)

/-- What the spans account for together. -/
def chargedMs (spans : List LifecycleSpan) : ℚ := (spans.map (·.accountedDurationMs)).sum

/-- The measure of the union of the intervals of the spans. -/
def coveredMs (spans : List LifecycleSpan) : ℚ :=
  ((cover (spans.map LifecycleSpan.interval)).card : ℚ) / 1000000

/-- The tolerance of the accounting checks, in milliseconds. -/
def toleranceMs : ℚ := 1 / 1000000000

/-- The spans of one trace, lifecycle, request, epoch and clock domain. -/
def Observation.group (o : Observation) (key : RequestIdentity × String) : List LifecycleSpan :=
  o.lifecycleSpans.filter fun span => accountingKey span = key

/-- No spans of one group account for more than their union. -/
def Observation.ChargedOnce (o : Observation) : Prop :=
  ∀ key, ∀ spans, spans.Sublist (o.group key) → chargedMs spans ≤ coveredMs spans + toleranceMs

/-! ## The measure the validator computes -/

theorem foldl_extendUnion {rest : List (ℤ × ℤ)} :
    ∀ {done windows : List (ℤ × ℤ)} {current : ℤ × ℤ}, Windows done (windows ++ [current]) →
      (∀ interval ∈ rest, interval.1 ≤ interval.2) →
      (done ++ rest).Pairwise (fun left right => left.1 ≤ right.1) →
      ∃ windows' current', rest.foldl extendUnion (totalLength windows, current.1, current.2) =
        (totalLength windows', current'.1, current'.2) ∧
        Windows (done ++ rest) (windows' ++ [current']) := by
  induction rest with
  | nil => exact fun h _ _ => ⟨_, _, rfl, by simpa using h⟩
  | cons next rest ih =>
    intro done windows current h hordered hsorted
    obtain ⟨hnext, hrest⟩ := List.forall_mem_cons.mp hordered
    have hstart : current.1 ≤ next.1 := by
      obtain ⟨interval, hi, hstart⟩ := h.starts current (by simp)
      exact hstart ▸ (List.pairwise_append.mp hsorted).2.2 interval hi next List.mem_cons_self
    rw [List.append_cons] at hsorted ⊢
    rw [List.foldl_cons]
    by_cases htouch : next.1 ≤ current.2
    · have hstep : extendUnion (totalLength windows, current.1, current.2) next =
          (totalLength windows, current.1, max current.2 next.2) := if_pos htouch
      rw [hstep]
      exact ih (h.extend hnext hstart htouch) hrest hsorted
    · have hstep : extendUnion (totalLength windows, current.1, current.2) next =
          (totalLength (windows ++ [current]), next.1, next.2) := by
        rw [totalLength_append, totalLength_singleton]
        exact if_neg htouch
      rw [hstep]
      exact ih (h.append hnext (not_le.mp htouch)) hrest hsorted

/-- The order `sorted` gives the intervals. -/
abbrev Earlier (a b : ℤ × ℤ) : Prop := a.1 < b.1 ∨ a.1 = b.1 ∧ a.2 ≤ b.2

instance : Std.Total Earlier := ⟨fun a b => by unfold Earlier; omega⟩
instance : IsTrans (ℤ × ℤ) Earlier := ⟨fun a b c => by unfold Earlier; omega⟩

theorem sorted_starts (intervals : List (ℤ × ℤ)) :
    (intervals.insertionSort Earlier).Pairwise fun left right => left.1 ≤ right.1 :=
  (List.pairwise_insertionSort Earlier intervals).imp fun h => by unfold Earlier at h; omega

/-- The sweep of the validator finds the windows of the union. -/
theorem unionMeasure_windows {intervals : List (ℤ × ℤ)}
    (hordered : ∀ interval ∈ intervals, interval.1 ≤ interval.2) :
    ∃ windows, Windows intervals windows ∧ unionMeasure intervals = totalLength windows := by
  have hperm := List.perm_insertionSort Earlier intervals
  have hsorted := sorted_starts intervals
  unfold unionMeasure
  revert hperm hsorted
  generalize intervals.insertionSort Earlier = sorted
  intro hperm hsorted
  have hordered' : ∀ interval ∈ sorted, interval.1 ≤ interval.2 := fun interval hi =>
    hordered interval (hperm.mem_iff.mp hi)
  cases sorted with
  | nil => exact ⟨[], Windows.nil.congr fun _ => hperm.mem_iff, rfl⟩
  | cons first rest =>
    obtain ⟨hfirst, hrest⟩ := List.forall_mem_cons.mp hordered'
    obtain ⟨windows, current, hfold, hwindows⟩ :=
      @foldl_extendUnion rest [first] [] first (Windows.single hfirst) hrest hsorted
    refine ⟨windows ++ [current], hwindows.congr fun _ => hperm.mem_iff, ?_⟩
    rw [totalLength_append, totalLength_singleton]
    have hswept : rest.foldl extendUnion (0, first.1, first.2) = _ := hfold
    simp only [hswept]

/-! ## What validation leaves -/

/-- The facts about the spans of an accepted observation. -/
structure Observation.Accounted (o : Observation) : Prop where
  ordered : ∀ span ∈ o.lifecycleSpans, span.startNs ≤ span.endNs
  charged : ∀ span ∈ o.lifecycleSpans, 0 ≤ span.accountedDurationMs
  groups : ∀ key, chargedMs (o.group key) ≤
    (unionMeasure ((o.group key).map LifecycleSpan.interval) : ℚ) / 1000000 + toleranceMs

theorem ordered_of_readSpan {candidates : List String} {events : List NormalizedEvent}
    {place : String} {done : List LifecycleSpan} {value : Value} {span : LifecycleSpan}
    (h : readSpan candidates events place done value = .ok span) : span.startNs ≤ span.endNs := by
  simp only [readSpan, bind_eq_ok, exists_unit, raiseIf_eq_ok, require_eq_ok, pure_eq_ok,
    decide_eq_false_iff_not, not_lt] at h
  obtain ⟨_, -, -, _, -, -, _, -, _, -, _, -, -, _, -, _, -, _, -, _, -, _, -, _, -, hordered, _,
    -, -, -, -, rfl⟩ := h
  exact hordered

theorem accounted_of_validateOverlap {spans : List LifecycleSpan} {place : String}
    (h : validateOverlapAccounting spans place = .ok ()) (key : RequestIdentity × String) :
    chargedMs (spans.filter fun span => accountingKey span = key) ≤
      (unionMeasure ((spans.filter fun span => accountingKey span = key).map
        LifecycleSpan.interval) : ℚ) / 1000000 + toleranceMs := by
  by_cases hkey : key ∈ (spans.map accountingKey).dedup
  · have hcheck := forEach_eq_ok.mp h key hkey
    rw [raiseIf_eq_ok, decide_eq_false_iff_not, not_lt] at hcheck
    exact hcheck
  · have hempty : (spans.filter fun span => accountingKey span = key) = [] := by
      refine List.filter_eq_nil_iff.mpr fun span hspan hmatch => hkey ?_
      exact List.mem_dedup.mpr (List.mem_map.mpr ⟨span, hspan, of_decide_eq_true hmatch⟩)
    rw [hempty]
    simp [chargedMs, unionMeasure, toleranceMs]

/-! ## When the validator raises -/

/-- The spans the validator accounts for together. -/
def spansOf (spans : List LifecycleSpan) (key : RequestIdentity × String) : List LifecycleSpan :=
  spans.filter fun span => accountingKey span = key

def overlapError (place : String) : PyError :=
  .valueError s!"{place}.lifecycle_spans double-charge overlapping evidence"

/-- A group is charged for more than its union. -/
def Overcharged (spans : List LifecycleSpan) : Prop :=
  ∃ key, coveredMs (spansOf spans key) + toleranceMs < chargedMs (spansOf spans key)

/-- The sweep measures the union of the intervals. -/
theorem unionMeasure_eq_card {intervals : List (ℤ × ℤ)}
    (hordered : ∀ interval ∈ intervals, interval.1 ≤ interval.2) :
    unionMeasure intervals = (cover intervals).card := by
  obtain ⟨windows, hwindows, hmeasure⟩ := unionMeasure_windows hordered
  rw [hmeasure, hwindows.card_cover]

theorem unionMeasure_spansOf {spans : List LifecycleSpan} (key : RequestIdentity × String)
    (hordered : ∀ span ∈ spans, span.startNs ≤ span.endNs) :
    unionMeasure ((spansOf spans key).map LifecycleSpan.interval) =
      (cover ((spansOf spans key).map LifecycleSpan.interval)).card := by
  refine unionMeasure_eq_card fun interval hinterval => ?_
  obtain ⟨span, hspan, rfl⟩ := List.mem_map.mp hinterval
  exact hordered span (List.mem_filter.mp hspan).1

/-- A loop whose bodies can raise only one error either raises it or accepts. -/
theorem forEach_raiseIf {α : Type} {bad : α → Bool} {message : String} (xs : List α) :
    forEach (fun x => raiseIf (bad x) message) xs = raiseIf (xs.any bad) message := by
  induction xs with
  | nil => rfl
  | cons x xs ih =>
    rw [forEach, ih, List.any_cons]
    cases bad x <;> rfl

theorem validateOverlapAccounting_eq (spans : List LifecycleSpan) (place : String) :
    validateOverlapAccounting spans place = raiseIf ((spans.map accountingKey).dedup.any fun key =>
      (unionMeasure ((spansOf spans key).map LifecycleSpan.interval) : ℚ) / 1000000 + toleranceMs <
        chargedMs (spansOf spans key))
      s!"{place}.lifecycle_spans double-charge overlapping evidence" :=
  forEach_raiseIf _

/-- Spans without a group are not charged. -/
theorem not_overcharged_nil : ¬ coveredMs [] + toleranceMs < chargedMs [] := by
  simp [chargedMs, coveredMs, cover, toleranceMs]

theorem mem_keys_of_overcharged {spans : List LifecycleSpan} {key : RequestIdentity × String}
    (h : coveredMs (spansOf spans key) + toleranceMs < chargedMs (spansOf spans key)) :
    key ∈ (spans.map accountingKey).dedup := by
  by_contra hkey
  have hempty : spansOf spans key = [] := by
    refine List.filter_eq_nil_iff.mpr fun span hspan hmatch => hkey ?_
    exact List.mem_dedup.mpr (List.mem_map.mpr ⟨span, hspan, of_decide_eq_true hmatch⟩)
  rw [hempty] at h
  exact not_overcharged_nil h

/-- The checks of the groups together ask whether some group is overcharged. -/
theorem any_overcharged {spans : List LifecycleSpan}
    (hordered : ∀ span ∈ spans, span.startNs ≤ span.endNs) :
    ((spans.map accountingKey).dedup.any fun key =>
      (unionMeasure ((spansOf spans key).map LifecycleSpan.interval) : ℚ) / 1000000 + toleranceMs <
        chargedMs (spansOf spans key)) = true ↔ Overcharged spans := by
  have hmeasure : ∀ key, (unionMeasure ((spansOf spans key).map LifecycleSpan.interval) : ℚ) /
      1000000 = coveredMs (spansOf spans key) := fun key => by
    rw [unionMeasure_spansOf key hordered, coveredMs, Int.cast_natCast]
  rw [List.any_eq_true]
  constructor
  · rintro ⟨key, -, hless⟩
    exact ⟨key, hmeasure key ▸ of_decide_eq_true hless⟩
  · rintro ⟨key, hless⟩
    refine ⟨key, mem_keys_of_overcharged hless, decide_eq_true ?_⟩
    rw [hmeasure key]
    exact hless

/-- The validator raises exactly when a group is charged for more than its union. -/
theorem overlap_raises_iff {spans : List LifecycleSpan} {place : String}
    (hordered : ∀ span ∈ spans, span.startNs ≤ span.endNs) :
    validateOverlapAccounting spans place = .error (overlapError place) ↔ Overcharged spans := by
  rw [validateOverlapAccounting_eq, ← any_overcharged hordered, raiseIf]
  split <;> simp_all [overlapError]

theorem overlap_accepts_iff {spans : List LifecycleSpan} {place : String}
    (hordered : ∀ span ∈ spans, span.startNs ≤ span.endNs) :
    validateOverlapAccounting spans place = .ok () ↔ ¬ Overcharged spans := by
  rw [validateOverlapAccounting_eq, ← any_overcharged hordered, raiseIf_eq_ok,
    Bool.not_eq_true]

theorem overcharged_perm {spans reordered : List LifecycleSpan} (h : reordered.Perm spans) :
    Overcharged reordered ↔ Overcharged spans := by
  refine exists_congr fun key => ?_
  have hgroup : (spansOf reordered key).Perm (spansOf spans key) := h.filter _
  have hcharged : chargedMs (spansOf reordered key) = chargedMs (spansOf spans key) :=
    (hgroup.map _).sum_eq
  have hcovered : cover ((spansOf reordered key).map LifecycleSpan.interval) =
      cover ((spansOf spans key).map LifecycleSpan.interval) := by
    ext t
    simp only [mem_cover, (hgroup.map LifecycleSpan.interval).mem_iff]
  rw [hcharged, coveredMs, hcovered, coveredMs]

/-- **Exact accounting.** The validator measures the union of the intervals of
each group, raises its one error exactly when some group is charged for more
than that and the tolerance, and does the same for any order of the spans. -/
theorem overlap_accounting_exact {spans : List LifecycleSpan} (place : String)
    (hordered : ∀ span ∈ spans, span.startNs ≤ span.endNs) :
    (∀ key, unionMeasure ((spansOf spans key).map LifecycleSpan.interval) =
      (cover ((spansOf spans key).map LifecycleSpan.interval)).card) ∧
    (validateOverlapAccounting spans place = .error (overlapError place) ↔ Overcharged spans) ∧
    (validateOverlapAccounting spans place = .ok () ↔ ¬ Overcharged spans) ∧
    ∀ reordered : List LifecycleSpan, reordered.Perm spans →
      validateOverlapAccounting reordered place = validateOverlapAccounting spans place := by
  refine ⟨fun key => unionMeasure_spansOf key hordered, overlap_raises_iff hordered,
    overlap_accepts_iff hordered, fun reordered hperm => ?_⟩
  have hreordered : ∀ span ∈ reordered, span.startNs ≤ span.endNs := fun span hspan =>
    hordered span (hperm.mem_iff.mp hspan)
  by_cases h : Overcharged spans
  · rw [(overlap_raises_iff hordered).mpr h,
      (overlap_raises_iff hreordered).mpr ((overcharged_perm hperm).mpr h)]
  · rw [(overlap_accepts_iff hordered).mpr h,
      (overlap_accepts_iff hreordered).mpr fun hless => h ((overcharged_perm hperm).mp hless)]

/-! ## What an accepted observation keeps -/

theorem accounted_of_readObservation {depth : Nat} {candidates runIds : List String}
    {place : String} {value : Value} {o : Observation}
    (h : readObservation depth candidates runIds place value = .ok o) : o.Accounted := by
  have hsound := sound_of_readObservation h
  simp only [readObservation, bind_eq_ok, exists_unit, raiseIf_eq_ok, require_eq_ok, pure_eq_ok]
    at h
  obtain ⟨_, -, -, _, -, -, _, -, _, -, _, -, _, -, _, -, _, -, _, -, _, -, -, events, -, spans,
    hspans, edges, -, -, hgroups, _, -, -, rfl⟩ := h
  exact ⟨readEach_forall (fun _ _ _ _ h => ordered_of_readSpan h) hspans (by simp),
    hsound.accounted, accounted_of_validateOverlap hgroups⟩

/-- All spans of a group account for no more than their union. -/
theorem group_charged_once {o : Observation} (h : o.Accounted) (key : RequestIdentity × String) :
    chargedMs (o.group key) ≤ coveredMs (o.group key) + toleranceMs := by
  have hordered : ∀ interval ∈ (o.group key).map LifecycleSpan.interval,
      interval.1 ≤ interval.2 := by
    intro interval hinterval
    obtain ⟨span, hspan, rfl⟩ := List.mem_map.mp hinterval
    exact h.ordered span (List.mem_filter.mp hspan).1
  obtain ⟨windows, hwindows, hmeasure⟩ := unionMeasure_windows hordered
  have hgroup := h.groups key
  rw [hmeasure, ← hwindows.card_cover, Int.cast_natCast] at hgroup
  exact hgroup

/-! ## Spans of a group -/

/-- The spans inside disjoint windows, each of which starts where a span of the
group starts and ends where one ends, account for no more than the length of
the windows. -/
def WindowsSuffice (group : List LifecycleSpan) : Prop :=
  ∀ windows : List (ℤ × ℤ), windows.Pairwise Apart →
    (∀ window ∈ windows, window.1 ≤ window.2 ∧ (∃ span ∈ group, span.startNs = window.1) ∧
      ∃ span ∈ group, span.endNs = window.2) →
    chargedMs (group.filter fun span => ∃ window ∈ windows, Inside span.interval window) ≤
      (totalLength windows : ℚ) / 1000000 + toleranceMs

/-- Fewer spans account for less. -/
theorem chargedMs_le_of_sublist {spans group : List LifecycleSpan} (h : spans.Sublist group)
    (hcharged : ∀ span ∈ group, 0 ≤ span.accountedDurationMs) : chargedMs spans ≤ chargedMs group :=
  (h.map _).sum_le_sum fun _ hq => by
    obtain ⟨span, hspan, rfl⟩ := List.mem_map.mp hq
    exact hcharged span hspan

/-- The spans inside some windows have their union in these windows. -/
theorem coveredMs_le {spans : List LifecycleSpan} {windows : List (ℤ × ℤ)}
    (hordered : ∀ window ∈ windows, window.1 ≤ window.2)
    (hinside : ∀ span ∈ spans, ∃ window ∈ windows, Inside span.interval window) :
    coveredMs spans ≤ (totalLength windows : ℚ) / 1000000 := by
  have hsubset : cover (spans.map LifecycleSpan.interval) ⊆ cover windows :=
    cover_subset fun interval hi => by
      obtain ⟨span, hspan, rfl⟩ := List.mem_map.mp hi
      exact hinside span hspan
  have hcard : ((cover (spans.map LifecycleSpan.interval)).card : ℤ) ≤ totalLength windows :=
    le_trans (by exact_mod_cast Finset.card_le_card hsubset) (card_cover_le hordered)
  have hcast : ((cover (spans.map LifecycleSpan.interval)).card : ℚ) ≤ totalLength windows := by
    exact_mod_cast hcard
  unfold coveredMs
  linarith

theorem windowsSuffice_of_chargedOnce {group : List LifecycleSpan}
    (h : ∀ spans, spans.Sublist group → chargedMs spans ≤ coveredMs spans + toleranceMs) :
    WindowsSuffice group := by
  intro windows _ hends
  have hcharged := h _ (List.filter_sublist (p := fun span =>
    decide (∃ window ∈ windows, Inside span.interval window)))
  have hcovered : coveredMs (group.filter fun span =>
      ∃ window ∈ windows, Inside span.interval window) ≤ (totalLength windows : ℚ) / 1000000 :=
    coveredMs_le (fun window hw => (hends window hw).1) fun span hspan =>
      of_decide_eq_true (List.mem_filter.mp hspan).2
  linarith

theorem chargedOnce_of_windowsSuffice {group spans : List LifecycleSpan}
    (hordered : ∀ span ∈ group, span.startNs ≤ span.endNs)
    (hcharged : ∀ span ∈ group, 0 ≤ span.accountedDurationMs) (h : WindowsSuffice group)
    (hspans : spans.Sublist group) : chargedMs spans ≤ coveredMs spans + toleranceMs := by
  have hintervals : ∀ interval ∈ spans.map LifecycleSpan.interval, interval.1 ≤ interval.2 := by
    intro interval hi
    obtain ⟨span, hspan, rfl⟩ := List.mem_map.mp hi
    exact hordered span (hspans.subset hspan)
  -- the windows of the union of the spans
  obtain ⟨windows, hwindows, -⟩ := unionMeasure_windows hintervals
  have hends : ∀ window ∈ windows, window.1 ≤ window.2 ∧
      (∃ span ∈ group, span.startNs = window.1) ∧ ∃ span ∈ group, span.endNs = window.2 := by
    intro window hw
    obtain ⟨_, hi, hstart⟩ := hwindows.starts window hw
    obtain ⟨first, hfirst, rfl⟩ := List.mem_map.mp hi
    obtain ⟨_, hi, hend⟩ := hwindows.ends window hw
    obtain ⟨last, hlast, rfl⟩ := List.mem_map.mp hi
    exact ⟨hwindows.ordered window hw, ⟨first, hspans.subset hfirst, hstart⟩, last,
      hspans.subset hlast, hend⟩
  have hinside : ∀ span ∈ spans, ∃ window ∈ windows, Inside span.interval window :=
    fun span hspan => hwindows.inside span.interval (List.mem_map_of_mem hspan)
  have hkept : spans.Sublist (group.filter fun span =>
      ∃ window ∈ windows, Inside span.interval window) := by
    have hall : (spans.filter fun span => ∃ window ∈ windows, Inside span.interval window) =
      spans :=
      List.filter_eq_self.mpr fun span hspan => decide_eq_true (hinside span hspan)
    exact hall ▸ hspans.filter _
  have hless := chargedMs_le_of_sublist hkept fun span hspan =>
    hcharged span (List.mem_filter.mp hspan).1
  have hmore := h windows hwindows.apart hends
  have hcovered : coveredMs spans = (totalLength windows : ℚ) / 1000000 := by
    rw [coveredMs, ← hwindows.card_cover, Int.cast_natCast]
  linarith

/-- **Overlap accounting.** The spans an accepted observation holds are never
charged twice exactly when disjoint windows suffice for the spans inside. -/
theorem charged_once_iff {depth : Nat} {candidates runIds : List String} {place : String}
    {value : Value} {o : Observation}
    (h : readObservation depth candidates runIds place value = .ok o) :
    o.ChargedOnce ↔ ∀ key, WindowsSuffice (o.group key) := by
  have haccounted := accounted_of_readObservation h
  constructor
  · exact fun honce key => windowsSuffice_of_chargedOnce (honce key)
  · intro hwindows key spans hspans
    refine chargedOnce_of_windowsSuffice ?_ ?_ (hwindows key) hspans
    · exact fun span hspan => haccounted.ordered span (List.mem_filter.mp hspan).1
    · exact fun span hspan => haccounted.charged span (List.mem_filter.mp hspan).1

/-! ## Two spans charged for one interval -/

namespace Sample

/-- Two spans of ten milliseconds over one interval, each charged in full, and
the whole of twenty milliseconds, which is not charged. -/
def chargedTwice : List LifecycleSpan :=
  [span "span-0" "event-1" 10000000 10, span "span-1" "event-1" 10000000 10]

def overlappingSpans : List LifecycleSpan := chargedTwice ++ [span "span-2" "event-2" 20000000 0]

def overlappingValue : Value :=
  .dict [("run_id", .str "run-0"), ("configuration_id", .str "configuration-0"),
    ("clock_model_id", .str "clock-0"),
    ("metrics", .dict [("ttft_ms", .int 1), ("tpot_ms", .int 1), ("latency_ms", .int 1),
      ("throughput_rps", .int 1), ("error_count", .int 0)]),
    ("evidence_status", .dict [("identity_complete", .bool true), ("event_loss_count", .int 0),
      ("clock_ambiguous", .bool false), ("configuration_matched", .bool true)]),
    ("normalized_events", .list [eventValue "event-0" 0, eventValue "event-1" 10000000,
      eventValue "event-2" 20000000]),
    ("lifecycle_spans", .list [spanValue "span-0" "event-1" 10000000 10,
      spanValue "span-1" "event-1" 10000000 10, spanValue "span-2" "event-2" 20000000 0]),
    ("lifecycle_edges", .list []), ("traceloom_links", .list [])]

def groupKey : RequestIdentity × String := (identity.request, identity.clockDomain)

end Sample

theorem overlap_accounting_exact_sample :
    (∀ key, unionMeasure ((spansOf Sample.overlappingSpans key).map LifecycleSpan.interval) =
      (cover ((spansOf Sample.overlappingSpans key).map LifecycleSpan.interval)).card) ∧
    validateOverlapAccounting Sample.chargedTwice "baseline" =
      .error (overlapError "baseline") := by
  refine ⟨(overlap_accounting_exact "baseline" (by decide +kernel)).1, ?_⟩
  refine (overlap_accounting_exact "baseline" (by decide +kernel)).2.1.mpr ⟨Sample.groupKey, ?_⟩
  have hcovered : coveredMs (spansOf Sample.chargedTwice Sample.groupKey) ≤
      (totalLength [(0, 10000000)] : ℚ) / 1000000 := coveredMs_le (by decide) (by decide +kernel)
  have hcharged : (totalLength [(0, 10000000)] : ℚ) / 1000000 + toleranceMs <
      chargedMs (spansOf Sample.chargedTwice Sample.groupKey) := by decide +kernel
  linarith

theorem sample_overlapping : ∃ o, readObservation Sample.env.recursionDepth Sample.candidateIds []
    "pairs[0].baseline" Sample.overlappingValue = .ok o ∧
    o.group Sample.groupKey = Sample.overlappingSpans := by
  have h : (match readObservation Sample.env.recursionDepth Sample.candidateIds []
      "pairs[0].baseline" Sample.overlappingValue with
    | .ok o => decide (o.group Sample.groupKey = Sample.overlappingSpans)
    | .error _ => false) = true := by decide +kernel
  split at h
  · next o ho => exact ⟨o, ho, of_decide_eq_true h⟩
  · cases h

theorem charged_once_iff_overlapping : ∃ o, readObservation Sample.env.recursionDepth
    Sample.candidateIds [] "pairs[0].baseline" Sample.overlappingValue = .ok o ∧
    ¬ o.ChargedOnce := by
  obtain ⟨o, ho, hgroup⟩ := sample_overlapping
  refine ⟨o, ho, fun honce => ?_⟩
  have hwindow := (charged_once_iff ho).mp honce Sample.groupKey [(0, 10000000)]
    (List.pairwise_singleton _ _)
  rw [hgroup] at hwindow
  exact absurd (hwindow (by decide +kernel)) (by decide +kernel)

/-- The group of three spans is charged for its twenty milliseconds, the first
two of them for twenty out of ten. -/
theorem accepted_double_charge :
    ¬ ∀ (depth : Nat) (candidates runIds : List String) (place : String) (value : Value)
      (o : Observation), readObservation depth candidates runIds place value = .ok o →
        o.ChargedOnce := by
  intro hclaim
  obtain ⟨o, ho, hgroup⟩ := sample_overlapping
  have honce := hclaim _ _ _ _ _ o ho Sample.groupKey Sample.chargedTwice
    (hgroup ▸ List.sublist_append_left _ _)
  have hcovered : coveredMs Sample.chargedTwice ≤ (totalLength [(0, 10000000)] : ℚ) / 1000000 :=
    coveredMs_le (by decide) (by decide +kernel)
  have hcharged : (totalLength [(0, 10000000)] : ℚ) / 1000000 + toleranceMs <
      chargedMs Sample.chargedTwice := by decide +kernel
  linarith

end LifecycleProfiler.Blind
