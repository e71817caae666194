import Mathlib.Data.List.MinMax
import LifecycleProfiler.General.KeyOrder
import LifecycleProfiler.Python.Keys
import LifecycleProfiler.Python.Ordering

/-! # Spans of a request and the bottleneck among them

`compute_spans` and `attribute_bottleneck`: the events of a request in the
order of their times, the first event of each stage, and the longest of the
spans between two stages. Times are taken from any linear order that has a
zero and differences. -/

namespace LifecycleProfiler.Trace
open Python General

inductive LifecycleStage where
  | received
  | tokenized
  | queued
  | scheduled
  | prefillDone
  | firstToken
  | decodeDone
  | streamDone
  | cleanupDone
  deriving DecidableEq, Repr

inductive BottleneckKind where
  | tokenization
  | queueing
  | prefill
  | decode
  | kvPressure
  | streaming
  | cleanup
  | unknown
  deriving DecidableEq, Repr

structure TraceEvent (α : Type) where
  requestId : String
  stage : LifecycleStage
  timestampMs : α
  metadata : Option Dict := none

structure StageSpan (α : Type) where
  name : String
  startStage : LifecycleStage
  endStage : LifecycleStage
  durationMs : α
  deriving DecidableEq

structure BottleneckAttribution (α : Type) where
  kind : BottleneckKind
  spanName : String
  durationMs : α
  reason : String
  deriving DecidableEq

/-- `SPAN_DEFINITIONS` -/
def spanDefinitions : List (String × LifecycleStage × LifecycleStage) :=
  [("tokenization", .received, .tokenized), ("queueing", .queued, .scheduled),
   ("prefill", .scheduled, .firstToken), ("decode", .firstToken, .decodeDone),
   ("streaming", .decodeDone, .streamDone), ("cleanup", .streamDone, .cleanupDone)]

/-- `SPAN_TO_BOTTLENECK` -/
def spanToBottleneck : List (String × BottleneckKind) :=
  [("tokenization", .tokenization), ("queueing", .queueing), ("prefill", .prefill),
   ("decode", .decode), ("streaming", .streaming), ("cleanup", .cleanup)]

/-- The value of the literal `0.9`. -/
def pressureThreshold : ℚ := 8106479329266893 / 9007199254740992

/-- Whether the metadata of an event marks KV pressure. -/
def marksPressure (metadata : Dict) : Bool :=
  (match metadata.get "kv_pressure" with
    | .bool true => true
    | _ => false) ||
  match (metadata.get "kv_cache_pressure_ratio").num? with
  | some ratio => decide (pressureThreshold ≤ ratio)
  | none => false

section Spans
variable {α : Type} [LinearOrder α] [Sub α] [Zero α]

/-- `sorted(events, key=lambda item: item.timestamp_ms)` -/
def inTimeOrder (events : List (TraceEvent α)) : List (TraceEvent α) :=
  sortedBy TraceEvent.timestampMs events

/-- `by_stage`, filled by `setdefault`. -/
def byStage (events : List (TraceEvent α)) : Mapping LifecycleStage (TraceEvent α) :=
  (inTimeOrder events).foldl (fun table event => table.setdefault event.stage event) []

/-- The span of one definition, if both of its ends are there in order. -/
def spanOf (table : Mapping LifecycleStage (TraceEvent α))
    (definition : String × LifecycleStage × LifecycleStage) : Option (StageSpan α) :=
  match table.get definition.2.1, table.get definition.2.2 with
  | some first, some last =>
    if 0 ≤ last.timestampMs - first.timestampMs then
      some ⟨definition.1, definition.2.1, definition.2.2, last.timestampMs - first.timestampMs⟩
    else none
  | _, _ => none

def computeSpans (events : List (TraceEvent α)) : List (StageSpan α) :=
  spanDefinitions.filterMap (spanOf (byStage events))

omit [LinearOrder α] [Sub α] [Zero α] in
def metadataIndicatesKvPressure (events : List (TraceEvent α)) : Bool :=
  events.any fun event => marksPressure (event.metadata.getD [])

def attributeBottleneck (events : List (TraceEvent α)) (minDurationMs : α) :
    BottleneckAttribution α :=
  match (computeSpans events).argmax StageSpan.durationMs with
  | none => ⟨.unknown, "missing_spans", 0, "no_complete_lifecycle_span"⟩
  | some worst =>
    if worst.durationMs < minDurationMs then
      ⟨.unknown, worst.name, worst.durationMs, "all_spans_below_threshold"⟩
    else if metadataIndicatesKvPressure events && ["queueing", "prefill"].contains worst.name then
      ⟨.kvPressure, worst.name, worst.durationMs,
        s!"kv_pressure_marker_on_largest_span:{worst.name}"⟩
    else
      ⟨(spanToBottleneck.lookup worst.name).getD .unknown, worst.name, worst.durationMs,
        s!"largest_lifecycle_span:{worst.name}"⟩

/-! ## The first event of a stage -/

omit [Sub α] [Zero α] in
/-- The table holds the first event of each stage in the order of the times. -/
theorem get_byStage (events : List (TraceEvent α)) (stage : LifecycleStage) :
    (byStage events).get stage = (inTimeOrder events).find? fun event => event.stage = stage := by
  unfold byStage
  rw [Mapping.get_foldl_setdefault, Mapping.get_nil, Option.none_or]

omit [Sub α] [Zero α] in
theorem get_byStage_perm {events others : List (TraceEvent α)} (h : others.Perm events)
    (stage : LifecycleStage) : ((byStage others).get stage).map TraceEvent.timestampMs =
      ((byStage events).get stage).map TraceEvent.timestampMs := by
  rw [get_byStage, get_byStage]
  exact find?_sortedBy_perm _ h

/-- A span is read off the times in the table. -/
theorem spanOf_congr {table other : Mapping LifecycleStage (TraceEvent α)}
    (h : ∀ stage, (other.get stage).map TraceEvent.timestampMs =
      (table.get stage).map TraceEvent.timestampMs)
    (definition : String × LifecycleStage × LifecycleStage) :
    spanOf other definition = spanOf table definition := by
  have hfirst := h definition.2.1
  have hlast := h definition.2.2
  unfold spanOf
  cases hof : other.get definition.2.1 <;> cases hol : other.get definition.2.2 <;>
    cases htf : table.get definition.2.1 <;> cases htl : table.get definition.2.2 <;>
    simp_all

theorem computeSpans_perm {events others : List (TraceEvent α)} (h : others.Perm events) :
    computeSpans others = computeSpans events :=
  List.filterMap_congr fun definition _ => spanOf_congr (get_byStage_perm h) definition

/-! ## The attribution -/

theorem attributeBottleneck_perm {events others : List (TraceEvent α)} (h : others.Perm events)
    (minDurationMs : α) :
    attributeBottleneck others minDurationMs = attributeBottleneck events minDurationMs := by
  have hpressure : metadataIndicatesKvPressure others = metadataIndicatesKvPressure events :=
    h.any_eq
  unfold attributeBottleneck
  rw [computeSpans_perm h, hpressure]

theorem attributeBottleneck_of_argmax {events : List (TraceEvent α)} (minDurationMs : α)
    {worst : StageSpan α} (h : (computeSpans events).argmax StageSpan.durationMs = some worst) :
    (attributeBottleneck events minDurationMs).spanName = worst.name ∧
      (attributeBottleneck events minDurationMs).durationMs = worst.durationMs := by
  unfold attributeBottleneck
  rw [h]
  dsimp only
  split
  · exact ⟨rfl, rfl⟩
  · split <;> exact ⟨rfl, rfl⟩

/-- The attributed span is a longest one. -/
theorem attributeBottleneck_maximal {events : List (TraceEvent α)} (minDurationMs : α)
    (hne : computeSpans events ≠ []) : ∃ worst ∈ computeSpans events,
      (attributeBottleneck events minDurationMs).spanName = worst.name ∧
      (attributeBottleneck events minDurationMs).durationMs = worst.durationMs ∧
      ∀ span ∈ computeSpans events, span.durationMs ≤ worst.durationMs := by
  cases hworst : (computeSpans events).argmax StageSpan.durationMs with
  | none => exact absurd (List.argmax_eq_none.mp hworst) hne
  | some worst =>
    obtain ⟨hname, hduration⟩ := attributeBottleneck_of_argmax minDurationMs hworst
    exact ⟨worst, List.argmax_mem hworst, hname, hduration,
      fun span hspan => List.le_of_mem_argmax hspan hworst⟩

/-- **The bottleneck does not depend on the order of the events**, and is one
of the longest complete spans. -/
theorem bottleneck_order_independent {events others : List (TraceEvent α)}
    (h : others.Perm events) (minDurationMs : α) :
    computeSpans others = computeSpans events ∧
      attributeBottleneck others minDurationMs = attributeBottleneck events minDurationMs ∧
      (computeSpans events ≠ [] → ∃ worst ∈ computeSpans events,
        (attributeBottleneck events minDurationMs).spanName = worst.name ∧
        (attributeBottleneck events minDurationMs).durationMs = worst.durationMs ∧
        ∀ span ∈ computeSpans events, span.durationMs ≤ worst.durationMs) :=
  ⟨computeSpans_perm h, attributeBottleneck_perm h minDurationMs,
    attributeBottleneck_maximal minDurationMs⟩

end Spans

/-- A queued request with two `scheduled` events at one time. -/
def queuedTwice : List (TraceEvent ℚ) :=
  [⟨"request-0", .queued, 2, none⟩, ⟨"request-0", .scheduled, 7, none⟩,
   ⟨"request-0", .scheduled, 7, some [("kv_pressure", .bool true)]⟩]

theorem bottleneck_order_independent_reversed :
    computeSpans queuedTwice.reverse = computeSpans queuedTwice ∧
      attributeBottleneck queuedTwice.reverse 1 = attributeBottleneck queuedTwice 1 ∧
      (computeSpans queuedTwice ≠ [] → ∃ worst ∈ computeSpans queuedTwice,
        (attributeBottleneck queuedTwice 1).spanName = worst.name ∧
        (attributeBottleneck queuedTwice 1).durationMs = worst.durationMs ∧
        ∀ span ∈ computeSpans queuedTwice, span.durationMs ≤ worst.durationMs) :=
  bottleneck_order_independent (List.reverse_perm _) 1

end LifecycleProfiler.Trace
