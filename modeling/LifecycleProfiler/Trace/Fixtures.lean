import Mathlib.Tactic.Linarith
import LifecycleProfiler.Python.Builtins
import LifecycleProfiler.Protocol.Identifiers
import LifecycleProfiler.Trace.Spans

/-! # The offline intervention evaluator

`causal_attribution`: the declared durations of a case are laid out as events
on one axis, read back as spans, and a case with a control and an intervention
is supported when only the target span grew. Arithmetic is exact, and a
reading of texts as numbers is a parameter. -/

namespace LifecycleProfiler.Trace
open Python General Protocol

/-- `SPAN_NAMES` -/
def spanNames : List String :=
  ["tokenization", "queueing", "prefill", "decode", "streaming", "cleanup"]

section Durations
variable (parse : String → Option ℚ)

/-- `float(durations[name])` -/
def durationOf (durations : Dict) (name : String) : Except PyError ℚ := do
  let value ← durations.item name
  toFloat parse value

/-- `any(float(durations[name]) < 0 for name in names)` -/
def anyNegative (durations : Dict) : List String → Except PyError Bool
  | [] => .ok false
  | name :: rest => do
    let duration ← durationOf parse durations name
    if duration < 0 then return true else anyNegative durations rest

/-- The events of six durations, each at the running sum. -/
def layOut (requestId : String) (tokenization queueing prefill decode streaming cleanup : ℚ) :
    List (TraceEvent ℚ) :=
  let tokenized := 0 + tokenization
  let scheduled := tokenized + queueing
  let prefilled := scheduled + prefill
  let decoded := prefilled + decode
  let streamed := decoded + streaming
  let cleaned := streamed + cleanup
  [⟨requestId, .received, 0, none⟩, ⟨requestId, .tokenized, tokenized, none⟩,
   ⟨requestId, .queued, tokenized, none⟩, ⟨requestId, .scheduled, scheduled, none⟩,
   ⟨requestId, .prefillDone, prefilled, none⟩, ⟨requestId, .firstToken, prefilled, none⟩,
   ⟨requestId, .decodeDone, decoded, none⟩, ⟨requestId, .streamDone, streamed, none⟩,
   ⟨requestId, .cleanupDone, cleaned, none⟩]

/-- `_events` -/
def events (requestId : String) (durations : Dict) : Except PyError (List (TraceEvent ℚ)) := do
  let missing := spanNames.filter fun name => (durations.lookup name).isNone
  raiseIf (!missing.isEmpty) ("missing fixture durations: " ++ ",".intercalate missing)
  let negative ← anyNegative parse durations spanNames
  raiseIf negative "fixture durations must be non-negative"
  let tokenization ← durationOf parse durations "tokenization"
  let queueing ← durationOf parse durations "queueing"
  let prefill ← durationOf parse durations "prefill"
  let decode ← durationOf parse durations "decode"
  let streaming ← durationOf parse durations "streaming"
  let cleanup ← durationOf parse durations "cleanup"
  return layOut requestId tokenization queueing prefill decode streaming cleanup

end Durations

inductive CausalEvidence where
  | localizationOnly
  | judged (targetSpan : String) (spanDeltasMs : Mapping String ℚ)
      (linkageComplete nonTargetSpansUnchanged targetEffectAboveThreshold : Bool)
  deriving DecidableEq

def CausalEvidence.supported : CausalEvidence → Bool
  | .localizationOnly => false
  | .judged _ _ linkageComplete unchanged effect => linkageComplete && unchanged && effect

def CausalEvidence.status (evidence : CausalEvidence) : String :=
  match evidence with
  | .localizationOnly => "localization_only"
  | .judged .. =>
    if evidence.supported then "intervention_supported_offline_fixture"
    else "intervention_not_supported"

/-- `str(intervention.get("target_span", ""))` -/
def targetOf (intervention : Dict) : String :=
  match intervention.lookup "target_span" with
  | some value => formatted value
  | none => ""

def linkageComplete (intervention : Dict) : Bool :=
  (intervention.get "intervention_id").truthy &&
    (intervention.get "assignment").pyEq (.str "deterministic") &&
    (intervention.get "only_intentional_change").pyEq (.list [.str (targetOf intervention)]) &&
    spanNames.contains (targetOf intervention)

section Evaluation
variable (parse : String → Option ℚ) (minEffectMs unchangedToleranceMs : ℚ)

/-- The judgement of a case with an intervention and a control. -/
def judge (intervention : Dict) (deltas : Mapping String ℚ) : CausalEvidence :=
  let target := targetOf intervention
  .judged target deltas (linkageComplete intervention)
    (deltas.all fun item => item.1 == target || decide (|item.2| ≤ unchangedToleranceMs))
    (decide (minEffectMs ≤ (deltas.get target).getD 0))

end Evaluation
/-! ## The round trip -/

/-- The durations a mapping declares for the six spans. -/
structure Declares (parse : String → Option ℚ) (durations : Dict) (d : String → ℚ) : Prop where
  read : ∀ name ∈ spanNames, durationOf parse durations name = .ok (d name)
  nonneg : ∀ name ∈ spanNames, 0 ≤ d name

/-- The events of the durations `d`. -/
def laidOut (requestId : String) (d : String → ℚ) : List (TraceEvent ℚ) :=
  layOut requestId (d "tokenization") (d "queueing") (d "prefill") (d "decode") (d "streaming")
    (d "cleanup")

theorem anyNegative_eq_false {parse : String → Option ℚ} {durations : Dict} {names : List String} :
    anyNegative parse durations names = .ok false ↔
      ∀ name ∈ names, ∃ q, durationOf parse durations name = .ok q ∧ 0 ≤ q := by
  induction names with
  | nil => simp [anyNegative]
  | cons name rest ih =>
    rw [anyNegative, bind_eq_ok, List.forall_mem_cons, ← ih]
    constructor
    · rintro ⟨q, hq, h⟩
      split at h
      · cases h
      · next hneg => exact ⟨⟨q, hq, not_lt.mp hneg⟩, h⟩
    · rintro ⟨⟨q, hq, hpos⟩, h⟩
      exact ⟨q, hq, by rw [if_neg (not_lt.mpr hpos), h]⟩

theorem isSome_of_durationOf {parse : String → Option ℚ} {durations : Dict} {name : String} {q : ℚ}
    (h : durationOf parse durations name = .ok q) : (durations.lookup name).isNone = false := by
  unfold durationOf Dict.item at h
  cases hlookup : durations.lookup name with
  | none =>
    rw [hlookup] at h
    cases h
  | some value => rfl

/-- Six declared durations are laid out. -/
theorem Declares.events {parse : String → Option ℚ} {durations : Dict} {d : String → ℚ}
    (h : Declares parse durations d) (requestId : String) :
    Trace.events parse requestId durations = .ok (laidOut requestId d) := by
  have hmissing : (spanNames.filter fun name => (durations.lookup name).isNone) = [] :=
    List.filter_eq_nil_iff.mpr fun name hname => by
      simp [isSome_of_durationOf (h.read name hname)]
  have hnegative : anyNegative parse durations spanNames = .ok false :=
    anyNegative_eq_false.mpr fun name hname => ⟨d name, h.read name hname, h.nonneg name hname⟩
  have hread := h.read
  simp only [spanNames, List.forall_mem_cons] at hread
  obtain ⟨h1, h2, h3, h4, h5, h6, -⟩ := hread
  simp only [Trace.events, hmissing, hnegative, h1, h2, h3, h4, h5, h6, List.isEmpty_nil, Bool.not_true,
    raiseIf_false, ok_bind]
  rfl

theorem Declares.unique {parse : String → Option ℚ} {durations : Dict} {d e : String → ℚ}
    (hd : Declares parse durations d) (he : Declares parse durations e) {name : String}
    (hname : name ∈ spanNames) : d name = e name :=
  Except.ok.inj ((hd.read name hname).symm.trans (he.read name hname))

end LifecycleProfiler.Trace
