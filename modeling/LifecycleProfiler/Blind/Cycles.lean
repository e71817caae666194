import LifecycleProfiler.General.DepthFirst
import Mathlib.Data.List.TakeWhile
import LifecycleProfiler.Blind.Gates

/-! # Cycles of lifecycle edges

The validator searches the graph of the spans depth first and recurses along its
edges. Whatever the order of the spans, it finds every cycle and nothing else,
provided the interpreter lets it recurse as deeply as the graph demands. -/

namespace LifecycleProfiler.Blind
open Python Protocol General.DepthFirst Relation

/-- An edge leads from one span to another. -/
def EdgeBetween (edges : List LifecycleEdge) (source target : String) : Prop :=
  ∃ edge ∈ edges, edge.sourceSpanId = source ∧ edge.targetSpanId = target

/-- Some span leads back to itself. -/
def HasCycle (edges : List LifecycleEdge) : Prop :=
  ∃ spanId, TransGen (EdgeBetween edges) spanId spanId

/-- The edges are between the given spans. -/
def EdgesAmong (edges : List LifecycleEdge) (spanIds : List String) : Prop :=
  ∀ edge ∈ edges, edge.sourceSpanId ∈ spanIds ∧ edge.targetSpanId ∈ spanIds

def cycleError (place : String) : PyError :=
  .valueError s!"{place}.lifecycle_edges contain a cycle"

def recursionError : PyError := .overflowError "maximum recursion depth exceeded"

/-! ## The search -/

theorem mem_successors {edges : List LifecycleEdge} {source target : String} :
    target ∈ successors edges source ↔ EdgeBetween edges source target := by
  simp only [successors, EdgeBetween, List.mem_map, List.mem_filter, decide_eq_true_eq, and_assoc]

theorem step_successors (edges : List LifecycleEdge) :
    Step (successors edges) = EdgeBetween edges := by
  funext source target
  exact propext mem_successors

theorem cyclic_successors {edges : List LifecycleEdge} :
    Cyclic (successors edges) ↔ HasCycle edges := by
  rw [Cyclic, HasCycle, step_successors]

theorem visit_eq_search (edges : List LifecycleEdge) (place : String) (depth : Nat) :
    visit edges place depth =
      search (successors edges) (cycleError place) recursionError depth := by
  induction depth with
  | zero => rfl
  | succ depth ih =>
    funext visiting visited spanId
    rw [visit, search, ih]
    rfl

theorem validateAcyclicEdges_eq (depth : Nat) (edges : List LifecycleEdge) (spanIds : List String)
    (place : String) : validateAcyclicEdges depth edges spanIds place =
      (searchAll (successors edges) (cycleError place) recursionError depth [] [] spanIds).map
        fun _ => () := by
  rw [validateAcyclicEdges, visit_eq_search]
  change (searchAll _ _ _ _ _ _ _ >>= _) = _
  cases searchAll (successors edges) (cycleError place) recursionError depth [] [] spanIds <;> rfl

theorem validate_accepts_iff {depth : Nat} {edges : List LifecycleEdge} {spanIds : List String}
    {place : String} : validateAcyclicEdges depth edges spanIds place = .ok () ↔
      ∃ visited, searchAll (successors edges) (cycleError place) recursionError depth
        [] [] spanIds =
        .ok visited := by
  rw [validateAcyclicEdges_eq]
  cases searchAll (successors edges) (cycleError place) recursionError depth [] [] spanIds <;>
    simp [Except.map]

theorem validate_raises_iff {depth : Nat} {edges : List LifecycleEdge} {spanIds : List String}
    {place : String} {e : PyError} : validateAcyclicEdges depth edges spanIds place = .error e ↔
      searchAll (successors edges) (cycleError place) recursionError depth [] [] spanIds =
        .error e := by
  rw [validateAcyclicEdges_eq]
  cases searchAll (successors edges) (cycleError place) recursionError depth [] [] spanIds <;>
    simp [Except.map]

theorem errors_differ (place : String) : cycleError place ≠ recursionError := nofun

theorem EdgesAmong.successors {edges : List LifecycleEdge} {spanIds order : List String}
    (h : EdgesAmong edges spanIds) (horder : order.Perm spanIds) {source target : String}
    (hstep : target ∈ Blind.successors edges source) : source ∈ order ∧ target ∈ order := by
  obtain ⟨edge, hedge, rfl, rfl⟩ := mem_successors.mp hstep
  exact (h edge hedge).imp horder.mem_iff.mpr horder.mem_iff.mpr

/-- **Cycle detection.** In every order of the spans, the validator raises its
error exactly when the edges contain a cycle and accepts otherwise, given the
depth to recurse through all spans. -/
theorem acyclic_edges_exact {edges : List LifecycleEdge} {spanIds order : List String} {depth : Nat}
    (place : String) (hamong : EdgesAmong edges spanIds) (horder : order.Perm spanIds)
    (hdepth : spanIds.length < depth) :
    (validateAcyclicEdges depth edges order place = .error (cycleError place) ↔ HasCycle edges) ∧
    (validateAcyclicEdges depth edges order place = .ok () ↔ ¬ HasCycle edges) := by
  rw [validate_accepts_iff, validate_raises_iff, ← cyclic_successors]
  exact run_exact (fun _ _ => hamong.successors horder) (errors_differ place)
    (horder.length_eq ▸ hdepth)

/-! ## The recursion limit -/

namespace Sample

def chainId (i : Nat) : String := "span-" ++ toString i

theorem chainId_injective {i j : Nat} (h : chainId i = chainId j) : i = j := by
  have hdigits := congrArg (fun text => Nat.ofDigitChars 10 text.toList 0)
    ((String.append_right_inj _).mp h)
  simpa [Nat.toString_eq_ofList_toDigits] using hdigits

def chainEdge (i : Nat) : LifecycleEdge := ⟨chainId i, chainId (i + 1), "precedes"⟩

/-- Empty spans, each preceding the next. -/
def chain (n : Nat) : Observation where
  __ := observation "run-0" 0 ((List.range n).map chainEdge)
  lifecycleSpans := (List.range (n + 1)).map fun i => span (chainId i) "event-0" 0 0

variable {n : Nat}

theorem chain_step {a b : String} (h : EdgeBetween (chain n).lifecycleEdges a b) :
    ∃ i < n, a = chainId i ∧ b = chainId (i + 1) := by
  obtain ⟨edge, hedge, rfl, rfl⟩ := h
  obtain ⟨i, hi, rfl⟩ := List.mem_map.mp hedge
  exact ⟨i, List.mem_range.mp hi, rfl, rfl⟩

theorem chain_leads {a b : String} (h : TransGen (EdgeBetween (chain n).lifecycleEdges) a b) :
    ∃ i j, i < j ∧ a = chainId i ∧ b = chainId j := by
  induction h with
  | single hstep =>
    obtain ⟨i, -, ha, hb⟩ := chain_step hstep
    exact ⟨i, i + 1, Nat.lt_succ_self i, ha, hb⟩
  | tail _ hstep ih =>
    obtain ⟨i, j, hij, ha, hb⟩ := ih
    obtain ⟨k, -, hk, hc⟩ := chain_step hstep
    obtain rfl : j = k := chainId_injective (hb.symm.trans hk)
    exact ⟨i, j + 1, by omega, ha, hc⟩

theorem chain_acyclic : ¬ HasCycle (chain n).lifecycleEdges := by
  rintro ⟨a, hcycle⟩
  obtain ⟨i, j, hij, ha, hb⟩ := chain_leads hcycle
  have hsame := chainId_injective (ha.symm.trans hb)
  omega

theorem chain_spanIds : (chain n).lifecycleSpans.map (·.spanId) =
    (List.range (n + 1)).map chainId :=
  List.map_map

theorem chain_among :
    EdgesAmong (chain n).lifecycleEdges ((chain n).lifecycleSpans.map (·.spanId)) := by
  intro edge hedge
  obtain ⟨i, hi, rfl⟩ := List.mem_map.mp hedge
  have hlt := List.mem_range.mp hi
  rw [chain_spanIds]
  exact ⟨List.mem_map_of_mem (List.mem_range.mpr (by omega)),
    List.mem_map_of_mem (List.mem_range.mpr (by omega))⟩

end Sample

theorem acyclic_edges_exact_chain : validateAcyclicEdges 4 (Sample.chain 2).lifecycleEdges
    ((Sample.chain 2).lifecycleSpans.map (·.spanId)) "baseline" = .ok () :=
  (acyclic_edges_exact "baseline" Sample.chain_among (.refl _) (by decide)).2.mpr
    Sample.chain_acyclic

end LifecycleProfiler.Blind
