import LifecycleProfiler.Blind.Lockable

/-! # Decided cases

The evidence reasons are a set over all observations, so that a decision leaves
no observation behind that gave a reason, and the gates leave one candidate that
outweighs all others together. -/

namespace LifecycleProfiler.Blind
open Python Protocol General

/-! ## Clean evidence -/

section Evidence
variable {env : Environment} {o : Observation}

end Evidence

/-! ## The decision -/

section Decision
variable {value : String → ℚ} {candidates : List String} {top : String} {floor : ℚ}

end Decision

namespace Sample

end Sample

end LifecycleProfiler.Blind
