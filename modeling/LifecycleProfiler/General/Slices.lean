import Mathlib.Data.List.Perm.Basic
import Mathlib.Data.List.Nodup
import Mathlib.Data.Int.CardIntervalMod

/-! # Classes and strides

A list cut into the classes of a bounded key, and into every `step`-th element
from each start. -/

namespace LifecycleProfiler.General
variable {α : Type*}

/-- The classes of a list by a bounded key make up the list. -/
theorem flatMap_filter_perm {xs : List α} {p : Nat → α → Bool} (n : Nat)
    (h : ∀ x ∈ xs, ∃ r < n, ∀ s, p s x = true ↔ s = r) :
    ((List.range n).flatMap fun r => xs.filter (p r)).Perm xs := by
  induction n generalizing xs with
  | zero =>
    cases xs with
    | nil => exact List.Perm.nil
    | cons x xs =>
      obtain ⟨r, hr, -⟩ := h x List.mem_cons_self
      exact absurd hr (Nat.not_lt_zero r)
  | succ n ih =>
    have hrest : ∀ x ∈ xs.filter (fun x => !p n x), ∃ r < n, ∀ s, p s x = true ↔ s = r := by
      intro x hx
      obtain ⟨hmem, hnot⟩ := List.mem_filter.mp hx
      obtain ⟨r, hr, hiff⟩ := h x hmem
      have hne : n ≠ r := fun heq => by simp [(hiff n).mpr heq] at hnot
      exact ⟨r, by omega, hiff⟩
    have hsame : ((List.range n).flatMap fun r => xs.filter (p r)) =
        (List.range n).flatMap fun r => (xs.filter fun x => !p n x).filter (p r) := by
      refine List.flatMap_congr fun r hr => ?_
      rw [List.filter_filter]
      refine List.filter_congr fun x hx => ?_
      obtain ⟨k, -, hiff⟩ := h x hx
      have hlt := List.mem_range.mp hr
      cases hpr : p r x with
      | false => simp
      | true =>
        have hn : p n x = false := by
          rw [← Bool.not_eq_true, hiff n, ← (hiff r).mp hpr]
          omega
        simp [hn]
    rw [List.range_succ, List.flatMap_append, hsame, List.flatMap_singleton]
    exact ((ih hrest).append_right _).trans
      (List.perm_append_comm.trans (List.filter_append_perm (p n) xs))

/-- Whether a slice from `start` by `step` takes an index. -/
def onStride (start step index : Nat) : Bool := start ≤ index && (index - start) % step == 0

/-- `xs[start::step]` -/
def slice (xs : List α) (start step : Nat) : List α :=
  (xs.zipIdx.filter fun x => onStride start step x.2).map (·.1)

theorem onStride_iff {start step index : Nat} (h : start < step) :
    onStride start step index = true ↔ start = index % step := by
  simp only [onStride, Bool.and_eq_true, decide_eq_true_eq, beq_iff_eq]
  constructor
  · rintro ⟨hle, hmod⟩
    obtain ⟨k, hk⟩ := Nat.dvd_of_mod_eq_zero hmod
    have hindex : index = start + step * k := by omega
    rw [hindex, Nat.add_mul_mod_self_left, Nat.mod_eq_of_lt h]
  · intro heq
    have hdiv := Nat.mod_add_div index step
    refine ⟨heq ▸ Nat.mod_le index step, ?_⟩
    rw [heq, show index - index % step = step * (index / step) by omega, Nat.mul_mod_right]

/-- The slices of a list from the starts below the step make up the list. -/
theorem flatMap_slice_perm (xs : List α) {step : Nat} (h : 0 < step) :
    ((List.range step).flatMap fun start => slice xs start step).Perm xs := by
  have hclasses : ((List.range step).flatMap fun start =>
      xs.zipIdx.filter fun x => decide (start = x.2 % step)).Perm xs.zipIdx :=
    flatMap_filter_perm step fun x _ => ⟨x.2 % step, Nat.mod_lt _ h, fun s => by simp⟩
  have hsame : ((List.range step).flatMap fun start => slice xs start step) =
      ((List.range step).flatMap fun start =>
        xs.zipIdx.filter fun x => decide (start = x.2 % step)).map (·.1) := by
    rw [List.map_flatMap]
    refine List.flatMap_congr fun start hstart => congrArg (List.map _) ?_
    refine List.filter_congr fun x _ => ?_
    rw [Bool.eq_iff_iff, onStride_iff (List.mem_range.mp hstart), decide_eq_true_eq]
  rw [hsame, ← List.zipIdx_map_fst 0 xs]
  simpa using hclasses.map (·.1)

theorem length_slice {xs : List α} {start step count : Nat} (hstart : start < step)
    (hlength : xs.length = step * count) : (slice xs start step).length = count := by
  have hindices : (slice xs start step).length =
      ((List.range xs.length).filter fun index => decide (index ≡ start [MOD step])).length := by
    have hsnd : xs.zipIdx.map (·.2) = List.range xs.length := by simp [List.range_eq_range']
    rw [slice, List.length_map, ← hsnd, List.filter_map, List.length_map]
    refine congrArg List.length (List.filter_congr fun x _ => ?_)
    rw [Bool.eq_iff_iff, onStride_iff hstart, Function.comp, decide_eq_true_eq, Nat.ModEq,
      Nat.mod_eq_of_lt hstart, eq_comm]
  have hcount : ((List.range xs.length).filter fun index =>
      decide (index ≡ start [MOD step])).length =
        xs.length.count (· ≡ start [MOD step]) := by
    rw [Nat.count_eq_card_filter_range]
    rfl
  rw [hindices, hcount, hlength, Nat.count_modEq_card _ (by omega), Nat.mul_mod_right,
    if_neg (Nat.not_lt_zero _), Nat.mul_div_cancel_left _ (by omega), Nat.add_zero]

end LifecycleProfiler.General
