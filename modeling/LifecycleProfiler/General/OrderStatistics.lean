import Mathlib.Algebra.Order.Field.Basic
import Mathlib.Algebra.Order.Floor.Ring
import Mathlib.Data.List.GetD
import Mathlib.Data.List.Sort
import Mathlib.Algebra.Order.BigOperators.Group.List
import Mathlib.Data.Rat.Floor
import Mathlib.Tactic.Linarith

/-! # Order statistics of a list

The median and the nearest-rank quantile of a finite sample over an ordered
field, by their position in the ascending order of the sample. -/

namespace LifecycleProfiler.General

section Ascending
variable {α : Type*} [LinearOrder α] {xs : List α}

/-- The sample in ascending order. -/
def ascending (xs : List α) : List α := xs.insertionSort (· ≤ ·)

theorem ascending_perm (xs : List α) : (ascending xs).Perm xs := List.perm_insertionSort _ xs

theorem mem_ascending {x : α} : x ∈ ascending xs ↔ x ∈ xs := (ascending_perm xs).mem_iff

theorem length_ascending (xs : List α) : (ascending xs).length = xs.length :=
  (ascending_perm xs).length_eq

theorem ascending_pairwise (xs : List α) : (ascending xs).Pairwise (· ≤ ·) :=
  List.pairwise_insertionSort _ xs

theorem getElem_ascending_le {i j : Nat} (hij : i ≤ j) (hj : j < (ascending xs).length) :
    (ascending xs)[i] ≤ (ascending xs)[j] := by
  rcases hij.lt_or_eq with hlt | rfl
  · exact List.pairwise_iff_getElem.mp (ascending_pairwise xs) i j (by omega) hj hlt
  · exact le_refl _

end Ascending

variable {α : Type*} [Field α] [LinearOrder α] {xs : List α} {b : α}

/-! ## Quantiles -/

/-- The nearest-rank quantile of an ordered sample. -/
def nearestRank (ordered : List α) (quantile : ℚ) : α :=
  ordered.getD (⌈quantile * ordered.length⌉₊ - 1) 0

theorem rank_lt {q : ℚ} (hq : q ≤ 1) {n : Nat} (hn : 0 < n) : ⌈q * n⌉₊ - 1 < n := by
  have hle : ⌈q * n⌉₊ ≤ n := by
    rw [Nat.ceil_le]
    nlinarith [(Nat.cast_nonneg n : (0 : ℚ) ≤ n)]
  omega

theorem nearestRank_mem {q : ℚ} (hq : q ≤ 1) (hne : xs ≠ []) :
    nearestRank (ascending xs) q ∈ xs := by
  have hpos := List.length_pos_iff.mpr hne
  have hlt := rank_lt hq hpos
  unfold nearestRank
  rw [length_ascending, List.getD_eq_getElem _ _ (by rwa [length_ascending])]
  exact mem_ascending.mp (List.getElem_mem _)

/-- Quantiles grow with the rank. -/
theorem nearestRank_mono {q r : ℚ} (hqr : q ≤ r) (hr : r ≤ 1) (hne : xs ≠ []) :
    nearestRank (ascending xs) q ≤ nearestRank (ascending xs) r := by
  have hpos := List.length_pos_iff.mpr hne
  have hlt := rank_lt hr hpos
  have hle : ⌈q * xs.length⌉₊ ≤ ⌈r * xs.length⌉₊ :=
    Nat.ceil_le_ceil (mul_le_mul_of_nonneg_right hqr (Nat.cast_nonneg _))
  unfold nearestRank
  rw [length_ascending, List.getD_eq_getElem _ _ (by rw [length_ascending]; omega),
    List.getD_eq_getElem _ _ (by rwa [length_ascending])]
  exact getElem_ascending_le (by omega) (by rwa [length_ascending])

/-! ## The median -/

/-- The middle element, or the mean of the two middle elements. -/
def median (xs : List α) : α :=
  let ordered := ascending xs
  let n := xs.length
  if n % 2 = 1 then ordered.getD (n / 2) 0
  else (ordered.getD (n / 2 - 1) 0 + ordered.getD (n / 2) 0) / 2

/-- The median of a sample of odd size is one of its elements. -/
theorem median_of_odd (h : xs.length % 2 = 1) :
    ∃ hhalf : xs.length / 2 < (ascending xs).length, median xs = (ascending xs)[xs.length / 2] := by
  refine ⟨by rw [length_ascending]; omega, ?_⟩
  unfold median
  dsimp only
  rw [if_pos h, List.getD_eq_getElem]

/-- The median of a sample of even size is the mean of two of its elements. -/
theorem median_of_even (hne : xs ≠ []) (h : ¬xs.length % 2 = 1) :
    ∃ x ∈ xs, ∃ y ∈ xs, median xs = (x + y) / 2 := by
  have hpos := List.length_pos_iff.mpr hne
  have hhalf : xs.length / 2 < (ascending xs).length := by rw [length_ascending]; omega
  refine ⟨(ascending xs)[xs.length / 2 - 1], mem_ascending.mp (List.getElem_mem _),
    (ascending xs)[xs.length / 2], mem_ascending.mp (List.getElem_mem _), ?_⟩
  unfold median
  dsimp only
  rw [if_neg h, List.getD_eq_getElem, List.getD_eq_getElem]

variable [IsStrictOrderedRing α]

theorem median_le (hne : xs ≠ []) (h : ∀ x ∈ xs, x ≤ b) : median xs ≤ b := by
  by_cases hodd : xs.length % 2 = 1
  · obtain ⟨hhalf, heq⟩ := median_of_odd hodd
    rw [heq]
    exact h _ (mem_ascending.mp (List.getElem_mem _))
  · obtain ⟨x, hx, y, hy, heq⟩ := median_of_even hne hodd
    have := h x hx
    have := h y hy
    rw [heq, div_le_iff₀ two_pos]
    linarith

theorem le_median (hne : xs ≠ []) (h : ∀ x ∈ xs, b ≤ x) : b ≤ median xs := by
  by_cases hodd : xs.length % 2 = 1
  · obtain ⟨hhalf, heq⟩ := median_of_odd hodd
    rw [heq]
    exact h _ (mem_ascending.mp (List.getElem_mem _))
  · obtain ⟨x, hx, y, hy, heq⟩ := median_of_even hne hodd
    have := h x hx
    have := h y hy
    rw [heq, le_div_iff₀ two_pos]
    linarith

/-- A sample of equal elements has them as its median. -/
theorem median_eq (hne : xs ≠ []) (h : ∀ x ∈ xs, x = b) : median xs = b :=
  le_antisymm (median_le hne fun x hx => (h x hx).le) (le_median hne fun x hx => (h x hx).ge)

/-- A sample with a positive median has a positive element. -/
theorem exists_pos_of_median_pos (hne : xs ≠ []) (h : 0 < median xs) : ∃ x ∈ xs, 0 < x := by
  by_contra hnone
  push Not at hnone
  exact absurd (median_le hne hnone) (not_le.mpr h)

omit [IsStrictOrderedRing α] in
/-- A bound the median of a sample of odd size reaches is reached by more than
half of the sample. -/
theorem half_lt_countP_of_le_median (hodd : xs.length % 2 = 1) (h : b ≤ median xs) :
    xs.length / 2 < xs.countP (b ≤ ·) := by
  obtain ⟨_, heq⟩ := median_of_odd hodd
  rw [heq] at h
  have hlength := length_ascending xs
  have hdrop : ∀ x ∈ (ascending xs).drop (xs.length / 2), b ≤ x := by
    intro x hx
    obtain ⟨i, hi, rfl⟩ := List.mem_iff_getElem.mp hx
    rw [List.getElem_drop]
    rw [List.length_drop] at hi
    exact h.trans (getElem_ascending_le (by omega) (by omega))
  have hall : ((ascending xs).drop (xs.length / 2)).countP (b ≤ ·) =
      ((ascending xs).drop (xs.length / 2)).length :=
    List.countP_eq_length.mpr fun x hx => decide_eq_true (hdrop x hx)
  have hle := (List.drop_sublist (xs.length / 2) (ascending xs)).countP_le (p := (b ≤ ·))
  rw [hall, List.length_drop, (ascending_perm xs).countP_eq] at hle
  omega

/-- The elements above a non-negative bound add up to their number times it. -/
theorem countP_mul_le_sum (hb : 0 ≤ b) :
    (xs.countP (b ≤ ·) : α) * b ≤ (xs.map (max 0)).sum := by
  induction xs with
  | nil => simp
  | cons x rest ih =>
    rw [List.countP_cons, List.map_cons, List.sum_cons]
    by_cases hx : b ≤ x
    · rw [if_pos (by simpa using hx), Nat.cast_add, Nat.cast_one]
      have : x ≤ max 0 x := le_max_right 0 x
      linarith
    · rw [if_neg (by simpa using hx), Nat.add_zero]
      have : 0 ≤ max 0 x := le_max_left 0 x
      linarith

/-- More than half of a sample of odd size pays for its median. -/
theorem half_mul_median_le_sum (hodd : xs.length % 2 = 1) :
    ((xs.length / 2 + 1 : Nat) : α) * max 0 (median xs) ≤ (xs.map (max 0)).sum := by
  by_cases hpos : 0 < median xs
  · rw [max_eq_right hpos.le]
    have hcount := half_lt_countP_of_le_median hodd (le_refl (median xs))
    refine le_trans ?_ (countP_mul_le_sum hpos.le)
    exact mul_le_mul_of_nonneg_right (Nat.cast_le.mpr hcount) hpos.le
  · rw [max_eq_left (not_lt.mp hpos), mul_zero]
    refine List.sum_nonneg fun y hy => ?_
    obtain ⟨x, -, rfl⟩ := List.mem_map.mp hy
    exact le_max_left 0 x

end LifecycleProfiler.General
