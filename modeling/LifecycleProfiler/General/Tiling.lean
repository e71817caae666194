import Mathlib.Order.SuccPred.Basic
import Mathlib.Algebra.Order.Group.Int
import Mathlib.Algebra.Order.SuccPred
import Mathlib.Data.Int.SuccPred

/-! # Tilings by closed intervals

A list of closed intervals tiles the points from `first` up to `next` when each
interval starts where the one before it ended. The successor of the last point
is the next one to be tiled. -/

namespace LifecycleProfiler.General

section Tiles
variable {α : Type*} [LinearOrder α] [SuccOrder α]

/-- The intervals cover the points from `first` to right before `next`, in order. -/
def Tiles (first : α) : List (α × α) → α → Prop
  | [], next => first = next
  | (a, b) :: rest, next => a = first ∧ a ≤ b ∧ Tiles (Order.succ b) rest next

variable {first mid next a b k : α} {spans rest : List (α × α)}

@[simp] theorem tiles_nil : Tiles first [] next ↔ first = next := Iff.rfl

@[simp] theorem tiles_cons : Tiles first ((a, b) :: rest) next ↔
    a = first ∧ a ≤ b ∧ Tiles (Order.succ b) rest next := Iff.rfl

theorem tiles_append : Tiles first (spans ++ rest) next ↔
    ∃ mid, Tiles first spans mid ∧ Tiles mid rest next := by
  induction spans generalizing first with
  | nil => simp
  | cons span spans ih =>
    obtain ⟨a, b⟩ := span
    rw [List.cons_append, tiles_cons, ih]
    constructor
    · intro ⟨hstart, hle, mid, hspans, hrest⟩
      exact ⟨mid, ⟨hstart, hle, hspans⟩, hrest⟩
    · intro ⟨mid, ⟨hstart, hle, hspans⟩, hrest⟩
      exact ⟨hstart, hle, mid, hspans, hrest⟩

/-- An interval that starts at the next point. -/
theorem Tiles.snoc (h : Tiles first spans a) (hle : a ≤ b) :
    Tiles first (spans ++ [(a, b)]) (Order.succ b) :=
  tiles_append.mpr ⟨a, h, rfl, hle, rfl⟩

/-- The last interval takes the next point. -/
theorem Tiles.extend (h : Tiles first (spans ++ [(a, b)]) next) :
    Tiles first (spans ++ [(a, next)]) (Order.succ next) := by
  obtain ⟨mid, hspans, hstart, hle, hnext⟩ := tiles_append.mp h
  rw [tiles_nil] at hnext
  exact tiles_append.mpr ⟨mid, hspans, hstart, hnext ▸ hle.trans (Order.le_succ b), rfl⟩

theorem Tiles.le (h : Tiles first spans next) : first ≤ next := by
  induction spans generalizing first with
  | nil => exact h.le
  | cons span rest ih =>
    obtain ⟨hstart, hle, hrest⟩ := h
    exact hstart ▸ (hle.trans (Order.le_succ span.2)).trans (ih hrest)

theorem Tiles.ends (h : Tiles first spans next) : ∀ span ∈ spans, span.1 ≤ span.2 := by
  induction spans generalizing first with
  | nil => exact nofun
  | cons head rest ih =>
    obtain ⟨-, hle, hrest⟩ := h
    intro span hspan
    rcases List.mem_cons.mp hspan with rfl | hspan
    · exact hle
    · exact ih hrest span hspan

theorem Tiles.start_le (h : Tiles first spans next) : ∀ span ∈ spans, first ≤ span.1 := by
  induction spans generalizing first with
  | nil => exact nofun
  | cons head rest ih =>
    obtain ⟨hstart, hle, hrest⟩ := h
    intro span hspan
    rcases List.mem_cons.mp hspan with rfl | hspan
    · exact hstart.ge
    · exact hstart ▸ (hle.trans (Order.le_succ head.2)).trans (ih hrest span hspan)

variable [NoMaxOrder α]

/-- No interval starts before the one in front of it has ended. -/
theorem Tiles.pairwise (h : Tiles first spans next) :
    spans.Pairwise fun left right => left.2 < right.1 := by
  induction spans generalizing first with
  | nil => exact .nil
  | cons head rest ih =>
    obtain ⟨-, -, hrest⟩ := h
    refine List.pairwise_cons.mpr ⟨fun span hspan => ?_, ih hrest⟩
    exact (Order.lt_succ head.2).trans_le (hrest.start_le span hspan)

/-- **Every point is covered once, and no other point is.** -/
theorem Tiles.countP (h : Tiles first spans next) (k : α) :
    spans.countP (fun span => decide (span.1 ≤ k ∧ k ≤ span.2)) =
      if first ≤ k ∧ k < next then 1 else 0 := by
  induction spans generalizing first with
  | nil =>
    rw [tiles_nil] at h
    have hempty : ¬ (first ≤ k ∧ k < next) := fun hk => absurd (h ▸ hk.1) hk.2.not_ge
    rw [if_neg hempty, List.countP_nil]
  | cons head rest ih =>
    obtain ⟨a, b⟩ := head
    obtain ⟨hstart, hle, hrest⟩ := h
    have hnext := hrest.le
    rw [List.countP_cons, ih hrest, ← hstart]
    simp only [decide_eq_true_eq, Order.succ_le_iff]
    by_cases hb : k ≤ b
    · -- a point of the head is none of the rest
      have hlt : k < next := (Order.lt_succ_of_le hb).trans_le hnext
      simp [hb, hlt, hb.not_gt]
    · have hgt := not_le.mp hb
      have ha : a ≤ k := hle.trans hgt.le
      simp [hb, hgt, ha]

end Tiles

/-- The number of points in a list of closed intervals. -/
def points (spans : List (ℤ × ℤ)) : ℤ := (spans.map fun span => span.2 - span.1 + 1).sum

@[simp] theorem points_nil : points [] = 0 := rfl

@[simp] theorem points_cons (span : ℤ × ℤ) (spans : List (ℤ × ℤ)) :
    points (span :: spans) = span.2 - span.1 + 1 + points spans := by
  rw [points, List.map_cons, List.sum_cons, ← points]

/-- A tiling has as many points as lie between its ends. -/
theorem Tiles.points {first next : ℤ} {spans : List (ℤ × ℤ)} (h : Tiles first spans next) :
    General.points spans = next - first := by
  induction spans generalizing first with
  | nil =>
    rw [tiles_nil] at h
    rw [points_nil, h, sub_self]
  | cons head rest ih =>
    obtain ⟨hstart, -, hrest⟩ := h
    rw [Order.succ_eq_add_one] at hrest
    rw [points_cons, ih hrest, hstart]
    omega

/-- Single points that tile come in their order. -/
theorem Tiles.singles {first next : ℤ} {xs : List ℤ}
    (h : Tiles first (xs.map fun x => (x, x)) next) :
    xs = (List.range xs.length).map fun i : Nat => first + i := by
  induction xs generalizing first with
  | nil => rfl
  | cons x rest ih =>
    obtain ⟨hstart, -, hrest⟩ := h
    rw [Order.succ_eq_add_one] at hrest
    rw [List.length_cons, List.range_succ_eq_map, List.map_cons, List.map_map]
    have hhead : x = first + ((0 : Nat) : ℤ) := by simpa using hstart
    have htail : rest = (List.range rest.length).map fun i : Nat => first + (i + 1 : Nat) := by
      refine (ih hrest).trans (List.map_congr_left fun i _ => ?_)
      have hx : x = first := hstart
      rw [hx]
      push_cast
      omega
    exact congrArg₂ List.cons hhead htail

end LifecycleProfiler.General
