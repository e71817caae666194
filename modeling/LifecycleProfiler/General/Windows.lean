import Mathlib.Data.Int.Interval
import Mathlib.Algebra.Order.BigOperators.Group.List
import Mathlib.Data.Finset.Card

/-! # Unions of intervals

A union of half-open integer intervals is a list of windows: separate intervals
that start where one of the given intervals starts and end where one ends. The
size of the union is the total length of its windows. -/

namespace LifecycleProfiler.General

/-- The order of the integers, so that a union of intervals computes. -/
local instance intervalOrder : Preorder ℤ := Int.instLinearOrder.toPreorder

/-- The points some interval of the list contains. -/
def cover (intervals : List (ℤ × ℤ)) : Finset ℤ :=
  intervals.toFinset.biUnion fun interval => Finset.Ico interval.1 interval.2

/-- The sum of the lengths. -/
def totalLength (intervals : List (ℤ × ℤ)) : ℤ :=
  (intervals.map fun interval => interval.2 - interval.1).sum

/-- The first interval lies in the second. -/
def Inside (inner outer : ℤ × ℤ) : Prop := outer.1 ≤ inner.1 ∧ inner.2 ≤ outer.2

instance (inner outer : ℤ × ℤ) : Decidable (Inside inner outer) :=
  inferInstanceAs (Decidable (_ ∧ _))

/-- The first interval ends before the second starts. -/
def Apart (left right : ℤ × ℤ) : Prop := left.2 < right.1

instance (left right : ℤ × ℤ) : Decidable (Apart left right) :=
  inferInstanceAs (Decidable (_ < _))

theorem mem_cover {intervals : List (ℤ × ℤ)} {t : ℤ} :
    t ∈ cover intervals ↔ ∃ interval ∈ intervals, interval.1 ≤ t ∧ t < interval.2 := by
  simp only [cover, Finset.mem_biUnion, List.mem_toFinset, Finset.mem_Ico]

theorem cover_cons (interval : ℤ × ℤ) (rest : List (ℤ × ℤ)) :
    cover (interval :: rest) = Finset.Ico interval.1 interval.2 ∪ cover rest := by
  ext t
  simp only [mem_cover, Finset.mem_union, Finset.mem_Ico, List.mem_cons, exists_eq_or_imp]

theorem totalLength_append (left right : List (ℤ × ℤ)) :
    totalLength (left ++ right) = totalLength left + totalLength right := by
  simp only [totalLength, List.map_append, List.sum_append]

theorem totalLength_singleton (interval : ℤ × ℤ) :
    totalLength [interval] = interval.2 - interval.1 := by
  simp only [totalLength, List.map_cons, List.map_nil, List.sum_singleton]

/-- Intervals inside others cover no more than these. -/
theorem cover_subset {inner outer : List (ℤ × ℤ)}
    (h : ∀ interval ∈ inner, ∃ window ∈ outer, Inside interval window) :
    cover inner ⊆ cover outer := by
  intro t ht
  obtain ⟨interval, hmem, hstart, hend⟩ := mem_cover.mp ht
  obtain ⟨window, hwindow, hleft, hright⟩ := h interval hmem
  exact mem_cover.mpr ⟨window, hwindow, hleft.trans hstart, hend.trans_le hright⟩

theorem card_cover_le {intervals : List (ℤ × ℤ)}
    (hordered : ∀ interval ∈ intervals, interval.1 ≤ interval.2) :
    ((cover intervals).card : ℤ) ≤ totalLength intervals := by
  induction intervals with
  | nil => exact le_refl 0
  | cons interval rest ih =>
    obtain ⟨hfirst, hrest⟩ := List.forall_mem_cons.mp hordered
    have hunion := Finset.card_union_le (Finset.Ico interval.1 interval.2) (cover rest)
    have hlength : ((Finset.Ico interval.1 interval.2).card : ℤ) = interval.2 - interval.1 :=
      Int.card_Ico_of_le _ _ hfirst
    have htail := ih hrest
    have htotal : totalLength (interval :: rest) =
        (interval.2 - interval.1) + totalLength rest := List.sum_cons
    rw [cover_cons, htotal]
    omega

/-- Separate intervals cover their total length. -/
theorem card_cover_of_apart {intervals : List (ℤ × ℤ)}
    (hordered : ∀ interval ∈ intervals, interval.1 ≤ interval.2)
    (hapart : intervals.Pairwise Apart) :
    ((cover intervals).card : ℤ) = totalLength intervals := by
  induction intervals with
  | nil => rfl
  | cons interval rest ih =>
    obtain ⟨hfirst, hrest⟩ := List.forall_mem_cons.mp hordered
    obtain ⟨hahead, hapart⟩ := List.pairwise_cons.mp hapart
    have hdisjoint : Disjoint (Finset.Ico interval.1 interval.2) (cover rest) := by
      rw [Finset.disjoint_left]
      intro t ht hrest
      obtain ⟨other, hother, hstart, -⟩ := mem_cover.mp hrest
      have hend := (Finset.mem_Ico.mp ht).2
      have hgap : interval.2 < other.1 := hahead other hother
      omega
    have hunion := Finset.card_union_of_disjoint hdisjoint
    have hlength : ((Finset.Ico interval.1 interval.2).card : ℤ) = interval.2 - interval.1 :=
      Int.card_Ico_of_le _ _ hfirst
    have htail := ih hrest hapart
    have htotal : totalLength (interval :: rest) =
        (interval.2 - interval.1) + totalLength rest := List.sum_cons
    rw [cover_cons, htotal]
    omega

/-- The windows a list of intervals unites to. -/
structure Windows (intervals windows : List (ℤ × ℤ)) : Prop where
  ordered : ∀ window ∈ windows, window.1 ≤ window.2
  apart : windows.Pairwise Apart
  starts : ∀ window ∈ windows, ∃ interval ∈ intervals, interval.1 = window.1
  ends : ∀ window ∈ windows, ∃ interval ∈ intervals, interval.2 = window.2
  inside : ∀ interval ∈ intervals, ∃ window ∈ windows, Inside interval window
  covered : cover windows ⊆ cover intervals

namespace Windows
variable {intervals windows : List (ℤ × ℤ)} {current next : ℤ × ℤ}

/-- The union has the size of its windows. -/
theorem card_cover (h : Windows intervals windows) :
    ((cover intervals).card : ℤ) = totalLength windows := by
  rw [← card_cover_of_apart h.ordered h.apart,
    Finset.Subset.antisymm (cover_subset h.inside) h.covered]

theorem nil : Windows [] [] where
  ordered := by simp
  apart := .nil
  starts := by simp
  ends := by simp
  inside := by simp
  covered := Finset.Subset.refl _

theorem single (hordered : current.1 ≤ current.2) : Windows [current] [current] where
  ordered := by simpa using hordered
  apart := List.pairwise_singleton _ _
  starts := by simp
  ends := by simp
  inside := by simp [Inside]
  covered := Finset.Subset.refl _

/-- Windows depend on which intervals there are, not on their order. -/
theorem congr {others : List (ℤ × ℤ)} (h : Windows intervals windows)
    (hmem : ∀ interval, interval ∈ intervals ↔ interval ∈ others) : Windows others windows where
  ordered := h.ordered
  apart := h.apart
  starts window hw := (h.starts window hw).imp fun _ hi => ⟨(hmem _).mp hi.1, hi.2⟩
  ends window hw := (h.ends window hw).imp fun _ hi => ⟨(hmem _).mp hi.1, hi.2⟩
  inside interval hi := h.inside interval ((hmem _).mpr hi)
  covered := h.covered.trans <| cover_subset fun interval hi =>
    ⟨interval, (hmem _).mp hi, le_refl _, le_refl _⟩

/-- An interval that starts after the last window is a window of its own. -/
theorem append (h : Windows intervals (windows ++ [current])) (hordered : next.1 ≤ next.2)
    (hgap : current.2 < next.1) :
    Windows (intervals ++ [next]) (windows ++ [current] ++ [next]) where
  ordered := by
    intro window hw
    rcases List.mem_append.mp hw with hw | hw
    · exact h.ordered window hw
    · exact List.mem_singleton.mp hw ▸ hordered
  apart := by
    refine List.pairwise_append.mpr ⟨h.apart, List.pairwise_singleton _ _, ?_⟩
    intro left hleft right hright
    obtain rfl := List.mem_singleton.mp hright
    rcases List.mem_append.mp hleft with hleft | hleft
    · have hbefore : left.2 < current.1 :=
        (List.pairwise_append.mp h.apart).2.2 left hleft current (List.mem_singleton_self _)
      have hcurrent := h.ordered current (by simp)
      change left.2 < right.1
      omega
    · exact List.mem_singleton.mp hleft ▸ hgap
  starts := by
    intro window hw
    rcases List.mem_append.mp hw with hw | hw
    · obtain ⟨interval, hi, hstart⟩ := h.starts window hw
      exact ⟨interval, List.mem_append_left _ hi, hstart⟩
    · exact ⟨next, by simp, by rw [List.mem_singleton.mp hw]⟩
  ends := by
    intro window hw
    rcases List.mem_append.mp hw with hw | hw
    · obtain ⟨interval, hi, hend⟩ := h.ends window hw
      exact ⟨interval, List.mem_append_left _ hi, hend⟩
    · exact ⟨next, by simp, by rw [List.mem_singleton.mp hw]⟩
  inside := by
    intro interval hi
    rcases List.mem_append.mp hi with hi | hi
    · obtain ⟨window, hw, hinside⟩ := h.inside interval hi
      exact ⟨window, List.mem_append_left _ hw, hinside⟩
    · exact ⟨next, by simp, by simp [List.mem_singleton.mp hi, Inside]⟩
  covered := by
    intro t ht
    obtain ⟨window, hw, hstart, hend⟩ := mem_cover.mp ht
    rcases List.mem_append.mp hw with hw | hw
    · have hcovered := h.covered (mem_cover.mpr ⟨window, hw, hstart, hend⟩)
      obtain ⟨interval, hi, ht⟩ := mem_cover.mp hcovered
      exact mem_cover.mpr ⟨interval, List.mem_append_left _ hi, ht⟩
    · obtain rfl := List.mem_singleton.mp hw
      exact mem_cover.mpr ⟨window, by simp, hstart, hend⟩

/-- An interval that starts in the last window extends it. -/
theorem extend (h : Windows intervals (windows ++ [current])) (hordered : next.1 ≤ next.2)
    (hstart : current.1 ≤ next.1) (htouch : next.1 ≤ current.2) :
    Windows (intervals ++ [next]) (windows ++ [(current.1, max current.2 next.2)]) where
  ordered := by
    intro window hw
    rcases List.mem_append.mp hw with hw | hw
    · exact h.ordered window (List.mem_append_left _ hw)
    · obtain rfl := List.mem_singleton.mp hw
      have hcurrent := h.ordered current (by simp)
      change current.1 ≤ max current.2 next.2
      omega
  apart := by
    obtain ⟨hwindows, -, hbefore⟩ := List.pairwise_append.mp h.apart
    refine List.pairwise_append.mpr ⟨hwindows, List.pairwise_singleton _ _, ?_⟩
    intro left hleft right hright
    obtain rfl := List.mem_singleton.mp hright
    exact hbefore left hleft current (List.mem_singleton_self _)
  starts := by
    intro window hw
    have hold : ∃ interval ∈ intervals, interval.1 = window.1 := by
      rcases List.mem_append.mp hw with hw | hw
      · exact h.starts window (List.mem_append_left _ hw)
      · obtain rfl := List.mem_singleton.mp hw
        exact h.starts current (by simp)
    exact hold.imp fun _ hi => ⟨List.mem_append_left _ hi.1, hi.2⟩
  ends := by
    intro window hw
    rcases List.mem_append.mp hw with hw | hw
    · obtain ⟨interval, hi, hend⟩ := h.ends window (List.mem_append_left _ hw)
      exact ⟨interval, List.mem_append_left _ hi, hend⟩
    · obtain rfl := List.mem_singleton.mp hw
      rcases max_choice current.2 next.2 with hmax | hmax
      · obtain ⟨interval, hi, hend⟩ := h.ends current (by simp)
        exact ⟨interval, List.mem_append_left _ hi, hend.trans hmax.symm⟩
      · exact ⟨next, by simp, hmax.symm⟩
  inside := by
    intro interval hi
    rcases List.mem_append.mp hi with hi | hi
    · obtain ⟨window, hw, hinside⟩ := h.inside interval hi
      rcases List.mem_append.mp hw with hw | hw
      · exact ⟨window, List.mem_append_left _ hw, hinside⟩
      · obtain rfl := List.mem_singleton.mp hw
        exact ⟨_, List.mem_append_right _ (List.mem_singleton_self _), hinside.1,
          hinside.2.trans (le_max_left _ _)⟩
    · obtain rfl := List.mem_singleton.mp hi
      exact ⟨_, List.mem_append_right _ (List.mem_singleton_self _), hstart, le_max_right _ _⟩
  covered := by
    intro t ht
    obtain ⟨window, hw, hleft, hright⟩ := mem_cover.mp ht
    have hold : ∀ window ∈ windows ++ [current], window.1 ≤ t → t < window.2 →
        t ∈ cover (intervals ++ [next]) := by
      intro window hw hleft hright
      have hcovered := h.covered (mem_cover.mpr ⟨window, hw, hleft, hright⟩)
      obtain ⟨interval, hi, ht⟩ := mem_cover.mp hcovered
      exact mem_cover.mpr ⟨interval, List.mem_append_left _ hi, ht⟩
    rcases List.mem_append.mp hw with hw | hw
    · exact hold window (List.mem_append_left _ hw) hleft hright
    · obtain rfl := List.mem_singleton.mp hw
      by_cases hcurrent : t < current.2
      · exact hold current (by simp) hleft hcurrent
      · have hnext : t < next.2 := (lt_max_iff.mp hright).resolve_left hcurrent
        exact mem_cover.mpr ⟨next, by simp, by omega, hnext⟩

end Windows

end LifecycleProfiler.General
