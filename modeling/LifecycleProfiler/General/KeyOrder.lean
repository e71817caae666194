import Mathlib.Data.List.Sort
import Mathlib.Data.List.MinMax
import Mathlib.Data.List.Nodup

/-! # Sorting by a key

The stable sort of a list by a key: what is found first in it, when it is
determined by its elements, and where equal keys end up. -/

namespace LifecycleProfiler.General

section Keyed
variable {α β : Type*} [LinearOrder β] (key : α → β) {xs ys : List α} {x : α}

/-- The stable sort by a key. -/
def sortedBy (xs : List α) : List α := xs.insertionSort fun a b => key a ≤ key b

theorem sortedBy_perm (xs : List α) : (sortedBy key xs).Perm xs := List.perm_insertionSort _ xs

@[simp] theorem mem_sortedBy : x ∈ sortedBy key xs ↔ x ∈ xs := (sortedBy_perm key xs).mem_iff

@[simp] theorem length_sortedBy (xs : List α) : (sortedBy key xs).length = xs.length :=
  (sortedBy_perm key xs).length_eq

theorem sortedBy_pairwise (xs : List α) :
    (sortedBy key xs).Pairwise fun a b => key a ≤ key b := by
  have : Std.Total fun a b : α => key a ≤ key b := ⟨fun a b => le_total (key a) (key b)⟩
  have : IsTrans α fun a b : α => key a ≤ key b := ⟨fun _ _ _ => le_trans⟩
  exact List.pairwise_insertionSort _ xs

theorem sortedBy_eq_self (h : xs.Pairwise fun a b => key a ≤ key b) : sortedBy key xs = xs :=
  h.insertionSort_eq

/-- Sorting looks at the keys alone. -/
theorem sortedBy_map {γ : Type*} {key' : γ → β} (f : α → γ) (h : ∀ x, key' (f x) = key x)
    (xs : List α) : sortedBy key' (xs.map f) = (sortedBy key xs).map f :=
  (List.map_insertionSort _ _ f xs fun a _ b _ => by rw [h, h]).symm

/-- Elements told apart by their keys have one order. -/
theorem sortedBy_congr (hperm : ys.Perm xs) (hkey : ∀ a ∈ xs, ∀ b ∈ xs, key a = key b → a = b) :
    sortedBy key ys = sortedBy key xs := by
  refine List.Perm.eq_of_pairwise ?_ (sortedBy_pairwise key ys) (sortedBy_pairwise key xs)
    ((sortedBy_perm key ys).trans (hperm.trans (sortedBy_perm key xs).symm))
  intro a b ha hb hab hba
  have ha : a ∈ xs := hperm.mem_iff.mp ((mem_sortedBy key).mp ha)
  exact hkey a ha b ((mem_sortedBy key).mp hb) (le_antisymm hab hba)

/-- The first element of a kind has the least key of its kind. -/
theorem find?_sortedBy {p : α → Bool} (h : (sortedBy key xs).find? p = some x) :
    x ∈ xs ∧ p x = true ∧ ∀ y ∈ xs, p y = true → key x ≤ key y := by
  obtain ⟨hx, before, after, hsplit, hbefore⟩ := List.find?_eq_some_iff_append.mp h
  have hmem : ∀ y, y ∈ before ++ x :: after ↔ y ∈ xs := fun y => by
    rw [← hsplit, mem_sortedBy]
  have hsorted := sortedBy_pairwise key xs
  rw [hsplit] at hsorted
  refine ⟨(hmem x).mp (by simp), hx, fun y hy hpy => ?_⟩
  rcases List.mem_append.mp ((hmem y).mpr hy) with hy | hy
  · exact absurd hpy (by simpa using hbefore y hy)
  · rcases List.mem_cons.mp hy with rfl | hy
    · exact le_rfl
    · exact (List.pairwise_cons.mp (List.pairwise_append.mp hsorted).2.1).1 y hy

theorem find?_sortedBy_isSome {p : α → Bool} :
    ((sortedBy key xs).find? p).isSome = true ↔ ∃ y ∈ xs, p y = true := by
  rw [List.find?_isSome]
  simp only [mem_sortedBy]

/-- The key of the first element of a kind does not depend on the order of the
list. -/
theorem find?_sortedBy_perm {p : α → Bool} (hperm : ys.Perm xs) :
    ((sortedBy key ys).find? p).map key = ((sortedBy key xs).find? p).map key := by
  have hsome : ((sortedBy key ys).find? p).isSome = ((sortedBy key xs).find? p).isSome := by
    rw [Bool.eq_iff_iff, find?_sortedBy_isSome, find?_sortedBy_isSome]
    exact exists_congr fun y => and_congr_left fun _ => hperm.mem_iff
  cases hy : (sortedBy key ys).find? p with
  | none =>
    rw [hy, Option.isSome_none] at hsome
    rw [Option.isNone_iff_eq_none.mp (Option.isSome_eq_false_iff.mp hsome.symm)]
  | some y =>
    rw [hy, Option.isSome_some] at hsome
    obtain ⟨x, hx⟩ := Option.isSome_iff_exists.mp hsome.symm
    rw [hx]
    obtain ⟨hmemy, hpy, hley⟩ := find?_sortedBy key hy
    obtain ⟨hmemx, hpx, hlex⟩ := find?_sortedBy key hx
    exact congrArg some (le_antisymm (hley x (hperm.mem_iff.mpr hmemx) hpx)
      (hlex y (hperm.mem_iff.mp hmemy) hpy))

/-- The first of the least elements, where elements are told apart by their
keys. -/
theorem argmin_congr (hperm : ys.Perm xs) (hkey : ∀ a ∈ xs, ∀ b ∈ xs, key a = key b → a = b) :
    ys.argmin key = xs.argmin key := by
  cases hx : xs.argmin key with
  | none =>
    rw [List.argmin_eq_none] at hx
    rw [hx] at hperm
    rw [hperm.eq_nil, List.argmin_nil]
  | some x =>
    have hmemx := List.argmin_mem hx
    cases hy : ys.argmin key with
    | none =>
      rw [List.argmin_eq_none] at hy
      rw [hy] at hperm
      exact absurd (hperm.mem_iff.mpr hmemx) List.not_mem_nil
    | some y =>
      have hmemy := hperm.mem_iff.mp (List.argmin_mem hy)
      have hle := List.le_of_mem_argmin (hperm.mem_iff.mpr hmemx) hy
      have hge := List.le_of_mem_argmin hmemy hx
      rw [hkey y hmemy x hmemx (le_antisymm hle hge)]

end Keyed
end LifecycleProfiler.General
