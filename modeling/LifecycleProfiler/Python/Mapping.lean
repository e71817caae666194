import Mathlib

/-! # Dictionaries

A dictionary is the list of its items in insertion order, without repeated
keys: assignment replaces the value of a key in place or appends an item. -/

namespace LifecycleProfiler.Python

abbrev Mapping (κ α : Type) := List (κ × α)

namespace Mapping
variable {κ α : Type} [DecidableEq κ]

/-- `mapping.get(key)` -/
def get (m : Mapping κ α) (key : κ) : Option α := m.lookup key

/-- `mapping[key] = value` -/
def set (m : Mapping κ α) (key : κ) (value : α) : Mapping κ α :=
  match m with
  | [] => [(key, value)]
  | item :: rest => if item.1 = key then (key, value) :: rest else item :: set rest key value

/-- Drop the items whose key satisfies the condition. -/
def popWhere (m : Mapping κ α) (drop : κ → Bool) : Mapping κ α := m.filter fun item => !drop item.1

/-- `mapping.pop(key, None)` -/
def pop (m : Mapping κ α) (key : κ) : Mapping κ α := popWhere m fun k => k = key

@[simp] theorem get_nil (key : κ) : get ([] : Mapping κ α) key = none := rfl

theorem get_cons (item : κ × α) (rest : Mapping κ α) (key : κ) :
    get (item :: rest) key = if key = item.1 then some item.2 else get rest key := by
  by_cases h : key = item.1
  · simp [get, List.lookup, h]
  · have hb : (key == item.1) = false := beq_eq_false_iff_ne.mpr h
    simp [get, List.lookup, hb, h]

theorem mem_of_get {m : Mapping κ α} {key : κ} {value : α} (h : get m key = some value) :
    (key, value) ∈ m := by
  induction m with
  | nil => cases h
  | cons item rest ih =>
    rw [get_cons] at h
    split at h
    · next hkey =>
      cases h
      rw [hkey]
      exact List.mem_cons_self
    · exact List.mem_cons_of_mem _ (ih h)

theorem get_set (m : Mapping κ α) (key other : κ) (value : α) :
    get (set m key value) other = if other = key then some value else get m other := by
  induction m with
  | nil => rw [set, get_cons]
  | cons item rest ih =>
    rw [set]
    by_cases h : item.1 = key
    · rw [if_pos h, get_cons, get_cons]
      by_cases ho : other = key
      · simp [ho]
      · simp [ho, h]
    · rw [if_neg h, get_cons, get_cons, ih]
      by_cases ho : other = item.1
      · have : other ≠ key := fun hk => h (ho ▸ hk)
        simp [ho, h]
      · simp [ho]

@[simp] theorem get_set_self (m : Mapping κ α) (key : κ) (value : α) :
    get (set m key value) key = some value := by
  rw [get_set, if_pos rfl]

theorem get_set_ne {m : Mapping κ α} {key other : κ} {value : α} (h : other ≠ key) :
    get (set m key value) other = get m other := by
  rw [get_set, if_neg h]

theorem get_popWhere (m : Mapping κ α) (drop : κ → Bool) (key : κ) :
    get (popWhere m drop) key = if drop key then none else get m key := by
  induction m with
  | nil => simp [popWhere]
  | cons item rest ih =>
    unfold popWhere at ih ⊢
    rw [List.filter_cons, get_cons]
    by_cases hd : drop item.1
    · rw [if_neg (by simp [hd]), ih]
      by_cases hk : key = item.1
      · simp [hk, hd]
      · simp [hk]
    · rw [if_pos (by simp [hd]), get_cons, ih]
      by_cases hk : key = item.1
      · simp [hk, hd]
      · simp [hk]

theorem get_pop (m : Mapping κ α) (key other : κ) :
    get (pop m key) other = if other = key then none else get m other := by
  rw [pop, get_popWhere]
  simp

end Mapping
end LifecycleProfiler.Python
