import LifecycleProfiler.Python.Mapping
import Mathlib.Data.List.Nodup

/-! # The keys of a dictionary

Membership in a dictionary without repeated keys. -/

namespace LifecycleProfiler.Python.Mapping
variable {κ α : Type} [DecidableEq κ]

theorem get_eq_none {m : Mapping κ α} {key : κ} :
    get m key = none ↔ ∀ item ∈ m, item.1 ≠ key := by
  induction m with
  | nil => simp
  | cons item rest ih =>
    rw [get_cons, List.forall_mem_cons, ← ih]
    by_cases h : key = item.1
    · simp [h]
    · simp [h, Ne.symm h]

/-- No key is repeated. -/
def Unique (m : Mapping κ α) : Prop := (m.map (·.1)).Nodup

omit [DecidableEq κ] in
theorem Unique.filter {m : Mapping κ α} (h : Unique m) (keep : κ × α → Bool) :
    Unique (m.filter keep) := h.sublist (List.filter_sublist.map _)

omit [DecidableEq κ] in
theorem Unique.eq_of_mem {m : Mapping κ α} (h : Unique m) {key : κ} {v w : α} (hv : (key, v) ∈ m)
    (hw : (key, w) ∈ m) : v = w :=
  congrArg Prod.snd (List.inj_on_of_nodup_map h hv hw rfl)

theorem mem_set {m : Mapping κ α} (h : Unique m) {key : κ} {value : α} {item : κ × α} :
    item ∈ set m key value ↔ item = (key, value) ∨ item ∈ m ∧ item.1 ≠ key := by
  induction m with
  | nil => simp [set]
  | cons first rest ih =>
    have hrest : Unique rest := (List.nodup_cons.mp h).2
    have hfirst : ∀ item ∈ rest, item.1 ≠ first.1 := fun item hmem heq =>
      (List.nodup_cons.mp h).1 (List.mem_map.mpr ⟨item, hmem, heq⟩)
    rw [set]
    by_cases hkey : first.1 = key
    · rw [if_pos hkey, List.mem_cons, List.mem_cons]
      constructor
      · rintro (rfl | hmem)
        · exact .inl rfl
        · exact .inr ⟨.inr hmem, hkey ▸ hfirst item hmem⟩
      · rintro (rfl | ⟨rfl | hmem, hne⟩)
        · exact .inl rfl
        · exact absurd hkey hne
        · exact .inr hmem
    · rw [if_neg hkey, List.mem_cons, List.mem_cons, ih hrest]
      constructor
      · rintro (rfl | rfl | ⟨hmem, hne⟩)
        · exact .inr ⟨.inl rfl, hkey⟩
        · exact .inl rfl
        · exact .inr ⟨.inr hmem, hne⟩
      · rintro (rfl | ⟨rfl | hmem, hne⟩)
        · exact .inr (.inl rfl)
        · exact .inl rfl
        · exact .inr (.inr ⟨hmem, hne⟩)

theorem map_fst_set (m : Mapping κ α) (key : κ) (value : α) :
    (set m key value).map (·.1) = m.map (·.1) ∨
      (∀ item ∈ m, item.1 ≠ key) ∧ (set m key value).map (·.1) = m.map (·.1) ++ [key] := by
  induction m with
  | nil => exact .inr ⟨nofun, rfl⟩
  | cons first rest ih =>
    rw [set]
    by_cases hkey : first.1 = key
    · rw [if_pos hkey]
      exact .inl (by rw [List.map_cons, List.map_cons, hkey])
    · rw [if_neg hkey, List.map_cons, List.map_cons, List.forall_mem_cons]
      rcases ih with heq | ⟨hnone, heq⟩
      · exact .inl (by rw [heq])
      · exact .inr ⟨⟨hkey, hnone⟩, by rw [heq, List.cons_append]⟩

theorem isSome_get {m : Mapping κ α} {key : κ} :
    (get m key).isSome = true ↔ key ∈ m.map (·.1) := by
  rw [← not_iff_not, Bool.not_eq_true, Option.isSome_eq_false_iff, Option.isNone_iff_eq_none,
    get_eq_none, List.mem_map]
  simp only [not_exists, not_and, ne_eq]

/-- Assignment to a key that is there. -/
theorem map_fst_set_of_get {m : Mapping κ α} {key : κ} {value current : α}
    (h : get m key = some current) : (set m key value).map (·.1) = m.map (·.1) := by
  rcases map_fst_set m key value with heq | ⟨hnone, -⟩
  · exact heq
  · rw [get_eq_none.mpr hnone] at h
    cases h

theorem length_set_le (m : Mapping κ α) (key : κ) (value : α) :
    (set m key value).length ≤ m.length + 1 := by
  have hlength : ((set m key value).map (·.1)).length = (set m key value).length :=
    List.length_map ..
  rcases map_fst_set m key value with heq | ⟨-, heq⟩
  · rw [heq, List.length_map] at hlength
    omega
  · rw [heq, List.length_append, List.length_map, List.length_singleton] at hlength
    omega

theorem Unique.set {m : Mapping κ α} (h : Unique m) (key : κ) (value : α) :
    Unique (set m key value) := by
  unfold Unique at h ⊢
  rcases map_fst_set m key value with heq | ⟨hnone, heq⟩
  · rw [heq]
    exact h
  · rw [heq, List.nodup_append]
    refine ⟨h, List.nodup_singleton _, fun a ha b hb hab => ?_⟩
    obtain ⟨item, hmem, rfl⟩ := List.mem_map.mp ha
    exact hnone item hmem (hab.trans (List.mem_singleton.mp hb))

/-- `mapping.setdefault(key, value)` -/
def setdefault (m : Mapping κ α) (key : κ) (value : α) : Mapping κ α :=
  match m.get key with
  | some _ => m
  | none => m.set key value

theorem get_setdefault (m : Mapping κ α) (key other : κ) (value : α) :
    get (setdefault m key value) other =
      (get m other).or (if other = key then some value else none) := by
  unfold setdefault
  cases hkey : get m key with
  | some current =>
    by_cases ho : other = key
    · simp [ho, hkey]
    · simp [ho]
  | none =>
    simp only [get_set]
    by_cases ho : other = key
    · simp [ho, hkey]
    · simp [ho]

/-- A table filled by `setdefault` holds the first value of each key. -/
theorem get_foldl_setdefault {key : α → κ} (xs : List α) (m : Mapping κ α) (k : κ) :
    get (xs.foldl (fun table x => table.setdefault (key x) x) m) k =
      (get m k).or (xs.find? fun x => key x = k) := by
  induction xs generalizing m with
  | nil => simp
  | cons x xs ih =>
    rw [List.foldl_cons, ih, get_setdefault, List.find?_cons, Option.or_assoc]
    by_cases hk : key x = k
    · simp [hk]
    · simp [hk, Ne.symm hk]

end LifecycleProfiler.Python.Mapping
