import Mathlib.Data.List.Perm.Basic
import Mathlib.Logic.Function.Basic

/-! # Interleavings

A family of lists merged into one, each list in its own order. Two merges of one
family are rearrangements of one another that agree on what each list owns. -/

namespace LifecycleProfiler.General

variable {α κ : Type*} [DecidableEq κ] {shards : κ → List α} {xs ys : List α}

/-- `Interleaving shards xs`: `xs` takes the elements of the shards one by one,
each time the next of some shard. -/
inductive Interleaving : (κ → List α) → List α → Prop where
  | nil {shards : κ → List α} (h : ∀ k, shards k = []) : Interleaving shards []
  | cons {shards : κ → List α} {k : κ} {x : α} {rest xs : List α} (h : shards k = x :: rest)
      (htail : Interleaving (Function.update shards k rest) xs) : Interleaving shards (x :: xs)

namespace Interleaving

/-- The next element of a shard can be taken out where it stands. -/
theorem extract (h : Interleaving shards xs) {k : κ} {x : α} {rest : List α}
    (hk : shards k = x :: rest) :
    ∃ before after, xs = before ++ x :: after ∧
      Interleaving (Function.update shards k rest) (before ++ after) := by
  induction h generalizing rest with
  | nil hnil =>
    rw [hnil k] at hk
    cases hk
  | @cons shards k' y rest' xs hk' htail ih =>
    by_cases hsame : k' = k
    · subst hsame
      rw [hk', List.cons.injEq] at hk
      obtain ⟨rfl, rfl⟩ := hk
      exact ⟨[], xs, rfl, htail⟩
    · have hother : Function.update shards k' rest' k = x :: rest := by
        rw [Function.update_of_ne (Ne.symm hsame), hk]
      obtain ⟨before, after, rfl, hleft⟩ := ih hother
      refine ⟨y :: before, after, rfl, .cons (k := k') (show _ = y :: rest' from ?_) ?_⟩
      · rw [Function.update_of_ne hsame, hk']
      · rw [Function.update_comm (Ne.symm hsame)]
        exact hleft

/-- Two interleavings of one family are rearrangements of one another. -/
theorem perm (h : Interleaving shards xs) (h' : Interleaving shards ys) : xs.Perm ys := by
  induction h generalizing ys with
  | nil hnil =>
    cases h' with
    | nil => exact List.Perm.refl _
    | @cons _ k _ _ _ hk =>
      rw [hnil k] at hk
      cases hk
  | cons hk _ ih =>
    obtain ⟨before, after, rfl, hleft⟩ := h'.extract hk
    exact ((ih hleft).cons _).trans List.perm_middle.symm

theorem mem_iff (h : Interleaving shards xs) {x : α} : x ∈ xs ↔ ∃ k, x ∈ shards k := by
  induction h with
  | nil hnil => simp [hnil]
  | @cons shards k y rest xs hk _ ih =>
    rw [List.mem_cons, ih]
    constructor
    · rintro (rfl | ⟨k', hx⟩)
      · exact ⟨k, hk ▸ List.mem_cons_self ..⟩
      · by_cases hsame : k' = k
        · subst hsame
          rw [Function.update_self] at hx
          exact ⟨k', hk ▸ List.mem_cons_of_mem _ hx⟩
        · rw [Function.update_of_ne hsame] at hx
          exact ⟨k', hx⟩
    · rintro ⟨k', hx⟩
      by_cases hsame : k' = k
      · subst hsame
        rw [hk, List.mem_cons] at hx
        exact hx.imp_right fun hx => ⟨k', by rwa [Function.update_self]⟩
      · exact .inr ⟨k', by rwa [Function.update_of_ne hsame]⟩

/-- What a shard owns comes in the order of the shard. -/
theorem filter_eq {owns : κ → α → Bool} (h : Interleaving shards xs)
    (hown : ∀ k, ∀ x ∈ shards k, ∀ k', owns k' x = decide (k' = k)) (k : κ) :
    xs.filter (owns k) = shards k := by
  induction h with
  | nil hnil => exact (hnil k).symm
  | @cons shards k' x rest xs hk' _ ih =>
    have hx : owns k x = decide (k = k') := hown k' x (hk' ▸ List.mem_cons_self ..) k
    have htail := ih fun j y hy => by
      by_cases hsame : j = k'
      · subst hsame
        rw [Function.update_self] at hy
        exact hown j y (hk' ▸ List.mem_cons_of_mem _ hy)
      · rw [Function.update_of_ne hsame] at hy
        exact hown j y hy
    by_cases hsame : k = k'
    · subst hsame
      rw [List.filter_cons_of_pos (by simpa using hx), htail, Function.update_self, hk']
    · rw [List.filter_cons_of_neg (by simpa [hsame] using hx), htail, Function.update_of_ne hsame]

/-- A list is an interleaving of what each owner finds in it. -/
theorem of_filter (owns : κ → α → Bool) (owner : α → κ)
    (hown : ∀ x ∈ xs, ∀ k, owns k x = decide (k = owner x)) :
    Interleaving (fun k => xs.filter (owns k)) xs := by
  induction xs with
  | nil => exact .nil fun _ => rfl
  | cons x xs ih =>
    have hx := hown x (List.mem_cons_self ..)
    have htail := ih fun y hy => hown y (List.mem_cons_of_mem _ hy)
    refine .cons (k := owner x) (show _ = x :: xs.filter (owns (owner x)) from ?_) ?_
    · exact List.filter_cons_of_pos (by simp [hx])
    · convert htail using 1
      funext k
      by_cases hsame : k = owner x
      · rw [hsame, Function.update_self]
      · rw [Function.update_of_ne hsame, List.filter_cons_of_neg (by simp [hx, hsame])]

/-- A whole shard in front. -/
theorem prepend {k : κ} (h : Interleaving (Function.update shards k []) xs) :
    Interleaving shards (shards k ++ xs) := by
  generalize hk : shards k = head
  induction head generalizing shards with
  | nil =>
    rw [← hk, Function.update_eq_self] at h
    exact h
  | cons x rest ih =>
    refine .cons hk (ih ?_ (Function.update_self ..))
    rw [Function.update_idem]
    exact h

/-- The shards one after the other. -/
theorem flatMap {ks : List κ} (hnodup : ks.Nodup) (hnone : ∀ k, k ∉ ks → shards k = []) :
    Interleaving shards (ks.flatMap shards) := by
  induction ks generalizing shards with
  | nil => exact .nil fun k => hnone k List.not_mem_nil
  | cons k ks ih =>
    obtain ⟨hk, hks⟩ := List.nodup_cons.mp hnodup
    have hrest : ks.flatMap (Function.update shards k []) = ks.flatMap shards := by
      refine List.flatMap_congr fun j hj => ?_
      rw [Function.update_of_ne (ne_of_mem_of_not_mem hj hk)]
    rw [List.flatMap_cons, ← hrest]
    refine prepend (ih hks fun j hj => ?_)
    by_cases hsame : j = k
    · rw [hsame, Function.update_self]
    · rw [Function.update_of_ne hsame]
      exact hnone j (by simp [hsame, hj])

end Interleaving
end LifecycleProfiler.General
