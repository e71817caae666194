import Mathlib.Init

/-! # Transition systems

States, a partial step function and the runs it allows. `ok` restricts the
steps a run may take, so that a result about the runs whose steps all meet a
condition is an invariant of the restricted system. -/

namespace LifecycleProfiler.General

variable {σ α : Type*} {step : σ → α → Option σ} {initial : σ → Prop} {ok : σ → α → Prop}

/-- The states of the runs whose steps all meet the condition. -/
inductive Reach (step : σ → α → Option σ) (initial : σ → Prop) (ok : σ → α → Prop) : σ → Prop where
  | init {s : σ} (h : initial s) : Reach step initial ok s
  | step {s s' : σ} {a : α} (h : Reach step initial ok s) (hok : ok s a)
      (hstep : step s a = some s') : Reach step initial ok s'

/-- The invariant rule. -/
theorem Reach.invariant {I : σ → Prop} {s : σ} (h : Reach step initial ok s)
    (hinit : ∀ s, initial s → I s)
    (hkeep : ∀ s a s', I s → ok s a → step s a = some s' → I s') : I s := by
  induction h with
  | init h => exact hinit _ h
  | step _ hok hstep ih => exact hkeep _ _ _ ih hok hstep

/-- The invariant rule over an invariant known before. -/
theorem Reach.invariant_over {I J : σ → Prop} {s : σ} (h : Reach step initial ok s)
    (hJ : ∀ s, Reach step initial ok s → J s) (hinit : ∀ s, initial s → I s)
    (hkeep : ∀ s a s', J s → I s → ok s a → step s a = some s' → J s' → I s') : I s := by
  induction h with
  | init h => exact hinit _ h
  | step hreach hok hstep ih =>
    exact hkeep _ _ _ (hJ _ hreach) ih hok hstep (hJ _ (hreach.step hok hstep))

/-- A weaker condition allows more runs. -/
theorem Reach.mono {ok' : σ → α → Prop} {s : σ} (h : Reach step initial ok s)
    (hweak : ∀ s a, ok s a → ok' s a) : Reach step initial ok' s := by
  induction h with
  | init h => exact .init h
  | step _ hok hstep ih => exact ih.step (hweak _ _ hok) hstep

/-- Take the steps of a list in order, and stop at one that is not enabled. -/
def run (step : σ → α → Option σ) : σ → List α → σ
  | s, [] => s
  | s, a :: rest =>
    match step s a with
    | some s' => run step s' rest
    | none => s

/-- Every step of the list meets the condition where it is taken. -/
def RunOk (step : σ → α → Option σ) (ok : σ → α → Prop) : σ → List α → Prop
  | _, [] => True
  | s, a :: rest =>
    ok s a ∧ match step s a with
      | some s' => RunOk step ok s' rest
      | none => True

instance decidableRunOk [∀ s a, Decidable (ok s a)] :
    (s : σ) → (actions : List α) → Decidable (RunOk step ok s actions)
  | _, [] => inferInstanceAs (Decidable True)
  | s, a :: rest =>
    have : Decidable (match step s a with
      | some s' => RunOk step ok s' rest
      | none => True) :=
      match step s a with
      | some s' => decidableRunOk s' rest
      | none => inferInstanceAs (Decidable True)
    inferInstanceAs (Decidable (_ ∧ _))

/-- Every run is one of the unrestricted system. -/
theorem RunOk.of_forall (h : ∀ s a, ok s a) (s : σ) (actions : List α) :
    RunOk step ok s actions := by
  induction actions generalizing s with
  | nil => exact trivial
  | cons a rest ih =>
    refine ⟨h s a, ?_⟩
    split
    · exact ih _
    · exact trivial

theorem Reach.run {s : σ} {actions : List α} (h : Reach step initial ok s)
    (hok : RunOk step ok s actions) : Reach step initial ok (General.run step s actions) := by
  induction actions generalizing s with
  | nil => exact h
  | cons a rest ih =>
    rw [General.run]
    rw [RunOk] at hok
    split
    · next s' hstep =>
      rw [hstep] at hok
      exact ih (h.step hok.1 hstep) hok.2
    · exact h

/-- Every state a list of steps passes, the first one included, satisfies the
predicate. -/
def Always (step : σ → α → Option σ) (P : σ → Prop) : σ → List α → Prop
  | s, [] => P s
  | s, a :: rest =>
    P s ∧ match step s a with
      | some s' => Always step P s' rest
      | none => True

theorem Always.head {P : σ → Prop} {s : σ} {actions : List α} (h : Always step P s actions) :
    P s := by
  cases actions with
  | nil => exact h
  | cons a rest => exact h.1

/-- The state a list of steps ends in. -/
theorem Always.run {P : σ → Prop} {s : σ} {actions : List α} (h : Always step P s actions) :
    P (General.run step s actions) := by
  induction actions generalizing s with
  | nil => exact h
  | cons a rest ih =>
    rw [General.run]
    rw [Always] at h
    split
    · next s' hstep =>
      rw [hstep] at h
      exact ih h.2
    · exact h.1

/-- A condition on the steps is exact for a predicate: an invariant that the
steps meeting the condition keep gives the predicate, and a step whose end
satisfies the predicate meets the condition. -/
theorem always_iff_runOk {P I : σ → Prop} {known : σ → α → Prop} {s : σ} {actions : List α}
    (hP : ∀ s, I s → P s)
    (hkeep : ∀ s a s', I s → known s a → ok s a → step s a = some s' → I s')
    (hexact : ∀ s a, (∀ s', step s a = some s' → P s') → ok s a)
    (hs : I s) (hknown : RunOk step known s actions) :
    Always step P s actions ↔ RunOk step ok s actions := by
  induction actions generalizing s with
  | nil => exact ⟨fun _ => trivial, fun _ => hP s hs⟩
  | cons a rest ih =>
    rw [Always, RunOk]
    rw [RunOk] at hknown
    cases hstep : step s a with
    | none =>
      exact ⟨fun _ => ⟨hexact s a (by rw [hstep]; nofun), trivial⟩, fun _ => ⟨hP s hs, trivial⟩⟩
    | some s' =>
      rw [hstep] at hknown
      dsimp only at hknown ⊢
      constructor
      · rintro ⟨-, htail⟩
        have hok : ok s a := by
          refine hexact s a fun t ht => ?_
          rw [hstep, Option.some.injEq] at ht
          exact ht ▸ htail.head
        exact ⟨hok, (ih (hkeep s a s' hs hknown.1 hok hstep) hknown.2).mp htail⟩
      · rintro ⟨hok, htail⟩
        exact ⟨hP s hs, (ih (hkeep s a s' hs hknown.1 hok hstep) hknown.2).mpr htail⟩

end LifecycleProfiler.General
