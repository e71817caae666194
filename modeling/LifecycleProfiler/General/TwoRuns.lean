import Mathlib.Data.List.Perm.Basic
import Mathlib.Data.List.Forall2

/-! # Two runs of fallible programs

Relational postconditions: what two programs return, when both return. The rules
follow the `do` blocks of the two programs side by side. -/

namespace LifecycleProfiler.General

section Runs
variable {ε δ α β α' β' : Type}

/-- What the two programs return is related, when both return. -/
structure Agree (R : α → β → Prop) (p : Except ε α) (q : Except δ β) : Prop where
  out : ∀ x y, p = .ok x → q = .ok y → R x y

theorem Agree.bind {R : α → β → Prop} {S : α' → β' → Prop} {p : Except ε α} {q : Except δ β}
    {f : α → Except ε α'} {g : β → Except δ β'} (h : Agree R p q)
    (hrest : ∀ x y, R x y → Agree S (f x) (g y)) : Agree S (p >>= f) (q >>= g) := by
  refine ⟨fun x' y' hx' hy' => ?_⟩
  cases p with
  | error e => cases hx'
  | ok x =>
    cases q with
    | error e => cases hy'
    | ok y => exact (hrest x y (h.out x y rfl rfl)).out x' y' hx' hy'

/-- A statement of either program whose value the rest does not use. -/
theorem Agree.skip {S : α' → β' → Prop} {p : Except ε α} {q : Except δ β}
    {f : α → Except ε α'} {g : β → Except δ β'} (hrest : ∀ x y, Agree S (f x) (g y)) :
    Agree S (p >>= f) (q >>= g) :=
  Agree.bind (R := fun _ _ => True) ⟨fun _ _ _ _ => trivial⟩ fun x y _ => hrest x y

/-- A statement that gives both programs one value. -/
theorem Agree.same {S : α' → β' → Prop} {p : Except ε α} {q : Except δ α} {f : α → Except ε α'}
    {g : α → Except δ β'} (h : Agree Eq p q) (hrest : ∀ x, Agree S (f x) (g x)) :
    Agree S (p >>= f) (q >>= g) :=
  h.bind fun x _ heq => heq ▸ hrest x

theorem agree_pure {R : α → β → Prop} {x : α} {y : β} (h : R x y) :
    Agree R (pure x : Except ε α) (pure y : Except δ β) := by
  refine ⟨?_⟩
  rintro _ _ ⟨⟩ ⟨⟩
  exact h

/-- A program agrees with itself. -/
theorem agree_self (p : Except ε α) : Agree Eq p p :=
  ⟨fun _ _ hx hy => Except.ok.inj (hx.symm.trans hy)⟩

/-- A program that raises agrees with every program. -/
theorem Agree.raises {R : α → β → Prop} {p : Except ε α} {q : Except δ β} {e : ε}
    (h : p = .error e) : Agree R p q :=
  ⟨fun _ _ hx _ => nomatch h.symm.trans hx⟩

/-- A comprehension over one list, with bodies that agree. -/
theorem agree_mapM {f : α → Except ε β} {g : α → Except δ β} (h : ∀ x, Agree Eq (f x) (g x))
    (xs : List α) : Agree Eq (xs.mapM f) (xs.mapM g) := by
  induction xs with
  | nil =>
    rw [List.mapM_nil, List.mapM_nil]
    exact agree_pure rfl
  | cons x rest ih =>
    rw [List.mapM_cons, List.mapM_cons]
    exact .same (h x) fun y => .same ih fun ys => agree_pure rfl

end Runs

/-- Related lists, read by a function each, give equal lists. -/
theorem eq_of_forall₂ {α β : Type} {P Q : α → β → Prop} (h : ∀ a x y, P a x → Q a y → x = y)
    {values : List α} {out others : List β} (hout : List.Forall₂ P values out)
    (hothers : List.Forall₂ Q values others) : others = out := by
  induction hout generalizing others with
  | nil => cases hothers; rfl
  | cons hx _ ih =>
    cases hothers with
    | cons hy hrest => rw [h _ _ _ hx hy, ih hrest]

/-- What is read from a permuted list is permuted. -/
theorem perm_of_forall₂ {α β : Type} {P Q : α → β → Prop} (h : ∀ a x y, P a x → Q a y → x = y)
    {values values' : List α} {out others : List β} (hperm : values'.Perm values)
    (hout : List.Forall₂ P values out) (hothers : List.Forall₂ Q values' others) :
    others.Perm out := by
  obtain ⟨middle, hmiddle, hout'⟩ := List.perm_comp_forall₂ hperm hout
  rw [eq_of_forall₂ h hmiddle hothers]
  exact hout'

end LifecycleProfiler.General
