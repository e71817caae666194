import LifecycleProfiler.Python.Value

/-! # Statements that raise

A function body is a `do` block in `Except PyError`: each `raiseIf` is one
`if …: raise …` of the source, and an accepted call is the conjunction of the
checks that did not fire. -/

namespace LifecycleProfiler.Python

/-- `if bad: raise ValueError(message)`. -/
def raiseIf (bad : Bool) (message : String) : Except PyError Unit :=
  if bad then .error (.valueError message) else .ok ()

/-- `assert condition`. -/
def assertThat (condition : Bool) : Except PyError Unit :=
  if condition then .ok () else .error (.valueError "AssertionError")

@[simp] theorem raiseIf_eq_ok {bad : Bool} {message : String} {u : Unit} :
    raiseIf bad message = .ok u ↔ bad = false := by
  cases bad <;> simp [raiseIf]

@[simp] theorem raiseIf_false {message : String} : raiseIf false message = .ok () := rfl

@[simp] theorem assertThat_eq_ok {condition : Bool} {u : Unit} :
    assertThat condition = .ok u ↔ condition = true := by
  cases condition <;> simp [assertThat]

@[simp] theorem bind_eq_ok {α β : Type} {x : Except PyError α} {f : α → Except PyError β} {b : β} :
    (x >>= f) = .ok b ↔ ∃ a, x = .ok a ∧ f a = .ok b := by
  cases x <;> simp [bind, Except.bind]

@[simp] theorem exists_unit {p : Unit → Prop} : (∃ u, p u) ↔ p () :=
  ⟨fun ⟨_, h⟩ => h, fun h => ⟨(), h⟩⟩

@[simp] theorem map_eq_ok {α β : Type} {f : α → β} {x : Except PyError α} {b : β} :
    (f <$> x) = .ok b ↔ ∃ a, x = .ok a ∧ f a = b := by
  cases x <;> simp [Functor.map, Except.map]

@[simp] theorem pure_eq_ok {α : Type} {a b : α} :
    (pure a : Except PyError α) = .ok b ↔ a = b := by
  simp [pure, Except.pure]

@[simp] theorem error_bind {α β : Type} {e : PyError} {f : α → Except PyError β} :
    (Except.error e >>= f) = .error e := rfl

@[simp] theorem ok_bind {α β : Type} {a : α} {f : α → Except PyError β} :
    (Except.ok a >>= f) = f a := rfl

/-- A comprehension whose body may raise evaluates it for each element. -/
theorem forall₂_of_mapM {α β : Type} {f : α → Except PyError β} :
    ∀ {xs : List α} {ys : List β}, xs.mapM f = .ok ys → List.Forall₂ (fun x y => f x = .ok y) xs ys
  | [], ys, h => by
    rw [List.mapM_nil, pure_eq_ok] at h
    exact h ▸ .nil
  | x :: xs, ys, h => by
    rw [List.mapM_cons, bind_eq_ok] at h
    obtain ⟨y, hy, h⟩ := h
    rw [bind_eq_ok] at h
    obtain ⟨tail, htail, h⟩ := h
    rw [pure_eq_ok] at h
    exact h ▸ .cons hy (forall₂_of_mapM htail)

theorem exists_of_mapM {α β : Type} {f : α → Except PyError β} {xs : List α} {ys : List β}
    (h : xs.mapM f = .ok ys) {x : α} (hx : x ∈ xs) : ∃ y ∈ ys, f x = .ok y := by
  have hall := forall₂_of_mapM h
  clear h
  induction hall with
  | nil => cases hx
  | @cons a b _ _ hab _ ih =>
    rcases List.mem_cons.mp hx with rfl | hx
    · exact ⟨b, List.mem_cons_self, hab⟩
    · obtain ⟨y, hy, heq⟩ := ih hx
      exact ⟨y, List.mem_cons_of_mem _ hy, heq⟩

theorem mapM_of_forall₂ {α β : Type} {f : α → Except PyError β} {xs : List α} {ys : List β}
    (h : List.Forall₂ (fun x y => f x = .ok y) xs ys) : xs.mapM f = .ok ys := by
  induction h with
  | nil => rfl
  | cons hy _ ih => rw [List.mapM_cons, hy, ok_bind, ih, ok_bind, pure_eq_ok]

/-- `for x in xs: body(x)`, where the body only checks. -/
def forEach {α : Type} (body : α → Except PyError Unit) : List α → Except PyError Unit
  | [] => .ok ()
  | x :: xs => do
    body x
    forEach body xs

/-- A loop of checks accepts exactly when each element passes. -/
theorem forEach_eq_ok {α : Type} {body : α → Except PyError Unit} {u : Unit} :
    ∀ {xs : List α}, forEach body xs = .ok u ↔ ∀ x ∈ xs, body x = .ok ()
  | [] => by simp [forEach]
  | x :: xs => by simp [forEach, @forEach_eq_ok _ body u xs]

end LifecycleProfiler.Python
