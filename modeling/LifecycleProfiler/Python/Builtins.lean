import LifecycleProfiler.Python.Ordering

/-! # Builtin functions on objects

Truth values, `float` and `dict` of an arbitrary object. The text form of
`float` is a parameter. -/

namespace LifecycleProfiler.Python

/-- `bool(value)` -/
def Value.truthy : Value → Bool
  | .none => false
  | .bool b => b
  | .int n => n != 0
  | .float q _ => q != 0
  | .str s => !s.isEmpty
  | .list xs => !xs.isEmpty
  | .dict kvs => !kvs.isEmpty
  | .object _ => true

/-- `float(value)` over a reading of texts. -/
def toFloat (parse : String → Option ℚ) : Value → Except PyError ℚ
  | .str s =>
    match parse s with
    | some q => .ok q
    | none => .error (.valueError "could not convert string to float")
  | v =>
    match v.num? with
    | some q => .ok q
    | none => .error (.typeError "float() argument must be a string or a real number")

/-- `f"{n:0{width}d}"` -/
def zeroPad (width n : Nat) : String :=
  String.ofList (List.replicate (width - (Nat.toDigits 10 n).length) '0' ++ Nat.toDigits 10 n)

theorem zeroPad_injective {width n m : Nat} (h : zeroPad width n = zeroPad width m) : n = m := by
  have hdigits := congrArg (fun s => Nat.ofDigitChars 10 s.toList 0) h
  simpa [zeroPad, Nat.ofDigitChars_append, Nat.ofDigitChars_replicate_zero] using hdigits

theorem isDigit_of_mem_zeroPad {width n : Nat} {c : Char} (h : c ∈ (zeroPad width n).toList) :
    c.isDigit = true := by
  rw [zeroPad, String.toList_ofList, List.mem_append] at h
  rcases h with h | h
  · rw [List.eq_of_mem_replicate h]
    rfl
  · exact Nat.isDigit_of_mem_toDigits (by decide) (by decide) h

/-- What stands before the first separator is determined. -/
theorem eq_of_append_separator {α : Type} {separator : α} {a b rest rest' : List α}
    (ha : separator ∉ a) (hb : separator ∉ b)
    (h : a ++ separator :: rest = b ++ separator :: rest') : a = b ∧ rest = rest' := by
  induction a generalizing b with
  | nil =>
    cases b with
    | nil => exact ⟨rfl, (List.cons.inj h).2⟩
    | cons y b => exact absurd (List.cons.inj h).1 (List.ne_of_not_mem_cons hb)
  | cons x a ih =>
    cases b with
    | nil => exact absurd (List.cons.inj h).1.symm (List.ne_of_not_mem_cons ha)
    | cons y b =>
      obtain ⟨rfl, htail⟩ := List.cons.inj h
      obtain ⟨rfl, hrest⟩ := ih (List.not_mem_of_not_mem_cons ha)
        (List.not_mem_of_not_mem_cons hb) htail
      exact ⟨rfl, hrest⟩

/-- `value if isinstance(value, Mapping) else None` -/
def asDict : Value → Option Dict
  | .dict kvs => some kvs
  | _ => none

theorem filterMap_asDict (dicts : List Dict) :
    (dicts.map Value.dict).filterMap asDict = dicts := by
  rw [List.filterMap_map]
  exact List.filterMap_some

/-- A comprehension no element of which raises. -/
theorem mapM_total {α β : Type} {f : α → Except PyError β} {xs : List α}
    (h : ∀ x ∈ xs, ∃ y, f x = .ok y) : ∃ ys, xs.mapM f = .ok ys := by
  induction xs with
  | nil => exact ⟨[], rfl⟩
  | cons x rest ih =>
    obtain ⟨⟨y, hy⟩, hrest⟩ := List.forall_mem_cons.mp h
    obtain ⟨ys, hys⟩ := ih hrest
    exact ⟨y :: ys, by rw [List.mapM_cons, hy, ok_bind, hys, ok_bind, pure_eq_ok]⟩

/-- A comprehension whose elements are computed exactly under a condition. -/
theorem mapM_eq_ok {α β : Type} {f : α → Except PyError β} {p : α → Prop} {g : α → β} {xs : List α}
    {ys : List β} (h : ∀ x ∈ xs, ∀ y, f x = .ok y ↔ p x ∧ y = g x) :
    xs.mapM f = .ok ys ↔ (∀ x ∈ xs, p x) ∧ ys = xs.map g := by
  induction xs generalizing ys with
  | nil =>
    rw [List.mapM_nil, pure_eq_ok]
    exact ⟨fun h => ⟨by simp, h.symm⟩, fun h => h.2.symm⟩
  | cons x rest ih =>
    obtain ⟨hx, hrest⟩ := List.forall_mem_cons.mp h
    rw [List.mapM_cons, bind_eq_ok, List.forall_mem_cons, List.map_cons]
    simp only [bind_eq_ok, pure_eq_ok, hx, ih hrest]
    constructor
    · rintro ⟨y, ⟨hp, rfl⟩, tail, ⟨hall, rfl⟩, rfl⟩
      exact ⟨⟨hp, hall⟩, rfl⟩
    · rintro ⟨⟨hp, hall⟩, rfl⟩
      exact ⟨_, ⟨hp, rfl⟩, _, ⟨hall, rfl⟩, rfl⟩

end LifecycleProfiler.Python
