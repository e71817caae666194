import Mathlib.Data.List.Perm.Basic
import Mathlib.Data.List.Sort
import Mathlib.Algebra.Order.Ring.Cast
import Mathlib.Algebra.Order.Ring.Rat
import LifecycleProfiler.Python.Raise

/-! # Sets, `sorted` and the comparisons behind them

A value enters a set or is looked up in one only if it can be hashed, and
`sorted` raises on two values Python cannot order. Only `<` is asked of the
elements and equal ones keep their order. -/

namespace LifecycleProfiler.Python

mutual
/-- Python's `a < b`: numbers, texts and lists; anything else raises. -/
def pyLt : Value → Value → Except PyError Bool
  | .int a, .int b => .ok (decide (a < b))
  | .str a, .str b => .ok (decide (a < b))
  | .list xs, .list ys => pyLtList xs ys
  | a, b =>
    match a.num?, b.num? with
    | some p, some q => .ok (decide (p < q))
    | _, _ => .error (.typeError "'<' not supported between these instances")

def pyLtList : List Value → List Value → Except PyError Bool
  | [], [] => .ok false
  | [], _ :: _ => .ok true
  | _ :: _, [] => .ok false
  | x :: xs, y :: ys => if x.pyEq y then pyLtList xs ys else pyLt x y
end

/-- Put `x` before the first element that is not smaller. -/
def insertByKey {α : Type} (key : α → Value) (x : α) : List α → Except PyError (List α)
  | [] => .ok [x]
  | y :: rest => do
    if ← pyLt (key y) (key x) then
      let tail ← insertByKey key x rest
      return y :: tail
    else
      return x :: y :: rest

/-- `sorted(xs, key=key)` -/
def sortedByKey {α : Type} (key : α → Value) : List α → Except PyError (List α)
  | [] => .ok []
  | x :: xs => do
    let tail ← sortedByKey key xs
    insertByKey key x tail

/-- `value in roster` for a set of texts. -/
def inSet (value : Value) (roster : List String) : Except PyError Bool :=
  if value.hashable then .ok (roster.any fun s => value.pyEq (.str s))
  else .error (.typeError "unhashable type")

/-- `[x for x in xs if keep(x)]`, where the condition may raise. -/
def filterOk {α : Type} (keep : α → Except PyError Bool) : List α → Except PyError (List α)
  | [] => .ok []
  | x :: xs => do
    let kept ← keep x
    let tail ← filterOk keep xs
    return if kept then x :: tail else tail

/-- `len(set(xs)) == len(xs)` under a Boolean equality. -/
def allDistinct {α : Type} (eq : α → α → Bool) : List α → Bool
  | [] => true
  | x :: xs => xs.all (fun y => !eq x y) && allDistinct eq xs

/-- The elements iteration visits. -/
def iterate : Value → Except PyError (List Value)
  | .list xs => .ok xs
  | .dict kvs => .ok (kvs.map fun kv => .str kv.1)
  | .str s => .ok (s.toList.map fun c => .str (String.ofList [c]))
  | _ => .error (.typeError "object is not iterable")

/-- `values == list(range(n))` -/
def eqRange (values : List Value) (n : Nat) : Bool :=
  Value.pyEqList values ((List.range n).map fun i : Nat => .int i)

/-- Whether `row[key]` is the given text. -/
def Dict.has (row : Dict) (key text : String) : Bool := (row.get key).pyEq (.str text)

/-- Whether `row[key]` equals the given number. -/
def Dict.hasNum (row : Dict) (key : String) (n : Int) : Bool := (row.get key).pyEq (.int n)

theorem Dict.has_iff {row : Dict} {key text : String} :
    row.has key text = true ↔ row.get key = .str text := Value.pyEq_str

theorem Dict.hasNum_iff {row : Dict} {key : String} {n : Int} :
    row.hasNum key n = true ↔ (row.get key).num? = some (n : Rat) := Value.pyEq_int

/-- A row has at most one text under a key. -/
theorem Dict.has_unique {row : Dict} {key s t : String} (hs : row.has key s = true)
    (ht : row.has key t = true) : s = t := by
  rw [Dict.has_iff] at hs ht
  rw [hs] at ht
  exact Value.str.inj ht

theorem inSet_eq_ok {v : Value} {roster : List String} {b : Bool} :
    inSet v roster = .ok b ↔ v.hashable = true ∧ (roster.any fun s => v.pyEq (.str s)) = b := by
  unfold inSet
  split <;> simp_all

/-- Membership in a set of texts found `True`: the value is one of the texts. -/
theorem inSet_eq_true {v : Value} {roster : List String} :
    inSet v roster = .ok true ↔ ∃ s ∈ roster, v = .str s := by
  rw [inSet_eq_ok]
  constructor
  · rintro ⟨-, hs⟩
    obtain ⟨s, hmem, he⟩ := List.any_eq_true.mp hs
    exact ⟨s, hmem, Value.pyEq_str.mp he⟩
  · rintro ⟨s, hmem, rfl⟩
    exact ⟨rfl, List.any_eq_true.mpr ⟨s, hmem, Value.pyEq_str.mpr rfl⟩⟩

/-! ## Filters that may raise -/

/-- A filter whose condition raised on no element is an ordinary filter. -/
theorem filterOk_eq_ok {α : Type} {keep : α → Except PyError Bool} {xs ys : List α} :
    filterOk keep xs = .ok ys ↔
      (∀ x ∈ xs, ∃ b, keep x = .ok b) ∧ ys = xs.filter fun x => keep x == .ok true := by
  induction xs generalizing ys with
  | nil => simp [filterOk, eq_comm]
  | cons x xs ih =>
    simp only [filterOk, bind_eq_ok, pure_eq_ok, ih, List.forall_mem_cons]
    constructor
    · rintro ⟨b, hb, _, ⟨hall, rfl⟩, rfl⟩
      refine ⟨⟨⟨b, hb⟩, hall⟩, ?_⟩
      cases b <;> simp [hb]
    · rintro ⟨⟨⟨b, hb⟩, hall⟩, rfl⟩
      refine ⟨b, hb, _, ⟨hall, rfl⟩, ?_⟩
      cases b <;> simp [hb]

/-- A filter accepted on a list is accepted on the elements another filter
keeps, and the two filters commute. -/
theorem filterOk_filter {α : Type} {keep : α → Except PyError Bool} {xs ys : List α}
    (q : α → Bool) (h : filterOk keep xs = .ok ys) :
    filterOk keep (xs.filter q) = .ok (ys.filter q) := by
  obtain ⟨hall, rfl⟩ := filterOk_eq_ok.mp h
  refine filterOk_eq_ok.mpr ⟨fun x hx => hall x (List.mem_of_mem_filter hx), ?_⟩
  rw [List.filter_filter, List.filter_filter]
  exact List.filter_congr fun x _ => Bool.and_comm _ _

/-! ## Sorting -/

theorem pyLt_of_num {a b : Value} {p q : Rat} (ha : a.num? = some p) (hb : b.num? = some q) :
    pyLt a b = .ok (decide (p < q)) := by
  cases a <;> cases b <;> simp [Value.num?] at ha hb <;> subst ha <;> subst hb <;>
    simp [pyLt, Value.num?, Int.cast_lt]

/-- Numbers sort as Mathlib sorts their values. -/
theorem insertByKey_of_num {α : Type} {key : α → Value} {num : α → Rat} {x : α} :
    ∀ {xs : List α}, (∀ y ∈ x :: xs, (key y).num? = some (num y)) →
      insertByKey key x xs = .ok (xs.orderedInsert (fun a b => num a ≤ num b) x)
  | [], _ => rfl
  | y :: rest, h => by
    have hx := h x (by simp)
    have hy := h y (by simp)
    have ih : insertByKey key x rest = .ok (rest.orderedInsert (fun a b => num a ≤ num b) x) :=
      insertByKey_of_num fun z hz => h z (by
        rcases List.mem_cons.mp hz with rfl | hz <;> simp [*])
    rw [insertByKey, pyLt_of_num hy hx, ok_bind]
    by_cases hlt : num y < num x
    · have hle : ¬ num x ≤ num y := not_le.mpr hlt
      simp [hlt, ih, List.orderedInsert, hle, pure, Except.pure]
    · have hle : num x ≤ num y := not_lt.mp hlt
      simp [hlt, List.orderedInsert, hle, pure, Except.pure]

theorem sortedByKey_of_num {α : Type} {key : α → Value} {num : α → Rat} {xs : List α}
    (h : ∀ y ∈ xs, (key y).num? = some (num y)) :
    sortedByKey key xs = .ok (xs.insertionSort fun a b => num a ≤ num b) := by
  induction xs with
  | nil => rfl
  | cons x xs ih =>
    rw [sortedByKey, ih fun y hy => h y (List.mem_cons_of_mem x hy), ok_bind]
    apply insertByKey_of_num
    intro y hy
    rcases List.mem_cons.mp hy with rfl | hy
    · exact h _ (by simp)
    · exact h y (List.mem_cons_of_mem x ((List.mem_insertionSort _).mp hy))

theorem insertByKey_perm {α : Type} {key : α → Value} {x : α} :
    ∀ {xs ys : List α}, insertByKey key x xs = .ok ys → ys.Perm (x :: xs)
  | [], ys, h => by
    cases h
    exact List.Perm.refl _
  | y :: rest, ys, h => by
    rw [insertByKey, bind_eq_ok] at h
    obtain ⟨b, -, h⟩ := h
    cases b with
    | false =>
      cases h
      exact List.Perm.refl _
    | true =>
      simp only [if_true, bind_eq_ok, pure_eq_ok] at h
      obtain ⟨tail, htail, rfl⟩ := h
      exact ((insertByKey_perm htail).cons y).trans (List.Perm.swap x y rest)

/-- `sorted` returns a rearrangement of its input. -/
theorem sortedByKey_perm {α : Type} {key : α → Value} :
    ∀ {xs ys : List α}, sortedByKey key xs = .ok ys → ys.Perm xs
  | [], ys, h => by
    cases h
    exact List.Perm.refl _
  | x :: xs, ys, h => by
    rw [sortedByKey, bind_eq_ok] at h
    obtain ⟨tail, htail, h⟩ := h
    exact (insertByKey_perm h).trans ((sortedByKey_perm htail).cons x)

/-- The values `0, …, n - 1` as numbers. -/
def rangeNums (n : Nat) : List (Option Rat) := (List.range n).map fun i : Nat => some (i : Rat)

theorem pyEqList_ints (values : List Value) (ns : List Int) :
    Value.pyEqList values (ns.map .int) = true ↔
      values.map Value.num? = ns.map fun n : Int => some (n : Rat) := by
  induction values generalizing ns with
  | nil => cases ns <;> simp [Value.pyEqList]
  | cons v vs ih => cases ns <;> simp [Value.pyEqList, ih, Value.pyEq_int]

theorem eqRange_iff {values : List Value} {n : Nat} :
    eqRange values n = true ↔ values.map Value.num? = rangeNums n := by
  have h := pyEqList_ints values ((List.range n).map Int.ofNat)
  simpa [eqRange, rangeNums, Function.comp_def] using h

/-- Sorting brings a list to `0, …, n - 1` exactly when its values are these
numbers, each once. -/
theorem sorted_eqRange_iff {values : List Value} {n : Nat} :
    (∃ sorted, sortedByKey id values = .ok sorted ∧ eqRange sorted n = true) ↔
      (values.map Value.num?).Perm (rangeNums n) := by
  constructor
  · rintro ⟨sorted, hs, hr⟩
    rw [← eqRange_iff.mp hr]
    exact ((sortedByKey_perm hs).map _).symm
  · intro hp
    let num : Value → Rat := fun v => v.num?.getD 0
    have hnum : ∀ v ∈ values, (id v : Value).num? = some (num v) := by
      intro v hv
      have hmem := hp.subset (List.mem_map_of_mem hv)
      obtain ⟨i, -, hi⟩ := List.mem_map.mp hmem
      simp [num, ← hi]
    refine ⟨_, sortedByKey_of_num hnum, eqRange_iff.mpr ?_⟩
    have hperm := List.perm_insertionSort (fun a b => num a ≤ num b) values
    have hsorted := List.pairwise_insertionSort (fun a b => num a ≤ num b) values
    have hsome : (values.insertionSort fun a b => num a ≤ num b).map Value.num? =
        ((values.insertionSort fun a b => num a ≤ num b).map num).map some := by
      rw [List.map_map]
      exact List.map_congr_left fun v hv => hnum v ((List.mem_insertionSort _).mp hv)
    have hrange : rangeNums n = ((List.range n).map fun i : Nat => (i : Rat)).map some := by
      simp [rangeNums, Function.comp_def]
    rw [hsome, hrange]
    congr 1
    refine List.Perm.eq_of_pairwise' (r := fun p q : Rat => p ≤ q) ?_ ?_ ?_
    · exact List.pairwise_map.mpr hsorted
    · exact List.pairwise_map.mpr (List.pairwise_lt_range.imp fun h => by
        exact_mod_cast Nat.le_of_lt h)
    · have hmap := (hperm.map Value.num?).trans hp
      rw [hsome, hrange] at hmap
      exact (List.map_perm_map_iff (Option.some_injective Rat)).mp hmap

end LifecycleProfiler.Python
