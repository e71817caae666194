import Mathlib

/-! # Python objects as the programs below see them

The objects a JSON document or a keyword mapping is made of, with Python's
`==` (numbers of different types compare by value, `True == 1`), `dict.get`
and the exceptions a failed operation raises. A finite float carries its
exact value and its `repr`; text is a sequence of Unicode scalar values. -/

namespace LifecycleProfiler.Python

abbrev Bytes := List UInt8

/-- `s.encode("utf-8")` -/
def utf8 (s : String) : Bytes := s.toByteArray.data.toList

theorem utf8_append (s t : String) : utf8 (s ++ t) = utf8 s ++ utf8 t := by
  simp [utf8]

theorem utf8_injective {s t : String} (h : utf8 s = utf8 t) : s = t := by
  rw [← String.toByteArray_inj]
  exact ByteArray.ext (Array.toList_inj.mp h)

/-- Texts of one length in front of what follows them. -/
theorem eq_of_append_eq {s t u v : String} (hlength : (utf8 s).length = (utf8 t).length)
    (h : s ++ u = t ++ v) : s = t := by
  have hbytes := congrArg utf8 h
  rw [utf8_append, utf8_append] at hbytes
  exact utf8_injective (List.append_inj hbytes hlength).1

/-- The byte of an ASCII character. -/
def byte (c : Char) : UInt8 := c.toNat.toUInt8

/-- `s.startswith(start)` -/
def startsWith (s start : String) : Bool := (utf8 start).isPrefixOf (utf8 s)

/-- What a Python statement may raise instead of returning. -/
inductive PyError where
  | valueError (message : String)
  | typeError (message : String)
  | attributeError (message : String)
  | overflowError (message : String)
  | osError (message : String)
  deriving DecidableEq, Repr

inductive Value where
  | none
  | bool (b : Bool)
  | int (n : Int)
  | float (value : Rat) (repr : String)
  | str (s : String)
  | list (xs : List Value)
  | dict (kvs : List (String × Value))
  /-- An object `json.dumps` has no encoding for. -/
  | object (tag : Nat)

/-- A mapping with text keys. The first entry of a key is the one looked up. -/
abbrev Dict := List (String × Value)

/-- `d.get(key)`: a missing key reads as `None`. -/
def Dict.get (d : Dict) (key : String) : Value := (d.lookup key).getD .none

/-- `d[key]`, which raises on a missing key. -/
def Dict.item (d : Dict) (key : String) : Except PyError Value :=
  match d.lookup key with
  | some v => .ok v
  | Option.none => .error (.valueError key)

/-- `set(d)`, in entry order. -/
def Dict.keys (d : Dict) : List String := d.map Prod.fst

/-- Keys the first mapping lacks are looked up in the second. -/
theorem lookup_append_right {α : Type} {d e : List (String × α)} {key : String}
    (h : key ∉ d.map Prod.fst) : (d ++ e).lookup key = e.lookup key := by
  induction d with
  | nil => rfl
  | cons item rest ih =>
    obtain ⟨k, v⟩ := item
    simp only [List.map_cons, List.mem_cons, not_or] at h
    have hk : (key == k) = false := beq_eq_false_iff_ne.mpr h.1
    rw [List.cons_append, List.lookup_cons, hk, ih h.2]

namespace Value

/-- The number a value compares as: `bool` is a subclass of `int`. -/
def num? : Value → Option Rat
  | .bool b => some (if b then 1 else 0)
  | .int n => some n
  | .float q _ => some q
  | _ => Option.none

def isStr : Value → Bool
  | .str _ => true
  | _ => false

def isNone : Value → Bool
  | .none => true
  | _ => false

/-- `isinstance(v, Mapping)`. -/
def isDict : Value → Bool
  | .dict _ => true
  | _ => false

/-- Whether a set or a dictionary key can hold the value. -/
def hashable : Value → Bool
  | .list _ => false
  | .dict _ => false
  | _ => true

mutual
/-- Python's `==`. -/
def pyEq : Value → Value → Bool
  | .none, .none => true
  | .str a, .str b => a == b
  | .int a, .int b => a == b
  | .list xs, .list ys => pyEqList xs ys
  | .dict kvs, .dict kvs' => kvs.length == kvs'.length && pyEqDict kvs kvs'
  | .object a, .object b => a == b
  | .bool a, .bool b => a == b
  | a, b =>
    match a.num?, b.num? with
    | some p, some q => p == q
    | _, _ => false

def pyEqList : List Value → List Value → Bool
  | [], [] => true
  | x :: xs, y :: ys => pyEq x y && pyEqList xs ys
  | _, _ => false

def pyEqDict : List (String × Value) → List (String × Value) → Bool
  | [], _ => true
  | (k, v) :: rest, other =>
    (match other.lookup k with
      | some w => pyEq v w
      | Option.none => false) && pyEqDict rest other
end

theorem pyEq_str {v : Value} {s : String} : v.pyEq (.str s) = true ↔ v = .str s := by
  cases v <;> simp [pyEq, num?]

theorem pyEq_none {v : Value} : v.pyEq .none = true ↔ v = .none := by
  cases v <;> simp [pyEq, num?]

/-- Comparison with an integer is by value, whatever the number type. -/
theorem pyEq_int {v : Value} {n : Int} : v.pyEq (.int n) = true ↔ v.num? = some (n : Rat) := by
  cases v <;> simp [pyEq, num?]

theorem isNone_iff {v : Value} : v.isNone = true ↔ v = .none := by
  cases v <;> simp [isNone]

end Value
end LifecycleProfiler.Python
