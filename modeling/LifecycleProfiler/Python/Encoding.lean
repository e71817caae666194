import Mathlib.Algebra.BigOperators.Group.List.Basic
import Mathlib.Data.List.Forall2
import LifecycleProfiler.Python.Json
import LifecycleProfiler.Python.Raise

/-! # What an encoding is made of

The bytes of a decimal number, the members of an encoded object and the length
a flat object takes. -/

namespace LifecycleProfiler.Python

/-! ## Texts as bytes -/

/-- A text is encoded character by character. -/
theorem utf8_eq_flatMap (s : String) : utf8 s = s.toList.flatMap String.utf8EncodeChar := by
  have h : ∀ cs : List Char, cs.utf8Encode.data.toList = cs.flatMap String.utf8EncodeChar := by
    intro cs
    induction cs with
    | nil => rfl
    | cons c cs ih =>
      rw [List.utf8Encode_cons, List.flatMap_cons, ← ih]
      simp [List.utf8Encode_singleton, List.data_toByteArray]
  rw [← h, utf8, String.utf8Encode_toList]

/-- A digit takes one byte. -/
theorem utf8EncodeChar_digit {c : Char} (h : c.isDigit = true) :
    String.utf8EncodeChar c = [byte c] := by
  have hrange : c.val.toNat ≤ 57 := by
    simp only [Char.isDigit, Bool.and_eq_true, decide_eq_true_eq] at h
    exact UInt32.le_iff_toNat_le.mp h.2
  have hsize : c.utf8Size = 1 := by
    have hle : c.val ≤ 0x7f := UInt32.le_iff_toNat_le.mpr (by
      show c.val.toNat ≤ 127
      omega)
    simp [Char.utf8Size, hle]
  rw [String.utf8EncodeChar_eq_singleton hsize]
  rfl

theorem utf8_repr (n : Nat) : utf8 n.repr = (Nat.toDigits 10 n).map byte := by
  rw [utf8_eq_flatMap, Nat.toList_repr]
  have h : ∀ c ∈ Nat.toDigits 10 n, String.utf8EncodeChar c = [byte c] := fun c hc =>
    utf8EncodeChar_digit (Nat.isDigit_of_mem_toDigits (by decide) (by decide) hc)
  generalize Nat.toDigits 10 n = cs at h
  induction cs with
  | nil => rfl
  | cons c cs ih =>
    rw [List.flatMap_cons, List.map_cons, h c List.mem_cons_self,
      ih fun d hd => h d (List.mem_cons_of_mem _ hd)]
    rfl

theorem length_utf8_repr {n : Nat} (h : n < 10 ^ 20) : (utf8 n.repr).length ≤ 20 := by
  rw [utf8_repr, List.length_map]
  exact (Nat.length_toDigits_le_iff (by decide) (by decide)).mpr h

namespace Json

/-! ## The members of an object -/

theorem insertMember_perm (m : String × Bytes) (ms : List (String × Bytes)) :
    (insertMember m ms).Perm (m :: ms) := by
  induction ms with
  | nil => exact .refl _
  | cons x rest ih =>
    rw [insertMember]
    split
    · exact (ih.cons x).trans (.swap m x rest)
    · exact .refl _

theorem sortMembers_perm (ms : List (String × Bytes)) : (sortMembers ms).Perm ms := by
  induction ms with
  | nil => exact .refl _
  | cons m rest ih => exact (insertMember_perm m _).trans (ih.cons m)

/-- Each member is encoded on its own. -/
theorem dumpsMembers_eq_ok {kvs : List (String × Value)} {ms : List (String × Bytes)} :
    dumpsMembers kvs = .ok ms ↔
      List.Forall₂ (fun kv m => m.1 = kv.1 ∧ dumps kv.2 = .ok m.2) kvs ms := by
  induction kvs generalizing ms with
  | nil => simp [dumpsMembers, eq_comm]
  | cons kv rest ih =>
    obtain ⟨k, v⟩ := kv
    rw [dumpsMembers]
    simp only [bind_eq_ok, pure_eq_ok, ih, List.forall₂_cons_left_iff]
    constructor
    · rintro ⟨raw, hraw, tail, htail, rfl⟩
      exact ⟨_, tail, ⟨rfl, hraw⟩, htail, rfl⟩
    · rintro ⟨⟨k', raw⟩, tail, ⟨rfl, hraw⟩, htail, rfl⟩
      exact ⟨raw, hraw, tail, htail, rfl⟩

/-! ## Lengths -/

theorem length_commaJoin (parts : List Bytes) :
    (commaJoin parts).length ≤ (parts.map fun p => p.length + 1).sum := by
  induction parts with
  | nil => exact Nat.le_refl 0
  | cons p rest ih =>
    cases rest with
    | nil => simp [commaJoin]
    | cons q rest =>
      simp only [commaJoin, List.length_append, List.length_cons, List.map_cons,
        List.sum_cons] at ih ⊢
      omega

theorem length_escapeByte (b : UInt8) : (escapeByte b).length ≤ 6 := by
  have hcode : (utf8 "\\u00").length = 4 := by decide
  unfold escapeByte
  repeat' split
  all_goals first
    | decide
    | simp only [List.length_append, hcode, List.length_cons, List.length_nil]
      omega

/-- Escaping makes a text six times as long at the most. -/
theorem length_quote (s : String) : (quote s).length ≤ 6 * (utf8 s).length + 2 := by
  have h : ∀ bs : Bytes, (bs.flatMap escapeByte).length ≤ 6 * bs.length := by
    intro bs
    induction bs with
    | nil => exact Nat.le_refl 0
    | cons b rest ih =>
      have hb := length_escapeByte b
      simp only [List.flatMap_cons, List.length_append, List.length_cons]
      omega
  have hs := h (utf8 s)
  simp only [quote, List.length_cons, List.length_append, List.length_nil]
  omega

/-- The length of an object from bounds on its values. -/
theorem length_dumps_dict {kvs : List (String × Value)} {raw : Bytes} {weight : Value → Nat}
    (h : dumps (.dict kvs) = .ok raw)
    (hweight : ∀ kv ∈ kvs, ∀ bs, dumps kv.2 = .ok bs → bs.length ≤ weight kv.2) :
    raw.length ≤ 2 + (kvs.map fun kv => (quote kv.1).length + weight kv.2 + 2).sum := by
  rw [dumps] at h
  simp only [bind_eq_ok, pure_eq_ok, dumpsMembers_eq_ok] at h
  obtain ⟨ms, hms, rfl⟩ := h
  have hjoin := length_commaJoin ((sortMembers ms).map fun m => quote m.1 ++ byte ':' :: m.2)
  rw [((sortMembers_perm ms).map _ |>.map _).sum_eq, List.map_map] at hjoin
  have hsum : (ms.map ((fun p => p.length + 1) ∘ fun m => quote m.1 ++ byte ':' :: m.2)).sum ≤
      (kvs.map fun kv => (quote kv.1).length + weight kv.2 + 2).sum := by
    clear hjoin
    induction hms with
    | nil => exact Nat.le_refl 0
    | @cons kv m kvs ms hhead _ ih =>
      have hrest := ih fun kv hkv => hweight kv (List.mem_cons_of_mem _ hkv)
      have hvalue := hweight kv List.mem_cons_self m.2 hhead.2
      simp only [List.map_cons, List.sum_cons, Function.comp_apply, List.length_append,
        List.length_cons, hhead.1]
      omega
  simp only [List.length_append, List.length_cons, List.length_nil]
  omega

end Json
end LifecycleProfiler.Python
