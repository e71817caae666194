import LifecycleProfiler.Protocol.Base
import LifecycleProfiler.Python.Lengths

/-! # The width of the texts and numbers of a record

Identifiers need no escape, so their length is that of their text; a number
within its domain has a bounded number of digits. -/

namespace LifecycleProfiler.Protocol
open Python Json

/-! ## Texts without escapes -/

theorem isPlain_of_isHexDigit {b : UInt8} (h : isHexDigit b = true) : IsPlain b := by
  simp only [isHexDigit, Bool.or_eq_true, Bool.and_eq_true, decide_eq_true_eq,
    UInt8.le_iff_toNat_le] at h
  have hdigits : (byte '0').toNat = 48 ∧ (byte '9').toNat = 57 := ⟨rfl, rfl⟩
  have hletters : (byte 'a').toNat = 97 ∧ (byte 'f').toNat = 102 := ⟨rfl, rfl⟩
  exact isPlain_of_toNat (by omega) (by omega) (by omega)

theorem isPlain_of_isDecimalDigit {b : UInt8} (h : isDecimalDigit b = true) : IsPlain b :=
  isPlain_of_isHexDigit (by rw [isHexDigit, ← isDecimalDigit, h, Bool.true_or])

theorem isPlainText_hex {n : Nat} {s : String} (h : isHex n s = true) :
    IsPlainText s ∧ (utf8 s).length = n := by
  simp only [isHex, isHexBytes, Bool.and_eq_true, beq_iff_eq, List.all_eq_true] at h
  exact ⟨fun b hb => isPlain_of_isHexDigit (h.2 b hb), h.1⟩

theorem takes_hex {n : Nat} {s : String} (h : isHex n s = true) : Takes (.str s) (n + 2) := by
  obtain ⟨hplain, hlength⟩ := isPlainText_hex h
  exact hlength ▸ takes_plain hplain

/-- An identifier takes its owner, its number and five bytes. -/
theorem takes_scopedId {owner kind : String} (hplain : IsPlainText owner)
    (hkind : IsPlainText kind) (seq : Nat) : Takes (.str (scopedId owner kind seq))
      ((utf8 owner).length + (utf8 kind).length + decimalWidth seq + 4) := by
  have hid : scopedId owner kind seq = owner ++ ":" ++ kind ++ ":" ++ seq.repr := rfl
  have hcolon : IsPlainText ":" := by
    decide
  have htakes := takes_plain ((((hplain.append hcolon).append hkind).append hcolon).append
    (isPlainText_repr seq))
  have hone : (utf8 ":").length = 1 := by decide
  rw [← hid] at htakes
  have hlength : (utf8 (scopedId owner kind seq)).length =
      (utf8 owner).length + (utf8 kind).length + decimalWidth seq + 2 := by
    rw [hid]
    simp only [utf8_append, List.length_append, length_utf8_natRepr, hone]
    omega
  rw [hlength] at htakes
  exact htakes

theorem isPlainText_scopedId {kind : Char} {s : String} (hkind : IsPlain (byte kind))
    (h : isScopedId kind s = true) : IsPlainText s := by
  simp only [isScopedId, isHexBytes, Bool.and_eq_true, beq_iff_eq, List.all_eq_true] at h
  obtain ⟨⟨⟨-, hhex⟩, hmiddle⟩, hsuffix⟩ := h
  have hsplit : utf8 s = (utf8 s).take 32 ++ (((utf8 s).drop 32).take 3 ++ (utf8 s).drop 35) := by
    have hrest : (utf8 s).drop 35 = ((utf8 s).drop 32).drop 3 := by
      rw [List.drop_drop]
    rw [hrest, List.take_append_drop, List.take_append_drop]
  intro b hb
  rw [hsplit, hmiddle, List.mem_append, List.mem_append] at hb
  rcases hb with hb | hb | hb
  · exact isPlain_of_isHexDigit (hhex b hb)
  · have hcolon : IsPlain (byte ':') := by decide
    simp only [List.mem_cons, List.not_mem_nil, or_false] at hb
    rcases hb with rfl | rfl | rfl
    · exact hcolon
    · exact hkind
    · exact hcolon
  · generalize (utf8 s).drop 35 = digits at hb hsuffix
    cases digits with
    | nil => cases hb
    | cons d rest =>
      simp only [isDecimalSuffix, Bool.or_eq_true, Bool.and_eq_true, beq_iff_eq,
        List.isEmpty_iff, decide_eq_true_eq, List.all_eq_true] at hsuffix
      rcases hsuffix with ⟨rfl, rfl⟩ | ⟨⟨⟨hlow, hhigh⟩, -⟩, hrest⟩
      · rw [List.mem_singleton] at hb
        rw [hb]
        decide
      · rcases List.mem_cons.mp hb with rfl | hb
        · refine isPlain_of_isDecimalDigit ?_
          simp only [isDecimalDigit, Bool.and_eq_true, decide_eq_true_eq]
          exact ⟨UInt8.le_trans (by decide) hlow, hhigh⟩
        · exact isPlain_of_isDecimalDigit (hrest b hb)

theorem takes_int {n : Int} (h : 0 ≤ n) : Takes (.int n) (decimalWidth n.toNat) := by
  obtain ⟨k, rfl⟩ := Int.eq_ofNat_of_zero_le h
  exact takes_nat k

end LifecycleProfiler.Protocol
