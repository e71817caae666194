import LifecycleProfiler.Protocol.Fits

/-! # Identifiers as they are built

An identifier of a hexadecimal owner, a kind letter and a sequence within its
domain matches the pattern of its kind and gives its sequence back. -/

namespace LifecycleProfiler.Protocol
open Python Json

/-! ## The beginning of hexadecimal texts -/

/-- A character with ASCII bytes only takes one byte. -/
theorem length_utf8EncodeChar_ascii {c : Char}
    (h : ∀ b ∈ String.utf8EncodeChar c, b.toNat < 128) : (String.utf8EncodeChar c).length = 1 := by
  have hlast : ∀ x : UInt8, ¬ (x ||| 0x80).toNat < 128 := by
    intro x
    rw [UInt8.toNat_or]
    exact Nat.not_lt.mpr Nat.right_le_or
  rcases Char.utf8Size_eq c with hsize | hsize | hsize | hsize
  · rw [String.length_utf8EncodeChar, hsize]
  · rw [String.utf8EncodeChar_eq_cons_cons hsize] at h
    exact absurd (h _ (List.mem_cons_of_mem _ List.mem_cons_self)) (hlast _)
  · rw [String.utf8EncodeChar_eq_cons_cons_cons hsize] at h
    exact absurd (h _ (List.mem_cons_of_mem _ List.mem_cons_self)) (hlast _)
  · rw [String.utf8EncodeChar_eq_cons_cons_cons_cons hsize] at h
    exact absurd (h _ (List.mem_cons_of_mem _ List.mem_cons_self)) (hlast _)

/-- The first characters of an ASCII text are its first bytes. -/
theorem utf8_take {s : String} (h : ∀ b ∈ utf8 s, b.toNat < 128) (n : Nat) :
    utf8 (String.ofList (s.toList.take n)) = (utf8 s).take n := by
  rw [utf8_eq_flatMap, String.toList_ofList]
  rw [utf8_eq_flatMap] at h ⊢
  generalize s.toList = cs at h ⊢
  induction cs generalizing n with
  | nil => simp
  | cons c cs ih =>
    rw [List.flatMap_cons] at h ⊢
    obtain ⟨b, hb⟩ := List.length_eq_one_iff.mp
      (length_utf8EncodeChar_ascii fun b hb => h b (List.mem_append_left _ hb))
    cases n with
    | zero => rfl
    | succ n =>
      rw [List.take_succ_cons, List.flatMap_cons, hb, List.singleton_append, List.singleton_append,
        List.take_succ_cons, ih n fun b hb => h b (List.mem_append_right _ hb)]

theorem isHex_take {s : String} {n m : Nat} (h : isHex n s = true) (hm : m ≤ n) :
    isHex m (String.ofList (s.toList.take m)) = true := by
  unfold isHex isHexBytes at h ⊢
  rw [Bool.and_eq_true, beq_iff_eq, List.all_eq_true] at h
  have hascii : ∀ b ∈ utf8 s, b.toNat < 128 := by
    intro b hb
    have hdigit := h.2 b hb
    simp only [isHexDigit, Bool.or_eq_true, Bool.and_eq_true, decide_eq_true_eq] at hdigit
    have h9 : (byte '9').toNat = 57 := by decide
    have hf : (byte 'f').toNat = 102 := by decide
    rcases hdigit with ⟨-, hle⟩ | ⟨-, hle⟩
    · have := UInt8.le_iff_toNat_le.mp hle
      omega
    · have := UInt8.le_iff_toNat_le.mp hle
      omega
  rw [utf8_take hascii, Bool.and_eq_true, beq_iff_eq, List.all_eq_true]
  refine ⟨by rw [List.length_take, h.1]; omega, fun b hb => h.2 b (List.mem_of_mem_take hb)⟩
/-! ## Numerals -/

theorem toNat_byte_digit {c : Char} (h : c.isDigit = true) :
    (byte c).toNat = c.toNat ∧ 48 ≤ c.toNat ∧ c.toNat ≤ 57 := by
  simp only [Char.isDigit, Bool.and_eq_true, decide_eq_true_eq] at h
  have hlow : 48 ≤ c.toNat := UInt32.le_iff_toNat_le.mp h.1
  have hhigh : c.toNat ≤ 57 := UInt32.le_iff_toNat_le.mp h.2
  have hmod : (byte c).toNat = c.toNat % 256 := rfl
  omega

/-- A positive numeral starts with a digit from one to nine. -/
theorem toDigits_head {n : Nat} (h : 0 < n) :
    ∃ c rest, Nat.toDigits 10 n = c :: rest ∧ 49 ≤ c.toNat := by
  induction n using Nat.strong_induction_on with
  | _ n ih =>
    by_cases hlt : n < 10
    · refine ⟨n.digitChar, [], Nat.toDigits_of_lt_base hlt, ?_⟩
      have hall : ∀ k : Fin 10, 0 < k.val → 49 ≤ (Nat.digitChar k).toNat := by decide
      exact hall ⟨n, hlt⟩ h
    · have hle : 10 ≤ n := Nat.le_of_not_lt hlt
      obtain ⟨c, rest, hdigits, hc⟩ := ih (n / 10) (by omega) (by omega)
      refine ⟨c, rest ++ [(n % 10).digitChar], ?_, hc⟩
      rw [Nat.toDigits_of_base_le (by decide) hle, hdigits, List.cons_append]

theorem isDecimalDigit_byte {c : Char} (h : c.isDigit = true) : isDecimalDigit (byte c) = true := by
  obtain ⟨hbyte, hlow, hhigh⟩ := toNat_byte_digit h
  simp only [isDecimalDigit, Bool.and_eq_true, decide_eq_true_eq, UInt8.le_iff_toNat_le, hbyte]
  exact ⟨hlow, hhigh⟩

theorem isDecimalSuffix_digits {n : Nat} (h : n ≤ uint64Max) :
    isDecimalSuffix ((Nat.toDigits 10 n).map byte) = true := by
  rcases Nat.eq_zero_or_pos n with rfl | hpos
  · decide
  · obtain ⟨c, rest, hdigits, hc⟩ := toDigits_head hpos
    have hall : ∀ d ∈ c :: rest, d.isDigit = true := fun d hd =>
      Nat.isDigit_of_mem_toDigits (by decide) (by decide) (hdigits ▸ hd)
    have hlength : (c :: rest).length ≤ 20 := hdigits ▸
      (Nat.length_toDigits_le_iff (by decide) (by decide)).mpr (Nat.lt_of_le_of_lt h (by decide))
    obtain ⟨hbyte, -, hhigh⟩ := toNat_byte_digit (hall c List.mem_cons_self)
    rw [hdigits, List.map_cons]
    simp only [isDecimalSuffix, Bool.or_eq_true, Bool.and_eq_true, decide_eq_true_eq,
      UInt8.le_iff_toNat_le, hbyte, List.length_map, List.all_eq_true, List.mem_map]
    refine .inr ⟨⟨⟨hc, hhigh⟩, ?_⟩, ?_⟩
    · rw [List.length_cons] at hlength
      omega
    · rintro _ ⟨d, hd, rfl⟩
      exact isDecimalDigit_byte (hall d (List.mem_cons_of_mem _ hd))

theorem foldl_digits {cs : List Char} (h : ∀ c ∈ cs, c.isDigit = true) (start : Nat) :
    (cs.map byte).foldl (fun n b => 10 * n + (b.toNat - 48)) start =
      Nat.ofDigitChars 10 cs start := by
  induction cs generalizing start with
  | nil => simp
  | cons c rest ih =>
    have hbyte := (toNat_byte_digit (h c List.mem_cons_self)).1
    rw [List.map_cons, List.foldl_cons, Nat.ofDigitChars_cons, hbyte]
    exact ih (fun d hd => h d (List.mem_cons_of_mem _ hd)) _

section Scoped
variable {owner kind : String} {letter : Char}

theorem utf8_scopedId (hkind : utf8 kind = [byte letter]) (n : Nat) :
    utf8 (scopedId owner kind n) = utf8 owner ++ ([byte ':', byte letter, byte ':'] ++
      (Nat.toDigits 10 n).map byte) := by
  have hcolon : utf8 ":" = [byte ':'] := by decide
  have hid : scopedId owner kind n = owner ++ ":" ++ kind ++ ":" ++ n.repr := rfl
  rw [hid]
  simp only [utf8_append, hkind, hcolon, utf8_repr, List.append_assoc, List.cons_append,
    List.nil_append]

theorem drop_scopedId (howner : (utf8 owner).length = 32) (hkind : utf8 kind = [byte letter])
    (n : Nat) : (utf8 (scopedId owner kind n)).drop 35 = (Nat.toDigits 10 n).map byte := by
  rw [utf8_scopedId hkind, List.drop_append, howner, List.drop_of_length_le (by omega)]
  rfl

theorem isScopedId_scopedId (howner : isHex 32 owner = true) (hkind : utf8 kind = [byte letter])
    {n : Nat} (h : n ≤ uint64Max) : isScopedId letter (scopedId owner kind n) = true := by
  have hlength := (isPlainText_hex howner).2
  have htake : (utf8 (scopedId owner kind n)).take 32 = utf8 owner := by
    rw [utf8_scopedId hkind, ← hlength, List.take_left]
  have hdrop : (utf8 (scopedId owner kind n)).drop 32 = [byte ':', byte letter, byte ':'] ++
      (Nat.toDigits 10 n).map byte := by
    rw [utf8_scopedId hkind, ← hlength, List.drop_left]
  rw [isScopedId, htake, hdrop, drop_scopedId hlength hkind, isDecimalSuffix_digits h,
    Bool.and_true, Bool.and_eq_true]
  refine ⟨howner, ?_⟩
  exact beq_iff_eq.mpr rfl

theorem decimalSuffix_scopedId (howner : isHex 32 owner = true)
    (hkind : utf8 kind = [byte letter]) (n : Nat) : decimalSuffix (scopedId owner kind n) = n := by
  rw [decimalSuffix, drop_scopedId (isPlainText_hex howner).2 hkind, foldl_digits]
  · exact Nat.ofDigitChars_toDigits (by decide) (by decide)
  · exact fun c hc => Nat.isDigit_of_mem_toDigits (by decide) (by decide) hc

theorem validateDecimalId_scopedId (howner : isHex 32 owner = true)
    (hkind : utf8 kind = [byte letter]) {n : Nat} (h : n ≤ uint64Max)
    (fieldName kindName : String) :
    validateDecimalId fieldName (scopedId owner kind n) letter kindName 55 uint64Max = .ok () := by
  have hbytes : (scopedId owner kind n).utf8ByteSize ≤ 55 := by
    have hdigits : (Nat.toDigits 10 n).length ≤ 20 :=
      (Nat.length_toDigits_le_iff (by decide) (by decide)).mpr (Nat.lt_of_le_of_lt h (by decide))
    rw [utf8ByteSize_eq, utf8_scopedId hkind]
    simp only [List.length_append, (isPlainText_hex howner).2, List.length_cons, List.length_nil,
      List.length_map]
    omega
  unfold validateDecimalId
  simp only [bind_eq_ok, raiseIf_eq_ok, exists_unit, Bool.not_eq_false', decide_eq_false_iff_not,
    not_lt]
  exact ⟨isScopedId_scopedId howner hkind h, hbytes,
    requireUint_eq_ok.mpr ⟨n, by rw [decimalSuffix_scopedId howner hkind], h⟩⟩

/-- An identifier begins with its owner and its kind. -/
theorem startsWith_scopedId (owner kind : String) (n : Nat) :
    startsWith (scopedId owner kind n) (owner ++ ":" ++ kind ++ ":") = true := by
  have hid : scopedId owner kind n = owner ++ ":" ++ kind ++ ":" ++ n.repr := rfl
  rw [startsWith, hid, utf8_append, List.isPrefixOf_iff_prefix]
  exact List.prefix_append _ _

end Scoped

end LifecycleProfiler.Protocol
