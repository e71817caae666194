import LifecycleProfiler.Python.Encoding

/-! # How long an encoding is

`Takes v n` says that `v` has an encoding and that it takes `n` bytes, with a
rule for each form of value: a number takes its digits, a text its bytes and
one more for every character JSON escapes with a backslash, an array or an
object its elements and the punctuation around them. -/

namespace LifecycleProfiler.Python

/-- The digits of a decimal numeral. -/
def decimalWidth (n : Nat) : Nat := (Nat.toDigits 10 n).length

theorem length_utf8_natRepr (n : Nat) : (utf8 n.repr).length = decimalWidth n := by
  rw [utf8_repr, List.length_map, decimalWidth]

namespace Json

/-- A byte that stands for itself inside a JSON string. -/
def IsPlain (b : UInt8) : Prop := 32 ≤ b ∧ b ≠ byte '"' ∧ b ≠ byte '\\'

instance (b : UInt8) : Decidable (IsPlain b) := inferInstanceAs (Decidable (_ ∧ _ ∧ _))

theorem isPlain_of_toNat {b : UInt8} (hspace : 32 ≤ b.toNat) (hquote : b.toNat ≠ 34)
    (hbackslash : b.toNat ≠ 92) : IsPlain b :=
  ⟨UInt8.le_iff_toNat_le.mpr hspace, fun he => hquote (he ▸ rfl), fun he => hbackslash (he ▸ rfl)⟩

/-- The quotes and backslashes of a text. -/
def escapes (s : String) : Nat := (utf8 s).countP fun b => !decide (IsPlain b)

theorem escapeByte_plain {b : UInt8} (h : IsPlain b) : (escapeByte b).length = 1 := by
  obtain ⟨hspace, hquote, hbackslash⟩ := h
  simp [escapeByte, hspace, hquote, hbackslash]

theorem escapeByte_escaped {b : UInt8} (hspace : 32 ≤ b) (h : ¬IsPlain b) :
    (escapeByte b).length = 2 := by
  have hnot : ¬((32 ≤ b && b != byte '"' && b != byte '\\') = true) := fun hb => by
    simp only [Bool.and_eq_true, decide_eq_true_eq, bne_iff_ne, ne_eq] at hb
    exact h ⟨hb.1.1, hb.1.2, hb.2⟩
  rw [escapeByte, if_neg hnot, if_pos hspace]
  rfl

/-- Without control characters, a text grows by its quotes and backslashes. -/
theorem length_quote_printable {s : String} (h : ∀ b ∈ utf8 s, 32 ≤ b) :
    (quote s).length = (utf8 s).length + escapes s + 2 := by
  have hbytes : ∀ bs : Bytes, (∀ b ∈ bs, 32 ≤ b) → (bs.flatMap escapeByte).length =
      bs.length + bs.countP fun b => !decide (IsPlain b) := by
    intro bs
    induction bs with
    | nil => exact fun _ => rfl
    | cons b rest ih =>
      intro hall
      have hrest := ih fun c hc => hall c (List.mem_cons_of_mem _ hc)
      simp only [List.flatMap_cons, List.length_append, List.length_cons, List.countP_cons]
      by_cases hb : IsPlain b
      · have hone := escapeByte_plain hb
        simp only [hb, decide_true, Bool.not_true, Bool.false_eq_true, if_false]
        omega
      · have htwo := escapeByte_escaped (hall b List.mem_cons_self) hb
        simp only [hb, decide_false, Bool.not_false, if_true]
        omega
  have hs := hbytes (utf8 s) h
  simp only [quote, List.length_cons, List.length_append, List.length_nil, escapes]
  omega

/-- A text that needs no escape. -/
def IsPlainText (s : String) : Prop := ∀ b ∈ utf8 s, IsPlain b

instance (s : String) : Decidable (IsPlainText s) := List.decidableBAll IsPlain (utf8 s)

theorem IsPlainText.append {s t : String} (hs : IsPlainText s) (ht : IsPlainText t) :
    IsPlainText (s ++ t) := by
  intro b hb
  rw [utf8_append, List.mem_append] at hb
  exact hb.elim (hs b) (ht b)

theorem isPlainText_repr (n : Nat) : IsPlainText n.repr := by
  intro b hb
  rw [utf8_repr, List.mem_map] at hb
  obtain ⟨c, hc, rfl⟩ := hb
  have hdigit := Nat.isDigit_of_mem_toDigits (by decide) (by decide) hc
  simp only [Char.isDigit, Bool.and_eq_true, decide_eq_true_eq] at hdigit
  have hlow : 48 ≤ c.val.toNat := UInt32.le_iff_toNat_le.mp hdigit.1
  have hhigh : c.val.toNat ≤ 57 := UInt32.le_iff_toNat_le.mp hdigit.2
  have hbyte : (byte c).toNat = c.val.toNat := by
    have hmod : (byte c).toNat = c.val.toNat % 256 := rfl
    omega
  exact isPlain_of_toNat (by omega) (by omega) (by omega)

theorem IsPlainText.length_quote {s : String} (h : IsPlainText s) :
    (quote s).length = (utf8 s).length + 2 := by
  have hnone : escapes s = 0 := List.countP_eq_zero.mpr fun b hb => by simp [h b hb]
  rw [length_quote_printable fun b hb => (h b hb).1, hnone]

/-! ## The length of each form of value -/

/-- An encoding of `n` bytes. -/
def Takes (v : Value) (n : Nat) : Prop := ∃ raw, dumps v = .ok raw ∧ raw.length = n

theorem takes_none : Takes .none 4 := ⟨_, rfl, by decide⟩

theorem takes_nat (n : Nat) : Takes (.int n) (decimalWidth n) :=
  ⟨_, rfl, length_utf8_natRepr n⟩

theorem takes_str (s : String) : Takes (.str s) (quote s).length := ⟨_, rfl, rfl⟩

theorem takes_plain {s : String} (h : IsPlainText s) : Takes (.str s) ((utf8 s).length + 2) :=
  ⟨_, rfl, h.length_quote⟩

/-- One comma less than there are parts. -/
theorem length_commaJoin_eq : ∀ {parts : List Bytes}, parts ≠ [] →
    (commaJoin parts).length + 1 = (parts.map fun p => p.length + 1).sum
  | [p], _ => by simp [commaJoin]
  | p :: q :: rest, _ => by
    have ih := length_commaJoin_eq (List.cons_ne_nil q rest)
    simp only [commaJoin, List.length_append, List.length_cons, List.map_cons,
      List.sum_cons] at ih ⊢
    omega

theorem takes_list {α : Type} {xs : List α} {f : α → Value} {width : α → Nat} (hne : xs ≠ [])
    (h : ∀ x ∈ xs, Takes (f x) (width x)) :
    Takes (.list (xs.map f)) (1 + (xs.map fun x => width x + 1).sum) := by
  obtain ⟨parts, hparts, hsum, hlength⟩ : ∃ parts, dumpsList (xs.map f) = .ok parts ∧
      (parts.map fun p => p.length + 1).sum = (xs.map fun x => width x + 1).sum ∧
      parts.length = xs.length := by
    clear hne
    induction xs with
    | nil => exact ⟨[], rfl, rfl, rfl⟩
    | cons x rest ih =>
      obtain ⟨parts, hparts, hsum, hlength⟩ := ih fun y hy => h y (List.mem_cons_of_mem _ hy)
      obtain ⟨raw, hraw, hwidth⟩ := h x List.mem_cons_self
      refine ⟨raw :: parts, ?_, ?_, ?_⟩
      · simp only [List.map_cons, dumpsList, hraw, hparts]
        rfl
      · simp only [List.map_cons, List.sum_cons, hsum, hwidth]
      · simp only [List.length_cons, hlength]
  have hparts' : parts ≠ [] := List.ne_nil_of_length_pos
    (hlength ▸ List.length_pos_of_ne_nil hne)
  have hjoin := length_commaJoin_eq hparts'
  refine ⟨byte '[' :: commaJoin parts ++ [byte ']'], ?_, ?_⟩
  · rw [dumps, hparts]
    rfl
  · simp only [List.length_append, List.length_cons, List.length_nil]
    omega

/-- The bytes of the keys of an object and of its punctuation. -/
def frameWidth (keys : List String) : Nat :=
  1 + (keys.map fun key => (quote key).length + 2).sum

/-- An object takes its values, whatever order its keys are written in. -/
theorem takes_dict {kvs : List (String × Value)} {widths : List Nat} (hne : kvs ≠ [])
    (h : List.Forall₂ (fun kv n => Takes kv.2 n) kvs widths) :
    Takes (.dict kvs) (frameWidth (kvs.map Prod.fst) + widths.sum) := by
  obtain ⟨ms, hms, hsum⟩ : ∃ ms : List (String × Bytes),
      List.Forall₂ (fun kv m => m.1 = kv.1 ∧ dumps kv.2 = .ok m.2) kvs ms ∧
      (ms.map fun m => (quote m.1 ++ byte ':' :: m.2).length + 1).sum + 1 =
        frameWidth (kvs.map Prod.fst) + widths.sum := by
    clear hne
    induction h with
    | nil => exact ⟨[], .nil, rfl⟩
    | @cons kv n kvs widths hhead _ ih =>
      obtain ⟨ms, hms, hsum⟩ := ih
      obtain ⟨raw, hraw, hwidth⟩ := hhead
      refine ⟨(kv.1, raw) :: ms, .cons ⟨rfl, hraw⟩ hms, ?_⟩
      simp only [frameWidth, List.map_cons, List.sum_cons, List.length_append,
        List.length_cons] at hsum ⊢
      omega
  have hlength : (sortMembers ms).length = kvs.length :=
    (sortMembers_perm ms).length_eq.trans hms.length_eq.symm
  have htexts : ((sortMembers ms).map fun m => quote m.1 ++ byte ':' :: m.2) ≠ [] :=
    List.ne_nil_of_length_pos (by
      rw [List.length_map, hlength]
      exact List.length_pos_of_ne_nil hne)
  have hjoin := length_commaJoin_eq htexts
  rw [List.map_map, ((sortMembers_perm ms).map _).sum_eq] at hjoin
  refine ⟨byte '{' :: commaJoin ((sortMembers ms).map fun m => quote m.1 ++ byte ':' :: m.2) ++
    [byte '}'], ?_, ?_⟩
  · rw [dumps, dumpsMembers_eq_ok.mpr hms]
    rfl
  · have hlengths :
      (commaJoin ((sortMembers ms).map fun m => quote m.1 ++ byte ':' :: m.2)).length +
        1 = (ms.map fun m => (quote m.1 ++ byte ':' :: m.2).length + 1).sum := hjoin
    rw [List.length_append, List.length_cons, List.length_singleton]
    omega

/-! ## Bounds on the length -/

/-- An encoding of at most `n` bytes. -/
def Within (v : Value) (n : Nat) : Prop := ∃ m, m ≤ n ∧ Takes v m

theorem Takes.within {v : Value} {m n : Nat} (h : Takes v m) (hle : m ≤ n) : Within v n :=
  ⟨m, hle, h⟩

theorem Within.mono {v : Value} {m n : Nat} (h : Within v m) (hle : m ≤ n) : Within v n := by
  obtain ⟨k, hk, htakes⟩ := h
  exact ⟨k, Nat.le_trans hk hle, htakes⟩

theorem within_dict {kvs : List (String × Value)} {widths : List Nat} (hne : kvs ≠ [])
    (h : List.Forall₂ (fun kv n => Within kv.2 n) kvs widths) :
    Within (.dict kvs) (frameWidth (kvs.map Prod.fst) + widths.sum) := by
  obtain ⟨exact', hexact, hle⟩ : ∃ exact', List.Forall₂ (fun kv n => Takes kv.2 n) kvs exact' ∧
      exact'.sum ≤ widths.sum := by
    clear hne
    induction h with
    | nil => exact ⟨[], .nil, Nat.le_refl 0⟩
    | cons hhead _ ih =>
      obtain ⟨m, hm, htakes⟩ := hhead
      obtain ⟨rest, hrest, hsum⟩ := ih
      refine ⟨m :: rest, .cons htakes hrest, ?_⟩
      simp only [List.sum_cons]
      omega
  exact (takes_dict hne hexact).within (Nat.add_le_add_left hle _)

theorem sum_le_of_forall {α : Type} {xs : List α} {f : α → Nat} {n : Nat}
    (h : ∀ x ∈ xs, f x ≤ n) : (xs.map f).sum ≤ xs.length * n := by
  induction xs with
  | nil => exact Nat.zero_le _
  | cons x rest ih =>
    have hrest := ih fun y hy => h y (List.mem_cons_of_mem _ hy)
    have hx := h x List.mem_cons_self
    rw [List.map_cons, List.sum_cons, List.length_cons, Nat.succ_mul]
    omega

theorem within_list {α : Type} {xs : List α} {f : α → Value} {width : Nat}
    (h : ∀ x ∈ xs, Within (f x) width) : Within (.list (xs.map f))
    (2 + xs.length * (width + 1)) := by
  cases xs with
  | nil => exact ⟨2, by simp, _, rfl, rfl⟩
  | cons x rest =>
    choose! widths hle htakes using h
    refine (takes_list (List.cons_ne_nil x rest) htakes).within ?_
    have hsum := sum_le_of_forall fun y hy => Nat.add_le_add_right (hle y hy) 1
    omega

end Json
end LifecycleProfiler.Python
