import LifecycleProfiler.Python.Encoding
import LifecycleProfiler.Python.Loads

/-! # Reading tokens back

A quoted text and the text of a number are read to their ends, whatever
follows the quote, and whatever follows the number unless it goes on with it. -/

namespace LifecycleProfiler.Python.Json

/-! ## Strings -/

/-- What `scanstring` makes of an escaped byte. -/
def unitOf (b : UInt8) : UInt8 ⊕ Nat :=
  if 32 ≤ b || b = 8 || b = 9 || b = 10 || b = 12 || b = 13 then .inl b else .inr b.toNat

/-- What holds of the codes below 32 holds of every control character. -/
theorem forall_control {P : UInt8 → Prop} (h : ∀ n < 32, P (UInt8.ofNat n)) {b : UInt8}
    (hb : b < 32) : P b := by
  have hcode := h b.toNat (UInt8.lt_iff_toNat_lt.mp hb)
  rwa [UInt8.ofNat_toNat] at hcode

theorem hexCode_hexDigit {b : UInt8} (hb : b < 32) :
    hexCode 48 48 (hexDigit (b / 16)) (hexDigit (b % 16)) = some b.toNat := by
  refine forall_control (P := fun b => hexCode 48 48 (hexDigit (b / 16)) (hexDigit (b % 16)) =
    some b.toNat) ?_ hb
  decide

theorem codeBytes_control {b : UInt8} (hb : b < 32) : codeBytes b.toNat = some [b] := by
  refine forall_control (P := fun b => codeBytes b.toNat = some [b]) ?_ hb
  decide

theorem isHigh_control {b : UInt8} (hb : b < 32) : isHigh b.toNat = false := by
  have hlt : b.toNat < 32 := UInt8.lt_iff_toNat_lt.mp hb
  simp only [isHigh, Bool.and_eq_false_iff, decide_eq_false_iff_not]
  omega

theorem scanUnits_plain {b : UInt8} (hspace : 32 ≤ b) (hquote : b ≠ 34) (hslash : b ≠ 92)
    (rest : Bytes) : scanUnits (b :: rest) =
      (scanUnits rest).map fun scanned => (.inl b :: scanned.1, scanned.2) := by
  have hlt : ¬b < 32 := UInt8.not_lt.mpr hspace
  rw [scanUnits]
  · rw [if_neg hlt]
    cases scanUnits rest <;> rfl
  all_goals
    intros
    contradiction

theorem scanUnits_short {e b : UInt8} (hcode : e ≠ 117) (he : escaped e = some b) (rest : Bytes) :
    scanUnits (92 :: e :: rest) =
      (scanUnits rest).map fun scanned => (.inl b :: scanned.1, scanned.2) := by
  rw [scanUnits]
  · rw [he]
    cases scanUnits rest <;> rfl
  · intros
    contradiction

theorem scanUnits_code {a b c d : UInt8} {code : Nat} (h : hexCode a b c d = some code)
    (rest : Bytes) : scanUnits (92 :: 117 :: a :: b :: c :: d :: rest) =
      (scanUnits rest).map fun scanned => (.inr code :: scanned.1, scanned.2) := by
  rw [scanUnits, h]
  cases scanUnits rest <;> rfl

/-- A control character without a short escape. -/
theorem escapeByte_control {b : UInt8} (hspace : ¬32 ≤ b)
    (hnamed : ¬b = 8 ∧ ¬b = 9 ∧ ¬b = 10 ∧ ¬b = 12 ∧ ¬b = 13) :
    escapeByte b = [92, 117, 48, 48, hexDigit (b / 16), hexDigit (b % 16)] := by
  have hcode : utf8 "\\u00" = [92, 117, 48, 48] := by decide
  simp [escapeByte, hspace, hnamed, hcode]

/-- An escaped byte is read as one unit. -/
theorem scanUnits_escapeByte (b : UInt8) (rest : Bytes) :
    scanUnits (escapeByte b ++ rest) =
      (scanUnits rest).map fun scanned => (unitOf b :: scanned.1, scanned.2) := by
  by_cases hspace : 32 ≤ b
  · have hunit : unitOf b = .inl b := by simp [unitOf, hspace]
    rw [hunit]
    by_cases hplain : b = 34 ∨ b = 92
    · rcases hplain with rfl | rfl
      · exact scanUnits_short (e := 34) (by decide) rfl rest
      · exact scanUnits_short (e := 92) (by decide) rfl rest
    · rw [not_or] at hplain
      have hescape : escapeByte b = [b] := by
        simp [escapeByte, hspace, byte, hplain]
      rw [hescape]
      exact scanUnits_plain hspace hplain.1 hplain.2 rest
  · have hlt : b < 32 := UInt8.not_le.mp hspace
    by_cases hshort : b = 8 ∨ b = 9 ∨ b = 10 ∨ b = 12 ∨ b = 13
    · rcases hshort with rfl | rfl | rfl | rfl | rfl
      · exact scanUnits_short (e := 98) (by decide) rfl rest
      · exact scanUnits_short (e := 116) (by decide) rfl rest
      · exact scanUnits_short (e := 110) (by decide) rfl rest
      · exact scanUnits_short (e := 102) (by decide) rfl rest
      · exact scanUnits_short (e := 114) (by decide) rfl rest
    · simp only [not_or] at hshort
      have hunit : unitOf b = .inr b.toNat := by simp [unitOf, hspace, hshort]
      rw [hunit, escapeByte_control hspace hshort]
      exact scanUnits_code (hexCode_hexDigit hlt) rest

theorem scanUnits_flatMap (bs rest : Bytes) :
    scanUnits (bs.flatMap escapeByte ++ 34 :: rest) = some (bs.map unitOf, rest) := by
  induction bs with
  | nil => rfl
  | cons b tail ih =>
    rw [List.flatMap_cons, List.append_assoc, scanUnits_escapeByte, ih]
    rfl

theorem joinUnits_map (bs : Bytes) : joinUnits (bs.map unitOf) = some bs := by
  induction bs with
  | nil => rfl
  | cons b tail ih =>
    rw [List.map_cons, unitOf]
    split
    · rw [joinUnits, ih]
      rfl
    · next hcontrol =>
      have hlt : b < 32 := by
        by_contra hge
        exact hcontrol (by simp [UInt8.not_lt.mp hge])
      -- a control character is no surrogate, so it never pairs with what follows
      cases hrest : tail.map unitOf with
      | nil =>
        rw [hrest] at ih
        rw [joinUnits, codeBytes_control hlt, ih]
        · rfl
        · nofun
      | cons unit units =>
        rw [hrest] at ih
        cases unit with
        | inl c =>
          rw [joinUnits, codeBytes_control hlt, ih]
          · rfl
          · nofun
        | inr code =>
          rw [joinUnits, isHigh_control hlt, codeBytes_control hlt, ih]
          rfl

theorem decodeUtf8_utf8 (s : String) : decodeUtf8 (utf8 s) = some s := by
  have hbytes : (⟨(utf8 s).toArray⟩ : ByteArray) = s.toByteArray := rfl
  rw [decodeUtf8, hbytes, String.fromUTF8?, dif_pos s.isValidUTF8]
  rfl

/-- **A quoted text is read back**, and the reading ends behind its quote. -/
theorem scanString_quote (s : String) (rest : Bytes) :
    scanString ((utf8 s).flatMap escapeByte ++ 34 :: rest) = some (s, rest) := by
  simp [scanString, scanUnits_flatMap, joinUnits_map, decodeUtf8_utf8]

/-! ## Numbers -/

structure IsDigits (ds : Bytes) : Prop where
  nonempty : ds ≠ []
  digits : ∀ d ∈ ds, isDigit d = true

/-- A zero, or digits that begin with another one. -/
def IsIntPart (ds : Bytes) : Prop := ds = [48] ∨ IsDigits ds ∧ ds.head? ≠ some 48

def IsFraction (fraction : Bytes) : Prop :=
  fraction = [] ∨ ∃ ds, IsDigits ds ∧ fraction = 46 :: ds

def IsExponent (exponent : Bytes) : Prop :=
  exponent = [] ∨ ∃ sign ds, (sign = [] ∨ sign = [43] ∨ sign = [45]) ∧ IsDigits ds ∧
    exponent = 101 :: sign ++ ds

/-- `repr(x)` of a finite float: a number with a fraction or an exponent. -/
def IsFloatText (text : Bytes) : Prop :=
  ∃ minus digits fraction exponent, text = minusOf minus ++ (digits ++ (fraction ++ exponent)) ∧
    IsIntPart digits ∧ IsFraction fraction ∧ IsExponent exponent ∧
    ¬(fraction = [] ∧ exponent = [])

/-- A number does not go on with this text. -/
def Ends (rest : Bytes) : Prop :=
  ∀ b, rest.head? = some b → isDigit b = false ∧ b ≠ 46 ∧ b ≠ 101 ∧ b ≠ 69

theorem ends_cons {b : UInt8} {rest : Bytes} (h : isDigit b = false ∧ b ≠ 46 ∧ b ≠ 101 ∧ b ≠ 69) :
    Ends (b :: rest) := by
  intro c hc
  rw [List.head?_cons, Option.some.injEq] at hc
  exact hc ▸ h

theorem ends_nil : Ends [] := nofun

/-- Digits do not go on with this text. -/
def Stops (rest : Bytes) : Prop := ∀ b, rest.head? = some b → isDigit b = false

theorem Ends.stops {rest : Bytes} (h : Ends rest) : Stops rest := fun b hb => (h b hb).1

theorem takeWhile_digits {ds rest : Bytes} (hds : ∀ d ∈ ds, isDigit d = true) (h : Stops rest) :
    (ds ++ rest).takeWhile isDigit = ds ∧ (ds ++ rest).dropWhile isDigit = rest := by
  rw [List.takeWhile_append_of_pos hds, List.dropWhile_append_of_pos hds]
  cases rest with
  | nil => exact ⟨List.append_nil ds, rfl⟩
  | cons b tail =>
    have hb := h b rfl
    constructor
    · rw [List.takeWhile_cons_of_neg (by simp [hb]), List.append_nil]
    · rw [List.dropWhile_cons_of_neg (by simp [hb])]

theorem isEmpty_digits {ds : Bytes} (h : IsDigits ds) : ds.isEmpty = false :=
  List.isEmpty_eq_false_iff.mpr h.nonempty

theorem scanInt_append {ds rest : Bytes} (hds : IsIntPart ds) (h : Stops rest) :
    scanInt (ds ++ rest) = some (ds, rest) := by
  rcases hds with rfl | ⟨hds, hhead⟩
  · rfl
  · obtain ⟨htake, hdrop⟩ := takeWhile_digits hds.digits h
    unfold scanInt
    split
    · next heq =>
      cases ds with
      | nil => exact absurd rfl hds.nonempty
      | cons d tail =>
        rw [List.cons_append, List.cons.injEq] at heq
        exact absurd (congrArg some heq.1) hhead
    · rw [htake, hdrop, isEmpty_digits hds]
      rfl

theorem scanFraction_append {fraction rest : Bytes} (hfraction : IsFraction fraction)
    (h : Stops rest) (hpoint : rest.head? ≠ some 46) :
    scanFraction (fraction ++ rest) = (fraction, rest) := by
  rcases hfraction with rfl | ⟨ds, hds, rfl⟩
  · rw [List.nil_append]
    unfold scanFraction
    split
    · exact absurd rfl hpoint
    · rfl
  · obtain ⟨htake, hdrop⟩ := takeWhile_digits hds.digits h
    rw [List.cons_append, scanFraction, htake, hdrop, isEmpty_digits hds]
    rfl

theorem scanSign_append {sign ds : Bytes} (hsign : sign = [] ∨ sign = [43] ∨ sign = [45])
    (hds : IsDigits ds) (rest : Bytes) : scanSign (sign ++ ds ++ rest) = (sign, ds ++ rest) := by
  rcases hsign with rfl | rfl | rfl
  · cases ds with
    | nil => exact absurd rfl hds.nonempty
    | cons d tail =>
      have hd := hds.digits d List.mem_cons_self
      unfold scanSign
      split
      · next heq =>
        rw [List.nil_append, List.cons_append, List.cons.injEq] at heq
        rw [heq.1] at hd
        exact absurd hd (by decide)
      · next heq =>
        rw [List.nil_append, List.cons_append, List.cons.injEq] at heq
        rw [heq.1] at hd
        exact absurd hd (by decide)
      · rfl
  · rfl
  · rfl

theorem scanExponent_append {exponent rest : Bytes} (hexponent : IsExponent exponent)
    (h : Ends rest) : scanExponent (exponent ++ rest) = (exponent, rest) := by
  rcases hexponent with rfl | ⟨sign, ds, hsign, hds, rfl⟩
  · cases rest with
    | nil => rfl
    | cons b tail =>
      have hb := h b rfl
      simp [scanExponent, hb]
  · obtain ⟨htake, hdrop⟩ := takeWhile_digits hds.digits h.stops
    rw [List.cons_append, List.cons_append, scanExponent, scanSign_append hsign hds]
    simp [htake, hdrop, isEmpty_digits hds]

theorem scanMinus_append (minus : Bool) {digits : Bytes} (hdigits : IsIntPart digits)
    (rest : Bytes) : scanMinus (minusOf minus ++ (digits ++ rest)) = (minus, digits ++ rest) := by
  cases minus with
  | true => rfl
  | false =>
    have hhead : ∀ d tail, digits = d :: tail → d ≠ 45 := by
      intro d tail hd
      rcases hdigits with rfl | ⟨hds, -⟩
      · cases hd
        decide
      · have hdigit := hds.digits d (hd ▸ List.mem_cons_self)
        rintro rfl
        exact absurd hdigit (by decide)
    have hne : digits ≠ [] := hdigits.elim (fun h => h ▸ List.cons_ne_nil _ _) fun h => h.1.nonempty
    show scanMinus (digits ++ rest) = _
    unfold scanMinus
    split
    · next heq =>
      obtain ⟨d, tail, rfl⟩ := List.exists_cons_of_ne_nil hne
      rw [List.cons_append, List.cons.injEq] at heq
      exact absurd heq.1 (hhead d tail rfl)
    · rfl

/-- What follows the integer part does not go on with it. -/
theorem stops_exponent {exponent rest : Bytes} (hexponent : IsExponent exponent) (h : Ends rest) :
    Stops (exponent ++ rest) ∧ (exponent ++ rest).head? ≠ some 46 := by
  rcases hexponent with rfl | ⟨sign, ds, -, -, rfl⟩
  · exact ⟨h.stops, fun hb => (h 46 hb).2.1 rfl⟩
  · constructor
    · rintro b ⟨⟩
      rfl
    · rintro ⟨⟩

theorem stops_fraction {fraction rest : Bytes} (hfraction : IsFraction fraction) (h : Stops rest) :
    Stops (fraction ++ rest) := by
  rcases hfraction with rfl | ⟨ds, -, rfl⟩
  · exact h
  · rintro b ⟨⟩
    rfl

theorem scanNumber_append (readFloat : ReadFloat) (minus : Bool)
    {digits fraction exponent rest : Bytes} (hdigits : IsIntPart digits)
    (hfraction : IsFraction fraction) (hexponent : IsExponent exponent) (h : Ends rest) :
    scanNumber readFloat (minusOf minus ++ (digits ++ (fraction ++ (exponent ++ rest)))) =
      if fraction.isEmpty && exponent.isEmpty then
        some (.int (if minus then -(readNat digits) else readNat digits), rest)
      else (readFloat (minusOf minus ++ digits ++ fraction ++ exponent)).map fun read =>
        (.float read.1 read.2, rest) := by
  obtain ⟨hstops, hpoint⟩ := stops_exponent hexponent h
  unfold scanNumber
  simp only [scanMinus_append minus hdigits,
    scanInt_append hdigits (stops_fraction hfraction hstops), Option.bind_eq_bind,
    Option.bind_some, scanFraction_append hfraction hstops hpoint, scanExponent_append hexponent h]
  cases hempty : fraction.isEmpty && exponent.isEmpty with
  | true => rfl
  | false =>
    show (readFloat _).bind _ = (readFloat _).map _
    cases readFloat (minusOf minus ++ digits ++ fraction ++ exponent) <;> rfl

/-! ## The numbers that are written -/

theorem readNat_repr (n : Nat) : readNat (utf8 n.repr) = n := by
  have hchars : ∀ c ∈ Nat.toDigits 10 n, Char.ofNat (byte c).toNat = c := by
    intro c hc
    have hdigit := Nat.isDigit_of_mem_toDigits (by decide) (by decide) hc
    have hlt : c.toNat < 256 := by
      simp only [Char.isDigit, Bool.and_eq_true, decide_eq_true_eq] at hdigit
      have hle := UInt32.le_iff_toNat_le.mp hdigit.2
      exact Nat.lt_of_le_of_lt hle (by decide)
    have hbyte : (byte c).toNat = c.toNat := by simp [byte, Nat.mod_eq_of_lt hlt]
    rw [hbyte, Char.ofNat_toNat]
  rw [readNat, utf8_repr, List.map_map]
  have hmap : (Nat.toDigits 10 n).map ((fun b => Char.ofNat b.toNat) ∘ byte) =
      Nat.toDigits 10 n := by
    conv_rhs => rw [← List.map_id (Nat.toDigits 10 n)]
    exact List.map_congr_left hchars
  rw [hmap, Nat.ofDigitChars_ten_toDigits]

theorem isDigit_byte {c : Char} (h : c.isDigit = true) : isDigit (byte c) = true := by
  simp only [Char.isDigit, Bool.and_eq_true, decide_eq_true_eq] at h
  have hlow := UInt32.le_iff_toNat_le.mp h.1
  have hhigh := UInt32.le_iff_toNat_le.mp h.2
  have hbyte : (byte c).toNat = c.toNat := by
    have hlt : c.toNat < 256 := Nat.lt_of_le_of_lt hhigh (by decide)
    simp [byte, Nat.mod_eq_of_lt hlt]
  simp only [isDigit, Bool.and_eq_true, decide_eq_true_eq, UInt8.le_iff_toNat_le, hbyte]
  exact ⟨hlow, hhigh⟩

theorem isDigits_repr (n : Nat) : IsDigits (utf8 n.repr) := by
  rw [utf8_repr]
  refine ⟨?_, fun d hd => ?_⟩
  · rw [Ne, List.map_eq_nil_iff]
    exact Nat.toDigits_ne_nil
  · obtain ⟨c, hc, rfl⟩ := List.mem_map.mp hd
    exact isDigit_byte (Nat.isDigit_of_mem_toDigits (by decide) (by decide) hc)

/-- No positive number begins with a zero. -/
theorem head_toDigits (n : Nat) (hpos : 0 < n) : ((Nat.toDigits 10 n).map byte).head? ≠ some 48 := by
  induction n using Nat.strong_induction_on with
  | _ n ih =>
    rw [Nat.toDigits_eq_if (by decide)]
    by_cases hlt : n < 10
    · have hdigit : ∀ m < 10, 0 < m → ([Nat.digitChar m].map byte).head? ≠ some 48 := by decide
      rw [if_pos hlt]
      exact hdigit n hlt hpos
    · have hfirst := ih (n / 10) (by omega) (by omega)
      rw [if_neg hlt, List.map_append, List.head?_append_of_ne_nil]
      · exact hfirst
      · rw [Ne, List.map_eq_nil_iff]
        exact Nat.toDigits_ne_nil

theorem isIntPart_repr (n : Nat) : IsIntPart (utf8 n.repr) := by
  cases n with
  | zero => exact .inl (by decide)
  | succ n =>
    refine .inr ⟨isDigits_repr _, ?_⟩
    rw [utf8_repr]
    exact head_toDigits _ (Nat.succ_pos n)

theorem utf8_int (n : Int) : utf8 (toString n) = minusOf (decide (n < 0)) ++ utf8 n.natAbs.repr := by
  cases n with
  | ofNat m => rfl
  | negSucc m =>
    have hrepr : toString (Int.negSucc m) = "-" ++ (m + 1).repr := rfl
    have hneg : decide (Int.negSucc m < 0) = true := decide_eq_true (Int.negSucc_lt_zero m)
    have hminus : utf8 "-" = minusOf true := by decide
    rw [hrepr, utf8_append, hneg, hminus]
    rfl

theorem scanNumber_int (readFloat : ReadFloat) (n : Int) {rest : Bytes} (h : Ends rest) :
    scanNumber readFloat (utf8 (toString n) ++ rest) = some (.int n, rest) := by
  have hscan := scanNumber_append readFloat (decide (n < 0)) (isIntPart_repr n.natAbs)
    (.inl rfl) (.inl rfl) h
  have hvalue : (if decide (n < 0) = true then -(n.natAbs : Int) else n.natAbs) = n := by
    split
    · next hneg =>
      have hlt := of_decide_eq_true hneg
      omega
    · next hneg =>
      have hge := of_decide_eq_false (Bool.not_eq_true _ ▸ hneg)
      omega
  rw [readNat_repr, hvalue] at hscan
  rw [utf8_int, List.append_assoc]
  exact hscan

theorem scanNumber_float (readFloat : ReadFloat) {text : Bytes} (htext : IsFloatText text)
    {rest : Bytes} (h : Ends rest) :
    scanNumber readFloat (text ++ rest) = (readFloat text).map fun read =>
      (.float read.1 read.2, rest) := by
  obtain ⟨minus, digits, fraction, exponent, rfl, hdigits, hfraction, hexponent, hne⟩ := htext
  have hscan := scanNumber_append readFloat minus hdigits hfraction hexponent h
  have hempty : (fraction.isEmpty && exponent.isEmpty) = false := by
    rw [Bool.eq_false_iff]
    intro hboth
    simp only [Bool.and_eq_true, List.isEmpty_iff] at hboth
    exact hne hboth
  rw [hempty] at hscan
  simpa [List.append_assoc] using hscan

end LifecycleProfiler.Python.Json
