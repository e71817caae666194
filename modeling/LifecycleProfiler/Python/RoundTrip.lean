import LifecycleProfiler.General.KeyOrder
import LifecycleProfiler.Python.Keys
import LifecycleProfiler.Python.Tokens

/-! # Reading an encoded object back

An object without repeated keys is read back from its encoding as itself, but
for the order of the keys, and what is read back is encoded as before. -/

namespace LifecycleProfiler.Python.Json
open General

/-- Bytes in the order of their numbers. -/
local instance byteOrder : LinearOrder UInt8 where
  le_refl := UInt8.le_refl
  le_trans _ _ _ := UInt8.le_trans
  le_antisymm _ _ := UInt8.le_antisymm
  le_total := UInt8.le_total
  lt_iff_le_not_ge _ _ :=
    ⟨fun h => ⟨UInt8.le_of_lt h, UInt8.not_le.mpr h⟩, fun h => UInt8.not_le.mp h.2⟩
  toDecidableLE := inferInstance

/-- The items of a dictionary in the order of their keys. -/
def sortFields {α : Type} (items : List (String × α)) : List (String × α) :=
  sortedBy (fun item => utf8 item.1) items

mutual
/-- What is read back: the keys of every dictionary in order. -/
def canon : Value → Value
  | .list xs => .list (canonList xs)
  | .dict kvs => .dict (sortFields (canonMembers kvs))
  | v => v

def canonList : List Value → List Value
  | [] => []
  | x :: xs => canon x :: canonList xs

def canonMembers : List (String × Value) → List (String × Value)
  | [] => []
  | (k, v) :: rest => (k, canon v) :: canonMembers rest
end

mutual
/-- A Python object: no key of a dictionary is repeated, and the text of a float
is read as that float. -/
def Lawful (readFloat : ReadFloat) : Value → Prop
  | .float q text => IsFloatText (utf8 text) ∧ readFloat (utf8 text) = some (q, text)
  | .list xs => LawfulList readFloat xs
  | .dict kvs => (kvs.map Prod.fst).Nodup ∧ LawfulMembers readFloat kvs
  | _ => True

def LawfulList (readFloat : ReadFloat) : List Value → Prop
  | [] => True
  | x :: xs => Lawful readFloat x ∧ LawfulList readFloat xs

def LawfulMembers (readFloat : ReadFloat) : List (String × Value) → Prop
  | [] => True
  | (_, v) :: rest => Lawful readFloat v ∧ LawfulMembers readFloat rest
end

theorem canonList_eq (xs : List Value) : canonList xs = xs.map canon := by
  induction xs with
  | nil => rfl
  | cons x xs ih => rw [canonList, ih, List.map_cons]

theorem canonMembers_eq (kvs : List (String × Value)) :
    canonMembers kvs = kvs.map fun kv => (kv.1, canon kv.2) := by
  induction kvs with
  | nil => rfl
  | cons kv rest ih => rw [canonMembers, ih, List.map_cons]

section Lawful
variable {readFloat : ReadFloat}

theorem lawfulList_iff {xs : List Value} :
    LawfulList readFloat xs ↔ ∀ x ∈ xs, Lawful readFloat x := by
  induction xs with
  | nil => simp [LawfulList]
  | cons x xs ih => rw [LawfulList, ih, List.forall_mem_cons]

theorem lawfulMembers_iff {kvs : List (String × Value)} :
    LawfulMembers readFloat kvs ↔ ∀ kv ∈ kvs, Lawful readFloat kv.2 := by
  induction kvs with
  | nil => simp [LawfulMembers]
  | cons kv rest ih => rw [LawfulMembers, ih, List.forall_mem_cons]

theorem lawful_dict {kvs : List (String × Value)} : Lawful readFloat (.dict kvs) ↔
    (kvs.map Prod.fst).Nodup ∧ ∀ kv ∈ kvs, Lawful readFloat kv.2 := by
  rw [Lawful, lawfulMembers_iff]

theorem lawful_list {xs : List Value} :
    Lawful readFloat (.list xs) ↔ ∀ x ∈ xs, Lawful readFloat x := by
  rw [Lawful, lawfulList_iff]

end Lawful

/-! ## The order of the keys -/

theorem sortMembers_eq (ms : List (String × Bytes)) : sortMembers ms = sortFields ms := by
  have hinsert : ∀ (m : String × Bytes) xs,
      insertMember m xs = xs.orderedInsert (fun a b => utf8 a.1 ≤ utf8 b.1) m := by
    intro m xs
    induction xs with
    | nil => rfl
    | cons x rest ih =>
      rw [insertMember, List.orderedInsert_cons, ih]
      by_cases hlt : utf8 x.1 < utf8 m.1
      · rw [if_pos hlt, if_neg (not_le.mpr hlt)]
      · rw [if_neg hlt, if_pos (not_lt.mp hlt)]
  induction ms with
  | nil => rfl
  | cons m rest ih =>
    show insertMember m (sortMembers rest) = _
    rw [hinsert, ih]
    rfl

theorem sortFields_map {α β : Type} (f : α → β) (items : List (String × α)) :
    sortFields (items.map fun item => (item.1, f item.2)) =
      (sortFields items).map fun item => (item.1, f item.2) :=
  sortedBy_map _ _ (fun _ => rfl) items

theorem sortFields_perm {α : Type} (items : List (String × α)) : (sortFields items).Perm items :=
  sortedBy_perm _ items

theorem sortFields_sortFields {α : Type} (items : List (String × α)) :
    sortFields (sortFields items) = sortFields items :=
  sortedBy_eq_self _ (sortedBy_pairwise _ items)

/-! ## Encodings -/

/-- The encoding of an object that has one. -/
def encodingOf (v : Value) : Bytes :=
  match dumps v with
  | .ok raw => raw
  | .error _ => []

theorem encodingOf_eq {v : Value} {raw : Bytes} (h : dumps v = .ok raw) : encodingOf v = raw := by
  rw [encodingOf, h]

theorem dumpsList_eq_ok {xs : List Value} {parts : List Bytes} :
    dumpsList xs = .ok parts ↔
      (∀ x ∈ xs, dumps x = .ok (encodingOf x)) ∧ parts = xs.map encodingOf := by
  induction xs generalizing parts with
  | nil => simp [dumpsList, eq_comm]
  | cons x xs ih =>
    rw [dumpsList]
    simp only [bind_eq_ok, pure_eq_ok, ih, List.forall_mem_cons, List.map_cons]
    constructor
    · rintro ⟨raw, hraw, tail, ⟨htail, rfl⟩, rfl⟩
      rw [encodingOf_eq hraw]
      exact ⟨⟨hraw, htail⟩, rfl⟩
    · rintro ⟨⟨hraw, htail⟩, rfl⟩
      exact ⟨_, hraw, _, ⟨htail, rfl⟩, rfl⟩

theorem dumpsMembers_iff {kvs : List (String × Value)} {ms : List (String × Bytes)} :
    dumpsMembers kvs = .ok ms ↔ (∀ kv ∈ kvs, dumps kv.2 = .ok (encodingOf kv.2)) ∧
      ms = kvs.map fun kv => (kv.1, encodingOf kv.2) := by
  induction kvs generalizing ms with
  | nil => simp [dumpsMembers, eq_comm]
  | cons kv rest ih =>
    rw [dumpsMembers]
    simp only [bind_eq_ok, pure_eq_ok, ih, List.forall_mem_cons, List.map_cons]
    constructor
    · rintro ⟨raw, hraw, tail, ⟨htail, rfl⟩, rfl⟩
      rw [encodingOf_eq hraw]
      exact ⟨⟨hraw, htail⟩, rfl⟩
    · rintro ⟨⟨hraw, htail⟩, rfl⟩
      exact ⟨_, hraw, _, ⟨htail, rfl⟩, rfl⟩

/-- One member of an encoded object. -/
def memberText (m : String × Bytes) : Bytes := quote m.1 ++ byte ':' :: m.2

theorem dumps_list_eq_ok {xs : List Value} {raw : Bytes} : dumps (.list xs) = .ok raw ↔
    (∀ x ∈ xs, dumps x = .ok (encodingOf x)) ∧
      raw = 91 :: (commaJoin (xs.map encodingOf) ++ [93]) := by
  rw [dumps]
  simp only [bind_eq_ok, pure_eq_ok, dumpsList_eq_ok]
  constructor
  · rintro ⟨parts, ⟨hparts, rfl⟩, rfl⟩
    exact ⟨hparts, rfl⟩
  · rintro ⟨hparts, rfl⟩
    exact ⟨_, ⟨hparts, rfl⟩, rfl⟩

theorem dumps_dict_eq_ok {kvs : List (String × Value)} {raw : Bytes} :
    dumps (.dict kvs) = .ok raw ↔ (∀ kv ∈ kvs, dumps kv.2 = .ok (encodingOf kv.2)) ∧
      raw = 123 :: (commaJoin ((sortFields kvs).map fun kv =>
        memberText (kv.1, encodingOf kv.2)) ++ [125]) := by
  have htexts : ∀ kvs : List (String × Value),
      (sortMembers (kvs.map fun kv => (kv.1, encodingOf kv.2))).map
          (fun m => quote m.1 ++ byte ':' :: m.2) =
        (sortFields kvs).map fun kv => memberText (kv.1, encodingOf kv.2) := by
    intro kvs
    rw [sortMembers_eq, sortFields_map, List.map_map]
    rfl
  rw [dumps]
  simp only [bind_eq_ok, pure_eq_ok, dumpsMembers_iff]
  constructor
  · rintro ⟨ms, ⟨hms, rfl⟩, rfl⟩
    rw [htexts]
    exact ⟨hms, rfl⟩
  · rintro ⟨hms, rfl⟩
    refine ⟨_, ⟨hms, rfl⟩, ?_⟩
    rw [htexts]
    rfl

/-- Induction over an object, by the members of a list or a dictionary. -/
theorem value_induction {P : Value → Prop} (atom : ∀ v, (∀ xs, v ≠ .list xs) →
      (∀ kvs, v ≠ .dict kvs) → P v) (list : ∀ xs, (∀ x ∈ xs, P x) → P (.list xs))
    (dict : ∀ kvs, (∀ kv ∈ kvs, P kv.2) → P (.dict kvs)) (v : Value) : P v := by
  refine @Value.rec P (fun xs => ∀ x ∈ xs, P x) (fun kvs => ∀ kv ∈ kvs, P kv.2) (fun kv => P kv.2)
    ?_ ?_ ?_ ?_ ?_ list dict ?_ ?_ ?_ ?_ ?_ ?_ v
  · exact atom _ nofun nofun
  · exact fun _ => atom _ nofun nofun
  · exact fun _ => atom _ nofun nofun
  · exact fun _ _ => atom _ nofun nofun
  · exact fun _ => atom _ nofun nofun
  · exact fun _ => atom _ nofun nofun
  · exact nofun
  · exact fun _ _ hx hxs => List.forall_mem_cons.mpr ⟨hx, hxs⟩
  · exact nofun
  · exact fun _ _ hkv hkvs => List.forall_mem_cons.mpr ⟨hkv, hkvs⟩
  · exact fun _ _ hv => hv

/-- What is read back has the encoding it was read from. -/
theorem dumps_canon (v : Value) : ∀ {raw : Bytes}, dumps v = .ok raw → dumps (canon v) = .ok raw := by
  induction v using value_induction with
  | atom v hlist hdict =>
    intro raw h
    have hcanon : canon v = v := by
      cases v with
      | list xs => exact absurd rfl (hlist xs)
      | dict kvs => exact absurd rfl (hdict kvs)
      | _ => rfl
    rwa [hcanon]
  | list xs ih =>
    intro raw h
    obtain ⟨hparts, rfl⟩ := dumps_list_eq_ok.mp h
    have hcanon : ∀ x ∈ xs, dumps (canon x) = .ok (encodingOf x) := fun x hx => ih x hx (hparts x hx)
    rw [canon, canonList_eq, dumps_list_eq_ok]
    constructor
    · intro y hy
      obtain ⟨x, hx, rfl⟩ := List.mem_map.mp hy
      rw [encodingOf_eq (hcanon x hx)]
      exact hcanon x hx
    · have hmap : (xs.map canon).map encodingOf = xs.map encodingOf := by
        rw [List.map_map]
        exact List.map_congr_left fun x hx => encodingOf_eq (hcanon x hx)
      rw [hmap]
  | dict kvs ih =>
    intro raw h
    obtain ⟨hmembers, rfl⟩ := dumps_dict_eq_ok.mp h
    have hcanon : ∀ kv ∈ kvs, dumps (canon kv.2) = .ok (encodingOf kv.2) := fun kv hkv =>
      ih kv hkv (hmembers kv hkv)
    rw [canon, canonMembers_eq, sortFields_map, dumps_dict_eq_ok]
    constructor
    · intro kv hkv
      obtain ⟨item, hitem, rfl⟩ := List.mem_map.mp hkv
      have hdumps := hcanon item ((mem_sortedBy _).mp hitem)
      rw [encodingOf_eq hdumps]
      exact hdumps
    · rw [← sortFields_map, sortFields_sortFields, sortFields_map, List.map_map]
      have hmap : (sortFields kvs).map ((fun kv => memberText (kv.1, encodingOf kv.2)) ∘
          fun item => (item.1, canon item.2)) =
          (sortFields kvs).map fun kv => memberText (kv.1, encodingOf kv.2) := by
        refine List.map_congr_left fun item hitem => ?_
        show memberText (item.1, encodingOf (canon item.2)) = _
        rw [encodingOf_eq (hcanon item ((mem_sortedBy _).mp hitem))]
      rw [hmap]

/-! ## First bytes -/

/-- An encoding begins with a byte that is no space and closes no list. -/
def Opens (raw : Bytes) : Prop := ∃ b tail, raw = b :: tail ∧ isSpace b = false ∧ b ≠ 93

theorem skipSpace_cons {b : UInt8} (h : isSpace b = false) (rest : Bytes) :
    skipSpace (b :: rest) = b :: rest := List.dropWhile_cons_of_neg (by simp [h])

theorem Opens.skipSpace {raw : Bytes} (h : Opens raw) (rest : Bytes) :
    skipSpace (raw ++ rest) = raw ++ rest := by
  obtain ⟨b, tail, rfl, hb, -⟩ := h
  exact skipSpace_cons hb _

theorem commaJoin_cons_cons (p q : Bytes) (rest : List Bytes) :
    commaJoin (p :: q :: rest) = p ++ 44 :: commaJoin (q :: rest) := rfl

theorem Opens.commaJoin {p : Bytes} (h : Opens p) (rest : List Bytes) :
    Opens (commaJoin (p :: rest)) := by
  obtain ⟨b, tail, rfl, hb⟩ := h
  cases rest with
  | nil => exact ⟨b, tail, rfl, hb⟩
  | cons q rest => exact ⟨b, _, rfl, hb⟩

/-- The first byte of a number. -/
def IsNumberStart (b : UInt8) : Prop := b = 45 ∨ isDigit b = true

theorem isNumberStart_intPart (minus : Bool) {digits : Bytes} (h : IsIntPart digits)
    (rest : Bytes) : ∃ b tail, minusOf minus ++ (digits ++ rest) = b :: tail ∧ IsNumberStart b := by
  cases minus with
  | true => exact ⟨45, _, rfl, .inl rfl⟩
  | false =>
    rcases h with rfl | ⟨hds, -⟩
    · exact ⟨48, _, rfl, .inr rfl⟩
    · obtain ⟨d, tail, rfl⟩ := List.exists_cons_of_ne_nil hds.nonempty
      exact ⟨d, _, rfl, .inr (hds.digits d List.mem_cons_self)⟩

theorem isNumberStart_int (n : Int) :
    ∃ b tail, utf8 (toString n) = b :: tail ∧ IsNumberStart b := by
  have h := isNumberStart_intPart (decide (n < 0)) (isIntPart_repr n.natAbs) []
  rwa [List.append_nil, ← utf8_int] at h

theorem isNumberStart_float {text : Bytes} (h : IsFloatText text) :
    ∃ b tail, text = b :: tail ∧ IsNumberStart b := by
  obtain ⟨minus, digits, fraction, exponent, rfl, hdigits, -, -, -⟩ := h
  exact isNumberStart_intPart minus hdigits _

theorem IsNumberStart.toNat {b : UInt8} (h : IsNumberStart b) : 45 ≤ b.toNat ∧ b.toNat ≤ 57 := by
  rcases h with rfl | h
  · decide
  · simp only [isDigit, Bool.and_eq_true, decide_eq_true_eq, UInt8.le_iff_toNat_le] at h
    exact ⟨Nat.le_trans (by decide) h.1, h.2⟩

theorem IsNumberStart.ne {b : UInt8} (h : IsNumberStart b) {c : UInt8}
    (hc : c.toNat < 45 ∨ 57 < c.toNat) : b ≠ c := by
  rintro rfl
  have hb := h.toNat
  omega

theorem IsNumberStart.opens {b : UInt8} (h : IsNumberStart b) (tail : Bytes) :
    Opens (b :: tail) := by
  refine ⟨b, tail, rfl, ?_, h.ne (.inr (by decide))⟩
  have hspace : ∀ c : UInt8, c.toNat < 45 → decide (b = c) = false := fun c hc =>
    decide_eq_false (h.ne (.inl hc))
  rw [isSpace, hspace 32 (by decide), hspace 9 (by decide), hspace 10 (by decide),
    hspace 13 (by decide)]
  rfl

theorem opens_dumps {readFloat : ReadFloat} {v : Value} {raw : Bytes} (h : dumps v = .ok raw)
    (hv : Lawful readFloat v) : Opens raw := by
  cases v with
  | none =>
    cases h
    exact ⟨110, _, rfl, rfl, by decide⟩
  | bool b =>
    cases b with
    | true =>
      cases h
      exact ⟨116, _, rfl, rfl, by decide⟩
    | false =>
      cases h
      exact ⟨102, _, rfl, rfl, by decide⟩
  | int n =>
    cases h
    obtain ⟨b, tail, heq, hb⟩ := isNumberStart_int n
    exact heq ▸ hb.opens tail
  | float q text =>
    cases h
    obtain ⟨b, tail, heq, hb⟩ := isNumberStart_float hv.1
    exact heq ▸ hb.opens tail
  | str s =>
    cases h
    exact ⟨34, _, rfl, rfl, by decide⟩
  | list xs =>
    obtain ⟨-, rfl⟩ := dumps_list_eq_ok.mp h
    exact ⟨91, _, rfl, rfl, by decide⟩
  | dict kvs =>
    obtain ⟨-, rfl⟩ := dumps_dict_eq_ok.mp h
    exact ⟨123, _, rfl, rfl, by decide⟩
  | object tag => cases h

/-! ## Reading -/

/-- The encoding of an object is read back, whatever follows it. -/
def Reads (readFloat : ReadFloat) (v : Value) : Prop :=
  ∀ raw, dumps v = .ok raw → ∀ rest, Ends rest → ∀ fuel, raw.length ≤ fuel →
    scanOnce readFloat fuel (raw ++ rest) = some (canon v, rest)

section Reading
variable {readFloat : ReadFloat}

theorem scanOnce_number {b : UInt8} (h : IsNumberStart b) (tail : Bytes) (fuel : Nat) :
    scanOnce readFloat (fuel + 1) (b :: tail) = scanNumber readFloat (b :: tail) := by
  rw [scanOnce]
  all_goals
    intros
    try
      next heq => exact absurd (List.cons.inj heq).1 (h.ne (by decide))

theorem reads_number {v : Value} {text : Bytes} (hdumps : dumps v = .ok text)
    (hcanon : canon v = v) (hstart : ∃ b tail, text = b :: tail ∧ IsNumberStart b)
    (hscan : ∀ rest, Ends rest → scanNumber readFloat (text ++ rest) = some (v, rest)) :
    Reads readFloat v := by
  intro raw h rest hrest fuel hfuel
  cases hdumps.symm.trans h
  obtain ⟨b, tail, rfl, hb⟩ := hstart
  obtain ⟨fuel, rfl⟩ := Nat.exists_eq_add_of_le' (Nat.le_trans (Nat.succ_pos _) hfuel)
  rw [List.cons_append, scanOnce_number hb, ← List.cons_append, hscan rest hrest, hcanon]

/-- The items behind the bracket are read one after the other. -/
theorem scanItems_append {xs : List Value} (hne : xs ≠ [])
    (hreads : ∀ x ∈ xs, Reads readFloat x) (hlawful : ∀ x ∈ xs, Lawful readFloat x)
    (hdumps : ∀ x ∈ xs, dumps x = .ok (encodingOf x)) (rest : Bytes) (fuel : Nat)
    (hfuel : (commaJoin (xs.map encodingOf)).length + 1 ≤ fuel) :
    scanItems readFloat fuel (commaJoin (xs.map encodingOf) ++ 93 :: rest) =
      some (xs.map canon, rest) := by
  induction xs generalizing fuel with
  | nil => exact absurd rfl hne
  | cons x xs ih =>
    obtain ⟨hx, hxs⟩ := List.forall_mem_cons.mp hreads
    obtain ⟨hdx, hdxs⟩ := List.forall_mem_cons.mp hdumps
    obtain ⟨fuel, rfl⟩ := Nat.exists_eq_add_of_le' (Nat.le_trans (Nat.succ_pos _) hfuel)
    cases xs with
    | nil =>
      rw [List.map_singleton, commaJoin] at hfuel ⊢
      rw [scanItems, hx _ hdx _ (ends_cons (by decide)) fuel (by omega)]
      rfl
    | cons y ys =>
      have hopens := ((opens_dumps (hdxs y List.mem_cons_self)
        (hlawful y (by simp))).commaJoin (ys.map encodingOf)).skipSpace (93 :: rest)
      simp only [List.map_cons, commaJoin_cons_cons, List.length_append, List.length_cons] at hfuel
      have hnext := ih (List.cons_ne_nil _ _) hxs
        (fun z hz => hlawful z (List.mem_cons_of_mem _ hz)) hdxs fuel (by
          rw [List.map_cons]
          omega)
      rw [List.map_cons] at hnext
      rw [List.map_cons, List.map_cons, commaJoin_cons_cons, List.append_assoc, List.cons_append,
        scanItems, hx _ hdx _ (ends_cons (by decide)) fuel (by omega)]
      simp only [Option.bind_eq_bind, Option.bind_some,
        skipSpace_cons (b := 44) rfl, hopens, hnext, Option.map_some, List.map_cons]

theorem reads_list {xs : List Value} (hreads : ∀ x ∈ xs, Reads readFloat x)
    (hlawful : ∀ x ∈ xs, Lawful readFloat x) : Reads readFloat (.list xs) := by
  intro raw h rest hrest fuel hfuel
  obtain ⟨hdumps, rfl⟩ := dumps_list_eq_ok.mp h
  simp only [List.length_cons, List.length_append, List.length_nil] at hfuel
  obtain ⟨fuel, rfl⟩ := Nat.exists_eq_add_of_le' (Nat.le_trans (Nat.succ_pos _) hfuel)
  rw [canon, canonList_eq]
  cases xs with
  | nil => rfl
  | cons x xs =>
    have hscan := scanItems_append (List.cons_ne_nil x xs) hreads hlawful hdumps rest fuel (by omega)
    obtain ⟨b, tail, hb, hspace, hclose⟩ := (opens_dumps (hdumps x List.mem_cons_self)
      (hlawful x List.mem_cons_self)).commaJoin (xs.map encodingOf)
    rw [← List.map_cons] at hb
    rw [List.cons_append, List.append_assoc, List.singleton_append, scanOnce, hb, List.cons_append,
      skipSpace_cons hspace]
    rw [hb, List.cons_append] at hscan
    split
    · next heq => exact absurd (List.cons.inj heq).1 hclose
    · rw [hscan]
      rfl

/-- The members of an encoded object, between its braces. -/
def membersText (kvs : List (String × Value)) : Bytes :=
  commaJoin (kvs.map fun kv => memberText (kv.1, encodingOf kv.2))

theorem memberText_append (k : String) (raw after : Bytes) :
    memberText (k, raw) ++ after =
      34 :: ((utf8 k).flatMap escapeByte ++ 34 :: 58 :: (raw ++ after)) := by
  simp [memberText, quote, byte]

/-- What follows the first member. -/
def afterMember (kvs : List (String × Value)) (rest : Bytes) : Bytes :=
  if kvs.isEmpty then 125 :: rest else 44 :: (membersText kvs ++ 125 :: rest)

theorem membersText_append (kv : String × Value) (kvs : List (String × Value)) (rest : Bytes) :
    membersText (kv :: kvs) ++ 125 :: rest =
      memberText (kv.1, encodingOf kv.2) ++ afterMember kvs rest := by
  cases kvs with
  | nil => rfl
  | cons kv' kvs =>
    show (_ ++ 44 :: membersText (kv' :: kvs)) ++ 125 :: rest = _
    rw [List.append_assoc, List.cons_append]
    rfl

/-- The members behind the quote of the first key are read one after the other. -/
theorem scanMembers_append {kvs : List (String × Value)} (hne : kvs ≠ [])
    (hreads : ∀ kv ∈ kvs, Reads readFloat kv.2) (hlawful : ∀ kv ∈ kvs, Lawful readFloat kv.2)
    (hdumps : ∀ kv ∈ kvs, dumps kv.2 = .ok (encodingOf kv.2)) (rest : Bytes) (fuel : Nat)
    (hfuel : (membersText kvs).length ≤ fuel) :
    ∃ body, membersText kvs ++ 125 :: rest = 34 :: body ∧ scanMembers readFloat fuel body =
      some (kvs.map fun kv => (kv.1, canon kv.2), rest) := by
  induction kvs generalizing fuel with
  | nil => exact absurd rfl hne
  | cons kv kvs ih =>
    obtain ⟨hkv, hkvs⟩ := List.forall_mem_cons.mp hreads
    obtain ⟨hdkv, hdkvs⟩ := List.forall_mem_cons.mp hdumps
    obtain ⟨hlkv, hlkvs⟩ := List.forall_mem_cons.mp hlawful
    have hlength := congrArg List.length (membersText_append kv kvs rest)
    rw [memberText_append] at hlength
    simp only [List.length_append, List.length_cons] at hlength
    rw [membersText_append, memberText_append]
    refine ⟨_, rfl, ?_⟩
    have hafter : Ends (afterMember kvs rest) := by
      unfold afterMember
      split <;> exact ends_cons (by decide)
    have hmore : kvs ≠ [] → (afterMember kvs rest).length =
        (membersText kvs).length + rest.length + 2 := by
      intro hkvs
      simp only [afterMember, List.isEmpty_eq_false_iff.mpr hkvs, Bool.false_eq_true, if_false,
        List.length_cons, List.length_append]
      omega
    have hone : rest.length + 1 ≤ (afterMember kvs rest).length := by
      unfold afterMember
      split
      · exact le_rfl
      · simp only [List.length_cons, List.length_append]
        omega
    obtain ⟨fuel, rfl⟩ := Nat.exists_eq_add_of_le' (m := 1) (n := fuel) (by omega)
    have hvalue := hkv _ hdkv _ hafter fuel (by omega)
    rw [scanMembers, scanString_quote]
    simp only [Option.bind_eq_bind, Option.bind_some, skipSpace_cons (b := 58) rfl,
      (opens_dumps hdkv hlkv).skipSpace, hvalue]
    cases kvs with
    | nil => rfl
    | cons kv' kvs =>
      obtain ⟨body, hbody, hscan⟩ := ih (List.cons_ne_nil _ _) hkvs hlkvs hdkvs fuel (by
        have hlong := hmore (List.cons_ne_nil _ _)
        omega)
      have hcomma : afterMember (kv' :: kvs) rest = 44 :: 34 :: body := by
        rw [← hbody]
        rfl
      simp only [hcomma, skipSpace_cons (b := 44) rfl, skipSpace_cons (b := 34) rfl, hscan,
        Option.map_some, List.map_cons]

theorem set_of_not_mem {α : Type} {d : List (String × α)} {kv : String × α}
    (h : kv.1 ∉ d.map Prod.fst) : Mapping.set d kv.1 kv.2 = d ++ [kv] := by
  induction d with
  | nil => rfl
  | cons item rest ih =>
    rw [List.map_cons, List.mem_cons, not_or] at h
    rw [Mapping.set, if_neg (Ne.symm h.1), ih h.2, List.cons_append]

/-- Members without a repeated key are set one after the other. -/
theorem foldl_set {α : Type} (members d : List (String × α))
    (h : ((d ++ members).map Prod.fst).Nodup) :
    members.foldl (fun d kv => Mapping.set d kv.1 kv.2) d = d ++ members := by
  induction members generalizing d with
  | nil => rw [List.foldl_nil, List.append_nil]
  | cons kv rest ih =>
    have hset : Mapping.set d kv.1 kv.2 = d ++ [kv] := by
      refine set_of_not_mem fun hmem => ?_
      rw [List.map_append, List.map_cons] at h
      exact (List.nodup_append.mp h).2.2 kv.1 hmem kv.1 List.mem_cons_self rfl
    rw [List.foldl_cons, hset, ih, List.append_assoc, List.singleton_append]
    rwa [List.append_assoc, List.singleton_append]

theorem reads_dict {kvs : List (String × Value)} (hreads : ∀ kv ∈ kvs, Reads readFloat kv.2)
    (hlawful : Lawful readFloat (.dict kvs)) : Reads readFloat (.dict kvs) := by
  intro raw h rest hrest fuel hfuel
  obtain ⟨hdumps, rfl⟩ := dumps_dict_eq_ok.mp h
  obtain ⟨hkeys, hlawful⟩ := lawful_dict.mp hlawful
  simp only [List.length_cons, List.length_append, List.length_nil] at hfuel
  obtain ⟨fuel, rfl⟩ := Nat.exists_eq_add_of_le' (Nat.le_trans (Nat.succ_pos _) hfuel)
  rw [canon, canonMembers_eq, sortFields_map]
  have hperm : (sortFields kvs).Perm kvs := sortedBy_perm _ kvs
  have hmem : ∀ kv ∈ sortFields kvs, kv ∈ kvs := fun kv hkv => hperm.mem_iff.mp hkv
  have hunique : (((sortFields kvs).map fun item => (item.1, canon item.2)).map
      Prod.fst).Nodup := by
    rw [List.map_map]
    exact (hperm.map Prod.fst).nodup_iff.mpr hkeys
  by_cases hne : sortFields kvs = []
  · rw [hne]
    rfl
  · obtain ⟨body, hbody, hscan⟩ := scanMembers_append hne (fun kv hkv => hreads kv (hmem kv hkv))
      (fun kv hkv => hlawful kv (hmem kv hkv)) (fun kv hkv => hdumps kv (hmem kv hkv)) rest fuel
      (by
        unfold membersText
        omega)
    have hfold := foldl_set ((sortFields kvs).map fun item => (item.1, canon item.2)) []
      (by rwa [List.nil_append])
    rw [List.cons_append, List.append_assoc, List.singleton_append]
    show scanOnce readFloat (fuel + 1) (123 :: (membersText (sortFields kvs) ++ 125 :: rest)) = _
    rw [hbody, scanOnce, skipSpace_cons (b := 34) rfl]
    simp only [hscan, Option.map_some, hfold, List.nil_append]

/-- **An encoded object is read back** in canonical form, whatever follows it. -/
theorem reads_of_lawful (v : Value) (h : Lawful readFloat v) : Reads readFloat v := by
  induction v using value_induction with
  | list xs ih =>
    have hxs := lawful_list.mp h
    exact reads_list (fun x hx => ih x hx (hxs x hx)) hxs
  | dict kvs ih => exact reads_dict (fun kv hkv => ih kv hkv ((lawful_dict.mp h).2 kv hkv)) h
  | atom v hlist hdict =>
    cases v with
    | list xs => exact absurd rfl (hlist xs)
    | dict kvs => exact absurd rfl (hdict kvs)
    | int n => exact reads_number rfl rfl (isNumberStart_int n) fun _ => scanNumber_int readFloat n
    | float q text =>
      refine reads_number rfl rfl (isNumberStart_float h.1) fun rest hrest => ?_
      rw [scanNumber_float readFloat h.1 hrest, h.2]
      rfl
    | object tag => nofun
    | none =>
      rintro _ ⟨⟩ rest - fuel hfuel
      obtain ⟨fuel, rfl⟩ := Nat.exists_eq_add_of_le' (Nat.le_trans (Nat.succ_pos _) hfuel)
      rfl
    | bool b =>
      intro raw hraw rest _ fuel hfuel
      cases b with
      | true =>
        cases hraw
        obtain ⟨fuel, rfl⟩ := Nat.exists_eq_add_of_le' (Nat.le_trans (Nat.succ_pos _) hfuel)
        rfl
      | false =>
        cases hraw
        obtain ⟨fuel, rfl⟩ := Nat.exists_eq_add_of_le' (Nat.le_trans (Nat.succ_pos _) hfuel)
        rfl
    | str s =>
      rintro _ ⟨⟩ rest - fuel hfuel
      obtain ⟨fuel, rfl⟩ := Nat.exists_eq_add_of_le' (Nat.le_trans (Nat.succ_pos _) hfuel)
      have hquote : quote s ++ rest = 34 :: ((utf8 s).flatMap escapeByte ++ 34 :: rest) := by
        simp [quote, byte]
      rw [hquote, scanOnce, scanString_quote]
      rfl

/-- **A line is read back** in canonical form. -/
theorem loads_line {record : Dict} {rendered : Bytes} (h : dumps (.dict record) = .ok rendered)
    (hlawful : Lawful readFloat (.dict record)) :
    loads readFloat (rendered ++ [10]) = some (canon (.dict record)) := by
  have hread := reads_of_lawful _ hlawful rendered h [10] (ends_cons (by decide))
    (rendered ++ [10]).length (by simp)
  rw [loads, (opens_dumps h hlawful).skipSpace, hread]
  rfl

end Reading

/-! ## Lines -/

/-- No byte of the text is a control character. -/
def Printable (raw : Bytes) : Prop := ∀ b ∈ raw, 32 ≤ b

theorem Printable.append {raw rest : Bytes} (h : Printable raw) (hrest : Printable rest) :
    Printable (raw ++ rest) := fun b hb => (List.mem_append.mp hb).elim (h b) (hrest b)

theorem Printable.cons {b : UInt8} {raw : Bytes} (hb : 32 ≤ b) (h : Printable raw) :
    Printable (b :: raw) := List.forall_mem_cons.mpr ⟨hb, h⟩

theorem printable_nil : Printable [] := nofun

theorem printable_hexDigit {b : UInt8} (hb : b < 32) :
    32 ≤ hexDigit (b / 16) ∧ 32 ≤ hexDigit (b % 16) := by
  refine forall_control (P := fun b => 32 ≤ hexDigit (b / 16) ∧ 32 ≤ hexDigit (b % 16)) ?_ hb
  decide

theorem printable_escapeByte (b : UInt8) : Printable (escapeByte b) := by
  have hshort : ∀ e : UInt8, 32 ≤ e → Printable [92, e] := fun e he =>
    .cons (by decide) (.cons he printable_nil)
  by_cases hspace : 32 ≤ b
  · by_cases hplain : b = 34 ∨ b = 92
    · rcases hplain with rfl | rfl
      · exact hshort 34 (by decide)
      · exact hshort 92 (by decide)
    · rw [not_or] at hplain
      have hescape : escapeByte b = [b] := by simp [escapeByte, hspace, byte, hplain]
      rw [hescape]
      exact .cons hspace printable_nil
  · have hlt : b < 32 := UInt8.not_le.mp hspace
    by_cases hnamed : b = 8 ∨ b = 9 ∨ b = 10 ∨ b = 12 ∨ b = 13
    · rcases hnamed with rfl | rfl | rfl | rfl | rfl
      · exact hshort 98 (by decide)
      · exact hshort 116 (by decide)
      · exact hshort 110 (by decide)
      · exact hshort 102 (by decide)
      · exact hshort 114 (by decide)
    · simp only [not_or] at hnamed
      rw [escapeByte_control hspace hnamed]
      have hdigits := printable_hexDigit hlt
      exact .cons (by decide) (.cons (by decide) (.cons (by decide) (.cons (by decide)
        (.cons hdigits.1 (.cons hdigits.2 printable_nil)))))

theorem printable_quote (s : String) : Printable (quote s) := by
  refine .cons (by decide) (.append ?_ (.cons (by decide) printable_nil))
  intro b hb
  obtain ⟨c, -, hc⟩ := List.mem_flatMap.mp hb
  exact printable_escapeByte c b hc

theorem printable_commaJoin {parts : List Bytes} (h : ∀ p ∈ parts, Printable p) :
    Printable (commaJoin parts) := by
  induction parts with
  | nil => exact printable_nil
  | cons p rest ih =>
    obtain ⟨hp, hrest⟩ := List.forall_mem_cons.mp h
    cases rest with
    | nil => exact hp
    | cons q rest => exact hp.append (.cons (by decide) (ih hrest))

theorem IsDigits.printable {ds : Bytes} (h : ∀ d ∈ ds, isDigit d = true) : Printable ds := by
  intro d hd
  have hdigit := h d hd
  simp only [isDigit, Bool.and_eq_true, decide_eq_true_eq] at hdigit
  exact UInt8.le_trans (by decide) hdigit.1

theorem IsIntPart.printable {digits : Bytes} (h : IsIntPart digits) : Printable digits := by
  rcases h with rfl | ⟨hds, -⟩
  · exact .cons (by decide) printable_nil
  · exact IsDigits.printable hds.digits

theorem printable_minusOf (minus : Bool) : Printable (minusOf minus) := by
  cases minus
  · exact printable_nil
  · exact .cons (by decide) printable_nil

theorem IsFloatText.printable {text : Bytes} (h : IsFloatText text) : Printable text := by
  obtain ⟨minus, digits, fraction, exponent, rfl, hdigits, hfraction, hexponent, -⟩ := h
  refine (printable_minusOf minus).append (hdigits.printable.append (.append ?_ ?_))
  · rcases hfraction with rfl | ⟨ds, hds, rfl⟩
    · exact printable_nil
    · exact .cons (by decide) (IsDigits.printable hds.digits)
  · rcases hexponent with rfl | ⟨sign, ds, hsign, hds, rfl⟩
    · exact printable_nil
    · refine .append (.cons (by decide) ?_) (IsDigits.printable hds.digits)
      rcases hsign with rfl | rfl | rfl
      · exact printable_nil
      · exact .cons (by decide) printable_nil
      · exact .cons (by decide) printable_nil

/-- An encoding is printable, so that no line ends inside it. -/
theorem printable_dumps {readFloat : ReadFloat} (v : Value) (h : Lawful readFloat v) :
    ∀ raw, dumps v = .ok raw → Printable raw := by
  induction v using value_induction with
  | list xs ih =>
    intro raw hraw
    obtain ⟨hdumps, rfl⟩ := dumps_list_eq_ok.mp hraw
    refine .cons (by decide) ((printable_commaJoin ?_).append (.cons (by decide) printable_nil))
    intro p hp
    obtain ⟨x, hx, rfl⟩ := List.mem_map.mp hp
    exact ih x hx (lawful_list.mp h x hx) _ (hdumps x hx)
  | dict kvs ih =>
    intro raw hraw
    obtain ⟨hdumps, rfl⟩ := dumps_dict_eq_ok.mp hraw
    refine .cons (by decide) ((printable_commaJoin ?_).append (.cons (by decide) printable_nil))
    intro p hp
    obtain ⟨kv, hkv, rfl⟩ := List.mem_map.mp hp
    have hmem : kv ∈ kvs := (mem_sortedBy _).mp hkv
    exact (printable_quote kv.1).append
      (.cons (by decide) (ih kv hmem ((lawful_dict.mp h).2 kv hmem) _ (hdumps kv hmem)))
  | atom v hlist hdict =>
    rintro raw hraw
    cases v with
    | list xs => exact absurd rfl (hlist xs)
    | dict kvs => exact absurd rfl (hdict kvs)
    | none =>
      cases hraw
      have hword : utf8 "null" = [110, 117, 108, 108] := by decide
      show ∀ b ∈ utf8 "null", 32 ≤ b
      simp [hword]
    | bool b =>
      cases b with
      | true =>
        cases hraw
        have hword : utf8 "true" = [116, 114, 117, 101] := by decide
        show ∀ b ∈ utf8 "true", 32 ≤ b
        simp [hword]
      | false =>
        cases hraw
        have hword : utf8 "false" = [102, 97, 108, 115, 101] := by decide
        show ∀ b ∈ utf8 "false", 32 ≤ b
        simp [hword]
    | int n =>
      cases hraw
      rw [utf8_int]
      exact (printable_minusOf _).append (isIntPart_repr _).printable
    | float q text =>
      cases hraw
      exact h.1.printable
    | str s =>
      cases hraw
      exact printable_quote s
    | object tag => cases hraw

/-- A printable text ends where its line ends. -/
theorem linesFrom_append {raw : Bytes} (h : Printable raw) (line rest : Bytes) :
    linesFrom line (raw ++ 10 :: rest) = (line ++ raw ++ [10]) :: linesFrom [] rest := by
  induction raw generalizing line with
  | nil =>
    rw [List.nil_append, List.append_nil, linesFrom]
    · rfl
    · nofun
  | cons b raw ih =>
    obtain ⟨hb, hraw⟩ := List.forall_mem_cons.mp h
    have hfeed : b ≠ 10 := by
      rintro rfl
      exact absurd hb (by decide)
    have hreturn : b ≠ 13 := by
      rintro rfl
      exact absurd hb (by decide)
    rw [List.cons_append, linesFrom, if_neg (by simp [hfeed, hreturn]), ih hraw, List.append_assoc,
      List.append_assoc, List.singleton_append, List.append_assoc]
    · rfl
    · intro _ heq
      exact absurd heq hreturn

/-- A file of printable lines is read line by line. -/
theorem linesOf_flatMap {lines : List Bytes} (h : ∀ line ∈ lines, Printable line) :
    linesOf (lines.flatMap fun line => line ++ [10]) = lines.map fun line => line ++ [10] := by
  induction lines with
  | nil => rfl
  | cons line rest ih =>
    obtain ⟨hline, hrest⟩ := List.forall_mem_cons.mp h
    have htail := ih hrest
    rw [linesOf] at htail ⊢
    rw [List.flatMap_cons, List.append_assoc, List.singleton_append, linesFrom_append hline, htail]
    rfl

end LifecycleProfiler.Python.Json
