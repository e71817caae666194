import LifecycleProfiler.Protocol.Profile
import LifecycleProfiler.Python.Encoding

/-! # The length of a line

No line is longer than a record may be, and the line of a loss interval takes
at most half of that: its texts are fixed but for the process, its numbers have
at most twenty digits. -/

namespace LifecycleProfiler.Protocol
open Python

/-- A line one of the two encoders has returned. -/
def IsLine (raw : Bytes) : Prop :=
  ∃ record, canonicalJsonLine record = .ok raw ∨ profileRecordLine record = .ok raw

theorem canonicalJsonLine_eq_ok {record : Dict} {raw : Bytes} :
    canonicalJsonLine record = .ok raw ↔ ∃ rendered, Json.dumps (.dict record) = .ok rendered ∧
      raw = rendered ++ [byte '\n'] ∧ raw.length ≤ maxRecordBytes := by
  unfold canonicalJsonLine
  constructor
  · intro h
    split at h
    · cases h
    · next rendered hrendered =>
      simp only [bind_eq_ok, raiseIf_eq_ok, pure_eq_ok, exists_const, decide_eq_false_iff_not,
        not_lt] at h
      obtain ⟨hlength, rfl⟩ := h
      exact ⟨rendered, hrendered, rfl, hlength⟩
  · rintro ⟨rendered, hrendered, rfl, hlength⟩
    rw [hrendered]
    simpa using hlength

theorem profileRecordLine_eq_ok {record : Dict} {raw : Bytes} :
    profileRecordLine record = .ok raw ↔
      canonicalJsonLine record = .ok raw ∧ raw.length ≤ maxProfileRecordBytes := by
  unfold profileRecordLine
  simp only [bind_eq_ok, raiseIf_eq_ok, pure_eq_ok, exists_const, decide_eq_false_iff_not, not_lt]
  constructor
  · rintro ⟨line, hline, hlength, rfl⟩
    exact ⟨hline, hlength⟩
  · rintro ⟨hline, hlength⟩
    exact ⟨raw, hline, hlength, rfl⟩

theorem IsLine.length {raw : Bytes} (h : IsLine raw) : raw.length ≤ maxRecordBytes := by
  obtain ⟨record, h | h⟩ := h
  · exact (canonicalJsonLine_eq_ok.mp h).choose_spec.2.2
  · exact (canonicalJsonLine_eq_ok.mp (profileRecordLine_eq_ok.mp h).1).choose_spec.2.2

/-- The line of a loss interval takes half of what a record may. -/
def maxLossBytes : Nat := 2048

/-- What a value of a loss interval takes. -/
def lossWeight : Value → Nat
  | .int _ => 20
  | .str s => (Json.quote s).length
  | _ => 0

theorem length_dumps_int {n : Nat} {raw : Bytes} (hn : n ≤ uint64Max + 1)
    (h : Json.dumps (.int n) = .ok raw) : raw.length ≤ 20 := by
  simp only [Json.dumps, Except.ok.injEq] at h
  rw [← h]
  exact length_utf8_repr (Nat.lt_of_le_of_lt hn (by decide))

theorem length_dumps_str {s : String} {raw : Bytes} (h : Json.dumps (.str s) = .ok raw) :
    raw.length ≤ (Json.quote s).length := by
  simp only [Json.dumps, Except.ok.injEq] at h
  rw [← h]

theorem length_quote_hex {s : String} (h : isHex 32 s = true) : (Json.quote s).length ≤ 194 := by
  have hlength : (utf8 s).length = 32 := by
    simp only [isHex, isHexBytes, Bool.and_eq_true, beq_iff_eq] at h
    exact h.1
  have hquote := Json.length_quote s
  omega

theorem length_quote_scopedId {owner : String} {seq : Nat} (h : isHex 32 owner = true)
    (hseq : seq ≤ uint64Max) : (Json.quote (scopedId owner "l" seq)).length ≤ 332 := by
  have hlength : (utf8 owner).length = 32 := by
    simp only [isHex, isHexBytes, Bool.and_eq_true, beq_iff_eq] at h
    exact h.1
  have hdigits : (utf8 seq.repr).length ≤ 20 :=
    length_utf8_repr (Nat.lt_of_le_of_lt hseq (by decide))
  have hquote := Json.length_quote (scopedId owner "l" seq)
  have hparts : (utf8 (scopedId owner "l" seq)).length = 35 + (utf8 seq.repr).length := by
    have hkind : (utf8 ":").length + (utf8 "l").length + (utf8 ":").length = 3 := by decide
    have hid : scopedId owner "l" seq = owner ++ ":" ++ "l" ++ ":" ++ seq.repr := rfl
    rw [hid]
    simp only [utf8_append, List.length_append]
    omega
  omega

theorem requireHex32_eq_ok {fieldName value : String} {u : Unit} :
    requireHex32 fieldName value = .ok u ↔ isHex 32 value = true := by
  simp [requireHex32]

theorem requireUint_nat {fieldName : String} {n maximum : Nat} {u : Unit} :
    requireUint fieldName (.int n) maximum = .ok u ↔ n ≤ maximum := by
  simp [requireUint]

theorem checkHex_eq_ok {value fieldName : String} {length : Nat} {u : Unit} :
    checkHex value length fieldName = .ok u ↔ isHex length value = true := by
  simp [checkHex]

theorem checkUint_nat {fieldName : String} {n maximum : Nat} {u : Unit} :
    checkUint (.int n) maximum fieldName = .ok u ↔ n ≤ maximum := by
  simp [checkUint, asUint]

theorem length_wire (reason : LossReason) : (Json.quote reason.wire).length ≤ 100 := by
  cases reason <;> decide

/-- The sums of a flat loss record, from a bound on its keys. -/
theorem length_lossLine {record : Dict} {raw : Bytes} (hraw : canonicalJsonLine record = .ok raw)
    (hkeys : ∀ kv ∈ record, (Json.quote kv.1).length ≤ 40)
    (hvalues : ∀ kv ∈ record, ∀ bs, Json.dumps kv.2 = .ok bs → bs.length ≤ lossWeight kv.2) :
    raw.length ≤ 3 + 42 * record.length + (record.map fun kv => lossWeight kv.2).sum := by
  obtain ⟨rendered, hrendered, rfl, -⟩ := canonicalJsonLine_eq_ok.mp hraw
  have hlength := Json.length_dumps_dict hrendered hvalues
  have hsum : (record.map fun kv => (Json.quote kv.1).length + lossWeight kv.2 + 2).sum ≤
      42 * record.length + (record.map fun kv => lossWeight kv.2).sum := by
    clear hlength hrendered hraw hvalues
    induction record with
    | nil => exact Nat.le_refl 0
    | cons kv rest ih =>
      have hrest := ih fun kv hkv => hkeys kv (List.mem_cons_of_mem _ hkv)
      have hkey := hkeys kv List.mem_cons_self
      simp only [List.map_cons, List.sum_cons, List.length_cons]
      omega
  simp only [List.length_append, List.length_cons, List.length_nil]
  omega

theorem length_baseLossLine {processUuid : String} {lossSeq first last events edges : Nat}
    {firstNs lastNs : Nat} {reason : LossReason} {record : Dict} {raw : Bytes}
    (h : buildLossIntervalRecord processUuid lossSeq reason first last events edges firstNs
      lastNs = .ok record) (hraw : canonicalJsonLine record = .ok raw) :
    raw.length ≤ maxLossBytes := by
  unfold buildLossIntervalRecord at h
  simp only [bind_eq_ok, exists_unit, requireHex32_eq_ok, requireUint_nat, raiseIf_eq_ok,
    pure_eq_ok] at h
  obtain ⟨huuid, hseq, hfirst, hlast, hevents, hedges, hfirstNs, hlastNs, hcount, -, -, -, rfl⟩ := h
  have hlength := length_lossLine hraw
    (by
      simp only [List.forall_mem_cons]
      decide)
    (by
      simp only [List.forall_mem_cons, List.not_mem_nil, false_implies, implies_true, and_true]
      refine ⟨?_, ?_, ?_, ?_, ?_, ?_, ?_, ?_, ?_, ?_, ?_, ?_, ?_⟩
      all_goals first
        | exact fun _ => length_dumps_int (by omega)
        | exact fun _ => length_dumps_str)
  have hschema : (Json.quote schemaVersion).length = 20 := by decide
  have htype : (Json.quote "loss_interval").length = 15 := by decide
  have hprocess := length_quote_hex huuid
  have hid := length_quote_scopedId huuid hseq
  have hreason := length_wire reason
  simp only [List.map_cons, List.map_nil, List.sum_cons, List.sum_nil, List.length_cons,
    List.length_nil, lossWeight] at hlength
  unfold maxLossBytes
  omega

theorem length_profileLossLine {processUuid : String} {lossSeq first last firstNs lastNs : Nat}
    {counts : ProfileRecordType → Nat} {reason : LossReason} {record : Dict} {raw : Bytes}
    (h : buildProfileLossIntervalRecord processUuid lossSeq reason first last counts firstNs
      lastNs = .ok record) (hraw : profileRecordLine record = .ok raw) :
    raw.length ≤ maxLossBytes := by
  unfold buildProfileLossIntervalRecord at h
  simp only [bind_eq_ok, exists_const, raiseIf_eq_ok, pure_eq_ok, forEach_eq_ok, checkHex_eq_ok,
    checkUint_nat, List.forall_mem_cons, List.not_mem_nil, false_implies,
    implies_true, and_true] at h
  obtain ⟨⟨hblock, hrecovery, htransfer, hwait⟩, hfirst, hlast, -, huuid, hseq, hfirstNs, hlastNs,
    -, -, rfl⟩ := h
  have hlength := length_lossLine (profileRecordLine_eq_ok.mp hraw).1
    (by
      simp only [List.forall_mem_cons]
      decide)
    (by
      simp only [List.forall_mem_cons, List.not_mem_nil, false_implies, implies_true, and_true]
      refine ⟨?_, ?_, ?_, ?_, ?_, ?_, ?_, ?_, ?_, ?_, ?_, ?_, ?_, ?_, ?_, ?_⟩
      all_goals first
        | exact fun _ => length_dumps_int (by omega)
        | exact fun _ => length_dumps_str)
  have hschema : (Json.quote profileId).length = 26 := by decide
  have htype : (Json.quote "loss_interval").length = 15 := by decide
  have hprocess := length_quote_hex huuid
  have hid := length_quote_scopedId huuid hseq
  have hreason := length_wire reason
  simp only [List.map_cons, List.map_nil, List.sum_cons, List.sum_nil, List.length_cons,
    List.length_nil, lossWeight] at hlength
  unfold maxLossBytes
  omega

end LifecycleProfiler.Protocol
