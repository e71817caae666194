import LifecycleProfiler.Protocol.Scoped
import LifecycleProfiler.Protocol.Profile

/-! # The checks of a base event ID

The endpoints of a base edge, the rows of the profile and `BaseEventRef` each
check the ID of a base event. All three match one pattern; only the base
protocol also bounds the number behind it. -/

namespace LifecycleProfiler
open Python Protocol

/-- `_require_event_id` of the profile protocol. -/
def Protocol.requireEventId (value : Value) (fieldName : String) : Except PyError String :=
  match value with
  | .str s =>
    if isEventId s then .ok s
    else .error (.valueError s!"{fieldName} must be a canonical base event ID")
  | _ => .error (.valueError s!"{fieldName} must be a canonical base event ID")

/-- `_require_event_id` of the runtime adapter. -/
def Runtime.requireEventId (value : Value) (fieldName : String) : Except PyError String :=
  match value with
  | .str s =>
    if isEventId s then .ok s
    else .error (.valueError s!"{fieldName} must be a canonical base event ID")
  | _ => .error (.valueError s!"{fieldName} must be a canonical base event ID")

/-- The check of an endpoint in `build_edge_record`. -/
def Protocol.validateEndpoint (fieldName value : String) : Except PyError Unit :=
  validateDecimalId fieldName value 'e' "event" 55 uint64Max

namespace Protocol

theorem length_of_isDecimalSuffix {bs : Bytes} (h : isDecimalSuffix bs = true) :
    bs.length ≤ 20 := by
  cases bs with
  | nil => cases h
  | cons b rest =>
    simp only [isDecimalSuffix, Bool.or_eq_true, Bool.and_eq_true, List.isEmpty_iff,
      decide_eq_true_eq] at h
    rcases h with ⟨-, rfl⟩ | h
    · rw [List.length_singleton]
      decide
    · simp only [List.length_cons]
      omega

/-- The pattern bounds the bytes of an identifier. -/
theorem utf8ByteSize_of_isScopedId {kind : Char} {s : String} (h : isScopedId kind s = true) :
    s.utf8ByteSize ≤ 55 := by
  simp only [isScopedId, Bool.and_eq_true] at h
  have hsuffix := length_of_isDecimalSuffix h.2
  rw [List.length_drop] at hsuffix
  rw [utf8ByteSize_eq]
  omega

theorem validateEndpoint_eq_ok {fieldName value : String} :
    validateEndpoint fieldName value = .ok () ↔
      isEventId value = true ∧ decimalSuffix value ≤ uint64Max := by
  unfold validateEndpoint validateDecimalId
  simp only [bind_eq_ok, raiseIf_eq_ok, exists_unit, Bool.not_eq_false', decide_eq_false_iff_not,
    not_lt, requireUint_nat]
  exact ⟨fun h => ⟨h.1, h.2.2⟩, fun h => ⟨h.1, utf8ByteSize_of_isScopedId h.1, h.2⟩⟩

theorem requireEventId_eq_ok {s fieldName : String} :
    requireEventId (.str s) fieldName = .ok s ↔ isEventId s = true := by
  unfold requireEventId
  by_cases h : isEventId s = true
  · simp only [h, if_true]
  · simp only [h, Bool.false_eq_true, if_false, reduceCtorEq]

end Protocol

theorem Runtime.requireEventId_eq (value : Value) (fieldName : String) :
    Runtime.requireEventId value fieldName = Protocol.requireEventId value fieldName := rfl

/-- The three checks give one verdict about the text. -/
structure Protocol.ChecksAgree (s : String) : Prop where
  endpoint : ∀ fieldName fieldName', validateEndpoint fieldName s = .ok () ↔
    Protocol.requireEventId (.str s) fieldName' = .ok s
  adapter : ∀ fieldName fieldName', Protocol.requireEventId (.str s) fieldName = .ok s ↔
    Runtime.requireEventId (.str s) fieldName' = .ok s

/-- **Event IDs.** The checks agree on every text but the IDs whose number is
beyond a uint64. -/
theorem Protocol.event_id_checks_agree_iff (s : String) :
    ChecksAgree s ↔ ¬ (isEventId s = true ∧ uint64Max < decimalSuffix s) := by
  constructor
  · rintro hagree ⟨hid, hlarge⟩
    have hendpoint := (hagree.endpoint "" "").mpr (requireEventId_eq_ok.mpr hid)
    exact absurd (validateEndpoint_eq_ok.mp hendpoint).2 (Nat.not_le_of_lt hlarge)
  · intro hbound
    refine ⟨fun fieldName fieldName' => ?_, fun fieldName fieldName' => ?_⟩
    · rw [validateEndpoint_eq_ok, requireEventId_eq_ok]
      exact ⟨fun h => h.1, fun h => ⟨h, Nat.le_of_not_lt fun hlarge => hbound ⟨h, hlarge⟩⟩⟩
    · rw [Runtime.requireEventId_eq, requireEventId_eq_ok, requireEventId_eq_ok]

/-- Twenty nines match the pattern and are no uint64. -/
theorem Protocol.large_event_id_split :
    ¬ ∀ s, ChecksAgree s := by
  intro hclaim
  have hagree := hclaim "0a0a0a0a0a0a0a0a0a0a0a0a0a0a0a0a:e:99999999999999999999"
  have hendpoint := (hagree.endpoint "" "").mpr (requireEventId_eq_ok.mpr (by decide))
  exact absurd (validateEndpoint_eq_ok.mp hendpoint).2 (by decide)

end LifecycleProfiler
