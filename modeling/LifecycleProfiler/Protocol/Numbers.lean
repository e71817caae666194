import LifecycleProfiler.Protocol.Fits
import LifecycleProfiler.Protocol.Profile

/-! # Numbers on the wire

The contract types the numeric fields and metadata keys as unsigned integers.
Most checks test the type; those that compare with a constant let `False` pass
for zero and `True` for one, and some keys no check of the record looks at. -/

namespace LifecycleProfiler.Protocol
open Python

/-- `None`, or an integer of the unsigned domain that is no Boolean. -/
def isNumber (maximum : Nat) (v : Value) : Bool := v.isNone || (asUint maximum v).isSome

theorem isNumber_iff {maximum : Nat} {v : Value} :
    isNumber maximum v = true ↔ v = .none ∨ ∃ n : Nat, v = .int n ∧ n ≤ maximum := by
  rw [isNumber, Bool.or_eq_true, Value.isNone_iff, Option.isSome_iff_exists]
  simp only [asUint_eq_some]

theorem isNumber_nat {maximum n : Nat} (h : n ≤ maximum) : isNumber maximum (.int n) = true :=
  isNumber_iff.mpr (.inr ⟨n, rfl, h⟩)

/-! ## Events -/

/-- The numeric fields of an event record. -/
def eventNumberFields : List (String × Nat) :=
  [("record_seq", uint64Max), ("timestamp_ns", uint64Max), ("preemption_epoch", uint32Max),
   ("sample_index", uint32Max), ("handoff_index", uint32Max), ("chunk_index", uint32Max)]

/-- The token, chunk, sampling and count keys of the metadata, and those of the
resource and transfer events. -/
def metadataNumberKeys : List String :=
  ["sampling_n", "prompt_count", "prompt_tokens_total", "prompt_tokens_cached",
   "prompt_tokens_to_compute", "prompt_tokens_computed", "prefill_chunk_count",
   "cache_block_size_tokens", "generated_tokens_total", "prompt_tokens", "output_tokens",
   "sequence_tokens", "kv_blocks", "num_preemptions", "resource_units", "rank", "world_size",
   "bytes_moved"]

/-- `record["metadata"]` -/
def metadataOf (record : Dict) : Dict :=
  match record.get "metadata" with
  | .dict items => items
  | _ => []

/-- Every number of an event record is one. -/
structure EventNumbers (record : Dict) : Prop where
  fields : ∀ field ∈ eventNumberFields, isNumber field.2 (record.get field.1) = true
  metadata : ∀ key ∈ metadataNumberKeys, isNumber uint64Max ((metadataOf record).get key) = true

/-- The keys of a native observation that hold a number. -/
def nativeNumbers (expected : List String) : List String :=
  expected.filter fun key => !(["runtime_request_id", "session_present", "kv_reclaim_deferred",
    "finished_reason", "reclaim_path"].contains key)

/-- The number keys whose type the checks of an event test. -/
def checkedKeys (draft : EventDraft) : List String :=
  (nativeEventKeys draft.eventName).toList.flatMap nativeNumbers ++
  (if draft.scope == "root_request" && draft.eventName == "received" then
    ["cache_block_size_tokens"] else []) ++
  (if ["scheduled", "resumed"].contains draft.eventName then
    ["prompt_tokens_total", "prompt_tokens_cached", "prompt_tokens_to_compute"] else []) ++
  (if ["prefill_done", "preempted"].contains draft.eventName then
    ["prompt_tokens_computed", "prefill_chunk_count"] else []) ++
  (if draft.eventName == "generation_done" then ["generated_tokens_total"] else []) ++
  (if draft.eventName == "communication_done" then ["bytes_moved"] else [])

/-- The Boolean that passes for the constant a check compares a key with: the
rank of a communication, the units of a resource, and the two counts of a
received request. -/
def passing (draft : EventDraft) (key : String) : Option Bool :=
  if startsWith draft.eventName "communication_" && key == "rank" then some false
  else if startsWith draft.eventName "resource_" && key == "resource_units" then some true
  else if draft.scope == "root_request" && draft.eventName == "received" &&
    (key == "sampling_n" || key == "prompt_count") then some true
  else none

/-- The metadata holds a Boolean, or a text, under a number key where the checks
of the event let it pass. -/
def EventDraft.Slips (draft : EventDraft) : Prop :=
  ∃ key ∈ metadataNumberKeys, key ∉ checkedKeys draft ∧
    match passing draft key with
    | some b => (draft.metadata.getD []).get key = .bool b
    | none => isBool ((draft.metadata.getD []).get key) ∨ ((draft.metadata.getD []).get key).isStr

/-! ### What the checks say of the numbers -/

theorem mem_of_lookup {d : Dict} {key : String} {v : Value} (h : d.lookup key = some v) :
    (key, v) ∈ d := by
  induction d with
  | nil => cases h
  | cons item rest ih =>
    obtain ⟨k, w⟩ := item
    rw [List.lookup_cons] at h
    split at h
    · next hk =>
      obtain rfl := Option.some.inj h
      obtain rfl := eq_of_beq hk
      exact List.mem_cons_self
    · exact List.mem_cons_of_mem _ (ih h)

/-- A metadata value is absent, a Boolean, a number or a text. -/
theorem metadata_value {metadata : Option Dict} {items : Dict}
    (h : validateMetadata metadata = .ok items) (key : String) :
    items = metadata.getD [] ∧ (isNumber uint64Max (items.get key) = true ∨
      isBool (items.get key) = true ∨ (items.get key).isStr = true) := by
  cases metadata with
  | none =>
    obtain rfl : [] = items := Except.ok.inj h
    exact ⟨rfl, .inl rfl⟩
  | some given =>
    simp only [validateMetadata, bind_eq_ok, exists_unit, raiseIf_eq_ok, pure_eq_ok] at h
    obtain ⟨hitems, -, -, -, rfl⟩ := h
    refine ⟨rfl, ?_⟩
    cases hlookup : given.lookup key with
    | none =>
      rw [Dict.get, hlookup]
      exact .inl rfl
    | some v =>
      have hitem := forEach_eq_ok.mp hitems _ (mem_of_lookup hlookup)
      simp only [validateMetadataItem, bind_eq_ok, exists_unit] at hitem
      obtain ⟨-, -, hvalue⟩ := hitem
      rw [Dict.get, hlookup, Option.getD_some]
      cases v with
      | none => exact .inl rfl
      | bool b => exact .inr (.inl rfl)
      | int n =>
        obtain ⟨m, hm, hle⟩ := requireUint_eq_ok.mp hvalue
        exact .inl (isNumber_iff.mpr (.inr ⟨m, hm, hle⟩))
      | str s => exact .inr (.inr rfl)
      | float _ _ | list _ | dict _ | object _ => cases hvalue

theorem number_of_required {metadata : Dict} {key : String} {n : Nat}
    (h : requiredMetadataUint metadata key = .ok n) :
    isNumber uint64Max (metadata.get key) = true := by
  unfold requiredMetadataUint at h
  split at h
  · next m hm =>
    rw [bind_eq_ok] at h
    obtain ⟨_, hrange, -⟩ := h
    rw [hm]
    obtain ⟨k, hk, hle⟩ := requireUint_eq_ok.mp hrange
    exact isNumber_iff.mpr (.inr ⟨k, hk, hle⟩)
  · cases h

/-- A guarded statement and what follows it. -/
theorem guarded {c : Prop} [Decidable c] {x k : Except PyError Unit}
    (h : (if c then (x >>= fun _ => k) else k) = .ok ()) : (c → x = .ok ()) ∧ k = .ok () := by
  split at h
  · rw [bind_eq_ok, exists_unit] at h
    exact ⟨fun _ => h.1, h.2⟩
  · next hc => exact ⟨fun h => absurd h hc, h⟩

/-- A guarded block and what follows it. -/
theorem guarded_block {c P : Prop} [Decidable c] {k : Except PyError Unit}
    {block : Except PyError Unit → Except PyError Unit}
    (hblock : ∀ k, block k = .ok () → P ∧ k = .ok ())
    (h : (if c then block k else k) = .ok ()) : (c → P) ∧ k = .ok () := by
  split at h
  · exact ⟨fun _ => (hblock k h).1, (hblock k h).2⟩
  · next hc => exact ⟨fun h => absurd h hc, h⟩

theorem prompt_block {items : Dict} (k : Except PyError Unit)
    (h : (do
      let total ← requiredMetadataUint items "prompt_tokens_total"
      let cached ← requiredMetadataUint items "prompt_tokens_cached"
      let toCompute ← requiredMetadataUint items "prompt_tokens_to_compute"
      raiseIf (total < 1 || total ≤ cached || toCompute + cached != total)
        "prompt token counters do not reconcile"
      k) = .ok ()) :
    (∀ key ∈ ["prompt_tokens_total", "prompt_tokens_cached", "prompt_tokens_to_compute"],
      isNumber uint64Max (items.get key) = true) ∧ k = .ok () := by
  simp only [bind_eq_ok, exists_unit] at h
  obtain ⟨total, htotal, cached, hcached, toCompute, htoCompute, -, hk⟩ := h
  refine ⟨fun key hkey => ?_, hk⟩
  simp only [List.mem_cons, List.not_mem_nil, or_false] at hkey
  rcases hkey with rfl | rfl | rfl
  · exact number_of_required htotal
  · exact number_of_required hcached
  · exact number_of_required htoCompute

theorem computed_block {items : Dict} (k : Except PyError Unit)
    (h : (do
      let _ ← requiredMetadataUint items "prompt_tokens_computed"
      let chunks ← requiredMetadataUint items "prefill_chunk_count"
      raiseIf (chunks < 1) "prefill_chunk_count must be positive"
      k) = .ok ()) :
    (∀ key ∈ ["prompt_tokens_computed", "prefill_chunk_count"],
      isNumber uint64Max (items.get key) = true) ∧ k = .ok () := by
  simp only [bind_eq_ok, exists_unit] at h
  obtain ⟨computed, hcomputed, chunks, hchunks, -, hk⟩ := h
  refine ⟨fun key hkey => ?_, hk⟩
  simp only [List.mem_cons, List.not_mem_nil, or_false] at hkey
  rcases hkey with rfl | rfl
  · exact number_of_required hcomputed
  · exact number_of_required hchunks

/-- What accepted metadata has passed, as far as its numbers go. -/
structure CheckedNumbers (draft : EventDraft) (items : Dict) : Prop where
  resource : startsWith draft.eventName "resource_" = true →
    validateResourceMetadata draft items = .ok ()
  native : ∀ expected ∈ (nativeEventKeys draft.eventName).toList,
    validateNativeMetadata draft items expected = .ok ()
  received : (draft.scope == "root_request" && draft.eventName == "received") = true →
    validateReceivedMetadata items = .ok ()
  prompt : ["scheduled", "resumed"].contains draft.eventName = true →
    ∀ key ∈ ["prompt_tokens_total", "prompt_tokens_cached", "prompt_tokens_to_compute"],
      isNumber uint64Max (items.get key) = true
  computed : ["prefill_done", "preempted"].contains draft.eventName = true →
    ∀ key ∈ ["prompt_tokens_computed", "prefill_chunk_count"],
      isNumber uint64Max (items.get key) = true
  generated : (draft.eventName == "generation_done") = true →
    isNumber uint64Max (items.get "generated_tokens_total") = true

theorem checked_of_validate {draft : EventDraft} {items : Dict}
    (h : validateEventMetadata draft items = .ok ()) : CheckedNumbers draft items := by
  unfold validateEventMetadata at h
  dsimp only at h
  obtain ⟨hresource, h⟩ := guarded h
  rw [bind_eq_ok, exists_unit] at h
  obtain ⟨hnative, h⟩ := h
  obtain ⟨hreceived, h⟩ := guarded h
  simp only [bind_eq_ok, exists_unit] at h
  obtain ⟨-, -, h⟩ := h
  obtain ⟨hprompt, h⟩ := guarded_block prompt_block h
  obtain ⟨hcomputed, h⟩ := guarded_block computed_block h
  refine ⟨hresource, forEach_eq_ok.mp hnative, hreceived, hprompt, hcomputed, fun hgenerated => ?_⟩
  rw [if_pos hgenerated] at h
  simp only [bind_eq_ok] at h
  obtain ⟨n, hn, -⟩ := h
  exact number_of_required hn

theorem metadata_of_validate {draft : EventDraft} {processUuid communicationMode : String}
    {timestampNs : Value}
    (h : validateEventDraft draft processUuid timestampNs communicationMode = .ok ()) :
    ∃ items, validateMetadata draft.metadata = .ok items ∧
      validateEventMetadata draft items = .ok () ∧
      (startsWith draft.eventName "communication_" = true →
        validateKvRecoveryCommunicationMetadata draft items = .ok ()) := by
  unfold validateEventDraft at h
  simp only [bind_eq_ok, exists_unit] at h
  obtain ⟨-, -, -, -, -, -, -, -, -, -, -, -, -, h⟩ := h
  have hlast : ∀ {items : Dict}, (if startsWith draft.eventName "communication_" = true then
      validateKvRecoveryCommunicationMetadata draft items else pure ()) = .ok () →
      startsWith draft.eventName "communication_" = true →
        validateKvRecoveryCommunicationMetadata draft items = .ok () := by
    intro items h hcommunication
    rwa [if_pos hcommunication] at h
  by_cases hengine : (draft.scope == "engine_sample") = true
  · simp only [if_pos hengine, bind_eq_ok, exists_unit] at h
    obtain ⟨-, -, -, items, hitems, hchecks, h⟩ := h
    exact ⟨items, hitems, hchecks, hlast h⟩
  · simp only [if_neg hengine, bind_eq_ok, exists_unit] at h
    obtain ⟨-, -, -, items, hitems, hchecks, h⟩ := h
    exact ⟨items, hitems, hchecks, hlast h⟩

theorem number_of_communication_done {draft : EventDraft} {items : Dict}
    (hname : (draft.eventName == "communication_done") = true)
    (h : validateKvRecoveryCommunicationMetadata draft items = .ok ()) :
    isNumber uint64Max (items.get "bytes_moved") = true := by
  unfold validateKvRecoveryCommunicationMetadata at h
  simp only [bind_eq_ok, exists_unit, if_pos hname] at h
  obtain ⟨-, -, -, -, -, -, -, -, n, hn, -⟩ := h
  exact number_of_required hn

theorem rank_of_communication {draft : EventDraft} {items : Dict}
    (h : validateKvRecoveryCommunicationMetadata draft items = .ok ()) :
    (items.get "rank").pyEq (.int 0) = true := by
  unfold validateKvRecoveryCommunicationMetadata at h
  simp only [bind_eq_ok, exists_unit, raiseIf_eq_ok, Bool.not_eq_false'] at h
  exact h.2.2.2.2.2.2.2.1

theorem units_of_resource {draft : EventDraft} {items : Dict}
    (h : validateResourceMetadata draft items = .ok ()) :
    ∃ n : Int, asInt (items.get "resource_units") = some n ∧ 1 ≤ n := by
  unfold validateResourceMetadata at h
  simp only [bind_eq_ok, exists_unit, raiseIf_eq_ok] at h
  obtain ⟨-, -, -, hunits⟩ := h
  split at hunits
  · next n hn =>
    simp only [Bool.not_eq_false', Bool.and_eq_true, decide_eq_true_eq] at hunits
    exact ⟨n, hn, hunits.1⟩
  · cases hunits

theorem count_of_received {items : Dict} (h : validateReceivedMetadata items = .ok ())
    {key : String} (hkey : key = "sampling_n" ∨ key = "prompt_count") :
    (items.get key).pyEq (.int 1) = true := by
  unfold validateReceivedMetadata at h
  simp only [bind_eq_ok, exists_unit] at h
  have hitems := forEach_eq_ok.mp h.1
  rcases hkey with rfl | rfl
  · simpa using hitems ("sampling_n", .int 1) (by simp [receivedValues])
  · simpa using hitems ("prompt_count", .int 1) (by simp [receivedValues])

theorem blockSize_of_received {items : Dict} (h : validateReceivedMetadata items = .ok ()) :
    isBool (items.get "cache_block_size_tokens") = false ∧
      (items.get "cache_block_size_tokens").isStr = false := by
  unfold validateReceivedMetadata at h
  simp only [bind_eq_ok, exists_unit] at h
  obtain ⟨-, -, -, -, -, -, -, h⟩ := h
  split at h
  · rw [raiseIf_eq_ok] at h
    split at h
    · next n hn =>
      rw [hn]
      exact ⟨rfl, rfl⟩
    · cases h
  · rw [raiseIf_eq_ok, Bool.not_eq_false', Value.isNone_iff] at h
    rw [h]
    exact ⟨rfl, rfl⟩

/-! ### When the numbers of an event are numbers -/

/-- Zero, or one: a value that compares with the constant is no text, and only
one Boolean does. -/
theorem bool_of_pyEq {v : Value} {b : Bool} (h : v.pyEq (.int (if b then 1 else 0)) = true) :
    v.isStr = false ∧ (isBool v = true → v = .bool b) := by
  rw [Value.pyEq_int] at h
  cases v with
  | bool c => cases b <;> cases c <;> simp_all [Value.num?, Value.isStr]
  | str s => cases h
  | none | int _ | float _ _ | list _ | dict _ | object _ => exact ⟨rfl, by rintro ⟨⟩⟩

/-- The metadata of an accepted event, as far as its numbers go. -/
structure AcceptedNumbers (draft : EventDraft) (items : Dict) : Prop where
  value : ∀ key, isNumber uint64Max (items.get key) = true ∨ isBool (items.get key) = true ∨
    (items.get key).isStr = true
  checked : ∀ key ∈ checkedKeys draft, isNumber uint64Max (items.get key) = true
  passed : ∀ key b, passing draft key = some b → (items.get key).isStr = false ∧
    (isBool (items.get key) = true → items.get key = .bool b)

theorem acceptedNumbers {draft : EventDraft} {processUuid communicationMode : String}
    {timestampNs : Value}
    (h : validateEventDraft draft processUuid timestampNs communicationMode = .ok ()) :
    AcceptedNumbers draft (draft.metadata.getD []) := by
  obtain ⟨items, hitems, hchecks, hcommunication⟩ := metadata_of_validate h
  obtain rfl : items = draft.metadata.getD [] := (metadata_value hitems "").1
  have hvalue := fun key => (metadata_value hitems key).2
  have hchecked := checked_of_validate hchecks
  generalize draft.metadata.getD [] = items at hvalue hchecked hcommunication
  refine ⟨hvalue, fun key hkey => ?_, fun key b hpassing => ?_⟩
  · simp only [checkedKeys, List.mem_append, List.mem_flatMap] at hkey
    rcases hkey with ((((⟨expected, hexpected, hkey⟩ | hkey) | hkey) | hkey) | hkey) | hkey
    · have hnative := hchecked.native expected hexpected
      unfold validateNativeMetadata at hnative
      simp only [bind_eq_ok, exists_unit] at hnative
      obtain ⟨-, -, -, hnumbers, -⟩ := hnative
      have hnumber := forEach_eq_ok.mp hnumbers key hkey
      rw [bind_eq_ok] at hnumber
      obtain ⟨n, hn, -⟩ := hnumber
      exact number_of_required hn
    · split at hkey
      · next hreceived =>
        obtain rfl := List.mem_singleton.mp hkey
        obtain ⟨hbool, hstr⟩ := blockSize_of_received (hchecked.received hreceived)
        have hv := hvalue "cache_block_size_tokens"
        rw [hbool, hstr] at hv
        simpa using hv
      · cases hkey
    · split at hkey
      · next hname => exact hchecked.prompt hname key hkey
      · cases hkey
    · split at hkey
      · next hname => exact hchecked.computed hname key hkey
      · cases hkey
    · split at hkey
      · next hname => exact List.mem_singleton.mp hkey ▸ hchecked.generated hname
      · cases hkey
    · split at hkey
      · next hname =>
        obtain rfl := List.mem_singleton.mp hkey
        refine number_of_communication_done hname (hcommunication ?_)
        rw [eq_of_beq hname]
        decide
      · cases hkey
  · unfold passing at hpassing
    split at hpassing
    · next hrank =>
      obtain ⟨hname, hkey⟩ := Bool.and_eq_true_iff.mp hrank
      obtain rfl := eq_of_beq hkey
      obtain rfl := Option.some.inj hpassing
      exact bool_of_pyEq (b := false) (rank_of_communication (hcommunication hname))
    split at hpassing
    · next hunits =>
      obtain ⟨hname, hkey⟩ := Bool.and_eq_true_iff.mp hunits
      obtain rfl := eq_of_beq hkey
      obtain rfl := Option.some.inj hpassing
      obtain ⟨n, hn, hpositive⟩ := units_of_resource (hchecked.resource hname)
      revert hn
      cases items.get "resource_units" with
      | bool c =>
        intro hn
        cases c with
        | true => exact ⟨rfl, fun _ => rfl⟩
        | false =>
          obtain rfl : 0 = n := Option.some.inj hn
          exact absurd hpositive (by decide)
      | int m => exact fun _ => ⟨rfl, by rintro ⟨⟩⟩
      | none | str _ | float _ _ | list _ | dict _ | object _ => rintro ⟨⟩
    split at hpassing
    · next hcount =>
      obtain ⟨hreceived, hkey⟩ := Bool.and_eq_true_iff.mp hcount
      obtain rfl := Option.some.inj hpassing
      refine bool_of_pyEq (b := true) (count_of_received (hchecked.received hreceived) ?_)
      rcases Bool.or_eq_true_iff.mp hkey with hkey | hkey
      · exact .inl (eq_of_beq hkey)
      · exact .inr (eq_of_beq hkey)
    · cases hpassing

theorem not_number_of_bool {v : Value} {maximum : Nat} (h : isBool v = true) :
    isNumber maximum v = false := by
  cases v with
  | bool b => rfl
  | none | int _ | str _ | float _ _ | list _ | dict _ | object _ => cases h

theorem not_number_of_str {v : Value} {maximum : Nat} (h : v.isStr = true) :
    isNumber maximum v = false := by
  cases v with
  | str s => rfl
  | none | int _ | bool _ | float _ _ | list _ | dict _ | object _ => cases h

/-- The numbers of the metadata are typed exactly when none slips through. -/
theorem AcceptedNumbers.typed_iff {draft : EventDraft}
    (h : AcceptedNumbers draft (draft.metadata.getD [])) :
    (∀ key ∈ metadataNumberKeys, isNumber uint64Max ((draft.metadata.getD []).get key) = true) ↔
      ¬ draft.Slips := by
  constructor
  · rintro htyped ⟨key, hkey, -, hslips⟩
    have hnumber := htyped key hkey
    split at hslips
    · rw [hslips] at hnumber
      cases hnumber
    · rcases hslips with hbool | hstr
      · rw [not_number_of_bool hbool] at hnumber
        cases hnumber
      · rw [not_number_of_str hstr] at hnumber
        cases hnumber
  · intro hslips key hkey
    by_cases hchecked : key ∈ checkedKeys draft
    · exact h.checked key hchecked
    rcases h.value key with hnumber | hother
    · exact hnumber
    exfalso
    refine hslips ⟨key, hkey, hchecked, ?_⟩
    split
    · next b hpassing =>
      obtain ⟨hstr, hbool⟩ := h.passed key b hpassing
      rcases hother with hother | hother
      · exact hbool hother
      · rw [hstr] at hother
        cases hother
    · exact hother

theorem event_numbers_iff {draft : EventDraft} {processUuid clockDomainId : String}
    {recordSeq : Nat} {defaultTimestampNs : Value} {communicationMode : String} {record : Dict}
    {ref : RecordRef} (h : buildEventRecord draft processUuid clockDomainId recordSeq
      defaultTimestampNs communicationMode = .ok (record, ref)) :
    EventNumbers record ↔ ¬ draft.Slips := by
  obtain ⟨-, -, hseq, timestampNs, -, hdraft, rfl, -⟩ := buildEventRecord_eq_ok.mp h
  have hparts := eventParts_of_validate hdraft
  rw [← (acceptedNumbers hdraft).typed_iff]
  refine ⟨fun hnumbers => hnumbers.metadata, fun hmetadata => ⟨?_, hmetadata⟩⟩
  simp only [eventNumberFields, List.forall_mem_cons, List.not_mem_nil, false_implies, implies_true,
    and_true]
  exact ⟨isNumber_nat hseq, isNumber_iff.mpr (.inr hparts.timestamp), isNumber_iff.mpr hparts.epoch,
    isNumber_iff.mpr hparts.sample, isNumber_iff.mpr hparts.handoffIndex,
    isNumber_iff.mpr hparts.chunk⟩

/-! ## Profile rows -/

/-- The numeric fields the rows about a request share. -/
def requestNumberFields : List (String × Nat) :=
  [("sample_index", uint32Max), ("recovery_epoch", uint32Max)]

/-- The numeric fields of a profile row. -/
def rowNumberFields : ProfileRecordType → List (String × Nat)
  | .blockSetChunk => requestNumberFields ++
      [("chunk_index", uint32Max), ("chunk_count", uint32Max), ("total_block_count", uint32Max)]
  | .waitSetChunk =>
      [("chunk_index", uint32Max), ("chunk_count", uint32Max), ("total_transfer_count", uint32Max)]
  | .transferEvent => requestNumberFields ++
      [("connector_job_id", uint64Max), ("rank", uint32Max), ("world_size", uint32Max),
       ("bytes_moved", uint64Max), ("device_duration_ns", uint64Max)]
  | .recoveryEvent => requestNumberFields ++
      [("occurrence", uint32Max), ("bytes_moved", uint64Max)]

/-- The rows of a block set chunk. -/
def blockRowsOf (fields : Dict) : List Value :=
  match fields.get "blocks" with
  | .list blocks => blocks
  | _ => []

/-- The coordinate of a block row holds two numbers. -/
def RowNumbers : Value → Prop
  | .dict row => isNumber uint32Max (Dict.get row "group_index") = true ∧
      isNumber uint64Max (Dict.get row "logical_ordinal") = true
  | _ => False

/-- Every number of a profile record is one. -/
structure ProfileNumbers (recordType : ProfileRecordType) (record : Dict) : Prop where
  fields : ∀ field ∈ ("record_seq", uint64Max) :: ("timestamp_ns", uint64Max) ::
    rowNumberFields recordType, isNumber field.2 (record.get field.1) = true
  rows : recordType = .blockSetChunk → ∀ row ∈ blockRowsOf record, RowNumbers row

/-- A transfer row whose rank or world size only compares with its constant, or
whose failed completion moves something else than a number of bytes. -/
def RowSlips : ProfileRecordType → Dict → Prop
  | .transferEvent, fields => fields.get "rank" ≠ .int 0 ∨ fields.get "world_size" ≠ .int 1 ∨
      (fields.get "transfer_phase" = .str "done" ∧ fields.get "success" = .bool false ∧
        isNumber uint64Max (fields.get "bytes_moved") = false)
  | _, _ => False

theorem number_of_strict {v : Value} {maximum n : Nat} {name : String}
    (h : requireStrictUint v maximum name = .ok n) : isNumber maximum v = true :=
  isNumber_iff.mpr (.inr ⟨n, requireStrictUint_eq_ok.mp h⟩)

theorem number_of_none {v : Value} {maximum : Nat} (h : v.isNone = true) :
    isNumber maximum v = true := by
  rw [isNumber, h, Bool.true_or]

theorem request_numbers {fields : Dict} (h : validateRequestFields fields = .ok ()) :
    ∀ field ∈ requestNumberFields, isNumber field.2 (fields.get field.1) = true := by
  unfold validateRequestFields at h
  simp only [bind_eq_ok, exists_unit] at h
  obtain ⟨traceId, -, sampleIndex, hsample, -, -, -, -, h⟩ := h
  simp only [requestNumberFields, List.forall_mem_cons, List.not_mem_nil, false_implies,
    implies_true, and_true]
  refine ⟨number_of_strict hsample, ?_⟩
  split at h
  · next hnone => exact number_of_none hnone
  · simp only [bind_eq_ok, exists_unit] at h
    obtain ⟨epoch, hepoch, -⟩ := h
    exact number_of_strict hepoch

theorem chunk_numbers {index count total : Value} {field : String} {n : Nat}
    (h : validateChunk index count total field = .ok n) : isNumber uint32Max index = true ∧
      isNumber uint32Max count = true ∧ isNumber uint32Max total = true := by
  unfold validateChunk at h
  simp only [bind_eq_ok, exists_unit] at h
  obtain ⟨_, hindex, _, hcount, _, htotal, -⟩ := h
  exact ⟨number_of_strict hindex, number_of_strict hcount, number_of_strict htotal⟩

theorem block_row_numbers {previous : Option (Nat × Nat)} {seen : List String}
    {blocks : List Value} (h : validateBlockRows previous seen blocks = .ok ()) :
    ∀ row ∈ blocks, RowNumbers row := by
  induction blocks generalizing previous seen with
  | nil => exact nofun
  | cons block rest ih =>
    simp only [validateBlockRows, bind_eq_ok, exists_unit] at h
    obtain ⟨row, hrow, group, hgroup, ordinal, hordinal, logicalId, -, -, -, hrest⟩ := h
    obtain rfl : block = .dict row := by
      unfold blockRow at hrow
      split at hrow
      · split at hrow <;> cases hrow
        rfl
      · cases hrow
    exact List.forall_mem_cons.mpr ⟨⟨number_of_strict hgroup, number_of_strict hordinal⟩, ih hrest⟩

theorem block_numbers {fields : Dict} (h : validateBlockFields fields = .ok ()) :
    (isNumber uint32Max (fields.get "chunk_index") = true ∧
      isNumber uint32Max (fields.get "chunk_count") = true ∧
      isNumber uint32Max (fields.get "total_block_count") = true) ∧
    ∀ row ∈ blockRowsOf fields, RowNumbers row := by
  unfold validateBlockFields at h
  simp only [bind_eq_ok, exists_unit] at h
  obtain ⟨_, -, total, hchunk, -, h⟩ := h
  refine ⟨chunk_numbers hchunk, ?_⟩
  split at h
  · next blocks hblocks =>
    simp only [bind_eq_ok, exists_unit] at h
    rw [blockRowsOf, hblocks]
    exact block_row_numbers h.2
  · cases h

theorem wait_numbers {fields : Dict} {processUuid : String}
    (h : validateWaitFields fields processUuid = .ok ()) :
    isNumber uint32Max (fields.get "chunk_index") = true ∧
      isNumber uint32Max (fields.get "chunk_count") = true ∧
      isNumber uint32Max (fields.get "total_transfer_count") = true := by
  unfold validateWaitFields at h
  simp only [bind_eq_ok, exists_unit] at h
  obtain ⟨-, _, -, total, hchunk, -⟩ := h
  exact chunk_numbers hchunk

theorem recovery_numbers {fields : Dict} (h : validateRecoveryFields fields = .ok ()) :
    isNumber uint32Max (fields.get "occurrence") = true ∧
      isNumber uint64Max (fields.get "bytes_moved") = true := by
  unfold validateRecoveryFields at h
  simp only [bind_eq_ok, exists_unit] at h
  obtain ⟨-, occurrence, hoccurrence, h⟩ := h
  refine ⟨number_of_strict hoccurrence, ?_⟩
  have htransfer : validateRecoveryTransfer fields = .ok () := by
    split at h
    all_goals
      simp only [bind_eq_ok, exists_unit] at h
      exact h.2.2.1
  unfold validateRecoveryTransfer at htransfer
  dsimp only at htransfer
  split at htransfer
  · rw [raiseIf_eq_ok] at htransfer
    simp only [List.any_cons, List.any_nil, Bool.or_false, Bool.or_eq_false_iff,
      Bool.not_eq_false'] at htransfer
    exact number_of_none htransfer.2.2
  · simp only [bind_eq_ok, exists_unit] at htransfer
    obtain ⟨-, _, -, htransfer⟩ := htransfer
    split at htransfer
    · rw [raiseIf_eq_ok, Bool.not_eq_false'] at htransfer
      exact number_of_none htransfer
    · simp only [bind_eq_ok] at htransfer
      obtain ⟨moved, hmoved, -⟩ := htransfer
      exact number_of_strict hmoved

/-- A value that compares with a constant is a number only as the constant. -/
theorem number_of_constant {v : Value} {maximum n : Nat} (hle : n ≤ maximum)
    (h : v.pyEq (.int n) = true) : isNumber maximum v = true ↔ v = .int n := by
  constructor
  · intro hnumber
    rw [Value.pyEq_int] at h
    rcases isNumber_iff.mp hnumber with rfl | ⟨m, rfl, -⟩
    · cases h
    · obtain rfl : m = n := by exact_mod_cast Option.some.inj h
      rfl
  · rintro rfl
    exact isNumber_nat hle

theorem duration_number {v : Value} (h : (!v.isNone && (match asUint uint64Max v with
    | some n => decide (n < 1)
    | none => true)) = false) : isNumber uint64Max v = true := by
  rw [isNumber]
  cases hv : v.isNone with
  | true => rfl
  | false =>
    cases hn : asUint uint64Max v with
    | some n => rfl
    | none =>
      rw [hv, hn] at h
      cases h

/-- The bytes and the duration of a transfer row. -/
theorem phase_numbers {fields : Dict} (h : validateTransferPhase fields = .ok ()) :
    isNumber uint64Max (fields.get "device_duration_ns") = true ∧
      (isNumber uint64Max (fields.get "bytes_moved") = true ∨
        (fields.get "transfer_phase" = .str "done" ∧ fields.get "success" = .bool false)) := by
  unfold validateTransferPhase at h
  dsimp only at h
  split at h
  · rw [raiseIf_eq_ok] at h
    simp only [List.any_cons, List.any_nil, Bool.or_false, Bool.or_eq_false_iff,
      Bool.not_eq_false'] at h
    exact ⟨number_of_none h.2.1, .inl (number_of_none h.1)⟩
  split at h
  · next hdone =>
    unfold validateTransferDone at h
    simp only [bind_eq_ok, exists_unit, raiseIf_eq_ok] at h
    obtain ⟨hresult, hduration⟩ := h
    refine ⟨duration_number hduration, ?_⟩
    unfold validateDoneResult at hresult
    split at hresult
    · simp only [bind_eq_ok] at hresult
      obtain ⟨moved, hmoved, -⟩ := hresult
      exact .inl (number_of_strict hmoved)
    · next hsuccess => exact .inr ⟨Value.pyEq_str.mp hdone, hsuccess⟩
    · cases hresult
  · cases h

theorem transfer_numbers_iff {fields : Dict} {processUuid : String}
    (hrequest : validateRequestFields fields = .ok ())
    (h : validateTransferFields fields processUuid = .ok ()) :
    (∀ field ∈ rowNumberFields .transferEvent, isNumber field.2 (fields.get field.1) = true) ↔
      ¬ RowSlips .transferEvent fields := by
  unfold validateTransferFields at h
  simp only [bind_eq_ok, exists_unit, raiseIf_eq_ok, Bool.or_eq_false_iff, Bool.not_eq_false'] at h
  obtain ⟨-, _, hjob, ⟨hrank, hworld⟩, -, -, -, -, hphase⟩ := h
  obtain ⟨hduration, hmoved⟩ := phase_numbers hphase
  have hrank := @number_of_constant _ uint32Max 0 (by decide) hrank
  have hworld := @number_of_constant _ uint32Max 1 (by decide) hworld
  simp only [rowNumberFields, List.forall_mem_append, List.forall_mem_cons, List.not_mem_nil,
    false_implies, implies_true, and_true, RowSlips, not_or, not_not]
  constructor
  · rintro ⟨-, -, hzero, hone, hbytes, -⟩
    refine ⟨hrank.mp hzero, hworld.mp hone, ?_⟩
    rintro ⟨-, -, hbad⟩
    rw [hbytes] at hbad
    cases hbad
  · rintro ⟨hzero, hone, hslips⟩
    refine ⟨request_numbers hrequest, number_of_strict hjob, hrank.mpr hzero, hworld.mpr hone, ?_,
      hduration⟩
    rcases hmoved with hmoved | ⟨hdone, hfailed⟩
    · exact hmoved
    · rw [← Bool.not_eq_false]
      exact fun hbad => hslips ⟨hdone, hfailed, hbad⟩

/-- The fields of an accepted row, typed exactly when none slips through. -/
theorem fields_numbers_iff {recordType : ProfileRecordType} {processUuid : String} {fields : Dict}
    (h : validateDataFields recordType processUuid fields = .ok ()) :
    ((∀ field ∈ rowNumberFields recordType, isNumber field.2 (fields.get field.1) = true) ∧
      (recordType = .blockSetChunk → ∀ row ∈ blockRowsOf fields, RowNumbers row)) ↔
      ¬ RowSlips recordType fields := by
  unfold validateDataFields at h
  cases recordType with
  | waitSetChunk =>
    have hnumbers := wait_numbers h
    simp only [rowNumberFields, List.forall_mem_cons, List.not_mem_nil, false_implies,
      implies_true, and_true, RowSlips, not_false_eq_true, iff_true]
    exact ⟨hnumbers, by simp⟩
  | blockSetChunk =>
    simp only [bind_eq_ok, exists_unit] at h
    obtain ⟨hrequest, hblock⟩ := h
    obtain ⟨hnumbers, hrows⟩ := block_numbers hblock
    simp only [rowNumberFields, List.forall_mem_append, List.forall_mem_cons, List.not_mem_nil,
      false_implies, implies_true, and_true, RowSlips, not_false_eq_true, iff_true]
    exact ⟨⟨request_numbers hrequest, hnumbers⟩, fun _ => hrows⟩
  | transferEvent =>
    simp only [bind_eq_ok, exists_unit] at h
    rw [← transfer_numbers_iff h.1 h.2]
    exact and_iff_left (by simp)
  | recoveryEvent =>
    simp only [bind_eq_ok, exists_unit] at h
    obtain ⟨hrequest, hrecovery⟩ := h
    have hnumbers := recovery_numbers hrecovery
    simp only [rowNumberFields, List.forall_mem_append, List.forall_mem_cons, List.not_mem_nil,
      false_implies, implies_true, and_true, RowSlips, not_false_eq_true, iff_true]
    exact ⟨⟨request_numbers hrequest, hnumbers⟩, by simp⟩

/-- Past its common fields, a record reads as its row does. -/
theorem profileDataRecord_get {recordType : ProfileRecordType} {processUuid : String}
    {recordSeq timestampNs : Nat} {clockDomainId : String} {config : KVRecoveryProfileConfig}
    {fields : Dict} {key : String}
    (h : key ∉ ["schema", "record_type", "process_uuid", "record_seq", "record_id", "run_id",
      "timestamp_ns", "clock_domain_id", "profile_id"]) :
    (profileDataRecord recordType processUuid recordSeq timestampNs clockDomainId config
      fields).get key = fields.get key := by
  rw [Dict.get, profileDataRecord, lookup_append_right h, Dict.get]

theorem profile_numbers_iff {recordType : ProfileRecordType} {processUuid : String}
    {recordSeq timestampNs : Nat} {clockDomainId : String} {config : KVRecoveryProfileConfig}
    {fields record : Dict} {ref : ProfileRecordRef}
    (h : buildProfileDataRecord recordType processUuid recordSeq timestampNs clockDomainId config
      fields = .ok (record, ref)) :
    ProfileNumbers recordType record ↔ ¬ RowSlips recordType fields := by
  unfold buildProfileDataRecord at h
  simp only [bind_eq_ok, exists_unit, checkHex_eq_ok, checkUint_nat, pure_eq_ok,
    Prod.mk.injEq] at h
  obtain ⟨-, hseq, htimestamp, -, hvalid, -, _, -, rfl, -⟩ := h
  rw [← fields_numbers_iff hvalid]
  have hcommon : ∀ field ∈ rowNumberFields recordType, field.1 ∉ ["schema", "record_type",
      "process_uuid", "record_seq", "record_id", "run_id", "timestamp_ns", "clock_domain_id",
      "profile_id"] := by
    cases recordType <;> decide
  have hblocks : blockRowsOf (profileDataRecord recordType processUuid recordSeq timestampNs
      clockDomainId config fields) = blockRowsOf fields := by
    rw [blockRowsOf, profileDataRecord_get (by decide), blockRowsOf]
  constructor
  · rintro ⟨hfields, hrows⟩
    refine ⟨fun field hfield => ?_, fun htype => hblocks ▸ hrows htype⟩
    rw [← profileDataRecord_get (hcommon field hfield)]
    exact hfields field (.tail _ (.tail _ hfield))
  · rintro ⟨hfields, hrows⟩
    refine ⟨?_, fun htype => hblocks.symm ▸ hrows htype⟩
    simp only [List.forall_mem_cons]
    refine ⟨isNumber_nat hseq, isNumber_nat htimestamp, fun field hfield => ?_⟩
    rw [profileDataRecord_get (hcommon field hfield)]
    exact hfields field hfield

/-! ## Every builder -/

/-- **Numeric fields.** A record the builders accept has numbers where the
contract does, except where a Boolean or a text passes a check: under a
metadata key no check types, for a constant, or as the bytes a failed transfer
moved. -/
theorem numbers_typed_iff (processUuid clockDomainId : String) (recordSeq : Nat) :
    (∀ (draft : EventDraft) (defaultTimestampNs : Value) (communicationMode : String)
      (record : Dict) (ref : RecordRef),
      buildEventRecord draft processUuid clockDomainId recordSeq defaultTimestampNs
        communicationMode = .ok (record, ref) → (EventNumbers record ↔ ¬ draft.Slips)) ∧
    (∀ (recordType : ProfileRecordType) (timestampNs : Nat) (config : KVRecoveryProfileConfig)
      (fields record : Dict) (ref : ProfileRecordRef),
      buildProfileDataRecord recordType processUuid recordSeq timestampNs clockDomainId config
        fields = .ok (record, ref) →
      (ProfileNumbers recordType record ↔ ¬ RowSlips recordType fields)) :=
  ⟨fun _ _ _ _ _ h => event_numbers_iff h, fun _ _ _ _ _ _ h => profile_numbers_iff h⟩

namespace Sample

/-- A request for one sample of one prompt, the count given as `sampling`. -/
def counted (sampling : Value) : EventDraft where
  traceId := "0a0a0a0a0a0a0a0a0a0a0a0a0a0a0a0a"
  lifecycleId := "0a0a0a0a0a0a0a0a0a0a0a0a0a0a0a0a:r"
  parentLifecycleId := none
  scope := "root_request"
  component := "frontend"
  eventName := "received"
  metadata := some [("sampling_n", sampling), ("prompt_count", .int 1),
    ("model_mode", .str "decoder_only"), ("frontend_stop_mode", .str "none"),
    ("communication_mode", .str "none"), ("entry_mode", .str "openai_http"),
    ("input_mode", .str "text"), ("response_mode", .str "streaming"),
    ("kv_cache_mode", .str "disabled")]

/-- A failed transfer that moved `moved`. -/
def failedTransfer (moved : Value) : Dict :=
  [("trace_id", .str "0a0a0a0a0a0a0a0a0a0a0a0a0a0a0a0a"),
   ("engine_lifecycle_id", .str "0a0a0a0a0a0a0a0a0a0a0a0a0a0a0a0a:e:0"),
   ("runtime_request_id", .str "cmpl-1"), ("request_id_kind", .str "engine_internal"),
   ("sample_index", .int 0), ("recovery_epoch", .none), ("episode_id", .none),
   ("transfer_id", .str "0a0a0a0a0a0a0a0a0a0a0a0a0a0a0a0a:t:0"), ("connector_job_id", .int 0),
   ("rank", .int 0), ("world_size", .int 1), ("operation", .str "d2h_preserve"),
   ("direction", .str "d2h"), ("src_medium", .str "device_hbm"), ("dst_medium", .str "host_cpu"),
   ("block_set_id",
     .str "0a0a0a0a0a0a0a0a0a0a0a0a0a0a0a0a0a0a0a0a0a0a0a0a0a0a0a0a0a0a0a0a"),
   ("transfer_phase", .str "done"), ("bytes_moved", moved), ("device_duration_ns", .none),
   ("success", .bool false), ("failure_code", .str "timeout")]

end Sample

theorem exists_built {α : Type} {x : Except PyError α} (h : x.isOk = true) :
    ∃ built, x = .ok built := by
  cases x with
  | ok built => exact ⟨built, rfl⟩
  | error e => cases h

/-- The numbers of a counted request, and of a failed transfer of no bytes. -/
theorem numbers_typed_iff_sample :
    (∃ record ref, buildEventRecord (Sample.counted (.int 1)) "0a0a0a0a0a0a0a0a0a0a0a0a0a0a0a0a"
      "0b0b0b0b0b0b0b0b0b0b0b0b0b0b0b0b" 0 (.int 5) "none" = .ok (record, ref) ∧
      EventNumbers record) ∧
    (∃ record ref, buildProfileDataRecord .transferEvent "0a0a0a0a0a0a0a0a0a0a0a0a0a0a0a0a" 0 5
      "0b0b0b0b0b0b0b0b0b0b0b0b0b0b0b0b" ⟨"0c0c0c0c0c0c0c0c0c0c0c0c0c0c0c0c", by decide⟩
      (Sample.failedTransfer .none) = .ok (record, ref) ∧
      ProfileNumbers .transferEvent record) := by
  obtain ⟨⟨record, ref⟩, hbuilt⟩ := exists_built (x := buildEventRecord (Sample.counted (.int 1))
    "0a0a0a0a0a0a0a0a0a0a0a0a0a0a0a0a" "0b0b0b0b0b0b0b0b0b0b0b0b0b0b0b0b" 0 (.int 5) "none")
    (by decide +kernel)
  obtain ⟨⟨row, rowRef⟩, hrow⟩ := exists_built (x := buildProfileDataRecord .transferEvent
    "0a0a0a0a0a0a0a0a0a0a0a0a0a0a0a0a" 0 5 "0b0b0b0b0b0b0b0b0b0b0b0b0b0b0b0b"
    ⟨"0c0c0c0c0c0c0c0c0c0c0c0c0c0c0c0c", by decide⟩ (Sample.failedTransfer .none))
    (by decide +kernel)
  refine ⟨⟨record, ref, hbuilt, ((numbers_typed_iff _ _ _).1 _ _ _ _ _ hbuilt).mpr ?_⟩,
    row, rowRef, hrow, ((numbers_typed_iff _ _ _).2 _ _ _ _ _ _ hrow).mpr ?_⟩
  · rintro ⟨key, hkey, -, hslips⟩
    obtain ⟨hbool, hstr⟩ : isBool (((Sample.counted (.int 1)).metadata.getD []).get key) = false ∧
        (((Sample.counted (.int 1)).metadata.getD []).get key).isStr = false := by
      clear hslips
      revert key
      decide +kernel
    split at hslips
    · rw [hslips] at hbool
      cases hbool
    · rw [hbool, hstr] at hslips
      rcases hslips with h | h <;> cases h
  · rintro (hrank | hworld | ⟨-, -, hmoved⟩)
    · exact hrank rfl
    · exact hworld rfl
    · cases hmoved

/-- A count given as `True` is accepted, and so are minus one bytes of a failed
transfer. -/
theorem boolean_count_accepted :
    (∃ record ref, buildEventRecord (Sample.counted (.bool true))
      "0a0a0a0a0a0a0a0a0a0a0a0a0a0a0a0a" "0b0b0b0b0b0b0b0b0b0b0b0b0b0b0b0b" 0 (.int 5) "none" =
        .ok (record, ref) ∧ ¬ EventNumbers record) ∧
    (∃ record ref, buildProfileDataRecord .transferEvent "0a0a0a0a0a0a0a0a0a0a0a0a0a0a0a0a" 0 5
      "0b0b0b0b0b0b0b0b0b0b0b0b0b0b0b0b" ⟨"0c0c0c0c0c0c0c0c0c0c0c0c0c0c0c0c", by decide⟩
      (Sample.failedTransfer (.int (-1))) = .ok (record, ref) ∧
      ¬ ProfileNumbers .transferEvent record) := by
  obtain ⟨⟨record, ref⟩, hbuilt⟩ := exists_built (x := buildEventRecord
    (Sample.counted (.bool true)) "0a0a0a0a0a0a0a0a0a0a0a0a0a0a0a0a"
    "0b0b0b0b0b0b0b0b0b0b0b0b0b0b0b0b" 0 (.int 5) "none") (by decide +kernel)
  obtain ⟨⟨row, rowRef⟩, hrow⟩ := exists_built (x := buildProfileDataRecord .transferEvent
    "0a0a0a0a0a0a0a0a0a0a0a0a0a0a0a0a" 0 5 "0b0b0b0b0b0b0b0b0b0b0b0b0b0b0b0b"
    ⟨"0c0c0c0c0c0c0c0c0c0c0c0c0c0c0c0c", by decide⟩ (Sample.failedTransfer (.int (-1))))
    (by decide +kernel)
  refine ⟨⟨record, ref, hbuilt, fun hnumbers => ?_⟩, row, rowRef, hrow, fun hnumbers => ?_⟩
  · exact (event_numbers_iff hbuilt).mp hnumbers ⟨"sampling_n", by decide, by decide, rfl⟩
  · exact (profile_numbers_iff hrow).mp hnumbers (.inr (.inr ⟨rfl, rfl, rfl⟩))

end LifecycleProfiler.Protocol
