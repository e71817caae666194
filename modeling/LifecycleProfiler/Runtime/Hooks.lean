import LifecycleProfiler.Protocol.Profile

/-! # The hooks facade as its callers see it

`RuntimeLifecycleHooks` either returns the reference of an accepted record or
`None`. Which calls the sink drops is up to the environment: `answers` gives
the clock reading of each call, or `none` for a call that is dropped whatever
its draft is. A draft the record builder refuses is dropped as well. -/

namespace LifecycleProfiler.Runtime
open Python Protocol

/-- What one call of the facade did. -/
inductive Emission where
  | span (spanId : String)
  | event (draft : EventDraft) (ref : RecordRef) (record : Dict)
  | edge (draft : EdgeDraft) (ref : RecordRef) (record : Dict)
  | profile (ref : ProfileRecordRef)
  | refused

/-- The facade over an open sink, with everything it did so far. -/
structure Hooks where
  processUuid : String
  clockDomainId : String
  communicationMode : String
  profileConfig : KVRecoveryProfileConfig
  answers : Nat → Option Nat
  nextRecordSeq : Nat := 0
  nextSpanSeq : Nat := 0
  nextProfileSeq : Nat := 0
  log : List Emission := []

namespace Hooks

def add (h : Hooks) (emission : Emission) : Hooks := { h with log := h.log ++ [emission] }

/-- The clock reading of the next call, if the sink answers it. -/
def answer (h : Hooks) : Option Nat := h.answers h.log.length

/-- The next `record_seq` is consumed whether or not the record is accepted. -/
def consume (h : Hooks) : Hooks := { h with nextRecordSeq := h.nextRecordSeq + 1 }

end Hooks

/-! ## Sequences of calls -/

/-- A sequence of calls that stops at the first `None`. -/
def Emit (α : Type) : Type := Hooks → Option α × Hooks

namespace Emit

def pure {α : Type} (a : α) : Emit α := fun h => (some a, h)

def bind {α β : Type} (m : Emit α) (f : α → Emit β) : Emit β := fun h =>
  match m h with
  | (some a, h') => f a h'
  | (none, h') => (none, h')

instance : Monad Emit where
  pure := pure
  bind := bind

/-- Go on with the result, also when it is `None`. -/
def attempt {α : Type} (m : Emit α) : Emit (Option α) := fun h => (some (m h).1, (m h).2)

/-- `if not condition: return None` -/
def require (condition : Bool) : Emit Unit := fun h => (if condition then some () else none, h)

/-- `if value is None: return None` -/
def orNone {α : Type} (value : Option α) : Emit α := fun h => (value, h)

end Emit

/-- `new_span_id` -/
def newSpanId : Emit String := fun h =>
  match h.answer with
  | none => (none, h.add .refused)
  | some _ =>
    let spanId := scopedId h.processUuid "s" h.nextSpanSeq
    (some spanId, { h.add (.span spanId) with nextSpanSeq := h.nextSpanSeq + 1 })

/-- The event record of a draft, once it is valid and fits in a line. -/
def acceptedEvent (h : Hooks) (draft : EventDraft) (observedNs : Nat) :
    Except PyError (Dict × RecordRef) := do
  let (record, ref) ← buildEventRecord draft h.processUuid h.clockDomainId h.nextRecordSeq
    (.int observedNs) h.communicationMode
  let _ ← canonicalJsonLine record
  return (record, ref)

def acceptedEdge (h : Hooks) (draft : EdgeDraft) : Except PyError (Dict × RecordRef) := do
  let (record, ref) ← buildEdgeRecord draft h.processUuid h.nextRecordSeq h.communicationMode
  let _ ← canonicalJsonLine record
  return (record, ref)

/-- `emit_event` -/
def emitEvent (draft : EventDraft) : Emit RecordRef := fun h =>
  match h.answer with
  | none => (none, (h.add .refused).consume)
  | some observedNs =>
    match acceptedEvent h draft observedNs with
    | .error _ => (none, (h.add .refused).consume)
    | .ok (record, ref) => (some ref, (h.add (.event draft ref record)).consume)

/-- `emit_edge` -/
def emitEdge (draft : EdgeDraft) : Emit RecordRef := fun h =>
  match h.answer with
  | none => (none, (h.add .refused).consume)
  | some _ =>
    match acceptedEdge h draft with
    | .error _ => (none, (h.add .refused).consume)
    | .ok (record, ref) => (some ref, (h.add (.edge draft ref record)).consume)

/-- `emit_kv_recovery_profile` -/
def emitKvRecoveryProfile (recordType : ProfileRecordType) (timestampNs : Int) (fields : Dict) :
    Emit ProfileRecordRef := fun h =>
  let dropped := { h.add .refused with nextProfileSeq := h.nextProfileSeq + 1 }
  match h.answer, asUint uint64Max (.int timestampNs) with
  | some _, some ns =>
    match buildProfileDataRecord recordType h.processUuid h.nextProfileSeq ns h.clockDomainId
        h.profileConfig fields with
    | .error _ => (none, dropped)
    | .ok (_, ref) =>
      (some ref, { h.add (.profile ref) with nextProfileSeq := h.nextProfileSeq + 1 })
  | _, _ => (none, dropped)

end LifecycleProfiler.Runtime
